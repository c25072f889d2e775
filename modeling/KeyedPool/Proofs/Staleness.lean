import KeyedPool.Proofs.Custody.Ending
import KeyedPool.Proofs.Custody.Passage
import KeyedPool.Proofs.Patience

/-!
# Pruning in the background bounds staleness

A pruner looks at the pool once in every period and takes away what has expired. Between two of its
turns anybody may act: leases begin and end, other pruners prune, and a connection may be released
whose time was over before it was released. So at no time can one say that nothing in the pool has
expired. But one can say since when: what has expired by the latest turn of a pruner has been in use
at that turn, and has been released since.

Two facts make this a bound. A record becomes idle in no other way than by the release of a lease,
which is written down; this is a matter of single moves. And the turns come at the due times of the
pruner, whole numbers of periods after its start, of which none is left out, except that due times
between two readings of the clock are served in one turn; this is a matter of the pruner alone. That
a turn comes with the first reading of the clock not before it is due is in the hands of the
scheduler and stands as a premise.

* `KeyedPool.Pool.IsRefreshed`: what had expired by some time was released since then.
* `KeyedPool.World.Passes.isRefreshed`: so it is ever after a turn of a pruner.
* `KeyedPool.Pruner.dueTime`: the due times of a pruner.
* `KeyedPool.World.Serves`: a turn in which a pruner serves one of its due times.
* `KeyedPool.World.Kept`: a pruner has served its due times so far.
* `KeyedPool.World.KeepsUp`: the clock does not leave a pruner behind.
* `KeyedPool.World.IsReachable.isRefreshed_of_serves`: what a turn of a pruner leaves to be told of
  every later state.
* `KeyedPool.World.pruners_bound_staleness`: the bound.
-/

namespace KeyedPool

open Custody

/-! ### What is idle has been released -/

namespace Table

variable {t : Table} {k other : String} {r : Record}

theorem find?_of_erase (h : (t.erase other).find? k = some (.live r)) :
    t.find? k = some (.live r) := by
  rw [find?_erase] at h
  split at h
  · cases h
  · exact h

end Table

namespace Custody

variable {now : Instant} {s t : Custody} {k : String} {r : Record}

/-- **A record that is idle after a move** was so before, or has just been released. -/
theorem Move.released (h : Move now s t) (he : s.Exclusive)
    (hr : t.pool.table.find? k = some (.live r)) (hidle : r.busy = false) :
    s.pool.table.find? k = some (.live r) ∨
      ∃ older, t.pool.history =
        .released ⟨k, r.generation, r.connection⟩ :: (older ++ s.pool.history) := by
  have hgiven (p : Pool) (other : String)
      (hr : (p.giveUpOpening other).table.find? k = some (.live r)) :
      p.table.find? k = some (.live r) := by
    rw [Pool.giveUpOpening] at hr
    split at hr
    · exact Table.find?_of_erase hr
    · exact hr
  cases h with
  | leave why other x hx hw => exact .inl (Table.find?_of_erase hr)
  | discard l how why x hw hx hg => exact .inl (Table.find?_of_erase hr)
  | close d =>
    rw [Pool.table_retire] at hr
    exact .inl hr
  | reserve request hnone hroom =>
    rw [Pool.table_withTable, Table.find?_put] at hr
    split at hr
    · cases hr
    · exact .inl hr
  | unanswered request => exact .inl (hgiven (Pool.note _ _) _ hr)
  | abandon request c => exact .inl (hgiven _ _ hr)
  | publish o c deadline ho ht hnone =>
    simp only [Pool.enroll, Pool.table_note, Pool.table_withTable, Table.find?_put,
      Table.find?_useGeneration] at hr
    split at hr
    · cases hr
      cases hidle
    · exact .inl hr
  | reuse other x ttl deadline hx hb hh ht =>
    rw [Pool.table_note, Pool.table_withTable, Table.find?_modify] at hr
    split at hr
    · rename_i hk
      rw [hk, hx] at hr
      cases hr
      cases hidle
    · exact .inl hr
  | @rest p L O D l hh hm =>
    rw [Pool.table_note, Pool.table_withTable, Table.find?_modify] at hr
    split at hr
    · rename_i hk
      subst hk
      obtain ⟨x, hx, hg⟩ := Pool.any_isGeneration_iff.mp hm
      rw [hx] at hr
      cases hr
      have hc : l.connection = x.connection := (he.of_mem (Multiset.mem_cons_self l L) hx hg).2
      refine .inr ⟨[.leaseEnded l .release], ?_⟩
      change _ = Entry.released ⟨l.database, x.generation, x.connection⟩ :: _
      rw [hg, ← hc]
      rfl
    · exact .inl hr
  | _ => exact .inl hr

end Custody

/-- **What had expired by some time was released since then**: whatever is idle, not persistent and
expired at that time has been released by a lease after some part of the history was written. -/
def Pool.IsRefreshed (p : Pool) (time : Instant) (past : List Entry) : Prop :=
  ∃ since, p.history = since ++ past ∧
    ∀ k r, p.table.find? k = some (.live r) → r.busy = false → r.persistent = false →
      r.expiresAt ≤ time → .released ⟨k, r.generation, r.connection⟩ ∈ since

/-- Whoever prunes leaves nothing behind that has expired. -/
theorem Pool.isRefreshed_prune (p : Pool) (now : Instant) :
    (p.prune now).2.IsRefreshed now (p.prune now).2.history := by
  refine ⟨[], rfl, fun k r hr hidle htransient hexpired => ?_⟩
  rw [Pool.table_prune, Table.find?_without, Option.filter_eq_some_iff] at hr
  have hkept : r.isPrunable now = false := by simpa [Slot.holds, Slot.record?] using hr.2
  rw [Record.isPrunable, Record.isReclaimable, Record.isExpired, hidle, htransient,
    decide_eq_true hexpired] at hkept
  cases hkept

namespace World

variable {w : World} {s t : Custody} {time : Instant} {past : List Entry}

theorem Passes.isRefreshed_move (hs : w.Passes s) (h : Move w.now s t)
    (hp : s.pool.IsRefreshed time past) : t.pool.IsRefreshed time past := by
  obtain ⟨since, hsince, hreleased⟩ := hp
  obtain ⟨new, hnew⟩ := h.suffix hs.balanced
  refine ⟨new ++ since, by rw [← hnew, hsince, List.append_assoc], fun k r hr hidle htr hexp => ?_⟩
  rcases h.released hs.exclusive hr hidle with hbefore | ⟨older, holder⟩
  · exact List.mem_append_right _ (hreleased k r hbefore hidle htr hexp)
  · have heq : new = .released ⟨k, r.generation, r.connection⟩ :: older :=
      List.append_cancel_right (hnew.trans holder)
    rw [heq]
    exact List.mem_append_left _ List.mem_cons_self

theorem Passes.isRefreshed_moves (hs : w.Passes s) (h : Moves w.now s t)
    (hp : s.pool.IsRefreshed time past) : t.pool.IsRefreshed time past := by
  refine (h.keeps (P := fun s => w.Passes s ∧ s.pool.IsRefreshed time past) ?_ ⟨hs, hp⟩).2
  rintro s t h ⟨hs, hp⟩
  exact ⟨hs.move h, hs.isRefreshed_move h hp⟩

/-- **What had expired then was released since then**, in every later state. -/
theorem Passes.isRefreshed (hw : w.IsReachable) (hp : w.pool.IsRefreshed time past)
    {events : List Event} (ht : (w.after events).Passes t) : t.pool.IsRefreshed time past := by
  have hafter : (w.after events).pool.IsRefreshed time past := by
    clear ht
    induction events generalizing w with
    | nil => exact hp
    | cons e es ih =>
      exact ih (hw.after [e]) ((Passes.rest hw).isRefreshed_moves (moves_step hw.tidy e) hp)
  exact (Passes.rest ht.1).isRefreshed_moves ht.2 hafter

end World

/-! ### Due times -/

namespace Instant

variable {t : Instant} {ms : Nat}

/-- The clock does not go beyond the first reading not before an instant in one step. -/
theorem ofMillis_succ_le_nextReading (h : ofMillis ms < t) : ofMillis (ms + 1) ≤ t.nextReading := by
  have hpos : 0 < nanosPerMilli := by decide
  rw [nextReading, le_def, nanos_ofMillis, nanos_ofMillis, Nat.mul_le_mul_right_iff hpos]
  refine Nat.succ_le_of_lt (Nat.lt_of_not_le fun hle => ?_)
  rw [ceilDiv_le_iff_le_mul hpos, Nat.mul_comm] at hle
  exact absurd h (Nat.not_lt.mpr hle)

end Instant

namespace Pruner

/-- **The due times of a pruner**: whole numbers of periods after it was started. -/
def dueTime (since : Instant) (every : Duration) (n : Nat) : Instant :=
  since.plus ⟨n * every.nanos⟩

variable {since now : Instant} {every : Duration} {m n : Nat} {r : Pruner}

theorem dueTime_one (since : Instant) (every : Duration) :
    dueTime since every 1 = since.plus every := by
  rw [dueTime, Nat.one_mul]

theorem dueTime_mono (h : m ≤ n) : dueTime since every m ≤ dueTime since every n :=
  Nat.add_le_add_left (Nat.mul_le_mul_right _ h) _

/-- A due time has come if there is time enough for its periods. -/
theorem dueTime_le_iff (hpos : 0 < every.nanos) (hsince : since ≤ now) :
    dueTime since every n ≤ now ↔ n ≤ (now.since since).nanos / every.nanos := by
  have hle : since.nanos ≤ now.nanos := hsince
  rw [Nat.le_div_iff_mul_le hpos]
  change since.nanos + n * every.nanos ≤ now.nanos ↔ n * every.nanos ≤ now.nanos - since.nanos
  omega

/-- A pruner that is due runs, and its time has come. -/
theorem isDue_iff : r.isDue now = true ↔ r.state = .running ∧ r.due ≤ now := by
  rw [isDue, Bool.and_eq_true, beq_iff_eq, decide_eq_true_eq]

theorem due_next (r : Pruner) (now : Instant) : (r.next now).due =
    dueTime r.since r.every ((now.since r.since).nanos / r.every.nanos + 1) := rfl

end Pruner

/-! ### Turns of pruners -/

/-- Whether an event concerns neither the clock nor a pruner. -/
def Event.isAside : Event → Bool
  | .tick => false
  | .sweep _ => false
  | .spawnPruner .. => false
  | .abortPruner _ => false
  | .askPruner _ => false
  | _ => true

namespace World

variable {w v : World} {e : Event} {r : Pruner} {s : Instant} {every : Duration} {i m n : Nat}
  {settings : PoolSettings} {driven : Bool} {enumeration : Enumeration} {events : List Event}

/-- The clock and the pruners are as they were. -/
def IsPaced (w v : World) : Prop := v.clock = w.clock ∧ v.pruners = w.pruners

theorem isPaced_conclude (w : World) (n : Nat) (result : JobResult) :
    w.IsPaced (w.conclude n result).2 := by
  cases result <;> exact ⟨rfl, rfl⟩

theorem isPaced_step (w : World) (he : e.isAside = true) : w.IsPaced (w.step e).2 := by
  have hheld (act : Response × World) (h : w.IsPaced act.2) : w.IsPaced (w.ifHeld act).2 := by
    rw [ifHeld]
    split
    · exact h
    · exact ⟨rfl, rfl⟩
  cases e with
  | start job =>
    refine hheld _ ?_
    rw [startTask]
    dsimp only
    split
    · exact ⟨rfl, rfl⟩
    · exact isPaced_conclude _ _ _
  | poll n =>
    rw [step, pollTask]
    split
    · exact ⟨rfl, rfl⟩
    · split
      · exact ⟨rfl, rfl⟩
      · exact isPaced_conclude _ _ _
  | abort n =>
    rw [step, abortTask]
    split <;> exact ⟨rfl, rfl⟩
  | settle label how =>
    rw [step, settleLease]
    split <;> exact ⟨rfl, rfl⟩
  | command c => exact hheld _ ⟨rfl, rfl⟩
  | plan database plan => exact ⟨rfl, rfl⟩
  | flags c closed broken failClose =>
    rw [step, setFlags]
    split <;> exact ⟨rfl, rfl⟩
  | letGo => exact hheld _ ⟨rfl, rfl⟩
  | _ => cases he

/-- Nothing but the clock moves the clock. -/
theorem clock_step (w : World) (he : e ≠ .tick) : (w.step e).2.clock = w.clock := by
  cases e with
  | tick => exact absurd rfl he
  | sweep i =>
    simp only [step, sweep]
    split
    · rfl
    · split
      · split <;> rfl
      · rfl
  | spawnPruner label every =>
    simp only [step, ifHeld]
    split <;> rfl
  | abortPruner label =>
    simp only [step, abortPruner]
    split <;> rfl
  | askPruner label =>
    simp only [step, askPruner]
    split
    · rfl
    · dsimp only
      split <;> rfl
  | _ => exact (w.isPaced_step rfl).1

/-- **Where a pruner comes from** that runs after an event: it ran before, with the same due time,
or it has had its turn, or it was started. -/
theorem exists_pruner_of_step (hr : r ∈ (w.step e).2.pruners) (hrun : r.state = .running) :
    (∃ q ∈ w.pruners, q.state = .running ∧ q.since = r.since ∧ q.every = r.every ∧ q.due = r.due) ∨
      (∃ i q, e = .sweep i ∧ w.pruners[i]? = some q ∧ q.isDue w.now = true ∧ w.isAlive = true ∧
        r = q.next w.now) ∨
      ∃ label every, e = .spawnPruner label every ∧ r = .start (some label) w.now every := by
  have hbefore (h : r ∈ w.pruners) : ∃ q ∈ w.pruners, q.state = .running ∧ q.since = r.since ∧
      q.every = r.every ∧ q.due = r.due := ⟨r, h, hrun, rfl, rfl, rfl⟩
  cases e with
  | tick => exact .inl (hbefore hr)
  | sweep i =>
    simp only [step, sweep] at hr
    split at hr
    · exact .inl (hbefore hr)
    · rename_i q hq
      split at hr
      · rename_i hdue
        split at hr
        · rename_i halive
          rcases List.mem_or_eq_of_mem_set hr with hr | rfl
          · exact .inl (hbefore hr)
          · exact .inr (.inl ⟨i, q, rfl, hq, hdue, halive, rfl⟩)
        · rcases List.mem_or_eq_of_mem_set hr with hr | rfl
          · exact .inl (hbefore hr)
          · cases hrun
      · exact .inl (hbefore hr)
  | spawnPruner label every =>
    simp only [step, ifHeld] at hr
    split at hr
    · rcases List.mem_append.mp hr with hr | hr
      · -- a pruner that had the label goes on without it
        obtain ⟨q, hq, rfl⟩ := List.mem_map.mp hr
        refine .inl ⟨q, hq, ?_⟩
        split at hrun <;> split <;> exact ⟨hrun, rfl, rfl, rfl⟩
      · exact .inr (.inr ⟨label, every, rfl, List.mem_singleton.mp hr⟩)
    · exact .inl (hbefore hr)
  | abortPruner label =>
    simp only [step, abortPruner] at hr
    split at hr
    · exact .inl (hbefore hr)
    · obtain ⟨q, hq, rfl⟩ := List.mem_map.mp hr
      split at hrun
      · cases hrun
      · rename_i hout
        rw [if_neg hout]
        exact .inl ⟨q, hq, hrun, rfl, rfl, rfl⟩
  | askPruner label =>
    simp only [step, askPruner] at hr
    split at hr
    · exact .inl (hbefore hr)
    · dsimp only at hr
      split at hr
      · exact .inl (hbefore hr)
      · exact .inl (hbefore (List.mem_of_mem_filter hr))
  | _ =>
    rw [(w.isPaced_step rfl).2] at hr
    exact .inl (hbefore hr)

/-! ### Due times are served -/

/-- **A pruner of a schedule serves one of its due times in a turn**: the due time is not before the
one for which it waits and has come, and somebody can use the pool. -/
def Serves (w : World) (i : Nat) (s : Instant) (every : Duration) (n : Nat) : Prop :=
  ∃ r, w.pruners[i]? = some r ∧ r.since = s ∧ r.every = every ∧ r.isDue w.now = true ∧
    r.due ≤ Pruner.dueTime s every n ∧ Pruner.dueTime s every n ≤ w.now ∧ w.isAlive = true

/-- **Pruners of a schedule are started** in a run: by the settings of the pool, or by somebody, at
the time at which the schedule begins. -/
inductive Starts (settings : PoolSettings) (w : World) (events : List Event) (s : Instant)
    (every : Duration) : Prop
  /-- By the settings. -/
  | configured (hperiod : settings.prunePeriod? = some every) (hs : s = .ofMillis 0) :
    Starts settings w events s every
  /-- By somebody. -/
  | spawned (past : List Event) (label : String) (rest : List Event)
      (hevents : events = past ++ .spawnPruner label every :: rest) (hs : s = (w.after past).now) :
    Starts settings w events s every

/-- **A pruner has served its due times so far**, each in a turn of a run. -/
structure Kept (settings : PoolSettings) (w : World) (events : List Event) (r : Pruner) : Prop where
  /-- It has a period. -/
  pos : 0 < r.every.nanos
  /-- It was started. -/
  starts : Starts settings w events r.since r.every
  /-- It has served the due times before the next one. -/
  served : ∃ m, 1 ≤ m ∧ r.due = Pruner.dueTime r.since r.every m ∧
    ∀ n, 1 ≤ n → n < m → ∃ past i rest, events = past ++ .sweep i :: rest ∧
      (w.after past).Serves i r.since r.every n

theorem Starts.append (h : Starts settings w events s every) (e : Event) :
    Starts settings w (events ++ [e]) s every := by
  cases h with
  | configured hperiod hs => exact .configured hperiod hs
  | spawned past label rest hevents hs =>
    exact .spawned past label (rest ++ [e]) (by simp [hevents]) hs

/-- What a pruner has served it has served ever after. -/
theorem Kept.append (h : Kept settings w events r) (e : Event) :
    Kept settings w (events ++ [e]) r := by
  obtain ⟨hpos, hstarts, m, hm, hdue, hserved⟩ := h
  refine ⟨hpos, hstarts.append e, m, hm, hdue, fun n hn hnm => ?_⟩
  obtain ⟨past, i, rest, hevents, hserves⟩ := hserved n hn hnm
  exact ⟨past, i, rest ++ [e], by simp [hevents], hserves⟩

/-- Only the schedule of a pruner matters. -/
theorem Kept.congr {q : Pruner} (h : Kept settings w events q) (hsince : q.since = r.since)
    (hevery : q.every = r.every) (hdue : q.due = r.due) : Kept settings w events r := by
  obtain ⟨hpos, hstarts, hserved⟩ := h
  rw [hsince, hevery] at hstarts
  rw [hsince, hevery, hdue] at hserved
  exact ⟨hevery ▸ hpos, hstarts, hserved⟩

/-- A pruner that has just been started has served nothing. -/
theorem kept_start {label : Option String} (hstarts : Starts settings w events s every)
    (hrun : (Pruner.start label s every).state = .running) :
    Kept settings w events (.start label s every) := by
  refine ⟨Nat.pos_of_ne_zero fun h => ?_, hstarts, 1, le_rfl, (Pruner.dueTime_one _ _).symm,
    fun n hn hlt => absurd hn (Nat.not_le.mpr hlt)⟩
  have hzero : every = .zero := congrArg Duration.mk h
  rw [Pruner.start, if_pos hzero] at hrun
  cases hrun

/-- A pruner is due after it was started. -/
theorem Kept.since_le {q : Pruner} {now : Instant} (h : Kept settings w events q)
    (hdue : q.isDue now = true) : q.since ≤ now := by
  obtain ⟨-, -, m, -, hm, -⟩ := h
  refine le_trans (b := q.due.nanos) ?_ (Pruner.isDue_iff.mp hdue).2
  rw [hm]
  exact Nat.le_add_right _ _

/-- **A turn serves every due time that has come.** The time has a name of its own, so that nobody
multiplies the milliseconds of the clock out. -/
theorem Kept.next {q : Pruner} {now : Instant} (h : Kept settings w events q)
    (hnow : (w.after events).now = now) (hq : (w.after events).pruners[i]? = some q)
    (hdue : q.isDue now = true) (halive : (w.after events).isAlive = true) :
    Kept settings w (events ++ [.sweep i]) (q.next now) := by
  have hsince := h.since_le hdue
  obtain ⟨hpos, hstarts, m, hm, hm', hserved⟩ := h
  refine ⟨hpos, hstarts.append _, _, Nat.le_add_left 1 _, Pruner.due_next _ _, fun n hn hlt => ?_⟩
  by_cases hold : n < m
  · obtain ⟨past, j, rest, hevents, hserves⟩ := hserved n hn hold
    exact ⟨past, j, rest ++ [.sweep i], by simp [hevents], hserves⟩
  · have hmono : q.due ≤ Pruner.dueTime q.since q.every n := by
      rw [hm']
      exact Pruner.dueTime_mono (Nat.not_lt.mp hold)
    have hcome : Pruner.dueTime q.since q.every n ≤ now :=
      (Pruner.dueTime_le_iff hpos hsince).mpr (Nat.le_of_lt_succ hlt)
    refine ⟨events, i, [], rfl, q, hq, rfl, rfl, ?_, hmono, ?_, halive⟩
    · rwa [hnow]
    · rwa [hnow]

/-- **Every pruner that runs has served its due times so far.** -/
theorem kept (settings : PoolSettings) (driven : Bool) (enumeration : Enumeration)
    (events : List Event) {r : Pruner}
    (hr : r ∈ ((init settings driven enumeration).after events).pruners)
    (hrun : r.state = .running) : Kept settings (init settings driven enumeration) events r := by
  induction events using List.reverseRec generalizing r with
  | nil =>
    rw [after_nil, init] at hr
    split at hr
    · cases hr
    · rename_i period hperiod
      split at hr
      · obtain rfl := List.mem_singleton.mp hr
        exact kept_start (.configured hperiod rfl) hrun
      · cases hr
  | append_singleton events e ih =>
    rw [after_append, after_cons, after_nil] at hr
    have hstep := exists_pruner_of_step hr hrun
    generalize hnow : ((init settings driven enumeration).after events).now = now at hstep
    rcases hstep with ⟨q, hq, hqrun, hsince, hevery, hdue⟩ | ⟨i, q, rfl, hq, hdue, halive, rfl⟩ |
      ⟨label, every, rfl, rfl⟩
    · exact ((ih hq hqrun).append e).congr hsince hevery hdue
    · have hqrun := (Pruner.isDue_iff.mp hdue).1
      exact (ih (List.mem_of_getElem? hq) hqrun).next hnow hq hdue halive
    · exact kept_start (.spawned events label [] rfl hnow.symm) hrun

/-! ### The clock and the schedule -/

/-- **The clock does not leave the pruners of a schedule behind**: it does not move on while one of
them is due. -/
def KeepsUp (w : World) (s : Instant) (every : Duration) : List Event → Prop
  | [] => True
  | e :: es =>
    (e = .tick → ∀ r ∈ w.pruners, r.since = s → r.every = every → r.isDue w.now = false) ∧
      (w.step e).2.KeepsUp s every es

theorem keepsUp_append {xs ys : List Event} :
    w.KeepsUp s every (xs ++ ys) ↔ w.KeepsUp s every xs ∧ (w.after xs).KeepsUp s every ys := by
  induction xs generalizing w with
  | nil => simp [KeepsUp]
  | cons x xs ih => rw [List.cons_append, KeepsUp, KeepsUp, ih, and_assoc, after_cons]

/-- Then none of them is ever late. -/
theorem KeepsUp.now_le (hup : (init settings driven enumeration).KeepsUp s every events)
    (hr : r ∈ ((init settings driven enumeration).after events).pruners)
    (hrun : r.state = .running) (hs : r.since = s) (hevery : r.every = every) :
    ((init settings driven enumeration).after events).now ≤ r.due.nextReading := by
  induction events using List.reverseRec generalizing r with
  | nil =>
    have hzero : (init settings driven enumeration).clock = 0 := by
      rw [init]
      split
      · rfl
      · split <;> rfl
    rw [after_nil, World.now, hzero]
    exact Nat.zero_le _
  | append_singleton events e ih =>
    obtain ⟨hup, hnext, -⟩ := keepsUp_append.mp hup
    rw [after_append, after_cons, after_nil] at hr ⊢
    have hkept {q} := @kept settings driven enumeration events q
    generalize (init settings driven enumeration).after events = v at *
    by_cases htick : e = .tick
    · subst htick
      have hdue := hnext rfl r hr hs hevery
      have hearly : ¬r.due ≤ v.now := fun hcome =>
        Bool.false_ne_true (hdue.symm.trans (Pruner.isDue_iff.mpr ⟨hrun, hcome⟩))
      exact Instant.ofMillis_succ_le_nextReading (Nat.lt_of_not_le hearly)
    · have hnow : (v.step e).2.now = v.now := congrArg Instant.ofMillis (v.clock_step htick)
      rw [hnow]
      rcases exists_pruner_of_step hr hrun with ⟨q, hq, hqrun, hsince, hqevery, hdue⟩ |
        ⟨i, q, rfl, hq, hdue, halive, rfl⟩ | ⟨label, period, rfl, rfl⟩
      · rw [← hdue]
        exact ih hup hq hqrun (hsince.trans hs) (hqevery.trans hevery)
      · have hkept := hkept (List.mem_of_getElem? hq) (Pruner.isDue_iff.mp hdue).1
        have hnext : ¬(q.next v.now).due ≤ v.now := by
          rw [Pruner.due_next, Pruner.dueTime_le_iff hkept.pos (hkept.since_le hdue)]
          exact Nat.not_succ_le_self _
        exact le_trans (b := (q.next v.now).due.nanos) (Nat.le_of_not_le hnext)
          (Instant.le_nextReading _)
      · exact le_trans (b := (v.now.plus period).nanos) (Nat.le_add_right _ _)
          (Instant.le_nextReading _)

/-- A turn that serves a due time comes with the first reading of the clock not before it. -/
theorem Serves.now_eq (h : ((init settings driven enumeration).after events).Serves i s every n)
    (hup : (init settings driven enumeration).KeepsUp s every events) :
    ((init settings driven enumeration).after events).now =
      (Pruner.dueTime s every n).nextReading := by
  obtain ⟨r, hr, hs, hevery, hdue, hle, hcome, -⟩ := h
  have hlate := hup.now_le (List.mem_of_getElem? hr) (Pruner.isDue_iff.mp hdue).1 hs hevery
  have hmono : r.due.nextReading ≤ (Pruner.dueTime s every n).nextReading :=
    Instant.nextReading_le_ofMillis_iff.mpr (le_trans (b := (Pruner.dueTime s every n).nanos) hle
      (Instant.le_nextReading _))
  exact congrArg Instant.mk (Nat.le_antisymm (Nat.le_trans hlate hmono)
    (Instant.nextReading_le_ofMillis_iff.mpr hcome))

/-! ### The bound -/

/-- A turn in which a pruner prunes. -/
theorem Serves.pool_sweep (h : w.Serves i s every n) :
    (w.step (.sweep i)).2.pool = (w.pool.prune w.now).2 := by
  obtain ⟨r, hr, -, -, hdue, -, -, halive⟩ := h
  rw [step, sweep, hr]
  simp only [hdue, halive, if_true]

/-- A turn that comes before its time changes nothing. -/
theorem sweep_eq_self (hr : w.pruners[i]? = some r) (hdue : r.isDue w.now = false) :
    w.sweep i = w := by
  rw [sweep, hr]
  simp [hdue]

/-- **A turn of a pruner takes nothing away** but records that are idle, not persistent and expired.
-/
theorem find?_sweep (w : World) (i : Nat) {k : String} {slot : Slot}
    (hk : w.pool.table.find? k = some slot) :
    (w.sweep i).pool.table.find? k = some slot ∨
      ∃ r, slot = .live r ∧ r.busy = false ∧ r.persistent = false ∧ r.expiresAt ≤ w.now := by
  rcases w.pool_sweep i with heq | heq | heq <;> rw [heq]
  · exact .inl hk
  · by_cases hgone : slot.holds (Record.isPrunable w.now) = true
    · cases slot with
      | opening => cases hgone
      | live r =>
        simp only [Slot.holds, Slot.record?, Option.any_some, Record.isPrunable,
          Record.isReclaimable, Record.isExpired, Bool.and_eq_true, Bool.not_eq_true',
          decide_eq_true_eq] at hgone
        exact .inr ⟨r, rfl, hgone.1.1, hgone.1.2, hgone.2⟩
    · refine .inl ?_
      rw [Pool.table_prune, Table.find?_without, hk]
      simp [hgone]
  · exact .inl hk

/-- **What had expired by a turn of a pruner was released since then**, in every later state of the
run. -/
theorem IsReachable.isRefreshed_of_serves {past rest : List Event} {t : Custody}
    (hw : (w.after past).IsReachable) (h : (w.after past).Serves i s every n)
    (ht : (w.after (past ++ .sweep i :: rest)).Passes t) :
    t.pool.IsRefreshed (w.after past).now (w.after (past ++ [.sweep i])).pool.history := by
  -- the turn prunes, so nothing is idle and expired when it is over
  have hpool : ((w.after past).after [.sweep i]).pool =
      ((w.after past).pool.prune (w.after past).now).2 := h.pool_sweep
  rw [after_append, after_cons] at ht
  rw [after_append]
  refine Passes.isRefreshed (hw.after [.sweep i]) ?_ ht
  rw [hpool]
  exact Pool.isRefreshed_prune _ _

/-- **Pruning in the background bounds staleness**, in every run and for every pruner in it, known
by the time at which it was started and by its period; others may prune, too, and in other periods.
The clock does not move on while a pruner of this schedule is due.

A pruner that runs was started at that time, by the settings of the pool or by somebody. It is due
next at some whole number of periods after its start, not less than one, and is not late. Every
earlier due time, from the first period on, was served in a turn of the run that came with the first
reading of the clock not before it. In every state since then, whatever connection is idle, not
persistent, and had expired by that turn, has been released by a lease after it. So it is after any
turn of the run in which a pruner served a due time, whether it still runs or not.

Before one period is over a turn of a pruner changes nothing at all. And no turn ever takes anything
away but records that are idle, not persistent and expired by then. -/
theorem pruners_bound_staleness (settings : PoolSettings) (driven : Bool)
    (enumeration : Enumeration) (events : List Event) (s : Instant) (every : Duration)
    (hup : (init settings driven enumeration).KeepsUp s every events) :
    let w := init settings driven enumeration
    let v := w.after events
    (∀ r ∈ v.pruners, r.state = .running → r.since = s → r.every = every →
      Starts settings w events s every ∧
      ∃ m, 1 ≤ m ∧ r.due = Pruner.dueTime s every m ∧ v.now ≤ r.due.nextReading ∧
        ∀ n, 1 ≤ n → n < m → ∃ past i rest, events = past ++ .sweep i :: rest ∧
          (w.after past).Serves i s every n ∧
          (w.after past).now = (Pruner.dueTime s every n).nextReading ∧
          ∀ t, v.Passes t → t.pool.IsRefreshed (w.after past).now
            (w.after (past ++ [.sweep i])).pool.history) ∧
    (∀ past i rest n, events = past ++ .sweep i :: rest → (w.after past).Serves i s every n →
      (w.after past).now = (Pruner.dueTime s every n).nextReading ∧
      ∀ t, v.Passes t → t.pool.IsRefreshed (w.after past).now
        (w.after (past ++ [.sweep i])).pool.history) ∧
    (∀ i r, v.pruners[i]? = some r → v.now < r.since.plus r.every → v.sweep i = v) ∧
    ∀ i k slot, v.pool.table.find? k = some slot →
      (v.sweep i).pool.table.find? k = some slot ∨
        ∃ r, slot = .live r ∧ r.busy = false ∧ r.persistent = false ∧ r.expiresAt ≤ v.now := by
  intro w v
  have hserved (past : List Event) (i : Nat) (rest : List Event) (n : Nat)
      (hevents : events = past ++ .sweep i :: rest) (hserves : (w.after past).Serves i s every n) :
      (w.after past).now = (Pruner.dueTime s every n).nextReading ∧
        ∀ t, v.Passes t → t.pool.IsRefreshed (w.after past).now
          (w.after (past ++ [.sweep i])).pool.history := by
    have hpast : (w.after past).IsReachable := ⟨_, _, _, _, rfl⟩
    have hv : v = w.after (past ++ .sweep i :: rest) := congrArg w.after hevents
    refine ⟨?_, fun t ht => hpast.isRefreshed_of_serves hserves (hv ▸ ht)⟩
    rw [hevents] at hup
    exact hserves.now_eq (keepsUp_append.mp hup).1
  refine ⟨fun r hr hrun hs hevery => ?_, hserved, fun i r hr hearly => ?_,
    fun i k slot => find?_sweep v i⟩
  · obtain ⟨hpos, hstarts, m, hm, hdue, hturns⟩ := kept settings driven enumeration events hr hrun
    subst hs hevery
    refine ⟨hstarts, m, hm, hdue, hup.now_le hr hrun rfl rfl, fun n hn hnm => ?_⟩
    obtain ⟨past, i, rest, hevents, hserves⟩ := hturns n hn hnm
    exact ⟨past, i, rest, hevents, hserves, hserved past i rest n hevents hserves⟩
  · refine sweep_eq_self hr (Bool.eq_false_iff.mpr fun hdue => ?_)
    obtain ⟨hrun, hcome⟩ := Pruner.isDue_iff.mp hdue
    obtain ⟨-, -, m, hm, hdue, -⟩ :=
      kept settings driven enumeration events (List.mem_of_getElem? hr) hrun
    have hfirst : r.since.plus r.every ≤ r.due := by
      rw [hdue, ← Pruner.dueTime_one]
      exact Pruner.dueTime_mono hm
    exact absurd hearly (Nat.not_lt.mpr (Nat.le_trans hfirst hcome))

/-- A pruner that is due between two readings of the clock. One connection has expired when it has
its turn, the other has been leased for too long and is released later. -/
theorem pruners_bound_staleness_overdue :
    let w := init {} false
    let past : List Event := [.spawnPruner "pruner" ⟨1500000⟩,
      .start (.lease { database := "a", ttl := ⟨1⟩ } "first"), .settle "first" .release,
      .start (.lease { database := "b", ttl := ⟨1⟩ } "second"), .tick, .tick]
    let events := past ++ [.sweep 0, .tick, .settle "second" .release]
    w.KeepsUp (.ofMillis 0) ⟨1500000⟩ events ∧
      (w.after past).Serves 0 (.ofMillis 0) ⟨1500000⟩ 1 ∧ (w.after past).now = .ofMillis 2 ∧
        ∃ since, (w.after events).pool.history =
          since ++ (w.after (past ++ [.sweep 0])).pool.history ∧ .released ⟨"b", 2, 1⟩ ∈ since := by
  intro w past events
  have hup : w.KeepsUp (.ofMillis 0) ⟨1500000⟩ events := by
    simp only [events, past, List.cons_append, List.nil_append, KeepsUp, reduceCtorEq,
      false_implies, true_and, and_true, forall_const]
    refine ⟨?_, ?_, ?_⟩ <;> decide +kernel +zetaReduce
  have hserves : (w.after past).Serves 0 (.ofMillis 0) ⟨1500000⟩ 1 := by
    have hturn : ((w.after past).pruners[0]?).any (fun r => decide (r.since = .ofMillis 0 ∧
        r.every = ⟨1500000⟩ ∧ r.isDue (w.after past).now = true ∧
        r.due ≤ Pruner.dueTime (.ofMillis 0) ⟨1500000⟩ 1 ∧
        Pruner.dueTime (.ofMillis 0) ⟨1500000⟩ 1 ≤ (w.after past).now ∧
        (w.after past).isAlive = true)) = true := by
      decide +kernel +zetaReduce
    obtain ⟨r, hr, hserves⟩ := (Option.any_eq_true _ _).mp hturn
    exact ⟨r, hr, of_decide_eq_true hserves⟩
  have hrecord : (w.after events).pool.table.find? "b" =
      some (.live ⟨1, ⟨1⟩, .ofMillis 0, false, false, 2⟩) := by
    decide +kernel +zetaReduce
  have hreading : (Pruner.dueTime (.ofMillis 0) ⟨1500000⟩ 1).nextReading = .ofMillis 2 := by
    decide +kernel
  have hreachable : (w.after events).IsReachable := ⟨_, _, _, _, rfl⟩
  obtain ⟨-, hturns, -⟩ :=
    pruners_bound_staleness {} false .stored events (.ofMillis 0) ⟨1500000⟩ hup
  have hw : init {} false = w := rfl
  rw [hw] at hturns
  obtain ⟨hnow, hfresh⟩ := hturns past 0 [.tick, .settle "second" .release] 1 rfl hserves
  have hpool := hfresh _ (.rest hreachable)
  rw [custody_eq] at hpool
  dsimp only at hpool
  obtain ⟨since, hsince, hreleased⟩ := hpool
  refine ⟨hup, hserves, hnow.trans hreading, since, hsince, hreleased "b" _ hrecord rfl rfl ?_⟩
  rw [hnow, hreading]
  decide

end World

end KeyedPool
