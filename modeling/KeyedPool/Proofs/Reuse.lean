import KeyedPool.Proofs.Admission
import KeyedPool.Proofs.Possession
import KeyedPool.Proofs.Records

/-!
# Connections that are leased again

An acquire that finds the connection of its database idle and healthy leases it again. Whether its
time is over is not looked at there: what has expired is pruned when the acquire is called, and
after that only when room is needed. So an acquire that has waited may lease a connection after its
time – but then the connection was not idle all the while. As long as an acquire waits to be
admitted its attempts find no idle connection, for they would take it; so one that is idle later was
held by somebody else in between.

* `KeyedPool.History.Paid`: no lease ends before it begins, so that a lease which begins is held.
* `KeyedPool.Acquisition.Turn.found_busy`: what an acquire that waits has found.
* `KeyedPool.Acquisition.Reuses`: what is leased again, and why it may be.
* `KeyedPool.Acquisition.Turn.reuses`: every acquire that leases a connection again does so.
* `KeyedPool.World.IsReachable.reuse_justified`: so it is in every run.
-/

namespace KeyedPool

open Custody

/-! ### Leases at every moment -/

namespace History

variable {h h' past : List Entry} {e : Entry} {l : Lease}

theorem begun_append (h h' : List Entry) : begun (h ++ h') = begun h + begun h' := by
  simp [begun, account, List.filterMap_append]

theorem ended_append (h h' : List Entry) : ended (h ++ h') = ended h + ended h' := by
  simp [ended, account, List.filterMap_append]

/-- **At no moment more leases have ended than have begun.** -/
def Paid (h : List Entry) : Prop := ∀ past, past <:+ h → ended past ≤ begun past

/-- A lease is held at the moment at which it begins. -/
theorem Paid.mem_held (hp : Paid h) (hsuffix : e :: past <:+ h) (hb : e.begins? = some l)
    (he : e.ends? = none) : l ∈ held (e :: past) := by
  have hpast : ended past ≤ begun past := hp past ((List.suffix_cons e past).trans hsuffix)
  have hheld : held (e :: past) = l ::ₘ (begun past - ended past) := by
    rw [held, begun_cons, ended_cons, hb, he]
    exact Multiset.cons_sub_of_le l hpast
  rw [hheld]
  exact Multiset.mem_cons_self _ _

end History

open History

namespace Custody

variable {now : Instant} {s t : Custody}

/-- **What a move ends** is a lease that has not ended. -/
theorem Move.ends (h : Move now s t) (hb : s.Balanced) :
    ∃ since, t.pool.history = since ++ s.pool.history ∧ ended since ≤ s.leases := by
  have hnone (since : List Entry) (hsince : ended since = 0) : ended since ≤ s.leases :=
    hsince ▸ Multiset.zero_le _
  have hone (l : Lease) (L : Multiset Lease) : ({l} : Multiset Lease) ≤ l ::ₘ L :=
    Multiset.singleton_le.mpr (Multiset.mem_cons_self l L)
  cases h with
  | remark e he =>
    refine ⟨[e], rfl, hnone _ ?_⟩
    cases e <;> first | rfl | cases he
  | reset => exact ⟨[.countersReset], rfl, hnone _ rfl⟩
  | close d =>
    obtain ⟨h, hh⟩ := hb.exists_handle_leaving
    refine ⟨[h.closing d.database d.connection, .removed d.why d.database d.connection],
      Pool.history_retire hh, hnone _ ?_⟩
    rw [Handle.closing]
    split <;> rfl
  | ask r => exact ⟨[_], rfl, hnone [.connecting _] rfl⟩
  | unanswered r =>
    exact ⟨[_], Pool.history_giveUpOpening _ _, hnone [.unconnected _] rfl⟩
  | connect r h hd hc => exact ⟨[_], rfl, hnone [.connected _ _] rfl⟩
  | startHook r c hr => exact ⟨[_], rfl, hnone [.hookStarted c] rfl⟩
  | finishHook r c => exact ⟨[_], rfl, hnone [.hookFinished c] rfl⟩
  | abandon r c => exact ⟨[], Pool.history_giveUpOpening _ _, hnone [] rfl⟩
  | publish o c deadline ho ht hr => exact ⟨[_], rfl, hnone [.published _ _ _ _] rfl⟩
  | lose o c ho ht => exact ⟨[_], rfl, hnone [.lost _ _ _ _] rfl⟩
  | reuse k r ttl deadline hr hidle hh ht => exact ⟨[_], rfl, hnone [.reused _ _ _] rfl⟩
  | rest l hh hm => exact ⟨[.released l, .leaseEnded l .release], rfl, hone l _⟩
  | depart l hh hm => exact ⟨[.departed l, .leaseEnded l .release], rfl, hone l _⟩
  | discard l how why r hw hr hg => exact ⟨[.leaseEnded l how], rfl, hone l _⟩
  | forget l how hw hm => exact ⟨[.leaseEnded l how], rfl, hone l _⟩
  | _ => exact ⟨[], rfl, hnone [] rfl⟩

/-- **Every move keeps it so.** -/
theorem paid_move (hp : Paid s.pool.history) (h : Move now s t) (hb : s.Balanced)
    (hk : s.Booked) : Paid t.pool.history := by
  obtain ⟨since, hhistory, hended⟩ := h.ends hb
  intro past hpast
  rw [hhistory] at hpast
  rcases List.suffix_or_suffix_of_suffix hpast (List.suffix_append since _) with
    hpast' | ⟨part, rfl⟩
  · exact hp past hpast'
  · -- what has ended in a part of the move had begun before it
    obtain ⟨rest, hrest⟩ := hpast
    have hsince : rest ++ part = since := by
      rw [← List.append_assoc] at hrest
      exact List.append_cancel_right hrest
    have hpart : ended part ≤ s.leases := by
      refine le_trans ?_ hended
      rw [← hsince, ended_append]
      exact Multiset.le_add_left _ _
    calc ended (part ++ s.pool.history)
      _ = ended part + ended s.pool.history := ended_append _ _
      _ ≤ s.leases + ended s.pool.history := Multiset.add_le_add_right hpart
      _ = begun s.pool.history := by rw [hk, add_comm]
      _ ≤ begun (part ++ s.pool.history) := by
        rw [begun_append]
        exact Multiset.le_add_left _ _

end Custody

namespace World.Passes

variable {w : World} {s : Custody}

theorem booked_and_paid (hs : w.Passes s) : s.Booked ∧ Paid s.pool.history := by
  refine hs.sound (P := fun s => s.Booked ∧ Paid s.pool.history) ?_ ?_
  · rintro now s t h hb ht ⟨hk, hp⟩
    exact ⟨hk.move h hb, Custody.paid_move hp h hb hk⟩
  · intro settings enumeration
    refine ⟨rfl, fun past h => ?_⟩
    rw [List.suffix_nil.mp h]
    exact le_rfl

end World.Passes

/-- **A record that is there after a moment without an idle one** was leased in between: it was
leased at that moment, or it has come since and its first lease began then. -/
theorem World.Passes.held_between {v w : World} {p₀ p : Pool} {L₀ L : Multiset Lease}
    {O₀ O : Multiset Opening} {k : String} {x : Record} (hv : v.Passes ⟨p₀, L₀, O₀, 0⟩)
    (hs : w.Passes ⟨p, L, O, 0⟩) (hsuffix : p₀.history <:+ p.history)
    (hbusy : ∀ y, p₀.table.find? k = some (.live y) → y.busy = true)
    (hx : p.table.find? k = some (.live x)) :
    ∃ moment, p₀.history <:+ moment ∧ moment <:+ p.history ∧
      (x.grant k).lease ∈ History.held moment := by
  have hshows : p.table.Shows (x.grant k) := ⟨x, hx, rfl⟩
  by_cases hg : x.grant k ∈ granted p₀.history
  · rcases hv.shown_and_sparing.1.kept _ hg with ⟨y, hy, hgrant⟩ | ⟨why, hgone⟩
    · -- it was on record at that moment, so it was leased
      have hheld := hv.exclusive.held k y hy
      rw [hbusy y hy, if_pos rfl] at hheld
      have hlease : (y.grant k).lease ∈ Custody.leasesOn L₀ k y.generation :=
        hheld ▸ Multiset.mem_singleton_self _
      refine ⟨p₀.history, List.suffix_rfl, hsuffix, ?_⟩
      rw [hv.booked_and_paid.1.held_eq, ← hgrant]
      exact (mem_leasesOn.mp hlease).1
    · -- what has departed does not come back
      have hgone : .removed why k x.connection ∈ p₀.history := hgone.resolve_left (by simp)
      have hdeparts : Custody.Departs ⟨p, L, O, 0⟩ ⟨why, k, x.connection⟩ :=
        .inr (hsuffix.subset hgone)
      exact absurd rfl (hdeparts.ne_of_shows hs.balanced hs.told hshows)
  · -- it was granted later
    obtain ⟨t, ttl, he⟩ := mem_granted.mp (hs.shown_and_sparing.1.granted _ hshows)
    obtain ⟨since, hsince⟩ := hsuffix
    rw [← hsince] at he
    rcases List.mem_append.mp he with he | he
    · obtain ⟨later, earlier, rfl⟩ := List.append_of_mem he
      have hmoment : .published (x.grant k).lease t ttl (x.grant k).persistent ::
          (earlier ++ p₀.history) <:+ p.history := ⟨later, by simpa using hsince⟩
      refine ⟨_, ⟨_ :: earlier, rfl⟩, hmoment, ?_⟩
      exact hs.booked_and_paid.2.mem_held hmoment rfl rfl
    · exact absurd (mem_granted.mpr ⟨t, ttl, he⟩) hg

/-! ### What an attempt finds -/

namespace World.Passes

variable {w : World} {p q : Pool} {L : Multiset Lease} {O : Multiset Opening} {k : String}
  {ttl : Duration} {x : Record} {now : Instant}

/-- **An attempt that is refused** leaves no idle connection to its database behind. -/
theorem busy_of_refused {why : Refusal} (hs : w.Passes ⟨p, L, O, 0⟩)
    (h : (p.attempt k ttl now).1 = .refused why)
    (hx : (p.attempt k ttl now).2.table.find? k = some (.live x)) : x.busy = true := by
  cases hk : p.table.find? k with
  | none =>
    -- no place was kept, so there is none
    have hnone : (p.attempt k ttl now).2.table.find? k = none := by
      have hrefused : (p.reserve k now).1 ≠ .reserved := by
        simp only [Pool.attempt, Pool.admission, hk] at h
        simp [h]
      simpa [Pool.attempt, Pool.admission, hk] using Pool.find?_reserve_eq_none hk hrefused
    rw [hnone] at hx
    cases hx
  | some slot =>
    cases slot with
    | opening =>
      rw [Pool.attempt_opening hk, hk] at hx
      cases hx
    | live y =>
      cases hb : y.busy with
      | true =>
        rw [Pool.attempt_busy hk hb, hk] at hx
        cases hx
        exact hb
      | false =>
        cases hh : p.isHealthy y.connection with
        | true =>
          rw [Pool.attempt_idle hk hb hh] at h
          split at h <;> cases h
        | false =>
          rw [Pool.attempt_dead now ttl hs.capped hk hb hh] at h
          cases h

/-- **An attempt that leases a connection again** finds it idle and healthy, and closes nothing. -/
theorem find?_of_leased {c g : Nat} (hs : w.Passes ⟨p, L, O, 0⟩)
    (h : p.attempt k ttl now = (.leased c g, q)) :
    ∃ x, p.table.find? k = some (.live x) ∧ x.connection = c ∧ x.generation = g ∧
      x.busy = false ∧ p.isHealthy c = true ∧ q.handles = p.handles := by
  have hreserve (p' : Pool) : (p'.reserve k now).1 ≠ .leased c g := by
    rw [Pool.reserve]
    split
    · rintro ⟨⟩
    · dsimp only
      split <;> rintro ⟨⟩
  cases hk : p.table.find? k with
  | none =>
    have hleased : (p.reserve k now).1 = .leased c g := by
      simp only [Pool.attempt, Pool.admission, hk, Prod.mk.injEq] at h
      exact h.1
    exact absurd hleased (hreserve p)
  | some slot =>
    cases slot with
    | opening =>
      rw [Pool.attempt_opening hk] at h
      cases h
    | live x =>
      cases hb : x.busy with
      | true =>
        rw [Pool.attempt_busy hk hb] at h
        cases h
      | false =>
        cases hh : p.isHealthy x.connection with
        | true =>
          rw [Pool.attempt_idle hk hb hh] at h
          split at h <;> cases h
          exact ⟨x, rfl, rfl, rfl, hb, hh, rfl⟩
        | false =>
          have hdead := Pool.attempt_dead now ttl hs.capped hk hb hh
          rw [h] at hdead
          cases hdead

end World.Passes

namespace Acquisition

variable {plans : String → ConnectPlan} {now since t : Instant} {r : Request} {p q : Pool}
  {refusals : List Instant} {w : World} {L : Multiset Lease} {O : Multiset Opening} {l : Lease}
  {x : Progress Stage Acquired} {trail : List Entry} {ttl : Duration}

/-- An acquire that waits to be admitted has left no milestone, and no other has. -/
theorem Trail.isQueued_iff {stage : Stage} (h : Trail r now (.waiting stage) trail) :
    stage.opening? r = none ↔ trail = [] := by
  cases h <;> simp [Stage.opening?, startedTrail, connectedTrail]

/-- An acquire that is admitted asks for a connection, whatever comes of it. -/
theorem trail_beginConnect {y : Progress Stage Acquired} (h : beginConnect plans p now r = (y, q)) :
    ∃ new, milestones q.history = new ++ [.connecting r.database] ++ milestones p.history ∧
      Trail r now y (new ++ [.connecting r.database]) := by
  have hasked : milestones ((p.note (.opening r.database)).note (.connecting r.database)).history =
      [.connecting r.database] ++ milestones p.history :=
    (milestones_cons rfl _).trans (congrArg _ (milestones_cons_of_not rfl _))
  rw [beginConnect] at h
  split at h
  · obtain ⟨new, hq, htrail, -⟩ := advances_endConnect h
    exact ⟨new, by rw [hq, hasked, List.append_assoc], htrail⟩
  · cases h
    exact ⟨[], hasked, .connecting⟩

/-- An acquire that goes on waiting to be admitted has been refused. -/
theorem busy_of_attempt {stage : Stage} {y : Record} (hs : w.Passes ⟨p, L, O, 0⟩)
    (h : attempt plans p now r since refusals = (.waiting stage, q))
    (hstage : stage.opening? r = none) (hy : q.table.find? r.database = some (.live y)) :
    y.busy = true := by
  rw [attempt] at h
  split at h <;> rename_i p' hattempt
  · cases h
  · -- what was admitted has asked for a connection
    obtain ⟨new, -, hnew⟩ := trail_beginConnect h
    simpa using hnew.isQueued_iff.mp hstage
  · have hq : q.table = p'.table := by
      rw [refuse] at h
      dsimp only at h
      split at h
      · cases h
      · cases h
        split <;> rfl
    refine hs.busy_of_refused (congrArg Prod.fst hattempt) ?_
    rw [hattempt, ← hq]
    exact hy
  · cases h

/-- What an attempt that leases a connection again has found. -/
theorem found_of_attempt {y : Progress Stage Acquired} (hs : w.Passes ⟨p, L, O, 0⟩)
    (h : attempt plans p now r since refusals = (y, q))
    (hm : milestones q.history = .reused l t ttl :: milestones p.history) :
    ∃ x, p.table.find? r.database = some (.live x) ∧
      l = ⟨r.database, x.generation, x.connection⟩ ∧ x.busy = false ∧
      p.isHealthy x.connection = true ∧ q.handles = p.handles := by
  have hnew : ∀ {new : List Entry}, milestones q.history = new ++ milestones p.history →
      new = [.reused l t ttl] := fun hnew => List.append_cancel_right (hnew.symm.trans hm)
  have hattempt : milestones (p.attempt r.database r.ttl now).2.history = milestones p.history :=
    Pool.milestones_attempt r.ttl
  rw [attempt] at h
  split at h <;> rename_i p' heq <;> rw [heq] at hattempt
  · obtain ⟨x, hx, rfl, rfl, hb, hh, hhandles⟩ := hs.find?_of_leased heq
    cases h
    rw [Pool.history_note, milestones_cons rfl, hattempt] at hm
    obtain ⟨rfl, -, -⟩ : l = _ ∧ t = now ∧ ttl = r.ttl := by simpa [eq_comm] using hm
    exact ⟨x, hx, rfl, hb, hh, hhandles⟩
  · -- who asks for a connection leaves another milestone
    obtain ⟨new, hq, -⟩ := trail_beginConnect h
    rw [hattempt] at hq
    have hasked := hnew hq
    simp [List.append_eq_singleton_iff] at hasked
  · obtain ⟨new, hq, htrail, -⟩ := advances_refuse h
    rw [hattempt] at hq
    rw [List.append_nil] at htrail
    obtain ⟨rfl, -⟩ := htrail.of_reused (hnew hq ▸ List.mem_singleton_self _)
    rw [refuse] at h
    dsimp only at h
    split at h <;> cases h
  · cases h
    rw [hattempt] at hm
    simp at hm

namespace Turn

variable {call : Call} {own : List Entry} {a : Acquisition} {x : Progress Acquisition Acquired}

/-- **While it waits to be admitted an acquire finds no idle connection** to its database. In its
latest turn with an attempt there was none, and this was after its call. -/
theorem found_busy (h : Turn call own w p (.waiting a) q) (ha : a.opening? = none) :
    ∃ w' p' L O, World.Passes w' ⟨p', L, O, 0⟩ ∧ call.past <:+ p'.history ∧
      p'.history <:+ q.history ∧
      ∀ x, p'.table.find? call.request.database = some (.live x) → x.busy = true := by
  have hrest {own : List Entry} {w : World} {p q : Pool}
      (h : Turn call own w p (.waiting a) q) : ∃ L O, w.Passes ⟨q, L, O, 0⟩ := by
    obtain ⟨L, O, hs⟩ := h.passes
    refine ⟨L, O, ?_⟩
    rwa [Progress.custody, holding, ha, Holding.beside_none] at hs
  generalize hx : (.waiting a : Progress Acquisition Acquired) = x at h
  induction h with
  | @called w plans p L O x q own hs hsince hpast h hown =>
    subst hx
    have hturn : Turn call own w p (.waiting a) q := .called hs hsince hpast h hown
    obtain ⟨L', O', hleft⟩ := hrest hturn
    have hpruned : w.Passes ⟨(p.prune w.now).2, L, O, 0⟩ := hs.moves Pool.moves_prune
    refine ⟨w, q, L', O', hleft, hturn.past_suffix.trans hturn.suffix, List.suffix_rfl, ?_⟩
    exact fun y hy => busy_of_attempt hpruned (point_resume h) (hturn.waits.1 ▸ ha) hy
  | @polled own w p b q new w' plans p' L O x q' before hlater hs h hown ih =>
    subst hx
    have hturn : Turn call (new ++ own) w' p' (.waiting a) q' := .polled before hlater hs h hown
    by_cases hearly : w'.now < b.wake
    · -- nothing happens in a turn that comes too early
      rw [poll, if_pos hearly] at h
      cases h
      obtain ⟨v, p₀, L₀, O₀, hv, hpast, hsuffix, hbusy⟩ := ih rfl
      exact ⟨v, p₀, L₀, O₀, hv, hpast, hsuffix.trans hlater, hbusy⟩
    · have hqueued : b.stage.opening? call.request = none := by
        have hnone := hturn.trail.isQueued_iff.mp (hturn.waits.1 ▸ ha)
        rw [milestones_append, List.append_eq_nil_iff] at hnone
        exact before.trail.isQueued_iff.mpr hnone.2
      obtain ⟨L', O', hleft⟩ := hrest hturn
      obtain ⟨r, since, stage⟩ := b
      obtain rfl : r = call.request := before.waits.1
      cases stage with
      | queued refusals wake =>
        have hs : w'.Passes ⟨p', L, O, 0⟩ := Holding.beside_none ▸ hs
        rw [poll, if_neg hearly] at h
        refine ⟨w', q', L', O', hleft, hturn.past_suffix.trans hturn.suffix, List.suffix_rfl, ?_⟩
        exact fun y hy => busy_of_attempt hs (point_resume h) (hturn.waits.1 ▸ ha) hy
      | connecting plan wake => cases hqueued
      | starting c hook wake => cases hqueued

end Turn

/-! ### What is leased again -/

/-- **An acquire that leases a connection again as soon as it is called** finds one that is
persistent or whose time is not over, for all others have just been pruned. -/
theorem found_of_start (hs : w.Passes ⟨p, L, O, 0⟩) {y : Progress Acquisition Acquired}
    (h : start plans p w.now r = (y, q))
    (hm : milestones q.history = .reused l t ttl :: milestones p.history) :
    ∃ x, p.table.find? r.database = some (.live x) ∧
      l = ⟨r.database, x.generation, x.connection⟩ ∧ x.busy = false ∧
      (x.persistent = true ∨ w.now < x.expiresAt) ∧ q.isHealthy x.connection = true := by
  have hpruned : w.Passes ⟨(p.prune w.now).2, L, O, 0⟩ := hs.moves Pool.moves_prune
  obtain ⟨x, hx, hl, hb, hh, hhandles⟩ :=
    found_of_attempt hpruned (point_resume h) (hm.trans (by rw [Pool.milestones_prune]))
  rw [Pool.table_prune, Table.find?_without, Option.filter_eq_some_iff] at hx
  obtain ⟨hx, hkept⟩ := hx
  have hfresh : x.persistent = true ∨ w.now < x.expiresAt := by
    simpa [Slot.holds, Slot.record?, Record.isPrunable, Record.isReclaimable, Record.isExpired,
      Instant.le_def, Instant.lt_def, hb] using hkept
  refine ⟨x, hx, hl, hb, hfresh, ?_⟩
  rw [Pool.isHealthy, hhandles]
  exact hh

/-- **What is idle and healthy when an acquire is called is leased again at once**, if it is
persistent or its time is not over. -/
theorem start_of_idle (hs : w.Passes ⟨p, L, O, 0⟩) {y : Record} {deadline : Instant}
    (hy : p.table.find? r.database = some (.live y)) (hb : y.busy = false)
    (hh : p.isHealthy y.connection = true)
    (hfresh : y.persistent = true ∨ w.now < y.expiresAt)
    (ht : w.now.after? r.ttl = some deadline) (plans : String → ConnectPlan) :
    ∃ q, start plans p w.now r =
        (.finished (.lease ⟨r.database, y.generation, y.connection⟩), q) ∧
      milestones q.history =
        .reused ⟨r.database, y.generation, y.connection⟩ w.now r.ttl :: milestones p.history := by
  have hkept : (p.prune w.now).2.table.find? r.database = some (.live y) := by
    rw [Pool.table_prune, Table.find?_without, hy, Option.filter_eq_some_iff]
    refine ⟨rfl, ?_⟩
    simpa [Slot.holds, Slot.record?, Record.isPrunable, Record.isReclaimable, Record.isExpired,
      Instant.le_def, Instant.lt_def, hb] using hfresh
  have hhealthy : (p.prune w.now).2.isHealthy y.connection = true :=
    (hs.isHealthy_prune hkept).trans hh
  let leased : Pool := (p.prune w.now).2.withTable
    ((p.prune w.now).2.table.modify r.database (Record.lease deadline w.now))
  refine ⟨leased.note (.reused ⟨r.database, y.generation, y.connection⟩ w.now r.ttl), ?_, ?_⟩
  · rw [start, attempt, Pool.attempt_idle hkept hb hhealthy, ht]
    rfl
  · exact (milestones_cons rfl _).trans (congrArg _ Pool.milestones_prune)

/-- **An acquire that leases a connection again** finds it on record for its database, idle and
neither closed nor broken, and asks for no other. The connection is persistent, its time is not
over, or it was held by the same lease at some moment after the acquire was called. -/
structure Reuses (call : Call) (own : List Entry) (now : Instant) (p : Pool) (l : Lease)
    (q : Pool) : Prop where
  /-- The record as the acquire found it. -/
  record : ∃ x, p.table.find? call.request.database = some (.live x) ∧
    l = ⟨call.request.database, x.generation, x.connection⟩ ∧ x.busy = false ∧
    (x.persistent = true ∨ now < x.expiresAt ∨
      ∃ moment, call.past <:+ moment ∧ moment <:+ p.history ∧ l ∈ held moment)
  /-- The connection as the acquire gets it. -/
  healthy : ∃ h, q.handles[l.connection]? = some h ∧ h.closed = false ∧ h.broken = false
  /-- That it is leased again is all that the acquire leaves behind. -/
  alone : milestones own = [.reused l now call.request.ttl]

/-- **Every acquire that leases a connection again may do so.** -/
theorem Turn.reuses {call : Call} {own : List Entry} {x : Progress Acquisition Acquired}
    (h : Turn call own w p x q) (hmem : .reused l t ttl ∈ own) :
    x = .finished (.lease l) ∧ t = w.now ∧ ttl = call.request.ttl ∧
      Reuses call own w.now p l q := by
  obtain ⟨hx, -, rfl, rfl, hown⟩ := h.trail.of_reused (mem_milestones.mpr ⟨hmem, rfl⟩)
  obtain rfl := eq_of_point hx
  refine ⟨rfl, rfl, rfl, ?_⟩
  cases h with
  | called hs hsince hpast h hq =>
    have hm : milestones q.history = .reused l w.now call.request.ttl :: milestones p.history := by
      rw [hq, milestones_append, hown, List.singleton_append]
    obtain ⟨y, hy, rfl, hb, hfresh, hh⟩ := found_of_start hs h hm
    exact ⟨⟨y, hy, rfl, hb, hfresh.imp_right .inl⟩, Pool.isHealthy_iff.mp hh, hown⟩
  | @polled own' v p' b q' new _ plans _ L O _ _ before hlater hs h hq =>
    -- it has been in the queue until now
    obtain ⟨hold, hnew⟩ : milestones own' = [] ∧ milestones new = _ := by
      rw [milestones_append, List.append_eq_singleton_iff] at hown
      rcases hown with ⟨-, hold⟩ | ⟨hnew, hold⟩
      · have hwaits := before.trail.of_reused (hold ▸ List.mem_singleton_self _)
        cases hwaits.1
      · exact ⟨hold, hnew⟩
    have hqueued : b.stage.opening? call.request = none := before.trail.isQueued_iff.mpr hold
    obtain ⟨r, since, stage⟩ := b
    obtain rfl : r = call.request := before.waits.1
    obtain ⟨u, p₀, L₀, O₀, hu, hpast, hsuffix, hbusy⟩ := before.found_busy hqueued
    rw [poll] at h
    split at h
    · cases h
    · cases stage with
      | queued refusals wake =>
        have hs : w.Passes ⟨p, L, O, 0⟩ := Holding.beside_none ▸ hs
        have hm : milestones q.history =
            .reused l w.now call.request.ttl :: milestones p.history := by
          rw [hq, milestones_append, hnew, List.singleton_append]
        obtain ⟨y, hy, rfl, hb, hh, hhandles⟩ := found_of_attempt hs (point_resume h) hm
        obtain ⟨moment, hfrom, hto, hheld⟩ :=
          hu.held_between hs (hsuffix.trans hlater) hbusy hy
        refine ⟨⟨y, hy, rfl, hb, .inr (.inr ⟨moment, hpast.trans hfrom, hto, hheld⟩)⟩, ?_, hown⟩
        have hafter : q.isHealthy y.connection = true := by
          rw [Pool.isHealthy, hhandles]
          exact hh
        exact Pool.isHealthy_iff.mp hafter
      | connecting plan wake => cases hqueued
      | starting c hook wake => cases hqueued

end Acquisition

namespace World

variable {w : World}

/-- **No connection is leased again that has only been idle past its time.**

Every turn of an acquire in which a connection is leased again ends the acquire with that lease, for
a connection that was found idle on record and is neither closed nor broken, and no other connection
was asked for. It is persistent, or its time is not over, or it was held by a lease on the same
record at some moment between the call of the acquire and this turn. An acquire that leases a
connection again as soon as it is called has no need of the last excuse. And one that is called
while the connection of its database is idle and healthy, and persistent or in its time, leases it
at once, unless its own deadline cannot be told.

These are all the acquires that there are: one that waits is at the end of a turn, and what is
written down of a lease that begins was written down in a turn. -/
theorem IsReachable.reuse_justified (hw : w.IsReachable) :
    w.Accounted ∧
    (∀ call own v p x q, Acquisition.Turn call own v p x q →
      ∀ l t ttl, .reused l t ttl ∈ own →
        x = .finished (.lease l) ∧ t = v.now ∧ ttl = call.request.ttl ∧
          Acquisition.Reuses call own v.now p l q) ∧
    ∀ p L O, w.Passes ⟨p, L, O, 0⟩ → ∀ plans r,
      (∀ l q, Acquisition.start plans p w.now r = (.finished (.lease l), q) →
        milestones q.history = .reused l w.now r.ttl :: milestones p.history →
        ∃ y, p.table.find? r.database = some (.live y) ∧
          l = ⟨r.database, y.generation, y.connection⟩ ∧ y.busy = false ∧
          (y.persistent = true ∨ w.now < y.expiresAt)) ∧
      ∀ y deadline, p.table.find? r.database = some (.live y) → y.busy = false →
        p.isHealthy y.connection = true → (y.persistent = true ∨ w.now < y.expiresAt) →
        w.now.after? r.ttl = some deadline →
        ∃ q, Acquisition.start plans p w.now r =
            (.finished (.lease ⟨r.database, y.generation, y.connection⟩), q) ∧
          milestones q.history =
            .reused ⟨r.database, y.generation, y.connection⟩ w.now r.ttl ::
              milestones p.history := by
  refine ⟨hw.accounted, fun call own v p x q h l t ttl hmem => h.reuses hmem,
    fun p L O hs plans r => ⟨fun l q h hm => ?_, ?_⟩⟩
  · obtain ⟨y, hy, hl, hb, hfresh, -⟩ := Acquisition.found_of_start hs h hm
    exact ⟨y, hy, hl, hb, hfresh⟩
  · exact fun y deadline hy hb hh hfresh ht => Acquisition.start_of_idle hs hy hb hh hfresh ht plans

/-- An acquire waits for a connection whose lease outlives its time, and leases it as soon as it is
released: its time is over, but it has not been idle. -/
theorem IsReachable.reuse_justified_overdue :
    let v := (World.init { pollInterval := 1 } false).after
      [.start (.lease { database := "a", ttl := ⟨5⟩ } "first"),
        .start (.lease { database := "a", ttl := ⟨5⟩ } "second"), .tick, .settle "first" .release]
    let w := v.after [.poll 1]
    (∃ x, v.pool.table.find? "a" = some (.live x) ∧ x.isPrunable v.now = true) ∧
      ∃ call own u p q,
        Acquisition.Turn call own u p (.finished (.lease ⟨"a", 1, 0⟩)) q ∧
          q.history <:+ w.pool.history ∧ Acquisition.Reuses call own ⟨1000000⟩ p ⟨"a", 1, 0⟩ q := by
  intro v w
  have hv : v.IsReachable := ⟨_, _, _, _, rfl⟩
  have hw : w.IsReachable := hv.after [.poll 1]
  have hleased : ∃ e ∈ milestones w.pool.history, e.begins? = some ⟨"a", 1, 0⟩ ∧
      e.grants?.isNone = true ∧ e.term?.map Term.since = some ⟨1000000⟩ := by
    decide +kernel +zetaReduce
  clear_value w
  obtain ⟨haccounted, hreuses, -⟩ := hw.reuse_justified
  obtain ⟨e, he, hbegins, hgrants, hsince⟩ := hleased
  obtain ⟨call, own, u, p, x, q, hturn, hown, hlater⟩ := haccounted.pool e he
  obtain ⟨ttl, rfl⟩ : ∃ ttl, e = .reused ⟨"a", 1, 0⟩ ⟨1000000⟩ ttl := by
    cases e <;> cases hbegins
    · cases hgrants
    · cases hsince
      exact ⟨_, rfl⟩
  obtain ⟨rfl, htime, -, hjustified⟩ := hreuses call own u p x q hturn _ _ _ hown
  let x : Record := ⟨0, ⟨5⟩, ⟨0⟩, false, false, 1⟩
  have hx : v.pool.table.find? "a" = some (.live x) := by decide +kernel +zetaReduce
  have hprunable : x.isPrunable v.now = true := by decide +kernel +zetaReduce
  rw [← htime] at hjustified
  exact ⟨⟨x, hx, hprunable⟩, call, own, u, p, q, hturn, hlater, hjustified⟩

end World

end KeyedPool
