import KeyedPool.Proofs.Emptying
import KeyedPool.Proofs.Persistence

/-!
# What takes a persistent connection away

A persistent record stays in the table through everything that is done to a pool, with three
exceptions: everything is closed, its own lease ends and does not give the connection back in good
health, or an acquire of its own database finds the connection idle and dead and opens another one
in its place. So nothing but closing everything takes away what is idle and healthy, and everything
is closed only in an event that asks for it.

Neither time nor room is a reason, since no acquire of another database touches the record, whatever
becomes of it: it is pruned and evicted around, and no place but that of the other database is kept,
given back or filled.

* `KeyedPool.Pool.HasPersistent.start`, `KeyedPool.Pool.HasPersistent.poll`: an acquire of another
  database.
* `KeyedPool.Custody.Ousts`: the deeds that take a persistent record away.
* `KeyedPool.World.Passes.stays_or_ousted`: no other deed does.
* `KeyedPool.World.Involves`: a deed is done in an event.
* `KeyedPool.World.Involves.mayDrain`: an event in which everything is closed asks for it.
* `KeyedPool.World.IsReachable.persistent_stays`: so no run does, other than by one of them.
-/

namespace KeyedPool

open Custody History

/-! ### Other databases -/

namespace Pool

variable {p q : Pool} {now : Instant} {k other : String} {c : Nat}

theorem find?_publish (hk : other ≠ k) (ttl : Duration) (persistent : Bool) :
    (p.publish other c ttl persistent now).2.table.find? k = p.table.find? k := by
  rw [publish]
  split
  · rfl
  · dsimp only
    split <;> simp [enroll, hk.symm]

theorem find?_settle {l : Lease} (hk : l.database ≠ k) (how : Disposal) :
    (p.settle l how).table.find? k = p.table.find? k := by
  have hdiscard (q : Pool) (why : Removal) :
      (q.discard l why).table.find? k = q.table.find? k := by
    rw [discard]
    split
    · simp [hk.symm]
    · rfl
  cases how with
  | release =>
    simp only [settle]
    split
    · rw [returnIdle]
      split
      · simp [hk.symm]
      · rfl
    · exact hdiscard _ _
  | cancel => exact hdiscard _ _
  | drop => exact hdiscard _ _

end Pool

namespace Pool.HasPersistent

variable {p q : Pool} {now : Instant} {k other : String} {c : Nat} {x : Record} {r : Request}
  {plans : String → ConnectPlan}

/-- A persistent record is on record as it was granted. -/
theorem shows (h : p.HasPersistent k x) : p.table.Shows (x.grant k) := ⟨x, h.1, rfl⟩

theorem of_find? (h : p.HasPersistent k x) (hfind : q.table.find? k = p.table.find? k) :
    q.HasPersistent k x :=
  ⟨hfind.trans h.1, h.2⟩

/-- A place is given back only where there is one. -/
theorem giveUpOpening (h : p.HasPersistent k x) (other : String) :
    (p.giveUpOpening other).HasPersistent k x := by
  rw [Pool.giveUpOpening]
  split
  · rename_i hother
    refine h.withTable ?_
    have hne : k ≠ other := by
      rintro rfl
      rw [h.1] at hother
      cases hother
    simp [hne]
  · exact h

theorem dropUnopened (h : p.HasPersistent k x) (r : Request) :
    (Acquisition.dropUnopened p r).HasPersistent k x := by
  have hnoted : (p.note (.unconnected r.database)).HasPersistent k x := h
  exact hnoted.giveUpOpening r.database

theorem dropOpened (h : p.HasPersistent k x) (r : Request) (c : Nat) :
    (Acquisition.dropOpened p r c).HasPersistent k x :=
  (h.giveUpOpening r.database).congr (table_retire _ _)

theorem publish (h : p.HasPersistent k x) (hk : r.database ≠ k) :
    (Acquisition.publish p now r c).2.HasPersistent k x := by
  have hpublished : (p.publish r.database c r.ttl r.persistent now).2.HasPersistent k x :=
    h.of_find? (find?_publish hk _ _)
  rw [Acquisition.publish]
  split <;> rename_i heq <;> rw [heq] at hpublished <;> exact hpublished

theorem endHook (h : p.HasPersistent k x) (hk : r.database ≠ k) (hook : HookPlan) :
    (Acquisition.endHook p now r c hook).2.HasPersistent k x := by
  let q : Pool := p.modifyHandle c fun h =>
    { h with broken := h.broken || hook.breaks, closed := h.closed || hook.hangsUp }
  have hq : q.HasPersistent k x := h.congr rfl
  have hfit : (q.note (.hookFinished c)).HasPersistent k x := h.congr rfl
  rw [Acquisition.endHook]
  split
  · exact hq.dropOpened r c
  · exact hq.dropOpened r c
  · exact hfit.publish hk

theorem endConnect (h : p.HasPersistent k x) (hk : r.database ≠ k) (plan : ConnectPlan) :
    (Acquisition.endConnect p now r plan).2.HasPersistent k x := by
  rw [Acquisition.endConnect]
  split
  · exact h.dropUnopened r
  · exact h.dropUnopened r
  · rename_i closed broken failClose _
    let fresh : Handle := { database := r.database, closed, broken, failClose }
    let q : Pool :=
      ((p.addHandle fresh).note (.connected r.database p.handles.length)).tally .opened
    have hq : q.HasPersistent k x := h.congr rfl
    have hstarted : (q.note (.hookStarted p.handles.length)).HasPersistent k x := h.congr rfl
    dsimp only
    split
    · exact hq.publish hk
    · split
      · exact hstarted.endHook hk _
      · exact hstarted

theorem beginConnect (h : p.HasPersistent k x) (hk : r.database ≠ k) :
    (Acquisition.beginConnect plans p now r).2.HasPersistent k x := by
  have hnoted : ((p.note (.opening r.database)).note (.connecting r.database)).HasPersistent k x :=
    h.congr rfl
  rw [Acquisition.beginConnect]
  split
  · exact hnoted.endConnect hk _
  · exact hnoted

/-- An acquire that is refused leaves the table as it is. -/
theorem refuse (h : p.HasPersistent k x) (since : Instant) (refusals : List Instant)
    (why : Refusal) : (Acquisition.refuse p now r since refusals why).2.HasPersistent k x := by
  rw [Acquisition.refuse]
  dsimp only
  split
  · split <;> exact h
  · split <;> exact h

/-- **An attempt for another database** leaves the record alone, and so does all that follows from
it. -/
theorem attempts (h : p.HasPersistent k x) (hk : r.database ≠ k) (since : Instant)
    (refusals : List Instant) :
    (Acquisition.attempt plans p now r since refusals).2.HasPersistent k x := by
  have hattempt : (p.attempt r.database r.ttl now).2.HasPersistent k x := h.attempt r.ttl hk
  rw [Acquisition.attempt]
  split <;> rename_i heq <;> rw [heq] at hattempt
  · exact hattempt
  · exact hattempt.beginConnect hk
  · exact hattempt.refuse since refusals _
  · exact hattempt

/-- **An acquire that is called for another database** leaves the record alone. -/
theorem start (h : p.HasPersistent k x) (hk : r.database ≠ k) :
    (Acquisition.start plans p now r).2.HasPersistent k x := by
  rw [Acquisition.start, Acquisition.resume_snd]
  exact h.prune.attempts hk now []

/-- **So does one that is polled.** -/
theorem poll {a : Acquisition} (h : p.HasPersistent k x) (hk : a.request.database ≠ k) :
    (Acquisition.poll plans p now a).2.HasPersistent k x := by
  rw [Acquisition.poll]
  split
  · exact h
  · split
    · rw [Acquisition.resume_snd]
      exact h.attempts hk a.since _
    · rw [Acquisition.resume_snd]
      exact h.endConnect hk _
    · exact h.endHook hk _

/-- **An attempt for its own database** leaves the record there, unless it finds the connection idle
and dead; then it keeps the place for another one, be the pool full or not. -/
theorem attempts_own (h : p.HasPersistent r.database x) (plans : String → ConnectPlan)
    (now : Instant)
    (hcap : ∀ limit, p.settings.maxConnections = some limit → p.table.size ≤ limit)
    (since : Instant) (refusals : List Instant) :
    (Acquisition.attempt plans p now r since refusals).2.table.Shows (x.grant r.database) ∨
      x.busy = false ∧ p.isHealthy x.connection = false ∧
        (p.attempt r.database r.ttl now).1 = .reserved := by
  cases hbusy : x.busy with
  | true =>
    rw [Acquisition.attempt, attempt_busy h.1 hbusy]
    exact .inl (h.refuse since refusals _).shows
  | false =>
    cases hhealthy : p.isHealthy x.connection with
    | false => exact .inr ⟨rfl, rfl, attempt_dead now r.ttl hcap h.1 hbusy hhealthy⟩
    | true =>
      refine .inl ?_
      rw [Acquisition.attempt, attempt_idle h.1 hbusy hhealthy]
      cases now.after? r.ttl with
      | none => exact h.shows
      | some deadline => exact Table.shows_lease.mpr h.shows

end Pool.HasPersistent

/-! ### The deeds that take it away -/

/-- **A connection is found dead**: it is on record as it was granted and idle, and reports itself
closed or broken. -/
def Pool.HasDead (p : Pool) (g : Grant) : Prop :=
  ∃ x, p.table.find? g.lease.database = some (.live x) ∧ x.grant g.lease.database = g ∧
    x.busy = false ∧ p.isHealthy x.connection = false

/-- **What was granted is still there**: it is on record, and its connection was never closed. -/
def Pool.StillHas (p : Pool) (g : Grant) : Prop :=
  ∃ x, p.HasOpen g.lease.database x ∧ x.grant g.lease.database = g

namespace Custody

/-- **The deeds that take away what was granted as persistent.** -/
inductive Ousts (now : Instant) (g : Grant) : Custody → Custody → Prop
  /-- Everything is closed. -/
  | drained {p L O} : Ousts now g ⟨p, L, O, 0⟩ ⟨(p.execute now .closeAll).2, L, O, 0⟩
  /-- Its own lease is cancelled or lost, or is released when the connection is dead. -/
  | ended {p L O} (how : Disposal)
      (hw : how ≠ .release ∨ p.isHealthy g.lease.connection = false) :
    Ousts now g ⟨p, g.lease ::ₘ L, O, 0⟩ ⟨p.settle g.lease how, L, O, 0⟩
  /-- An acquire of its database is called while it is idle and dead, and keeps its place for
  another connection. -/
  | called {p L O} (plans : String → ConnectPlan) (r : Request)
      (hr : r.database = g.lease.database) (hdead : p.HasDead g)
      (hkept : ((p.prune now).2.attempt r.database r.ttl now).1 = .reserved) :
    Ousts now g ⟨p, L, O, 0⟩
      (Progress.custody Acquisition.holding Acquired.holding L O
        (Acquisition.start plans p now r))
  /-- An acquire of its database that waits does the same when it is polled. -/
  | polled {p L O} (plans : String → ConnectPlan) (a : Acquisition)
      (ha : a.request.database = g.lease.database) (hdead : p.HasDead g)
      (hkept : (p.attempt a.request.database a.request.ttl now).1 = .reserved) :
    Ousts now g (a.holding.beside p L O)
      (Progress.custody Acquisition.holding Acquired.holding L O
        (Acquisition.poll plans p now a))

end Custody

namespace World.Passes

variable {w : World} {s t : Custody} {p : Pool} {L : Multiset Lease} {O : Multiset Opening}
  {k : String} {x : Record} {r : Request} {plans : String → ConnectPlan}

/-- A place that is kept is not on record. -/
theorem database_ne_of_opening {o : Opening} (hs : w.Passes ⟨p, L, o ::ₘ O, 0⟩)
    (h : p.HasPersistent k x) : o.database ≠ k := by
  rintro rfl
  have hopening : p.table.find? o.database = some .opening :=
    hs.balanced.find?_opening (Multiset.mem_cons_self o O)
  rw [h.1] at hopening
  cases hopening

/-- The end of a lease takes a persistent record away only if it is the lease on that record. -/
theorem stays_or_ousted_settle {l : Lease} (hs : w.Passes ⟨p, l ::ₘ L, O, 0⟩)
    (h : p.HasPersistent k x) (how : Disposal) :
    (p.settle l how).table.Shows (x.grant k) ∨
      Ousts w.now (x.grant k) ⟨p, l ::ₘ L, O, 0⟩ ⟨p.settle l how, L, O, 0⟩ := by
  by_cases hk : l.database = k
  · subst hk
    by_cases hg : x.generation = l.generation
    · -- it is the lease on the record
      have hc := (hs.exclusive.of_mem (Multiset.mem_cons_self l L) h.1 hg).2
      have hl : l = (x.grant l.database).lease := by
        rw [Record.grant, hg, ← hc]
      by_cases hw : how ≠ .release ∨ p.isHealthy l.connection = false
      · rw [hl] at hw
        have hended : Ousts w.now (x.grant l.database) ⟨p, (x.grant l.database).lease ::ₘ L, O, 0⟩
            ⟨p.settle (x.grant l.database).lease how, L, O, 0⟩ := .ended how hw
        exact .inr (hl ▸ hended)
      · obtain ⟨rfl, hhealthy⟩ : how = .release ∧ p.isHealthy l.connection = true := by
          simpa using hw
        have hmatched : (p.table.find? l.database).any (Pool.isGeneration l.generation) = true :=
          Pool.any_isGeneration_iff.mpr ⟨x, h.1, hg⟩
        have hhealthy : (p.note (.leaseEnded l .release)).isHealthy l.connection = true := hhealthy
        refine .inl ?_
        simp only [Pool.settle, hhealthy, if_true, Pool.returnIdle, Pool.table_note, hmatched,
          Pool.table_withTable]
        exact Table.shows_rest.mpr h.shows
    · -- a lease without a record changes no slot
      have hmatched : ¬l.IsMatched p.table := by
        rintro ⟨y, hy, hyg⟩
        rw [h.1] at hy
        cases hy
        exact hg hyg
      refine .inl ?_
      rcases Pool.settle_eq_of_not_isMatched hmatched how with heq | heq <;> rw [heq]
      · exact h.shows
      · exact h.shows
  · exact .inl (h.of_find? (Pool.find?_settle hk how)).shows

/-- So does an acquire that is called, only if it is one of its own database and finds it dead. -/
theorem stays_or_ousted_call (hs : w.Passes ⟨p, L, O, 0⟩) (h : p.HasPersistent k x)
    (plans : String → ConnectPlan) (r : Request) :
    (Acquisition.start plans p w.now r).2.table.Shows (x.grant k) ∨
      Ousts w.now (x.grant k) ⟨p, L, O, 0⟩
        (Progress.custody Acquisition.holding Acquired.holding L O
          (Acquisition.start plans p w.now r)) := by
  by_cases hk : r.database = k
  · subst hk
    have hpruned : w.Passes ⟨(p.prune w.now).2, L, O, 0⟩ := hs.moves Pool.moves_prune
    have hown := h.prune.attempts_own plans w.now hpruned.capped w.now []
    rcases hown with hshows | ⟨hbusy, hdead, hkept⟩
    · refine .inl ?_
      rw [Acquisition.start, Acquisition.resume_snd]
      exact hshows
    · rw [hs.isHealthy_prune h.prune.1] at hdead
      exact .inr (.called plans r rfl ⟨x, h.1, rfl, hbusy, hdead⟩ hkept)
  · exact .inl (h.start hk).shows

/-- And so does one that is polled. -/
theorem stays_or_ousted_poll {a : Acquisition} (hs : w.Passes (a.holding.beside p L O))
    (h : p.HasPersistent k x) (plans : String → ConnectPlan) :
    (Acquisition.poll plans p w.now a).2.table.Shows (x.grant k) ∨
      Ousts w.now (x.grant k) (a.holding.beside p L O)
        (Progress.custody Acquisition.holding Acquired.holding L O
          (Acquisition.poll plans p w.now a)) := by
  by_cases hk : a.request.database = k
  · subst hk
    rcases a with ⟨r, since, stage⟩
    have hplace (o : Opening) (ho : stage.opening? r = some o) : o.database ≠ r.database := by
      have hs' : w.Passes ⟨p, L, o ::ₘ O, 0⟩ := by
        simpa [Holding.beside, Acquisition.holding, Acquisition.opening?, ho] using hs
      exact hs'.database_ne_of_opening h
    cases stage with
    | connecting plan wake => exact absurd rfl (hplace _ rfl)
    | starting c hook wake => exact absurd rfl (hplace _ rfl)
    | queued refusals wake =>
      by_cases hearly : w.now < wake
      · refine .inl ?_
        simp only [Acquisition.poll, Acquisition.wake, hearly, if_true]
        exact h.shows
      · have hcap : w.Passes ⟨p, L, O, 0⟩ := by
          rwa [Acquisition.holding, Acquisition.opening?, Stage.opening?, Holding.beside_none] at hs
        have hown := h.attempts_own plans w.now hcap.capped since refusals
        rcases hown with hshows | ⟨hbusy, hdead, hkept⟩
        · refine .inl ?_
          simp only [Acquisition.poll, Acquisition.wake, hearly, if_false, Acquisition.resume_snd]
          exact hshows
        · refine .inr ?_
          exact .polled plans ⟨r, since, .queued refusals wake⟩ rfl ⟨x, h.1, rfl, hbusy, hdead⟩
            hkept
  · exact .inl (h.poll hk).shows

/-- **No deed takes a persistent record away but those that oust it.** -/
theorem stays_or_ousted (hs : w.Passes s) (hd : Deed w.now s t)
    (h : s.pool.HasPersistent k x) :
    t.pool.table.Shows (x.grant k) ∨ Ousts w.now (x.grant k) s t := by
  cases hd with
  | command c =>
    cases c with
    | prune => exact .inl (Pool.HasPersistent.shows h.prune)
    | evict => exact .inl h.evict.shows
    | closeAll => exact .inr .drained
    | _ => exact .inl h.shows
  | settle l how => exact stays_or_ousted_settle hs h how
  | call plans r => simpa using stays_or_ousted_call hs h plans r
  | poll plans a => simpa using stays_or_ousted_poll hs h plans
  | abandon a =>
    refine .inl (Pool.HasPersistent.shows ?_)
    rw [Acquisition.abandon]
    split
    · exact h
    · exact Pool.HasPersistent.dropUnopened h _
    · exact Pool.HasPersistent.dropOpened h _ _
  | flags connection f hf => exact .inl (Pool.HasPersistent.shows (h.congr rfl))
  | stop => exact .inl (Pool.HasPersistent.shows (h.congr rfl))

/-- Nothing but closing everything takes away what is idle and healthy. -/
theorem eq_of_ousts {u : Custody} (hs : w.Passes s) (h : s.pool.HasPersistent k x)
    (hidle : x.busy = false) (hhealthy : s.pool.isHealthy x.connection = true)
    (ho : Ousts w.now (x.grant k) s u) :
    u = ⟨(s.pool.execute w.now .closeAll).2, s.leases, s.openings, 0⟩ := by
  have hlive (p : Pool) (hp : p.HasPersistent k x) (hpx : p.isHealthy x.connection = true) :
      ¬p.HasDead (x.grant k) := by
    rintro ⟨y, hy, -, -, hdead⟩
    obtain rfl : x = y := Slot.live.inj (Option.some.inj (hp.1.symm.trans hy))
    rw [hpx] at hdead
    cases hdead
  cases ho with
  | drained => rfl
  | ended how hw =>
    -- a record with a lease is busy
    have hbusy := (hs.exclusive.of_mem (Multiset.mem_cons_self _ _) h.1 rfl).1
    rw [hidle] at hbusy
    cases hbusy
  | called plans r hr hdead hkept => exact absurd hdead (hlive _ h hhealthy)
  | polled plans a ha hdead hkept => exact absurd hdead (hlive _ h hhealthy)

/-- What is on record was not closed. -/
theorem stillHas {g : Grant} (hs : w.Passes s) (hg : s.pool.table.Shows g) : s.pool.StillHas g := by
  obtain ⟨y, hy, hgrant⟩ := hg
  exact ⟨y, hs.balanced.hasOpen hs.told hy, hgrant⟩

end World.Passes

/-! ### Runs -/

namespace World

variable {w : World} {g : Grant}

/-- **A deed is done in an event.** -/
structure Involves (w : World) (e : Event) (s t : Custody) : Prop where
  /-- Others are done before. -/
  before : Deeds w.now w.custody s
  /-- The deed is done. -/
  deed : Deed w.now s t
  /-- Others are done afterwards. -/
  after : Deeds w.now t (w.step e).2.custody

namespace Involves

variable {e : Event} {s t : Custody} {k : String} {x : Record}

theorem passes (h : w.Involves e s t) (hw : w.IsReachable) : w.Passes s := ⟨hw, h.before.moves⟩

/-- **Nothing is drained in a deed** of an event that does not ask for everything to be closed. -/
theorem drained_eq (h : w.Involves e s t) (hw : w.IsReachable) (hdrain : w.mayDrain e = false) :
    t.pool.drained = s.pool.drained := by
  -- what is drained only grows, and after the event it is what it was before
  have hs : w.Passes s := h.passes hw
  have ht : w.Passes t := hs.moves h.deed.moves
  have hbefore : w.pool.drained <:+ s.pool.drained :=
    ((Passes.rest hw).suffix h.before.moves).filterMap _
  have hdeed : s.pool.drained <:+ t.pool.drained := (hs.suffix h.deed.moves).filterMap _
  have hafter : t.pool.drained <:+ (w.step e).2.pool.drained :=
    (ht.suffix h.after.moves).filterMap _
  rw [drained_step w hdrain] at hafter
  exact (hdeed.eq_of_length_le (hafter.length_le.trans hbefore.length_le)).symm

/-- **An event in which everything is closed asks for it**, if there was anything to close. -/
theorem mayDrain (h : w.Involves e s t) (hw : w.IsReachable)
    (hx : s.pool.table.find? k = some (.live x))
    (ht : t.pool = (s.pool.execute w.now .closeAll).2) : w.mayDrain e = true := by
  by_contra hdrain
  -- else the batch that is drained is empty, but the record is in it
  have heq := h.drained_eq hw (Bool.eq_false_iff.mpr hdrain)
  rw [ht, Pool.execute, Pool.drained_closeAll, List.append_left_eq_self,
    List.reverse_eq_nil_iff] at heq
  have hmem : (k, x.connection) ∈ s.pool.table.connections :=
    Table.mem_connections.mpr ⟨x, hx, rfl⟩
  have hnone : s.pool.table.connections = 0 :=
    (Pool.left_takeLive .drained).symm.trans (congrArg _ heq)
  rw [hnone] at hmem
  cases hmem

/-- **What is idle and healthy stays** in an event that does not ask for everything to be closed. -/
theorem stillHas (h : w.Involves e s t) (hw : w.IsReachable) (hdrain : w.mayDrain e = false)
    (hx : s.pool.HasPersistent k x) (hidle : x.busy = false)
    (hhealthy : s.pool.isHealthy x.connection = true) : t.pool.StillHas (x.grant k) := by
  have hs : w.Passes s := h.passes hw
  rcases hs.stays_or_ousted h.deed hx with hshows | housts
  · exact (hs.moves h.deed.moves).stillHas hshows
  · have ht := congrArg Custody.pool (hs.eq_of_ousts hx hidle hhealthy housts)
    rw [h.mayDrain hw hx.1 ht] at hdrain
    cases hdrain

end Involves

/-- **What was granted is taken away in an event**: one of the deeds of the event does it, and if it
is to close everything, the event asks for it. -/
def OustsIn (w : World) (e : Event) (g : Grant) : Prop :=
  ∃ s t, w.Involves e s t ∧ s.pool.StillHas g ∧ Ousts w.now g s t ∧
    (t.pool = (s.pool.execute w.now .closeAll).2 → w.mayDrain e = true)

/-- An event keeps what was granted as persistent, or takes it away in one of its deeds. -/
theorem IsReachable.stays_or_ousts_in (hw : w.IsReachable) (hg : w.pool.table.Shows g)
    (hp : g.persistent = true) (e : Event) :
    (w.step e).2.pool.table.Shows g ∨ w.OustsIn e g := by
  refine or_iff_not_imp_left.mpr fun hgone => ?_
  obtain ⟨s, t, hbefore, hdeed, hafter, hs, ht⟩ :=
    (deeds_step hw.tidy e).exists_deed (P := fun s => s.pool.table.Shows g) hg hgone
  have hinvolves : w.Involves e s t := ⟨hbefore, hdeed, hafter⟩
  have hpasses : w.Passes s := hinvolves.passes hw
  obtain ⟨x, hx, hgrant⟩ := hs
  have hpersistent : s.pool.HasPersistent g.lease.database x :=
    ⟨hx, (congrArg Grant.persistent hgrant).trans hp⟩
  have hstays := hpasses.stays_or_ousted hdeed hpersistent
  rw [hgrant] at hstays
  exact ⟨s, t, hinvolves, hpasses.stillHas ⟨x, hx, hgrant⟩, hstays.resolve_left ht,
    hinvolves.mayDrain hw hx⟩

/-- **A run keeps what was granted as persistent**, or takes it away in a deed of one of its
events. -/
theorem IsReachable.stays_or_ousts_after (hw : w.IsReachable) (hg : w.pool.table.Shows g)
    (hp : g.persistent = true) (events : List Event) :
    (w.after events).pool.table.Shows g ∨
      ∃ before e rest, events = before ++ e :: rest ∧ (w.after before).OustsIn e g := by
  induction events generalizing w with
  | nil => exact .inl hg
  | cons e es ih =>
    rcases hw.stays_or_ousts_in hg hp e with hstays | housts
    · rcases ih (hw.after [e]) hstays with hstays | ⟨before, e', rest, rfl, housts⟩
      · exact .inl hstays
      · exact .inr ⟨e :: before, e', rest, rfl, housts⟩
    · exact .inr ⟨[], e, es, rfl, housts⟩

/-- **A persistent connection stays.** Every event is a sequence of deeds, and a deed that is done
at any time of a run keeps a persistent record and its connection, or is one of those that oust it:
it closes everything, it ends the lease on the record and does not give the connection back in good
health, or it is that of an acquire of the same database which finds the connection idle and dead
and keeps the place for another one. So what is idle and healthy goes only when everything is
closed. Pruning, evicting and an acquire of another database spare it at any time, for whatever
deadline, in whatever room there is, and so does a turn of a pruner. In an event that does not ask
for everything to be closed, no deed takes away what is idle and healthy. And over a whole run it is
still there, or there was a moment in one of the events at which it was ousted. -/
theorem IsReachable.persistent_stays (hw : w.IsReachable) :
    (∀ e, Deeds w.now w.custody (w.step e).2.custody) ∧
    (∀ s, w.Passes s → ∀ k x, s.pool.HasPersistent k x →
      s.pool.Spares k x ∧
      ∀ t, Deed w.now s t →
        (t.pool.StillHas (x.grant k) ∨ Ousts w.now (x.grant k) s t) ∧
        (x.busy = false → s.pool.isHealthy x.connection = true →
          t.pool.StillHas (x.grant k) ∨
            t = ⟨(s.pool.execute w.now .closeAll).2, s.leases, s.openings, 0⟩)) ∧
    (∀ k x, w.pool.HasPersistent k x → ∀ i, (w.sweep i).pool.HasOpen k x) ∧
    (∀ e, w.mayDrain e = false → ∀ s t, w.Involves e s t → ∀ k x, s.pool.HasPersistent k x →
      x.busy = false → s.pool.isHealthy x.connection = true → t.pool.StillHas (x.grant k)) ∧
    ∀ g, w.pool.table.Shows g → g.persistent = true → ∀ events,
      (w.after events).pool.StillHas g ∨
        ∃ before e rest, events = before ++ e :: rest ∧ (w.after before).OustsIn e g := by
  refine ⟨deeds_step hw.tidy, fun s hs k x hx => ⟨hs.balanced.spares hs.told hx, ?_⟩,
    fun k x hx i => hw.hasOpen_sweep hx i, ?_, ?_⟩
  · intro t hdeed
    have ht : w.Passes t := hs.moves hdeed.moves
    have hstays := (hs.stays_or_ousted hdeed hx).imp_left ht.stillHas
    refine ⟨hstays, fun hidle hhealthy => hstays.imp_right fun ho => ?_⟩
    exact hs.eq_of_ousts hx hidle hhealthy ho
  · intro e hdrain s t hinvolves k x hx hidle hhealthy
    exact hinvolves.stillHas hw hdrain hx hidle hhealthy
  · intro g hg hp events
    have hend : (w.after events).Passes (w.after events).custody := Passes.rest (hw.after events)
    exact (hw.stays_or_ousts_after hg hp events).imp_left hend.stillHas

/-- A persistent connection is idle in a full pool, long after its time, and a pruner is due: its
turn leaves the connection where it is, and nothing else that is done next takes it away, unless it
is to close everything. -/
theorem IsReachable.persistent_stays_overdue :
    let w := (World.init { maxConnections := some 1 } false).after
      [.start (.lease { database := "a", ttl := ⟨5⟩, persistent := true } "lease"),
        .settle "lease" .release, .spawnPruner "pruner" ⟨1⟩, .tick]
    let x : Record := ⟨0, ⟨5⟩, ⟨0⟩, false, true, 1⟩
    w.pool.HasPersistent "a" x ∧ x.isExpired w.now = true ∧
      w.pruners.any (·.isDue w.now) = true ∧ w.pool.Spares "a" x ∧
      (w.sweep 0).pool.HasOpen "a" x ∧
      ∀ t, Deed w.now w.custody t → t.pool.StillHas (x.grant "a") ∨
        t = ⟨(w.pool.execute w.now .closeAll).2, w.custody.leases, w.custody.openings, 0⟩ := by
  intro w x
  have hw : w.IsReachable := ⟨_, _, _, _, rfl⟩
  have hx : w.pool.HasPersistent "a" x := ⟨rfl, rfl⟩
  have hdue : w.pruners.any (·.isDue w.now) = true := by decide +kernel +zetaReduce
  obtain ⟨-, hspared, hswept, -⟩ := hw.persistent_stays
  obtain ⟨hspares, hdeeds⟩ := hspared w.custody (Passes.rest hw) "a" x hx
  exact ⟨hx, by decide, hdue, hspares, hswept "a" x hx 0, fun t ht => (hdeeds t ht).2 rfl rfl⟩

end World

end KeyedPool
