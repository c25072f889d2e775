import KeyedPool.Proofs.Custody.Ending

/-!
# What a failed acquire leaves behind

An acquire that ends without a lease leaves nothing behind: the place that it kept is gone, and the
connection that it obtained was closed once. It does not matter whether the connection could not be
opened, its startup hook failed, the task was torn down in either of them, or the acquire was given
up while it waited.

There is one exception. A deadline beyond the horizon of the clock is noticed only when a connection
is published, and by then the acquire has let go of both: the place stays in the table although
nobody owns it, and the connection stays open although nobody knows of it. On an idle connection the
same deadline is noticed in time.

* `KeyedPool.Acquisition.LeavesNothing`: nothing is left of an acquire.
* `KeyedPool.Acquisition.LeavesBehind`: its place and its connection are.
* `KeyedPool.World.Passes.failed_acquire`: a failed acquire leaves nothing behind, unless its
  deadline lies beyond the horizon.
* `KeyedPool.World.beyond_horizon_leaves_behind`: then it may leave both.
-/

namespace KeyedPool

open Custody

/-! ### What an acquire leaves -/

namespace Acquisition

/-- **Nothing is left of an acquire** that leaves a pool as another. -/
structure LeavesNothing (r : Request) (kept? : Option Opening) (p q : Pool) : Prop where
  /-- A place for its database is that of somebody else, and was there before. -/
  place : q.table.find? r.database = some .opening →
    kept? = none ∧ p.table.find? r.database = some .opening
  /-- Every connection that it obtained has been closed once. -/
  closed : ∀ c, Obtains kept? p q c → ∃ h, q.handles[c]? = some h ∧ h.closeCalls = 1

/-- **An acquire leaves its place and its connection behind.** -/
structure LeavesBehind (now : Instant) (r : Request) (kept? : Option Opening) (p q : Pool) :
    Prop where
  /-- Its deadline lies beyond the horizon. -/
  late : now.after? r.ttl = none
  /-- The place is in the table. -/
  place : q.table.find? r.database = some .opening
  /-- The connection that it obtained was not closed. -/
  unclosed : ∃ c, Obtains kept? p q c ∧ ∃ h, q.handles[c]? = some h ∧ h.closeCalls = 0

variable {w : World} {plans : String → ConnectPlan} {r : Request} {kept? : Option Opening}
  {p p' q : Pool} {result : Acquired} {L : Multiset Lease} {O : Multiset Opening}
  {D : Multiset Departure} {c : Nat}

/-- A connection that was not there before has been obtained. -/
theorem obtains_of_getElem? {h : Handle} (hq : q.handles[c]? = some h)
    (hp : p.handles.length ≤ c) : Obtains kept? p q c :=
  .inr ⟨hp, (List.getElem?_eq_some_iff.mp hq).1⟩

/-- Nothing more has been obtained while no connection was opened. -/
theorem obtains_congr (hlength : q.handles.length = p'.handles.length) :
    Obtains kept? p q c ↔ Obtains kept? p p' c := by
  rw [Obtains, hlength, Obtains]

/-- An acquire that has given up its place and obtained no connection leaves nothing behind. -/
theorem leavesNothing_of_not_obtains (hplace : q.table.find? r.database = none)
    (hobtains : ∀ c, ¬Obtains kept? p q c) : LeavesNothing r kept? p q :=
  ⟨fun hopen => absurd (hplace.symm.trans hopen) nofun, fun c hc => absurd hc (hobtains c)⟩

/-- The connection of an acquire has not been closed. -/
theorem exists_open_handle {s : Custody} (hs : w.Passes s) {o : Opening} (ho : o ∈ s.openings)
    (hc : o.connection? = some c) : ∃ h, s.pool.handles[c]? = some h ∧ h.closeCalls = 0 := by
  have huse : (o.database, c) ∈ Opening.connections s.openings :=
    (Multiset.mem_filterMap _ _).mpr ⟨o, ho, Opening.opened?_of_connection? hc⟩
  exact hs.told.exists_open_handle hs.balanced (Multiset.mem_add.mpr (.inr huse))

/-! #### Every way to end -/

/-- A connection that is not used is closed, and its place is given back. -/
theorem leavesNothing_dropOpened (hs : w.Passes ⟨p', L, ⟨r, .starting c⟩ ::ₘ O, D⟩)
    (hobtains : ∀ c', Obtains kept? p p' c' ↔ c' = c) :
    LeavesNothing r kept? p (dropOpened p' r c) := by
  have hopen : p'.table.find? r.database = some .opening :=
    hs.balanced.find?_opening (Multiset.mem_cons_self _ O)
  obtain ⟨h, hh, hcalls⟩ : ∃ h, p'.handles[c]? = some h ∧ h.closeCalls = 0 :=
    exists_open_handle hs (Multiset.mem_cons_self _ O) rfl
  let d : Departure := ⟨.abandoned, r.database, c⟩
  have hdropped : dropOpened p' r c =
      ((p'.withTable (p'.table.erase r.database)).retire d).2 := by
    rw [dropOpened, Pool.giveUpOpening_eq hopen]
  have hlength : (dropOpened p' r c).handles.length = p'.handles.length :=
    (congrArg (·.handles.length) hdropped).trans (Pool.length_handles_retire d)
  have hplace : (dropOpened p' r c).table.find? r.database = none := by
    rw [hdropped]
    simp
  have hclosed : (dropOpened p' r c).handles[c]? = some h.close.2 := by
    rw [hdropped, Pool.handles_retire (p := p'.withTable (p'.table.erase r.database)) (d := d) hh]
    exact List.getElem?_set_self (List.getElem?_eq_some_iff.mp hh).1
  refine ⟨fun hopen => absurd (hplace.symm.trans hopen) nofun, fun c' hc' => ?_⟩
  obtain rfl := (hobtains c').mp ((obtains_congr hlength).mp hc')
  exact ⟨_, hclosed, by rw [Handle.close, hcalls]⟩

/-- A place is given back when its connection does not come. -/
theorem leavesNothing_dropUnopened (hs : w.Passes ⟨p', L, ⟨r, .asked⟩ ::ₘ O, D⟩)
    (hobtains : ∀ c, ¬Obtains kept? p p' c) : LeavesNothing r kept? p (dropUnopened p' r) := by
  have hopen : p'.table.find? r.database = some .opening :=
    hs.balanced.find?_opening (Multiset.mem_cons_self _ O)
  have hdropped : dropUnopened p' r = _ :=
    Pool.giveUpOpening_eq (p := p'.note (.unconnected r.database)) hopen
  refine leavesNothing_of_not_obtains ?_ fun c => ?_
  · rw [hdropped]
    simp
  · rw [hdropped]
    exact hobtains c

/-- A connection that is not published, because it is too late, is left behind. -/
theorem leavesBehind_publish {stage : Opening.Stage}
    (hs : w.Passes ⟨p', L, ⟨r, stage⟩ ::ₘ O, D⟩)
    (hc : (⟨r, stage⟩ : Opening).connection? = some c)
    (hobtains : Obtains kept? p p' c) (h : publish p' w.now r c = (result, q))
    (hfail : ∀ l, result ≠ .lease l) : LeavesBehind w.now r kept? p q := by
  rw [publish, Pool.publish] at h
  cases hlate : w.now.after? r.ttl with
  | none =>
    simp only [hlate] at h
    cases h
    have hopen := hs.balanced.find?_opening (Multiset.mem_cons_self _ O)
    exact ⟨hlate, hopen, c, hobtains, exists_open_handle hs (Multiset.mem_cons_self _ O) hc⟩
  | some deadline =>
    simp only [hlate] at h
    cases h
    exact absurd rfl (hfail _)

/-- **The last step of an acquire that fails** leaves nothing of it, or leaves both behind. -/
theorem LastStep.leaves (h : LastStep w L O r kept? p result q) (hfail : ∀ l, result ≠ .lease l) :
    LeavesNothing r kept? p q ∨ LeavesBehind w.now r kept? p q := by
  cases h with
  | @publishes _ stage c _ _ hs hstage hobtains h =>
    have hc : (⟨r, stage⟩ : Opening).connection? = some c := by
      rcases hstage with ⟨rfl, -⟩ | rfl <;> rfl
    exact .inr (leavesBehind_publish hs hc ((hobtains c).mpr rfl) h hfail)
  | dropsOpened hs hobtains => exact .inl (leavesNothing_dropOpened hs hobtains)
  | dropsUnopened hs hobtains => exact .inl (leavesNothing_dropUnopened hs hobtains)
  | reuses => exact absurd rfl (hfail _)
  | refused hkept hplace hlength =>
    refine .inl ⟨fun hopen => ⟨hkept, hplace hopen⟩, fun c hc => ?_⟩
    rcases hc with hc | ⟨hge, hlt⟩
    · rw [hkept] at hc
      cases hc
    · exact absurd hge (Nat.not_le.mpr (hlength ▸ hlt))

/-- **An acquire that is given up while it waits** leaves nothing behind. -/
theorem leavesNothing_abandon (a : Acquisition)
    (hs : w.Passes (a.holding.beside p L O)) :
    LeavesNothing a.request a.opening? p (abandon p a) := by
  rcases a with ⟨r, since, stage⟩
  -- it has opened nothing since it was polled last
  have hnone (c : Nat) : ¬(p.handles.length ≤ c ∧ c < p.handles.length) := by omega
  cases stage with
  | queued refusals wake =>
    exact ⟨fun hopen => ⟨rfl, hopen⟩, fun c hc => absurd hc (not_or.mpr ⟨nofun, hnone c⟩)⟩
  | connecting plan wake =>
    have hs : w.Passes ⟨p, L, ⟨r, .asked⟩ ::ₘ O, 0⟩ := Holding.beside_opening _ ▸ hs
    exact leavesNothing_dropUnopened hs fun c => not_or.mpr ⟨nofun, hnone c⟩
  | starting c hook wake =>
    have hs : w.Passes ⟨p, L, ⟨r, .starting c⟩ ::ₘ O, 0⟩ := Holding.beside_opening _ ▸ hs
    refine leavesNothing_dropOpened hs fun c' => ?_
    rw [Obtains, or_iff_left (hnone c')]
    exact Option.some_inj.trans eq_comm

end Acquisition

/-! ### Runs -/

namespace World

variable {w : World} {p : Pool} {L : Multiset Lease} {O : Multiset Opening} {r : Request}
  {kept? : Option Opening}

/-- **A failed acquire leaves nothing behind** unless its deadline lies beyond the horizon. At any
time of a run: an acquire that ends without a lease, with an error or because its task is torn down,
and one that is given up while it waits, has no place in the table afterwards, and every connection
that it obtained has been closed once. Only if the clock cannot show its deadline may it leave its
place in the table and its connection open. Given up between two events it leaves nothing, whatever
it waits for. -/
theorem Passes.failed_acquire (hs : w.Passes (Holding.beside { opening? := kept? } p L O)) :
    (∀ plans result q, Acquisition.EndsWith plans w.now r kept? p result q →
      (∀ l, result ≠ .lease l) →
        Acquisition.LeavesNothing r kept? p q ∨ Acquisition.LeavesBehind w.now r kept? p q) ∧
    (∀ a : Acquisition, a.request = r → a.opening? = kept? →
      Acquisition.LeavesNothing r kept? p (a.abandon p)) ∧
    ∀ a ∈ w.acquisitions,
      Acquisition.LeavesNothing a.request a.opening? w.pool (a.abandon w.pool) := by
  refine ⟨fun plans result q h hfail => (h.lastStep hs).leaves hfail, ?_, fun a ha => ?_⟩
  · rintro a rfl rfl
    exact Acquisition.leavesNothing_abandon a hs
  · obtain ⟨O, hwaits⟩ := Passes.waiting hs.1 ha
    exact Acquisition.leavesNothing_abandon a hwaits

/-- An acquire whose startup hook fails gives its place back and closes its connection. -/
theorem Passes.failed_acquire_startup :
    let r : Request :=
      { database := "a", ttl := ⟨5⟩, startup := some { result := .fail (.plain "no") } }
    let w := (World.init {} false).after [.start (.lease r "first")]
    w.pool.table.find? "a" = none ∧ ∃ h, w.pool.handles[0]? = some h ∧ h.closeCalls = 1 := by
  intro r w
  have hinit : (World.init {} false).IsReachable := ⟨{}, false, .stored, [], rfl⟩
  have hends : Acquisition.EndsWith (World.init {} false).planFor (World.init {} false).now r none
      (World.init {} false).pool (.failed (.startup "a" (.plain "no"))) w.pool := .called rfl
  have hshown : (World.init {} false).now.after? r.ttl = some ⟨5⟩ := rfl
  rcases (Passes.called hinit).failed_acquire.1 _ _ _ hends nofun with h | h
  · exact ⟨rfl, h.closed 0 (Acquisition.obtains_of_getElem? rfl (Nat.zero_le 0))⟩
  · exact absurd (hshown.symm.trans h.late) nofun

/-- **Too late to give anything back.** The deadline of this acquire lies beyond the horizon, and
its task is torn down. The place that it kept is still in the table although nobody waits for it,
and the connection that it obtained was not closed. -/
theorem beyond_horizon_leaves_behind :
    let r : Request := { database := "a", ttl := .ofParts wordMax 999999999 }
    let before := World.init {} false
    let w := before.after [.start (.lease r "first")]
    Acquisition.EndsWith before.planFor before.now r none before.pool
        (.crashed beyondHorizonText) w.pool ∧
      ¬Acquisition.LeavesNothing r none before.pool w.pool ∧
      w.pool.table.find? "a" = some .opening ∧ w.openings = [] ∧ w.heldLeases = [] := by
  refine ⟨.called rfl, fun h => ?_, rfl, rfl, rfl⟩
  obtain ⟨handle, hh, hcalls⟩ :=
    h.closed 0 (Acquisition.obtains_of_getElem? rfl (Nat.zero_le 0))
  cases hh
  cases hcalls

end World

end KeyedPool
