import KeyedPool.Proofs.Custody.Pool

/-!
# Acquires as moves

An acquire goes through its stages by moves, and whatever it has is in its hands between two polls:
the place that it keeps while it waits, or the lease with which it ends.

* `KeyedPool.Holding`: the leases of somebody, and the place that is kept for it.
* `KeyedPool.Progress.custody`: the state in which something that takes time leaves a pool.
* `KeyedPool.Acquisition.moves_publish`: a lease begins on a fresh connection.
* `KeyedPool.Acquisition.moves_start`, `KeyedPool.Acquisition.moves_poll`: an acquire is called, and
  polled.
* `KeyedPool.Acquisition.moves_abandon`: it is given up.
-/

namespace KeyedPool

open Custody

variable {now : Instant} {p : Pool} {L : Multiset Lease} {O : Multiset Opening}
  {D : Multiset Departure}

/-! ### What somebody has -/

/-- What somebody has who uses a pool. -/
structure Holding where
  /-- Its leases. -/
  leases : List Lease := []
  /-- The place that is kept for it. -/
  opening? : Option Opening := none

/-- A pool that somebody uses beside others. -/
def Holding.beside (h : Holding) (p : Pool) (L : Multiset Lease) (O : Multiset Opening) :
    Custody :=
  ⟨p, ↑h.leases + L, ↑h.opening?.toList + O, 0⟩

theorem Holding.beside_none : Holding.beside {} p L O = ⟨p, L, O, 0⟩ := by
  simp [beside]

theorem Holding.beside_lease (l : Lease) :
    Holding.beside { leases := [l] } p L O = ⟨p, l ::ₘ L, O, 0⟩ := by
  simp [beside]

theorem Holding.beside_opening (o : Opening) :
    Holding.beside { opening? := some o } p L O = ⟨p, L, o ::ₘ O, 0⟩ := by
  simp [beside]

/-- The state of custody in which something that takes time leaves a pool. -/
def Progress.custody {σ α : Type} (waits : σ → Holding) (ends : α → Holding)
    (L : Multiset Lease) (O : Multiset Opening) : Progress σ α × Pool → Custody
  | (.waiting s, p) => (waits s).beside p L O
  | (.finished a, p) => (ends a).beside p L O

@[simp] theorem Progress.pool_custody {σ α : Type} (waits : σ → Holding) (ends : α → Holding)
    (L : Multiset Lease) (O : Multiset Opening) (x : Progress σ α × Pool) :
    (Progress.custody waits ends L O x).pool = x.2 := by
  rcases x with ⟨_ | _, p⟩ <;> rfl

/-- The place that an acquire keeps at a stage. -/
def Stage.opening? (r : Request) : Stage → Option Opening
  | .queued .. => none
  | .connecting .. => some ⟨r, .asked⟩
  | .starting connection .. => some ⟨r, .starting connection⟩

/-- The place that an acquire keeps while it waits. -/
def Acquisition.opening? (a : Acquisition) : Option Opening := a.stage.opening? a.request

/-- What an acquire has at a stage. -/
def Stage.holding (r : Request) (s : Stage) : Holding := { opening? := s.opening? r }

/-- What an acquire has while it waits. -/
def Acquisition.holding (a : Acquisition) : Holding := { opening? := a.opening? }

/-- The lease with which an acquire ends. -/
def Acquired.holding : Acquired → Holding
  | .lease l => { leases := [l] }
  | _ => {}

namespace Pool

/-! ### A fresh connection -/

/-- What is put in place of a record that has left is put in place of the record. -/
theorem enroll_erase (database : String) (connection : Nat) (deadline : Instant)
    (persistent : Bool) :
    (p.withTable (p.table.erase database)).enroll database connection deadline now persistent =
      p.enroll database connection deadline now persistent := by
  simp only [enroll, table_withTable, ← Table.erase_useGeneration, Table.put_erase]
  rfl

end Pool

namespace Acquisition

open Pool

/-- **To publish a connection is a sequence of moves.** What it displaces leaves first. -/
theorem moves_publish (r : Request) (stage : Opening.Stage) (connection : Nat)
    (hs : stage = .opened connection ∧ r.startup = none ∨ stage = .fit connection) :
    Moves now ⟨p, L, ⟨r, stage⟩ ::ₘ O, 0⟩
      ((publish p now r connection).1.holding.beside (publish p now r connection).2 L O) := by
  simp only [publish, Pool.publish]
  cases ht : now.after? r.ttl with
  | none =>
    -- the deadline lies beyond the horizon
    have hmove := Move.lose (p := p) (L := L) (O := O) (D := 0) ⟨r, stage⟩ connection
      (Opening.connection?_of_fit hs) ht
    exact (Moves.single hmove).congr Holding.beside_none.symm
  | some deadline =>
    cases hr : p.table.record? r.database with
    | none =>
      have hmove := Move.publish (p := p) (L := L) (O := O) (D := 0) ⟨r, stage⟩ connection deadline
        hs ht hr
      exact (Moves.single hmove).congr (Holding.beside_lease _).symm
    | some old =>
      -- a record is in the way: it leaves first, and is closed last
      have hlive : p.table.find? r.database = some (.live old) := by
        obtain ⟨s, hs, hold⟩ := Option.bind_eq_some_iff.mp hr
        cases s <;> cases hold
        exact hs
      have hleave : Move now ⟨p, L, ⟨r, stage⟩ ::ₘ O, 0⟩ _ :=
        .leave .displaced r.database old hlive ⟨_, Multiset.mem_cons_self _ _, rfl⟩
      have hmove := Move.publish (p := p.withTable (p.table.erase r.database)) (L := L) (O := O)
        (D := {⟨.displaced, r.database, old.connection⟩}) ⟨r, stage⟩ connection deadline hs ht
        (by simp [Table.record?, Opening.database])
      refine .head hleave (.head hmove ((Moves.single (.close _)).congr ?_))
      simp only [Opening.database, enroll_erase]
      exact (Holding.beside_lease _).symm

/-- The connection that was asked for is given up, with the place that was kept for it. -/
theorem moves_dropUnopened (r : Request) :
    Moves now ⟨p, L, ⟨r, .asked⟩ ::ₘ O, D⟩ ⟨dropUnopened p r, L, O, D⟩ :=
  .single (.unanswered r)

/-- The connection that was opened is given up, with the place that was kept for it. -/
theorem moves_dropOpened (r : Request) (connection : Nat) :
    Moves now ⟨p, L, ⟨r, .starting connection⟩ ::ₘ O, D⟩
      ⟨dropOpened p r connection, L, O, D⟩ :=
  .head (.abandon r connection) (.single (.close _))

/-- The end of the startup hook is a sequence of moves. -/
theorem moves_endHook (r : Request) (connection : Nat) (hook : HookPlan) :
    Moves now ⟨p, L, ⟨r, .starting connection⟩ ::ₘ O, 0⟩
      ((endHook p now r connection hook).1.holding.beside
        (endHook p now r connection hook).2 L O) := by
  refine .head (.flags connection (fun h : Handle =>
    { h with broken := h.broken || hook.breaks, closed := h.closed || hook.hangsUp })
    fun _ => ⟨rfl, rfl⟩) ?_
  rcases hook with ⟨delay, breaks, hangsUp, result⟩
  cases result with
  | crash text =>
    exact (moves_dropOpened r connection).congr Holding.beside_none.symm
  | fail failure =>
    exact (moves_dropOpened r connection).congr Holding.beside_none.symm
  | done => exact .head (.finishHook r connection) (moves_publish r _ connection (.inr rfl))

/-- The end of opening a connection is a sequence of moves. -/
theorem moves_endConnect (r : Request) (plan : ConnectPlan) :
    Moves now ⟨p, L, ⟨r, .asked⟩ ::ₘ O, 0⟩
      (Progress.custody (Stage.holding r) Acquired.holding L O (endConnect p now r plan)) := by
  rcases plan with ⟨delay, result⟩
  cases result with
  | crash text =>
    exact (moves_dropUnopened r).congr Holding.beside_none.symm
  | fail failure =>
    exact (moves_dropUnopened r).congr Holding.beside_none.symm
  | connected closed broken failClose =>
    refine .head (.connect r { database := r.database, closed, broken, failClose } rfl rfl) ?_
    simp only [endConnect]
    cases hr : r.startup with
    | none => exact moves_publish r _ _ (.inl ⟨rfl, hr⟩)
    | some hook =>
      refine .head (.startHook r _ (by simp [hr])) ?_
      dsimp only
      split
      · exact moves_endHook r _ hook
      · exact Moves.refl.congr (Holding.beside_opening _).symm

/-- To ask for a connection is a sequence of moves. -/
theorem moves_beginConnect (plans : String → ConnectPlan) (r : Request) :
    Moves now ⟨p, L, ⟨r, .kept⟩ ::ₘ O, 0⟩
      (Progress.custody (Stage.holding r) Acquired.holding L O
        (beginConnect plans p now r)) := by
  refine .head (.remark (.opening r.database) rfl) (.head (.ask r) ?_)
  simp only [beginConnect]
  split
  · exact moves_endConnect r _
  · exact Moves.refl.congr (Holding.beside_opening _).symm

/-! ### Admission -/

/-- An acquire that is refused has nothing. -/
theorem moves_refuse (r : Request) (since : Instant) (refusals : List Instant) (why : Refusal) :
    Moves now ⟨p, L, O, 0⟩
      (Progress.custody (Stage.holding r) Acquired.holding L O
        (refuse p now r since refusals why)) := by
  have hnote (e : Entry) (he : e.isRemark = true) (noted : Prop) [Decidable noted] :
      Moves now ⟨p, L, O, 0⟩ ⟨if noted then p.note e else p, L, O, 0⟩ := by
    split
    · exact .single (.remark e he)
    · exact .refl
  simp only [refuse]
  split
  · exact (hnote _ rfl _).congr Holding.beside_none.symm
  · exact (hnote _ rfl _).congr Holding.beside_none.symm

/-- **An attempt and all that follows from it** is a sequence of moves. -/
theorem moves_attempt (plans : String → ConnectPlan) (r : Request) (since : Instant)
    (refusals : List Instant) :
    Moves now ⟨p, L, O, 0⟩
      (Progress.custody (Stage.holding r) Acquired.holding L O
        (attempt plans p now r since refusals)) := by
  have hattempt : Moves now ⟨p, L, O, 0⟩ _ := Pool.moves_attempt r
  simp only [attempt]
  split <;> rename_i q hq <;> rw [hq] at hattempt
  · refine hattempt.congr ((congrArg (Custody.mk _ _ · 0) (zero_add O)).trans ?_)
    exact (Holding.beside_lease _).symm
  · refine (hattempt.congr ?_).trans (moves_beginConnect plans r)
    simp
  · refine (hattempt.congr ?_).trans (moves_refuse r since refusals _)
    simp
  · refine hattempt.congr (Eq.trans ?_ Holding.beside_none.symm)
    simp

/-! ### Driving an acquire -/

theorem custody_resume (r : Request) (since : Instant) (x : Progress Stage Acquired × Pool) :
    Progress.custody holding Acquired.holding L O (resume r since x) =
      Progress.custody (Stage.holding r) Acquired.holding L O x := by
  rcases x with ⟨_ | _, p⟩ <;> rfl

/-- **To call an acquire is a sequence of moves.** -/
theorem moves_start (plans : String → ConnectPlan) (r : Request) :
    Moves now ⟨p, L, O, 0⟩
      (Progress.custody holding Acquired.holding L O (start plans p now r)) := by
  rw [start, custody_resume]
  exact moves_prune.trans (moves_attempt plans r now [])

/-- **To poll an acquire that waits is a sequence of moves.** -/
theorem moves_poll (plans : String → ConnectPlan) (a : Acquisition) :
    Moves now (a.holding.beside p L O)
      (Progress.custody holding Acquired.holding L O (poll plans p now a)) := by
  rcases a with ⟨r, since, stage⟩
  rw [poll]
  split
  · exact .refl
  · -- the time has come, so the stage is gone through
    cases stage with
    | queued refusals wake =>
      exact Moves.of_eq Holding.beside_none
        ((moves_attempt plans r since refusals).congr (custody_resume r since _).symm)
    | connecting plan wake =>
      exact Moves.of_eq (Holding.beside_opening _)
        ((moves_endConnect r plan).congr (custody_resume r since _).symm)
    | starting connection hook wake =>
      exact Moves.of_eq (Holding.beside_opening _)
        (moves_endHook r connection hook)

/-- **To give an acquire up is a sequence of moves.** -/
theorem moves_abandon (a : Acquisition) :
    Moves now (a.holding.beside p L O) ⟨abandon p a, L, O, 0⟩ := by
  rcases a with ⟨r, since, stage⟩
  cases stage with
  | queued refusals wake => exact Moves.refl.congr Holding.beside_none
  | connecting plan wake =>
    exact Moves.of_eq (Holding.beside_opening _) (moves_dropUnopened r)
  | starting connection hook wake =>
    exact Moves.of_eq (Holding.beside_opening _) (moves_dropOpened r connection)

end Acquisition

end KeyedPool
