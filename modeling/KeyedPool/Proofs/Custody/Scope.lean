import KeyedPool.Proofs.Custody.Deed

/-!
# Scopes and jobs as deeds

A body hands leases over between the pool and its own book, and gives everything back at its end.
Whatever others have at the same time stays as it is, so the laws of this file are stated beside
leases `L` and places `O` that belong to nobody in particular.

* `KeyedPool.Scope.deeds_run`: the steps of a body, by induction.
* `KeyedPool.Scope.deeds_poll`, `KeyedPool.Scope.deeds_abandon`: a body that waits.
* `KeyedPool.Job.deeds_start`, `KeyedPool.PendingJob.deeds_poll`,
  `KeyedPool.PendingJob.deeds_abandon`: the same for the job of a task.
-/

namespace KeyedPool

open Custody

variable {now : Instant} {p : Pool} {L : Multiset Lease} {O : Multiset Opening}

/-! ### Bodies -/

namespace Scope

/-- The place that is kept for the acquire of a body. -/
def opening? (s : Scope) : Option Opening :=
  match s.pause with
  | .asleep _ => none
  | .acquiring a _ => a.opening?

/-- What a body has while it waits. -/
def holding (s : Scope) : Holding := ⟨s.leases, s.opening?⟩

/-- The book of a body after a nested acquire: a crash leaves it alone. -/
def bookAfter (kept : LeaseBook) : Except String (Reply × LeaseBook) → LeaseBook
  | .ok answer => answer.2
  | .error _ => kept

/-- A body that waits has its lease beside those that it keeps. -/
theorem beside_holding (s : Scope) :
    s.holding.beside p L O =
      ⟨p, ↑s.kept.leases + s.lease ::ₘ L, ↑s.opening?.toList + O, 0⟩ := by
  rw [Holding.beside, holding, leases, ← Multiset.cons_coe, Multiset.cons_add, Multiset.add_cons]

/-- Every lease of a body ends, the one of its scope last. -/
theorem deeds_leave (l : Lease) (kept : LeaseBook) (how : Disposal) :
    Deeds now ⟨p, ↑kept.leases + l ::ₘ L, O, 0⟩ ⟨(kept.dropAll p).settle l how, L, O, 0⟩ :=
  kept.deeds_dropAll.trans (.single (.settle l how))

/-- The end of a body is a sequence of deeds. -/
theorem deeds_conclude (l : Lease) (kept : LeaseBook) (told : List Reply) (ending : Ending) :
    Deeds now ⟨p, ↑kept.leases + l ::ₘ L, O, 0⟩ ⟨(conclude p l kept told ending).2, L, O, 0⟩ := by
  cases ending with
  | value value => exact deeds_leave l kept .release
  | error e => exact deeds_leave l kept _
  | crash text => exact deeds_leave l kept .drop

/-- The lease of a nested acquire ends or goes into the book of the body. -/
theorem deeds_nested (kept : LeaseBook) (use : LeaseUse) (acquired : Acquired) :
    Deeds now (acquired.holding.beside p (↑kept.leases + L) O)
      ⟨(nested p kept use acquired).2, ↑(bookAfter kept (nested p kept use acquired).1).leases + L,
        O, 0⟩ := by
  cases acquired with
  | lease l =>
    refine .of_eq (Holding.beside_lease l) ?_
    cases use with
    | ended disposal => exact .single (.settle l disposal)
    | kept label => exact kept.deeds_keep label l
  | failed e => exact .of_eq Holding.beside_none .refl
  | crashed text => exact .of_eq Holding.beside_none .refl

theorem moves_nested (kept : LeaseBook) (use : LeaseUse) (acquired : Acquired) :
    Moves now (acquired.holding.beside p (↑kept.leases + L) O)
      ⟨(nested p kept use acquired).2, ↑(bookAfter kept (nested p kept use acquired).1).leases + L,
        O, 0⟩ :=
  (deeds_nested kept use acquired).moves

/-- **To run the steps of a body is a sequence of deeds.** -/
theorem deeds_run (plans : String → ConnectPlan) (l : Lease) (ending : Ending)
    (steps : List BodyStep) (kept : LeaseBook) (told : List Reply) :
    Deeds now ⟨p, ↑kept.leases + l ::ₘ L, O, 0⟩
      (Progress.custody holding (fun _ => {}) L O (run plans now l ending steps kept told p)) := by
  induction steps generalizing kept told p with
  | nil => exact (deeds_conclude l kept told ending).congr Holding.beside_none.symm
  | cons step rest ih =>
    cases step with
    | sleep ms =>
      refine Deeds.refl.congr (Eq.trans ?_ (beside_holding _).symm)
      exact congrArg (Custody.mk p _ · 0) (zero_add O).symm
    | breakConnection =>
      exact .head (.flags l.connection (fun h => { h with broken := true }) fun _ => ⟨rfl, rfl⟩)
        (ih kept _)
    | hangUp =>
      exact .head (.flags l.connection (fun h => { h with closed := true }) fun _ => ⟨rfl, rfl⟩)
        (ih kept _)
    | inspect => exact ih kept _
    | command c => exact .head (.command c) (ih kept _)
    | settle label disposal =>
      rw [run]
      split
      · exact ih kept _
      · rename_i kept' p' hsettle
        exact (LeaseBook.deeds_settle? hsettle).trans (ih kept' _)
    | acquire r use =>
      have hstart : Deeds now ⟨p, ↑kept.leases + l ::ₘ L, O, 0⟩ _ :=
        .single (.call plans r)
      rw [run]
      split <;> rename_i hs <;> rw [hs] at hstart
      · refine hstart.congr (Eq.trans ?_ (beside_holding _).symm)
        simp [Progress.custody, Holding.beside, Acquisition.holding, opening?]
      · rename_i acquired p'
        -- the lease is kept or ends, and a crash takes the whole body with it
        have hnested := hstart.trans (deeds_nested kept use acquired)
        split <;> rename_i hn <;> rw [hn] at hnested
        · exact hnested.trans (ih _ _)
        · exact (hnested.trans (deeds_leave l kept .drop)).congr Holding.beside_none.symm

/-- **To poll a body that waits is a sequence of deeds.** -/
theorem deeds_poll (plans : String → ConnectPlan) (s : Scope) :
    Deeds now (s.holding.beside p L O)
      (Progress.custody holding (fun _ => {}) L O (poll plans p now s)) := by
  rcases s with ⟨l, kept, pause, rest, told⟩
  refine .of_eq (beside_holding _) ?_
  cases pause with
  | asleep wake =>
    refine .of_eq (congrArg (Custody.mk p _ · 0) (zero_add O)) ?_
    rw [poll]
    dsimp only
    split
    · refine Deeds.refl.congr (Eq.trans ?_ (beside_holding _).symm)
      exact congrArg (Custody.mk p _ · 0) (zero_add O).symm
    · exact deeds_run plans l rest.ending rest.steps kept _
  | acquiring a use =>
    have hpoll : Deeds now (a.holding.beside p (↑kept.leases + l ::ₘ L) O) _ :=
      .single (.poll plans a)
    have hstart : a.holding.beside p (↑kept.leases + l ::ₘ L) O =
        ⟨p, ↑kept.leases + l ::ₘ L, ↑a.opening?.toList + O, 0⟩ := by
      simp [Holding.beside, Acquisition.holding]
    refine .of_eq hstart.symm ?_
    rw [poll]
    dsimp only
    split <;> rename_i hs <;> rw [hs] at hpoll
    · refine hpoll.congr (Eq.trans ?_ (beside_holding _).symm)
      simp [Progress.custody, Holding.beside, Acquisition.holding, opening?]
    · rename_i acquired p'
      have hnested := hpoll.trans (deeds_nested kept use acquired)
      split <;> rename_i hn <;> rw [hn] at hnested
      · exact hnested.trans (deeds_run plans l rest.ending rest.steps _ _)
      · exact (hnested.trans (deeds_leave l kept .drop)).congr Holding.beside_none.symm

/-- **To tear a body down is a sequence of deeds.** -/
theorem deeds_abandon (s : Scope) :
    Deeds now (s.holding.beside p L O) ⟨abandon p s, L, O, 0⟩ := by
  rcases s with ⟨l, kept, pause, rest, told⟩
  refine .of_eq (beside_holding _) ?_
  cases pause with
  | asleep wake =>
    refine .of_eq (congrArg (Custody.mk p _ · 0) (zero_add O)) ?_
    exact deeds_leave l kept .drop
  | acquiring a use =>
    have habandon : Deeds now (a.holding.beside p (↑kept.leases + l ::ₘ L) O) _ :=
      .single (.abandon a)
    refine .of_eq ?_ (habandon.trans (deeds_leave l kept .drop))
    simp [Holding.beside, Acquisition.holding, opening?]

end Scope

/-! ### Jobs -/

/-- The place that is kept for the acquire of a job. -/
def PendingJob.opening? (j : PendingJob) : Option Opening :=
  j.acquisition?.bind Acquisition.opening?

/-- What a job has while it waits. -/
def PendingJob.holding (j : PendingJob) : Holding := ⟨j.leases, j.opening?⟩

/-- The lease that comes of a job. -/
def JobResult.holding : JobResult → Holding
  | .leased l _ => { leases := [l] }
  | _ => {}

namespace PendingJob

theorem holding_inside (s : Scope) : holding (.inside s) = s.holding := by
  rcases s with ⟨l, kept, _ | _, rest, told⟩ <;> rfl

end PendingJob

namespace Job

theorem custody_keep (label : String) (x : Progress Acquisition Acquired × Pool) :
    Progress.custody PendingJob.holding JobResult.holding L O (keep label x) =
      Progress.custody Acquisition.holding Acquired.holding L O x := by
  rcases x with ⟨a | _ | _ | _, p⟩ <;> rfl

theorem custody_proceed (x : Progress Scope Concluded × Pool) :
    Progress.custody PendingJob.holding JobResult.holding L O (enter.proceed x) =
      Progress.custody Scope.holding (fun _ => {}) L O x := by
  rcases x with ⟨s | c, p⟩
  · exact congrArg (Holding.beside · p L O) (PendingJob.holding_inside s)
  · rfl

/-- Once its acquire has ended, a scope goes on by deeds. -/
theorem deeds_enter (plans : String → ConnectPlan) (errors : ErrorKind) (body : Body)
    (x : Progress Acquisition Acquired × Pool) :
    Deeds now (Progress.custody Acquisition.holding Acquired.holding L O x)
      (Progress.custody PendingJob.holding JobResult.holding L O
        (enter plans now errors body x)) := by
  rcases x with ⟨a | l | e | text, p⟩
  · exact .refl
  · refine .of_eq (Holding.beside_lease l) ?_
    rw [enter, custody_proceed]
    refine .of_eq ?_ (Scope.deeds_run plans l body.ending body.steps {} [])
    exact congrArg (Custody.mk p · O 0) (zero_add _).symm
  · exact .refl
  · exact .refl

/-- **To start a job is a sequence of deeds.** -/
theorem deeds_start (plans : String → ConnectPlan) (j : Job) :
    Deeds now ⟨p, L, O, 0⟩
      (Progress.custody PendingJob.holding JobResult.holding L O (start plans p now j)) := by
  cases j with
  | lease r label => 
    exact (Deeds.single (.call plans r)).congr (custody_keep label _).symm
  | scope r errors body =>
    exact .head (.call plans r) (deeds_enter plans errors body _)

theorem moves_start (plans : String → ConnectPlan) (j : Job) :
    Moves now ⟨p, L, O, 0⟩
      (Progress.custody PendingJob.holding JobResult.holding L O (start plans p now j)) :=
  (deeds_start plans j).moves

end Job

namespace PendingJob

/-- **To poll a job that waits is a sequence of deeds.** -/
theorem deeds_poll (plans : String → ConnectPlan) (j : PendingJob) :
    Deeds now (j.holding.beside p L O)
      (Progress.custody holding JobResult.holding L O (poll plans p now j)) := by
  cases j with
  | leasing a label => 
    exact (Deeds.single (.poll plans a)).congr (Job.custody_keep label _).symm
  | entering a errors body =>
    exact .head (.poll plans a) (Job.deeds_enter plans errors body _)
  | inside s =>
    rw [holding_inside, poll, Job.custody_proceed]
    exact Scope.deeds_poll plans s

theorem moves_poll (plans : String → ConnectPlan) (j : PendingJob) :
    Moves now (j.holding.beside p L O)
      (Progress.custody holding JobResult.holding L O (poll plans p now j)) :=
  (deeds_poll plans j).moves

/-- **To tear a job down is a sequence of deeds.** -/
theorem deeds_abandon (j : PendingJob) :
    Deeds now (j.holding.beside p L O) ⟨abandon p j, L, O, 0⟩ := by
  cases j with
  | leasing a label => exact .single (.abandon a)
  | entering a errors body => exact .single (.abandon a)
  | inside s =>
    rw [holding_inside]
    exact Scope.deeds_abandon s

end PendingJob

end KeyedPool
