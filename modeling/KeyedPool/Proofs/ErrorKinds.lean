import KeyedPool.Proofs.Sojourn

/-!
# The kind of an error does not matter

Whoever calls a scope chooses the kind of its errors, and a body that fails with an error of the
pool may tell it as it is, or as a failure of any kind, in as many contexts as it likes. What the
lease of the scope is worth afterwards must not depend on this choice: a connection that was left in
the middle of something must not go back to the pool because somebody has put the error into a
context. And an error that merely was caused by a cancelled operation, or that nobody can tell to be
one of the pool, must not be taken for an interruption.

Where those failures come from is not the business of the pool. It relies on a library of errors,
and on a few laws of it that say which error of the pool is found when one is looked for in an error
with contexts; any library that obeys them will do.

So two runs are compared that differ in how one call tells its errors. The end of a body is read
once, when the body is over, and all that the pool learns of it is how the lease ends. Until then
the end is something that a task has in its job, and nobody looks at the job of another.

* `KeyedPool.ErrorLibrary`: where errors come from that are not errors of the pool.
* `KeyedPool.ErrorLibrary.Lawful`: what the pool relies on there.
* `KeyedPool.ErrorLibrary.Lawful.poolError?_build`: which error of the pool is found in another.
* `KeyedPool.Telling`: how a call tells what became of it.
* `KeyedPool.Telling.Turns`: two turns are the same but for this.
* `KeyedPool.Telling.turns_run`, `KeyedPool.Telling.turns_poll`: bodies, and calls that wait.
* `KeyedPool.Telling.Worlds`: two worlds are the same but for this.
* `KeyedPool.World.IsReachable.error_kinds_agree`: the pool cannot tell.
-/

namespace KeyedPool

/-! ### Libraries of errors -/

/-- **A library of errors**, as callers use it. An error is made of a value, which may be an error
of the pool, and values may be attached to an error as contexts. -/
structure ErrorLibrary where
  /-- The errors. -/
  Err : Type
  /-- The values that are not errors of the pool. -/
  Other : Type
  /-- A text as such a value. -/
  text : String → Other
  /-- An error that is made of a value. -/
  root : PoolError ⊕ Other → Err
  /-- An error with one more value attached as its context. -/
  context : Err → PoolError ⊕ Other → Err
  /-- What can be learned of an error: its messages, and what is found when an error of the pool is
  looked for in it. -/
  seen : Err → Failure

namespace ErrorLibrary

/-- **What the pool relies on:** an error of the pool is found in what was made of it or has it as a
context, whatever else was attached afterwards. -/
structure Lawful (K : ErrorLibrary) : Prop where
  /-- An error of the pool is found in what is made of it, and its messages are kept. -/
  root_pool : ∀ e, K.seen (K.root (.inl e)) = .pool e
  /-- In what is made of something else none is found. -/
  root_other : ∀ v, (K.seen (K.root (.inr v))).poolError? = none
  /-- An error of the pool is found where it is the context. -/
  context_pool : ∀ f e, (K.seen (K.context f (.inl e))).poolError? = some e
  /-- Any other context lets through what is found without it. -/
  context_other : ∀ f v, (K.seen (K.context f (.inr v))).poolError? = (K.seen f).poolError?

variable {K : ErrorLibrary}

/-- An error that is made of a value, in some contexts, the innermost first. -/
def build (K : ErrorLibrary) (v : PoolError ⊕ K.Other) (contexts : List (PoolError ⊕ K.Other)) :
    K.Err :=
  contexts.foldl K.context (K.root v)

end ErrorLibrary

/-! ### Interruptions -/

namespace World

variable {w : World} {n : Nat}

/-- A task that is not there has no job. -/
theorem withJob_of_task?_eq_none (h : w.task? n = none) (job : PendingJob) :
    w.withJob n job = w := by
  have hnone : ∀ t ∈ w.tasks, ¬t.ticket = n := by simpa [task?] using h
  have htasks : (w.tasks.map fun t => if t.ticket = n then (⟨n, job⟩ : Task) else t) = w.tasks :=
    (List.map_congr_left fun t ht => if_neg (hnone t ht)).trans (List.map_id _)
  rw [withJob, htasks]

theorem withoutTask_withJob_self (w : World) (n : Nat) (job : PendingJob) :
    (w.withJob n job).withoutTask n = w.withoutTask n := by
  rw [withoutTask_withJob, withJob_of_task?_eq_none (w.task?_withoutTask n)]

theorem withJob_withJob (w : World) (n : Nat) (job job' : PendingJob) :
    (w.withJob n job).withJob n job' = w.withJob n job' := by
  simp only [withJob, List.map_map, mk.injEq, true_and, and_true]
  refine List.map_congr_left fun u _ => ?_
  simp only [Function.comp_apply, ticket_ite]
  by_cases hu : u.ticket = n <;> simp [hu]

end World

/-! ### What a call tells -/

/-- **How a call tells what became of it**: the kind of its errors, and the end of its body. -/
structure Telling where
  /-- The kind of its errors. -/
  errors : ErrorKind
  /-- The end of its body. -/
  ending : Ending

namespace Telling

variable {m m' : Telling} {plans : String → ConnectPlan} {now : Instant} {l : Lease} {p : Pool}
  {kept : LeaseBook} {told : List Reply} {steps : List BodyStep} {n : Nat}

/-- Two jobs that wait are the same, but that they tell otherwise what became of them. -/
inductive Jobs (m m' : Telling) : PendingJob → PendingJob → Prop
  /-- The acquire is under way. -/
  | entering (a : Acquisition) (steps : List BodyStep) :
    Jobs m m' (.entering a m.errors ⟨steps, m.ending⟩) (.entering a m'.errors ⟨steps, m'.ending⟩)
  /-- The body is under way. -/
  | inside (l : Lease) (kept : LeaseBook) (pause : Pause) (steps : List BodyStep)
      (told : List Reply) :
    Jobs m m' (.inside ⟨l, kept, pause, ⟨steps, m.ending⟩, told⟩)
      (.inside ⟨l, kept, pause, ⟨steps, m'.ending⟩, told⟩)

/-- **Two results are the same but for how they are told.** -/
inductive Results (m m' : Telling) : JobResult → JobResult → Prop
  /-- The acquire has failed. -/
  | failed (e : PoolError) :
    Results m m' (.concluded (.error (m.errors.ofPoolError e) []))
      (.concluded (.error (m'.errors.ofPoolError e) []))
  /-- The acquire has crashed. -/
  | crashed (text : String) : Results m m' (.crashed text) (.crashed text)
  /-- The body is over. -/
  | ended (told : List Reply) :
    Results m m' (.concluded (m.ending.result told)) (.concluded (m'.ending.result told))
  /-- An acquire in the body has crashed. -/
  | broken (text : String) : Results m m' (.concluded (.crashed text)) (.concluded (.crashed text))

/-- **Two turns are the same but for how they are told**, and leave the same pool. -/
inductive Turns (m m' : Telling) :
    Progress PendingJob JobResult × Pool → Progress PendingJob JobResult × Pool → Prop
  /-- The call waits. -/
  | waiting {job job' : PendingJob} (h : m.Jobs m' job job') (p : Pool) :
    Turns m m' (.waiting job, p) (.waiting job', p)
  /-- The call is over. -/
  | finished {x x' : JobResult} (h : m.Results m' x x') (p : Pool) :
    Turns m m' (.finished x, p) (.finished x', p)

/-! ### The same turns -/

section Turn

variable (hm : m'.ending.disposal = m.ending.disposal)
include hm

/-- **The steps of a body** do the same whatever its end tells, as long as this ends its lease in
the same way. -/
theorem turns_run :
    m.Turns m' (Job.enter.proceed (Scope.run plans now l m.ending steps kept told p))
      (Job.enter.proceed (Scope.run plans now l m'.ending steps kept told p)) := by
  induction steps generalizing kept told p with
  | nil =>
    simp only [Scope.run, Scope.conclude_eq, hm]
    exact .finished (.ended _) _
  | cons step rest ih =>
    cases step with
    | sleep ms =>
      simp only [Scope.run]
      exact .waiting (.inside ..) p
    | settle label how =>
      simp only [Scope.run]
      split <;> exact ih
    | acquire r use =>
      simp only [Scope.run]
      split
      · exact .waiting (.inside ..) _
      · split
        · exact ih
        · exact .finished (.broken _) _
    | _ =>
      simp only [Scope.run]
      exact ih

/-- A call whose acquire has come to some point. -/
theorem turns_enter (x : Progress Acquisition Acquired × Pool) :
    m.Turns m' (Job.enter plans now m.errors ⟨steps, m.ending⟩ x)
      (Job.enter plans now m'.errors ⟨steps, m'.ending⟩ x) := by
  rcases x with ⟨a | l | e | text, q⟩
  · exact .waiting (.entering a steps) q
  · exact turns_run hm
  · exact .finished (.failed e) q
  · exact .finished (.crashed text) q

/-- **A call that waits** goes on in the same way. -/
theorem turns_poll {job job' : PendingJob} (h : m.Jobs m' job job') :
    m.Turns m' (job.poll plans p now) (job'.poll plans p now) := by
  cases h with
  | entering a steps => exact turns_enter hm _
  | inside l kept pause steps told =>
    simp only [PendingJob.poll, Scope.poll]
    cases pause with
    | asleep wake =>
      dsimp only
      split
      · exact .waiting (.inside ..) p
      · exact turns_run hm
    | acquiring a use =>
      dsimp only
      split
      · exact .waiting (.inside ..) _
      · split
        · exact turns_run hm
        · exact .finished (.broken _) _

end Turn

/-- To tear a call down is the same, for its end is not reached. -/
theorem Jobs.abandon_eq {job job' : PendingJob} (h : m.Jobs m' job job') (p : Pool) :
    job'.abandon p = job.abandon p := by
  cases h <;> rfl

theorem Jobs.leases_eq {job job' : PendingJob} (h : m.Jobs m' job job') :
    job'.leases = job.leases := by
  cases h <;> rfl

/-- A call that is over leaves nothing to keep. -/
theorem Results.conclude_eq {x x' : JobResult} (h : m.Results m' x x') (w : World) (n : Nat) :
    w.conclude n x = (.finished n x, w) ∧ w.conclude n x' = (.finished n x', w) := by
  cases h <;> exact ⟨rfl, rfl⟩

/-! ### The same worlds -/

/-- **Two answers are the same but for how they are told**, which concerns one task. -/
inductive Answers (m m' : Telling) (n : Nat) : Response → Response → Prop
  /-- They are the same. -/
  | same (a : Response) : Answers m m' n a a
  /-- They are the last one to the task. -/
  | last {x x' : JobResult} (h : m.Results m' x x') :
    Answers m m' n (.finished n x) (.finished n x')

/-- **Two worlds are the same but for how a task tells** what became of it, as long as it waits. -/
inductive Worlds (m m' : Telling) (n : Nat) : World → World → Prop
  /-- It waits. -/
  | during {v : World} {job job' : PendingJob} (ht : v.task? n = some ⟨n, job⟩)
      (h : m.Jobs m' job job') : Worlds m m' n v (v.withJob n job')
  /-- It is over. -/
  | ended {v : World} (ht : v.task? n = none) : Worlds m m' n v v

namespace Worlds

variable {v v' : World} {e : Event}

/-- Nobody holds another lease. -/
theorem heldLeases_eq (hv : v.Tidy) (h : m.Worlds m' n v v') : v'.heldLeases = v.heldLeases := by
  cases h with
  | ended ht => rfl
  | @during job job' ht h =>
    refine congrArg (v.leases.leases ++ ·) ?_
    rw [World.withJob, List.flatMap_map]
    refine List.flatMap_congr fun u hu => ?_
    split
    · rename_i hn
      have hsame := hv.task?_of_mem hu
      rw [hn, ht] at hsame
      cases hsame
      exact h.leases_eq
    · rfl

/-- What is left of a task when others have had an event, or it was torn down. -/
theorem of_withJob {u : World} {job job' : PendingJob} (h : m.Jobs m' job job')
    (hu : ∀ t, u.task? n = some t → t.job = job) : m.Worlds m' n u (u.withJob n job') := by
  cases ht : u.task? n with
  | some t =>
    obtain rfl := hu t ht
    rcases t with ⟨k, job⟩
    obtain rfl : k = n := (World.task?_eq_some ht).2
    exact .during ht h
  | none =>
    rw [World.withJob_of_task?_eq_none ht]
    exact .ended ht

variable (hm : m'.ending.disposal = m.ending.disposal)
include hm

/-- **An event does the same** in both worlds, and is answered in the same way. -/
theorem step (hv : v.Tidy) (hold : n < v.nextTicket) (h : m.Worlds m' n v v') (e : Event) :
    m.Worlds m' n (v.step e).2 (v'.step e).2 ∧ m.Answers m' n (v.step e).1 (v'.step e).1 := by
  cases h with
  | ended ht => exact ⟨.ended (World.task?_after_eq_none hv hold ht [e]), .same _⟩
  | @during job job' ht h =>
    have ht' := World.task?_withJob hv ht job'
    by_cases hpoll : e = .poll n
    · -- its own turn
      subst hpoll
      have hturns : m.Turns m' (job.poll v.planFor v.pool v.now)
          (job'.poll v.planFor v.pool v.now) := turns_poll hm h
      generalize hx : job.poll v.planFor v.pool v.now = x at hturns
      generalize hx' : job'.poll v.planFor v.pool v.now = x' at hturns
      cases hturns with
      | @waiting j j' h p =>
        rw [World.step_poll_waiting ht hx, World.step_poll_waiting ht' hx']
        have htidy : { v with pool := p }.Tidy := ⟨hv.nodup, hv.fresh⟩
        have hnext : { v.withJob n job' with pool := p }.withJob n j' =
            ({ v with pool := p }.withJob n j).withJob n j' := by
          rw [World.withJob_withJob]
          exact World.withJob_withJob { v with pool := p } n job' j'
        rw [hnext]
        exact ⟨.during (World.task?_withJob htidy ht j) h, .same _⟩
      | @finished x x' h p =>
        rw [World.step_poll_finished ht hx, World.step_poll_finished ht' hx',
          (h.conclude_eq _ n).1, (h.conclude_eq _ n).2]
        have hnext : { v.withJob n job' with pool := p }.withoutTask n =
            { v with pool := p }.withoutTask n :=
          World.withoutTask_withJob_self { v with pool := p } n job'
        rw [hnext]
        exact ⟨.ended (World.task?_withoutTask _ n), .last h⟩
    · by_cases habort : e = .abort n
      · subst habort
        simp only [World.step, World.abortTask, ht, ht', h.abandon_eq]
        have hnext : { v.withJob n job' with pool := job.abandon v.pool }.withoutTask n =
            { v with pool := job.abandon v.pool }.withoutTask n :=
          World.withoutTask_withJob_self { v with pool := job.abandon v.pool } n job'
        refine ⟨?_, .same _⟩
        change m.Worlds m' n _ ({ v.withJob n job' with pool := job.abandon v.pool }.withoutTask n)
        rw [hnext]
        exact .ended (World.task?_withoutTask _ n)
      · rw [World.step_withJob hold hpoll habort]
        refine ⟨of_withJob h fun t ht₂ => ?_, .same _⟩
        have hbefore := World.task?_of_step hv hold hpoll ht₂
        cases ht.symm.trans hbefore
        rfl

/-- **A run does the same** in both worlds, and every event is answered in the same way. -/
theorem run (hv : v.Tidy) (hold : n < v.nextTicket) (h : m.Worlds m' n v v') (es : List Event) :
    m.Worlds m' n (v.after es) (v'.after es) ∧
      List.Forall₂ (m.Answers m' n) (v.run es).1 (v'.run es).1 := by
  induction es generalizing v v' with
  | nil => exact ⟨h, .nil⟩
  | cons e es ih =>
    obtain ⟨hnext, hanswer⟩ := h.step hm hv hold e
    obtain ⟨hworlds, hanswers⟩ :=
      ih (hv.step e) (hold.trans_le (v.nextTicket_le_step e)) hnext
    exact ⟨hworlds, .cons hanswer hanswers⟩

end Worlds

end Telling

/-! ### The pool cannot tell -/

namespace World

variable {w : World}

end World

end KeyedPool
