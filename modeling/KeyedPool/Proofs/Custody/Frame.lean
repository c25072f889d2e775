import KeyedPool.Proofs.Custody.Course

/-!
# What a task has while others act

A move concerns one thing and the pool, and does not look at what else is in somebody's hands. So it
may be made just as well beside more leases and more places, of which it says nothing.

For this to be of use the moves of an event have to be known without what some task has that takes
no part in it. A task that waits has its things in its job, and nobody looks at the job of another:
if it were to do something else when its turn comes, the event would be the same, with the same
answer, and the job would still be there. In particular the task might have nothing at all.

* `KeyedPool.Custody.beside`: a state with more leases and places.
* `KeyedPool.Custody.Moves.beside`: moves are made beside them.
* `KeyedPool.World.withJob`: a world in which a task does something else.
* `KeyedPool.World.step_withJob`: the others cannot tell.
* `KeyedPool.World.moves_step_beside`: an event is a sequence of moves beside what a task has that
  takes no part in it.
-/

namespace KeyedPool

open Custody

/-! ### Moves beside others -/

namespace Custody

variable {now : Instant} {s t : Custody}

/-- A state of custody with more leases and places. -/
def beside (s : Custody) (M : Multiset Lease) (N : Multiset Opening) : Custody :=
  ⟨s.pool, M + s.leases, N + s.openings, s.leaving⟩

/-- **A move is made beside more leases and places.** -/
theorem Move.beside (h : Move now s t) (M : Multiset Lease) (N : Multiset Opening) :
    Move now (s.beside M N) (t.beside M N) := by
  cases h with
  | remark e he => exact .remark e he
  | walk => exact .walk
  | reset => exact .reset
  | flags c f hf => exact .flags c f hf
  | @leave p L O D why k r hr hw =>
    refine .leave why k r hr ?_
    cases why with
    | displaced =>
      obtain ⟨o, ho, hk⟩ := hw
      exact ⟨o, Multiset.mem_add.mpr (.inr ho), hk⟩
    | _ => exact hw
  | close d => exact .close d
  | _ =>
    -- one lease or one place stands among more of them as it did among fewer
    simp only [Custody.beside, Multiset.add_cons]
    constructor <;> assumption

theorem Moves.beside (h : Moves now s t) (M : Multiset Lease) (N : Multiset Opening) :
    Moves now (s.beside M N) (t.beside M N) := by
  induction h with
  | refl => exact .refl
  | tail _ hmove ih => exact ih.tail (hmove.beside M N)

end Custody

/-! ### What a task does when its turn comes -/

/-- A job that has nothing. -/
def PendingJob.idle : PendingJob :=
  .leasing ⟨{ database := "", ttl := .zero }, .ofMillis 0, .queued [] (.ofMillis 0)⟩ ""

namespace World

variable {w : World} {ticket other : Nat} {t : Task} {job : PendingJob} {e : Event}

/-- A world in which the task with a number has another job. -/
def withJob (w : World) (ticket : Nat) (job : PendingJob) : World :=
  { w with tasks := w.tasks.map fun u => if u.ticket = ticket then ⟨ticket, job⟩ else u }

/-! ### The others cannot tell -/

theorem isAlive_withJob (w : World) (ticket : Nat) (job : PendingJob) :
    (w.withJob ticket job).isAlive = w.isAlive := by
  simp [isAlive, withJob]

theorem ticket_ite (u : Task) (ticket : Nat) (job : PendingJob) :
    (if u.ticket = ticket then (⟨ticket, job⟩ : Task) else u).ticket = u.ticket := by
  split
  · rename_i h
    exact h.symm
  · rfl

theorem task?_withJob_of_ne (hne : other ≠ ticket) :
    (w.withJob ticket job).task? other = w.task? other := by
  rw [task?, withJob, List.find?_map, task?]
  have hsame : ((·.ticket == other) ∘ fun u : Task =>
      if u.ticket = ticket then (⟨ticket, job⟩ : Task) else u) = (·.ticket == other) :=
    funext fun u => congrArg (· == other) (ticket_ite u ticket job)
  rw [hsame]
  refine (Option.map_congr fun u hu => ?_).trans Option.map_id'
  have hticket : u.ticket = other := by simpa using List.find?_some hu
  exact if_neg (hticket ▸ hne)

theorem withJob_comm (hne : other ≠ ticket) (job' : PendingJob) :
    (w.withJob ticket job).withJob other job' = (w.withJob other job').withJob ticket job := by
  simp only [withJob, List.map_map, mk.injEq, true_and, and_true]
  refine List.map_congr_left fun u _ => ?_
  simp only [Function.comp_apply]
  by_cases hu : u.ticket = ticket
  · simp [hu, hne.symm]
  · by_cases ho : u.ticket = other <;> simp [hu, ho, hne]

theorem withoutTask_withJob (ticket other : Nat) (job : PendingJob) :
    (w.withJob ticket job).withoutTask other = (w.withoutTask other).withJob ticket job := by
  have hsame : ((·.ticket != other) ∘ fun u : Task =>
      if u.ticket = ticket then (⟨ticket, job⟩ : Task) else u) = (·.ticket != other) :=
    funext fun u => congrArg (· != other) (ticket_ite u ticket job)
  simp only [withJob, withoutTask, List.filter_map, hsame]

theorem conclude_withJob (number : Nat) (r : JobResult) :
    (w.withJob ticket job).conclude number r =
      ((w.conclude number r).1, (w.conclude number r).2.withJob ticket job) := by
  cases r <;> rfl

theorem pollTask_withJob (hne : other ≠ ticket) :
    (w.withJob ticket job).pollTask other =
      ((w.pollTask other).1, (w.pollTask other).2.withJob ticket job) := by
  have hplan : (w.withJob ticket job).planFor = w.planFor := rfl
  have hpool : (w.withJob ticket job).pool = w.pool := rfl
  have hnow : (w.withJob ticket job).now = w.now := rfl
  simp only [pollTask, task?_withJob_of_ne hne, hplan, hpool, hnow]
  cases w.task? other with
  | none => rfl
  | some t =>
    dsimp only
    generalize t.job.poll w.planFor w.pool w.now = x
    rcases x with ⟨j | r, p⟩
    · exact congrArg (Prod.mk _) (withJob_comm (w := { w with pool := p }) hne j)
    · have hwithout : { w.withJob ticket job with pool := p }.withoutTask other =
          ({ w with pool := p }.withoutTask other).withJob ticket job :=
        withoutTask_withJob (w := { w with pool := p }) ticket other job
      exact (congrArg (conclude · other r) hwithout).trans (conclude_withJob other r)

theorem startTask_withJob (hold : ticket < w.nextTicket) (j : Job) :
    (w.withJob ticket job).startTask j =
      ((w.startTask j).1, (w.startTask j).2.withJob ticket job) := by
  have hplan : (w.withJob ticket job).planFor = w.planFor := rfl
  have hpool : (w.withJob ticket job).pool = w.pool := rfl
  have hnow : (w.withJob ticket job).now = w.now := rfl
  simp only [startTask, hplan, hpool, hnow]
  generalize j.start w.planFor w.pool w.now = x
  rcases x with ⟨j | r, p⟩
  · -- the task that is started has a number of its own
    simp [withJob, hold.ne']
  · exact conclude_withJob (w := { w with pool := p, nextTicket := w.nextTicket + 1 })
      w.nextTicket r

theorem abortTask_withJob (hne : other ≠ ticket) :
    (w.withJob ticket job).abortTask other =
      ((w.abortTask other).1, (w.abortTask other).2.withJob ticket job) := by
  have hpool : (w.withJob ticket job).pool = w.pool := rfl
  simp only [abortTask, task?_withJob_of_ne hne, hpool]
  cases w.task? other with
  | none => rfl
  | some t =>
    exact congrArg (Prod.mk _)
      (withoutTask_withJob (w := { w with pool := t.job.abandon w.pool }) ticket other job)

/-- **Nobody can tell** what the job of a task is, as long as the task neither has its turn nor is
torn down. -/
theorem step_withJob (hold : ticket < w.nextTicket) (hpoll : e ≠ .poll ticket)
    (habort : e ≠ .abort ticket) :
    (w.withJob ticket job).step e = ((w.step e).1, (w.step e).2.withJob ticket job) := by
  have hheld (act act' : Response × World) (h : act' = (act.1, act.2.withJob ticket job)) :
      (w.withJob ticket job).ifHeld act' =
        ((w.ifHeld act).1, (w.ifHeld act).2.withJob ticket job) := by
    have hsame : (w.withJob ticket job).held = w.held := rfl
    rw [ifHeld, ifHeld, hsame, h]
    split <;> rfl
  cases e with
  | tick => rfl
  | sweep position =>
    have hpruners : (w.withJob ticket job).pruners = w.pruners := rfl
    have hnow : (w.withJob ticket job).now = w.now := rfl
    simp only [step, sweep, isAlive_withJob, hpruners, hnow]
    split
    · rfl
    · split
      · split <;> rfl
      · rfl
  | poll other =>
    have hne : other ≠ ticket := fun h => hpoll (h ▸ rfl)
    exact pollTask_withJob hne
  | start j => exact hheld _ _ (startTask_withJob hold j)
  | abort other =>
    have hne : other ≠ ticket := fun h => habort (h ▸ rfl)
    exact abortTask_withJob hne
  | settle label how =>
    have hbook : (w.withJob ticket job).leases.settle? label how (w.withJob ticket job).pool =
      w.leases.settle? label how w.pool := rfl
    simp only [step, settleLease, hbook]
    split <;> rfl
  | command c => exact hheld _ _ rfl
  | plan database plan => rfl
  | flags c closed broken failClose =>
    have hhandles : (w.withJob ticket job).pool = w.pool := rfl
    simp only [step, setFlags, hhandles]
    split <;> rfl
  | spawnPruner label every => exact hheld _ _ rfl
  | abortPruner label =>
    have hpruner : (w.withJob ticket job).pruner? label = w.pruner? label := rfl
    simp only [step, abortPruner, hpruner]
    split <;> rfl
  | askPruner label =>
    have hpruner : (w.withJob ticket job).pruner? label = w.pruner? label := rfl
    simp only [step, askPruner, hpruner]
    split
    · rfl
    · dsimp only
      split <;> rfl
  | letGo => exact hheld _ _ rfl

/-! ### What the others do -/

/-- A task with an old number that is there after an event was there before, and has the same job
unless it had its turn. -/
theorem mem_tasks_of_step (hold : t.ticket < w.nextTicket) (hpoll : e ≠ .poll t.ticket)
    (ht : t ∈ (w.step e).2.tasks) : t ∈ w.tasks := by
  cases e with
  | start j =>
    simp only [step, ifHeld, startTask] at ht
    split at ht
    · split at ht
      · rcases List.mem_append.mp ht with ht | ht
        · exact ht
        · exact absurd hold (List.mem_singleton.mp ht ▸ lt_irrefl _)
      · rwa [tasks_conclude] at ht
    · exact ht
  | poll other =>
    simp only [step, pollTask] at ht
    split at ht
    · exact ht
    · split at ht
      · obtain ⟨u, hu, heq⟩ := List.mem_map.mp ht
        split at heq
        · exact absurd (heq ▸ rfl) hpoll
        · exact heq ▸ hu
      · rw [tasks_conclude] at ht
        exact List.mem_of_mem_filter ht
  | _ => exact (w.isQuiet_step (by rintro job ⟨⟩) (by rintro ticket ⟨⟩)).2 ht

theorem nextTicket_conclude (w : World) (number : Nat) (r : JobResult) :
    (w.conclude number r).2.nextTicket = w.nextTicket := by
  cases r <;> rfl

/-- Numbers of tasks only grow. -/
theorem nextTicket_le_step (w : World) (e : Event) : w.nextTicket ≤ (w.step e).2.nextTicket := by
  cases e with
  | start j =>
    simp only [step, ifHeld, startTask]
    split
    · split
      · exact Nat.le_succ _
      · rw [nextTicket_conclude]
        exact Nat.le_succ _
    · exact le_rfl
  | poll other =>
    simp only [step, pollTask]
    split
    · exact le_rfl
    · split
      · exact le_rfl
      · rw [nextTicket_conclude]
        exact le_rfl
  | sweep position =>
    simp only [step, sweep]
    split
    · exact le_rfl
    · split
      · split <;> exact le_rfl
      · exact le_rfl
  | abort other =>
    simp only [step, abortTask]
    split <;> exact le_rfl
  | settle label how =>
    simp only [step, settleLease]
    split <;> exact le_rfl
  | flags c closed broken failClose =>
    simp only [step, setFlags]
    split <;> exact le_rfl
  | abortPruner label =>
    simp only [step, abortPruner]
    split <;> exact le_rfl
  | askPruner label =>
    simp only [step, askPruner]
    split
    · exact le_rfl
    · dsimp only
      split <;> exact le_rfl
  | tick => exact le_rfl
  | plan database plan => exact le_rfl
  | _ =>
    simp only [step, ifHeld]
    split <;> exact le_rfl

theorem task?_withoutTask (w : World) (ticket : Nat) :
    (w.withoutTask ticket).task? ticket = none := by
  simp [task?, withoutTask, List.find?_filter]

/-- A number that was given out is an old one ever after. -/
theorem lt_nextTicket_after (hheld : w.held = true) (j : Job) (events : List Event) :
    w.nextTicket < (w.after (.start j :: events)).nextTicket := by
  have hstart : w.nextTicket < (w.step (.start j)).2.nextTicket := by
    rw [step, ifHeld, if_pos hheld, startTask]
    dsimp only
    split
    · exact Nat.lt_succ_self _
    · rw [nextTicket_conclude]
      exact Nat.lt_succ_self _
  rw [after_cons]
  generalize (w.step (.start j)).2 = v at hstart
  induction events generalizing v with
  | nil => exact hstart
  | cons e es ih => exact ih _ (hstart.trans_le (v.nextTicket_le_step e))

/-- A task that is torn down is gone. -/
theorem task?_abort (w : World) (ticket : Nat) :
    (w.step (.abort ticket)).2.task? ticket = none := by
  simp only [step, abortTask]
  split
  · assumption
  · exact task?_withoutTask _ ticket

theorem Tidy.withJob (hw : w.Tidy) (ticket : Nat) (job : PendingJob) :
    (w.withJob ticket job).Tidy := by
  have hsame : (w.withJob ticket job).tasks.map Task.ticket = w.tasks.map Task.ticket :=
    List.map_map.trans (List.map_congr_left fun u _ => ticket_ite u ticket job)
  exact hw.of_sublist (hsame ▸ List.Sublist.refl _) le_rfl

theorem task?_withJob (hw : w.Tidy) (ht : w.task? ticket = some t) (job : PendingJob) :
    (w.withJob ticket job).task? ticket = some ⟨ticket, job⟩ :=
  (hw.withJob ticket job).task?_of_mem
    ((hw.tasks_perm_replace ht job).mem_iff.mpr List.mem_cons_self)

/-- What is collected from tasks does not depend on one that has nothing of it. -/
theorem flatMap_idle {α : Type} {f : Task → List α} (hf : f ⟨ticket, .idle⟩ = [])
    (ts : List Task) :
    (ts.map fun u => if u.ticket = ticket then (⟨ticket, .idle⟩ : Task) else u).flatMap f =
      (ts.filter (·.ticket != ticket)).flatMap f := by
  induction ts with
  | nil => rfl
  | cons u ts ih => by_cases hu : u.ticket = ticket <;> simp [hu, ih, hf]

/-- A task that has nothing might as well not be there. -/
theorem custody_idle (w : World) (ticket : Nat) :
    (w.withJob ticket .idle).custody = (w.withoutTask ticket).custody := by
  rw [custody_eq, custody_eq, withJob, withoutTask]
  simp only [Task.leasesOf, Task.openingsOf, List.filterMap_eq_flatMap_toList]
  rw [flatMap_idle rfl, flatMap_idle rfl]

/-- **What a task has stands beside what the others have.** -/
theorem custody_beside (hw : w.Tidy) (ht : w.task? ticket = some t) :
    w.custody = (w.withoutTask ticket).custody.beside ↑t.job.leases ↑t.job.opening?.toList := by
  rw [custody_of_perm (hw.tasks_perm ht), custody_eq (w.withoutTask ticket)]
  rfl

/-- A task with an old number that is found after an event was found before. -/
theorem task?_of_step (hw : w.Tidy) (hold : ticket < w.nextTicket) (hpoll : e ≠ .poll ticket)
    (ht : (w.step e).2.task? ticket = some t) : w.task? ticket = some t := by
  obtain ⟨hmem, rfl⟩ := task?_eq_some ht
  exact hw.task?_of_mem (mem_tasks_of_step hold hpoll hmem)

/-- A number that belongs to no task any more never does again. -/
theorem task?_after_eq_none (hw : w.Tidy) (hold : ticket < w.nextTicket)
    (hnone : w.task? ticket = none) (events : List Event) :
    (w.after events).task? ticket = none := by
  induction events generalizing w with
  | nil => exact hnone
  | cons e es ih =>
    refine ih (hw.step e) (hold.trans_le (w.nextTicket_le_step e)) ?_
    by_cases hpoll : e = .poll ticket
    · have hsame : (w.step e).2 = w := by
        rw [hpoll, step, pollTask, hnone]
      rw [hsame, hnone]
    · refine Option.eq_none_iff_forall_not_mem.mpr fun t ht => ?_
      exact absurd (hnone.symm.trans (task?_of_step hw hold hpoll ht)) (Option.some_ne_none t).symm

/-- **An event is a sequence of moves beside what a task has** that takes no part in it. -/
theorem moves_step_beside (hw : w.Tidy) (hold : ticket < w.nextTicket) (hpoll : e ≠ .poll ticket)
    (habort : e ≠ .abort ticket) :
    Moves w.now (w.withoutTask ticket).custody ((w.step e).2.withoutTask ticket).custody := by
  have hmoves := moves_step (hw.withJob ticket .idle) e
  rwa [step_withJob hold hpoll habort, custody_idle, custody_idle] at hmoves

end World

end KeyedPool
