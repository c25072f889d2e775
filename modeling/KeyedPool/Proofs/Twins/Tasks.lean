import KeyedPool.Job
import KeyedPool.Proofs.Twins

/-!
# Tasks on pools that walk in different orders

What a task does to a pool is put together from operations of which each does the same to twins, so
the task does so too: it waits for the same, or has come to the same end. This goes by the parts of
a task, an acquire, a body and a job, and for a body by induction on its steps. All along, the
tables in which the oldest record is looked for are gathered, each of which must have one record
alone that is the oldest.

* `KeyedPool.Acquisition.startSearches`, `KeyedPool.Scope.runSearches`,
  `KeyedPool.Job.startSearches` and others: the tables in which a task looks for the oldest record.
* `KeyedPool.Acquisition.twins_start`, `KeyedPool.Acquisition.twins_poll`: an acquire is called, and
  polled.
* `KeyedPool.Scope.twins_run`, `KeyedPool.Scope.twins_poll`: a body runs, and goes on.
* `KeyedPool.Job.twins_start`, `KeyedPool.PendingJob.twins_poll`,
  `KeyedPool.PendingJob.twin_abandon`: the jobs of tasks.
-/

namespace KeyedPool

open Pool (Twin Twins)

variable {plans : String → ConnectPlan} {p q : Pool} {now : Instant}

/-! ### Acquires -/

namespace Acquisition

/-- The tables in which the oldest record is looked for when an acquire is called. -/
def startSearches (p : Pool) (now : Instant) (r : Request) : List Table :=
  (p.prune now).2.attemptSearches r.database now

/-- The tables in which it is looked for when an acquire is polled. -/
def pollSearches (p : Pool) (now : Instant) (a : Acquisition) : List Table :=
  if now < a.wake then []
  else
    match a.stage with
    | .queued .. => p.attemptSearches a.request.database now
    | _ => []

section Stages

variable (plans : String → ConnectPlan) (now : Instant) (r : Request) (h : p.Twin q)
include h

theorem twin_dropUnopened : (dropUnopened p r).Twin (dropUnopened q r) :=
  (h.note _).giveUpOpening _

theorem twin_dropOpened (c : Nat) : (dropOpened p r c).Twin (dropOpened q r c) :=
  ((h.giveUpOpening _).retire _).snd

theorem twins_publish (c : Nat) : Twins (publish p now r c) (publish q now r c) := by
  have hpublished := h.publish r.database c r.ttl r.persistent now
  rw [publish, publish]
  generalize p.publish r.database c r.ttl r.persistent now = x at hpublished ⊢
  generalize q.publish r.database c r.ttl r.persistent now = y at hpublished ⊢
  cases hpublished with
  | same l htwin => cases l <;> exact .same _ htwin

theorem twins_endHook (c : Nat) (hook : HookPlan) :
    Twins (endHook p now r c hook) (endHook q now r c hook) := by
  have hflags := h.modifyHandle c fun x =>
    { x with broken := x.broken || hook.breaks, closed := x.closed || hook.hangsUp }
  rw [endHook, endHook]
  cases hook.result with
  | crash text => exact .same _ (twin_dropOpened r hflags c)
  | fail failure => exact .same _ (twin_dropOpened r hflags c)
  | done => exact twins_publish now r (hflags.note _) c

theorem twins_endConnect (plan : ConnectPlan) :
    Twins (endConnect p now r plan) (endConnect q now r plan) := by
  rw [endConnect, endConnect, ← h.handles]
  cases plan.result with
  | crash text => exact .same _ (twin_dropUnopened r h)
  | fail failure => exact .same _ (twin_dropUnopened r h)
  | connected closed broken failClose =>
    have hopened := ((h.addHandle ⟨r.database, closed, broken, failClose, 0⟩).note
      (.connected r.database p.handles.length)).tally .opened
    dsimp only
    cases r.startup with
    | none =>
      have hdone := twins_publish now r hopened p.handles.length
      exact .of_eq (congrArg Progress.finished hdone.fst) hdone.snd
    | some hook =>
      have hstarted := hopened.note (.hookStarted p.handles.length)
      dsimp only
      split
      · have hdone := twins_endHook now r hstarted p.handles.length hook
        exact .of_eq (congrArg Progress.finished hdone.fst) hdone.snd
      · exact .same _ hstarted

theorem twins_beginConnect : Twins (beginConnect plans p now r) (beginConnect plans q now r) := by
  have hasked := (h.note (.opening r.database)).note (.connecting r.database)
  simp only [beginConnect]
  split
  · exact twins_endConnect now r hasked _
  · exact .same _ hasked

variable (since : Instant) (refusals : List Instant)

theorem twins_refuse (why : Refusal) :
    Twins (refuse p now r since refusals why) (refuse q now r since refusals why) := by
  rw [refuse, refuse, h.settings]
  dsimp only
  split
  · split
    · exact .same _ (h.note _)
    · exact .same _ h
  · split
    · exact .same _ (h.note _)
    · exact .same _ h

/-- **An attempt to be admitted**, and all that follows from it. -/
theorem twins_attempt (hlone : ∀ t ∈ p.attemptSearches r.database now, t.HasLoneOldest) :
    Twins (attempt plans p now r since refusals) (attempt plans q now r since refusals) := by
  have hanswer := h.attempt r.database r.ttl now hlone
  rw [attempt, attempt]
  generalize p.attempt r.database r.ttl now = x at hanswer ⊢
  generalize q.attempt r.database r.ttl now = y at hanswer ⊢
  cases hanswer with
  | same answer htwin =>
    cases answer with
    | leased connection generation => exact .same _ (htwin.note _)
    | reserved => exact twins_beginConnect plans now r htwin
    | refused why => exact twins_refuse now r htwin since refusals why
    | beyondHorizon => exact .same _ htwin

end Stages

theorem twins_resume {x y : Progress Stage Acquired × Pool} (h : Twins x y) (r : Request)
    (since : Instant) : Twins (resume r since x) (resume r since y) := by
  cases h with
  | same a htwin => cases a <;> exact .same _ htwin

/-- **An acquire is called.** -/
theorem twins_start (h : p.Twin q) {r : Request}
    (hlone : ∀ t ∈ startSearches p now r, t.HasLoneOldest) :
    Twins (start plans p now r) (start plans q now r) :=
  twins_resume (twins_attempt plans now r (h.prune now).snd now [] hlone) r now

/-- **An acquire that waits is polled.** -/
theorem twins_poll (h : p.Twin q) {a : Acquisition}
    (hlone : ∀ t ∈ a.pollSearches p now, t.HasLoneOldest) :
    Twins (poll plans p now a) (poll plans q now a) := by
  rw [poll, poll]
  rw [pollSearches] at hlone
  split
  · exact .same _ h
  · rename_i hcome
    rw [if_neg hcome] at hlone
    cases hstage : a.stage with
    | queued refusals wake =>
      rw [hstage] at hlone
      exact twins_resume (twins_attempt plans now a.request h a.since refusals hlone) _ _
    | connecting plan wake => exact twins_resume (twins_endConnect now a.request h plan) _ _
    | starting connection hook wake =>
      have hdone := twins_endHook now a.request h connection hook
      exact .of_eq (congrArg Progress.finished hdone.fst) hdone.snd

theorem twin_abandon (h : p.Twin q) (a : Acquisition) : (abandon p a).Twin (abandon q a) := by
  rw [abandon, abandon]
  cases a.stage with
  | queued refusals wake => exact h
  | connecting plan wake => exact twin_dropUnopened a.request h
  | starting connection hook wake => exact twin_dropOpened a.request h connection

end Acquisition

/-! ### Leases under labels -/

namespace LeaseBook

theorem twins_keep (h : p.Twin q) (b : LeaseBook) (label : String) (l : Lease) :
    Twins (b.keep label l p) (b.keep label l q) := by
  rw [keep, keep]
  cases b.find? label with
  | none => exact .same _ h
  | some old => exact .same _ (h.settle old .drop)

/-- The lease under a label ends in both pools, if there is one. -/
theorem twins_settle? (h : p.Twin q) (b : LeaseBook) (label : String) (how : Disposal) :
    (b.settle? label how p = none ∧ b.settle? label how q = none) ∨
      ∃ b' p' q', b.settle? label how p = some (b', p') ∧ b.settle? label how q = some (b', q') ∧
        p'.Twin q' := by
  rw [settle?, settle?]
  cases b.find? label with
  | none => exact .inl ⟨rfl, rfl⟩
  | some l => exact .inr ⟨_, _, _, rfl, rfl, h.settle l how⟩

theorem twin_dropAll (h : p.Twin q) (b : LeaseBook) : (b.dropAll p).Twin (b.dropAll q) := by
  rw [dropAll, dropAll]
  induction b.leases with
  | nil => exact h
  | cons l ls ih => exact ih.settle l .drop

end LeaseBook

/-! ### Bodies -/

namespace Scope

variable {l : Lease} {kept : LeaseBook} {ending : Ending} {steps : List BodyStep}

/-- The tables in which the oldest record is looked for by the steps of a body. -/
def runSearches (plans : String → ConnectPlan) (now : Instant) (l : Lease) :
    List BodyStep → LeaseBook → Pool → List Table
  | [], _, _ => []
  | step :: rest, kept, p =>
    match step with
    | .sleep _ => []
    | .breakConnection =>
      runSearches plans now l rest kept
        (p.modifyHandle l.connection fun h => { h with broken := true })
    | .hangUp =>
      runSearches plans now l rest kept
        (p.modifyHandle l.connection fun h => { h with closed := true })
    | .inspect => runSearches plans now l rest kept p
    | .command c => p.commandSearches c ++ runSearches plans now l rest kept (p.execute now c).2
    | .settle label disposal =>
      match kept.settle? label disposal p with
      | none => runSearches plans now l rest kept p
      | some (kept, p) => runSearches plans now l rest kept p
    | .acquire r use =>
      Acquisition.startSearches p now r ++
        match Acquisition.start plans p now r with
        | (.waiting _, _) => []
        | (.finished acquired, p) =>
          match nested p kept use acquired with
          | (.ok (_, kept), p) => runSearches plans now l rest kept p
          | (.error _, _) => []

/-- The tables in which it is looked for when a body that waits goes on. -/
def pollSearches (plans : String → ConnectPlan) (p : Pool) (now : Instant) (s : Scope) :
    List Table :=
  match s.pause with
  | .asleep wake =>
    if now < wake then [] else runSearches plans now s.lease s.rest.steps s.kept p
  | .acquiring a use =>
    a.pollSearches p now ++
      match Acquisition.poll plans p now a with
      | (.waiting _, _) => []
      | (.finished acquired, p) =>
        match nested p s.kept use acquired with
        | (.ok (_, kept), p) => runSearches plans now s.lease s.rest.steps kept p
        | (.error _, _) => []

theorem twin_leave (h : p.Twin q) (l : Lease) (kept : LeaseBook) (how : Disposal) :
    ((kept.dropAll p).settle l how).Twin ((kept.dropAll q).settle l how) :=
  (kept.twin_dropAll h).settle l how

theorem twins_conclude (h : p.Twin q) (l : Lease) (kept : LeaseBook) (told : List Reply)
    (ending : Ending) : Twins (conclude p l kept told ending) (conclude q l kept told ending) := by
  cases ending <;> exact .same _ (twin_leave h l kept _)

theorem twins_nested (h : p.Twin q) (kept : LeaseBook) (use : LeaseUse) (acquired : Acquired) :
    Twins (nested p kept use acquired) (nested q kept use acquired) := by
  cases acquired with
  | lease l =>
    cases use with
    | ended disposal => exact .same _ (h.settle l disposal)
    | kept label =>
      have hkept := kept.twins_keep h label l
      simp only [nested, hkept.fst]
      exact .same _ hkept.snd
  | failed e => exact .same _ h
  | crashed text => exact .same _ h

theorem inspection_eq (h : p.Twin q) (c : Nat) : inspection p c = inspection q c := by
  rw [inspection, inspection, h.handles]

/-- **A body runs to the same point**, by induction on its steps. -/
theorem twins_run (h : p.Twin q) {told : List Reply}
    (hlone : ∀ t ∈ runSearches plans now l steps kept p, t.HasLoneOldest) :
    Twins (run plans now l ending steps kept told p)
      (run plans now l ending steps kept told q) := by
  induction steps generalizing kept told p q with
  | nil =>
    have hdone := twins_conclude h l kept told ending
    exact .of_eq (congrArg Progress.finished hdone.fst) hdone.snd
  | cons step rest ih =>
    cases step with
    | sleep ms => exact .same _ h
    | breakConnection => exact ih (h.modifyHandle _ _) hlone
    | hangUp => exact ih (h.modifyHandle _ _) hlone
    | inspect =>
      simp only [run, inspection_eq h]
      exact ih h hlone
    | command c =>
      obtain ⟨hhere, hrest⟩ := List.forall_mem_append.mp hlone
      have hanswer := h.execute now c hhere
      simp only [run, hanswer.fst]
      exact ih hanswer.snd hrest
    | settle label disposal =>
      simp only [run, runSearches] at hlone ⊢
      obtain ⟨hp, hq⟩ | ⟨kept', p', q', hp, hq, htwin⟩ := kept.twins_settle? h label disposal
      · rw [hp] at hlone ⊢
        rw [hq]
        exact ih h hlone
      · rw [hp] at hlone ⊢
        rw [hq]
        exact ih htwin hlone
    | acquire r use =>
      obtain ⟨hhere, hrest⟩ := List.forall_mem_append.mp hlone
      have hacquire : Twins (Acquisition.start plans p now r) (Acquisition.start plans q now r) :=
        Acquisition.twins_start h hhere
      simp only [run]
      generalize Acquisition.start plans p now r = x at hacquire hrest ⊢
      generalize Acquisition.start plans q now r = y at hacquire ⊢
      cases hacquire with
      | @same a p' q' htwin =>
        cases a with
        | waiting a => exact .same _ htwin
        | finished acquired =>
          -- what becomes of the nested lease is the same, and then the rest of the body is
          have hnested := twins_nested htwin kept use acquired
          dsimp only at hrest ⊢
          generalize nested p' kept use acquired = x at hnested hrest ⊢
          generalize nested q' kept use acquired = y at hnested ⊢
          cases hnested with
          | same b htwin' =>
            cases b with
            | ok b => exact ih htwin' hrest
            | error text => exact .same _ (twin_leave htwin' l kept .drop)

/-- **A body that waits goes on.** -/
theorem twins_poll (h : p.Twin q) {s : Scope}
    (hlone : ∀ t ∈ s.pollSearches plans p now, t.HasLoneOldest) :
    Twins (poll plans p now s) (poll plans q now s) := by
  rcases s with ⟨l, kept, pause, rest, told⟩
  cases pause with
  | asleep wake =>
    simp only [poll, pollSearches] at hlone ⊢
    split
    · exact .same _ h
    · rename_i hcome
      rw [if_neg hcome] at hlone
      exact twins_run h hlone
  | acquiring a use =>
    obtain ⟨hhere, hrest⟩ := List.forall_mem_append.mp hlone
    have hacquire : Twins (Acquisition.poll plans p now a) (Acquisition.poll plans q now a) :=
      Acquisition.twins_poll h hhere
    simp only [poll]
    generalize Acquisition.poll plans p now a = x at hacquire hrest ⊢
    generalize Acquisition.poll plans q now a = y at hacquire ⊢
    cases hacquire with
    | @same a p' q' htwin =>
      cases a with
      | waiting a => exact .same _ htwin
      | finished acquired =>
        have hnested := twins_nested htwin kept use acquired
        dsimp only at hrest ⊢
        generalize nested p' kept use acquired = x at hnested hrest ⊢
        generalize nested q' kept use acquired = y at hnested ⊢
        cases hnested with
        | same b htwin' =>
          cases b with
          | ok b => exact twins_run htwin' hrest
          | error text => exact .same _ (twin_leave htwin' l kept .drop)

theorem twin_abandon (h : p.Twin q) (s : Scope) : (abandon p s).Twin (abandon q s) := by
  rw [abandon, abandon]
  cases s.pause with
  | asleep wake => exact twin_leave h s.lease s.kept .drop
  | acquiring a use => exact twin_leave (Acquisition.twin_abandon h a) s.lease s.kept .drop

end Scope

/-! ### Jobs -/

namespace Job

variable {x y : Progress Acquisition Acquired × Pool}

/-- The tables in which the oldest record is looked for by a body that begins. -/
def enterSearches (plans : String → ConnectPlan) (now : Instant) (body : Body) :
    Progress Acquisition Acquired × Pool → List Table
  | (.finished (.lease l), p) => Scope.runSearches plans now l body.steps {} p
  | _ => []

/-- The tables in which it is looked for when a job begins. -/
def startSearches (plans : String → ConnectPlan) (p : Pool) (now : Instant) : Job → List Table
  | .lease r _ => Acquisition.startSearches p now r
  | .scope r _ body =>
    Acquisition.startSearches p now r ++
      enterSearches plans now body (Acquisition.start plans p now r)

theorem twins_keep (h : Twins x y) (label : String) : Twins (keep label x) (keep label y) := by
  cases h with
  | same a htwin =>
    rcases a with a | l | e | text <;> exact .same _ htwin

theorem twins_proceed {x y : Progress Scope Concluded × Pool} (h : Twins x y) :
    Twins (enter.proceed x) (enter.proceed y) := by
  cases h with
  | same a htwin => cases a <;> exact .same _ htwin

theorem twins_enter (h : Twins x y) {errors : ErrorKind} {body : Body}
    (hlone : ∀ t ∈ enterSearches plans now body x, t.HasLoneOldest) :
    Twins (enter plans now errors body x) (enter plans now errors body y) := by
  cases h with
  | same a htwin =>
    rcases a with a | l | e | text
    · exact .same _ htwin
    · exact twins_proceed (Scope.twins_run htwin hlone)
    · exact .same _ htwin
    · exact .same _ htwin

/-- **A job begins.** -/
theorem twins_start (h : p.Twin q) {job : Job}
    (hlone : ∀ t ∈ job.startSearches plans p now, t.HasLoneOldest) :
    Twins (job.start plans p now) (job.start plans q now) := by
  cases job with
  | lease r label => exact twins_keep (Acquisition.twins_start h hlone) label
  | scope r errors body =>
    obtain ⟨hhere, hrest⟩ := List.forall_mem_append.mp hlone
    exact twins_enter (Acquisition.twins_start h hhere) hrest

end Job

namespace PendingJob

/-- The tables in which the oldest record is looked for when a job that waits goes on. -/
def pollSearches (plans : String → ConnectPlan) (p : Pool) (now : Instant) :
    PendingJob → List Table
  | .leasing a _ => a.pollSearches p now
  | .entering a _ body =>
    a.pollSearches p now ++ Job.enterSearches plans now body (Acquisition.poll plans p now a)
  | .inside s => s.pollSearches plans p now

/-- **A job that waits goes on.** -/
theorem twins_poll (h : p.Twin q) {job : PendingJob}
    (hlone : ∀ t ∈ job.pollSearches plans p now, t.HasLoneOldest) :
    Twins (job.poll plans p now) (job.poll plans q now) := by
  cases job with
  | leasing a label => exact Job.twins_keep (Acquisition.twins_poll h hlone) label
  | entering a errors body =>
    obtain ⟨hhere, hrest⟩ := List.forall_mem_append.mp hlone
    exact Job.twins_enter (Acquisition.twins_poll h hhere) hrest
  | inside s => exact Job.twins_proceed (Scope.twins_poll h hlone)

/-- **A job is torn down while it waits.** -/
theorem twin_abandon (h : p.Twin q) (job : PendingJob) : (job.abandon p).Twin (job.abandon q) := by
  cases job with
  | leasing a label => exact Acquisition.twin_abandon h a
  | entering a errors body => exact Acquisition.twin_abandon h a
  | inside s => exact Scope.twin_abandon h s

end PendingJob

end KeyedPool
