import KeyedPool.Proofs.Custody.Frame

/-!
# Bodies step by step

A body is run from one wait to the next in a single event, and when it is over its end is part of
that event. What its end does is a matter of the pool that the body leaves, so this pool has to be
in sight. Here an event leads a body along a sequence of points, one after each of its steps, with
the leases that it keeps there, what it has told, and the pool.

Every step is told on its own, by what it does to these. At each of the points, to run what remains
of the body is what is left of the turn of its task, so the world after the event can be read off
any of them.

An acquire in a body may crash, and takes the body with it. It does so when opening its connection
or its startup hook comes to an end, and what it has at that time is known before it is known how
this ends: that is its brink.

* `KeyedPool.Scope.Uses`, `KeyedPool.Scope.Does`: what a step of a body does.
* `KeyedPool.World.Resumes`: a body goes on in an event.
* `KeyedPool.World.BodyAt`: an event leads a body to a point.
* `KeyedPool.World.Breaks`: an acquire in a body crashes.
* `KeyedPool.World.BodyAt.concludes`, `KeyedPool.World.Breaks.concludes`: what becomes of the scope.
* `KeyedPool.World.Sojourn`: what comes of a turn of a body.
* `KeyedPool.World.BodyAt.passes`: the points of a body are states of the run.
-/

namespace KeyedPool

open Custody

/-! ### What the end of a body demands -/

namespace Ending

/-- What the caller of a scope gets whose body has ended, with what its steps told. -/
def result (told : List Reply) : Ending → Concluded
  | .value v => .value v told
  | .error e => .error e told
  | .crash text => .crashed text

/-- How the lease of a scope ends whose body has ended. -/
def disposal : Ending → Disposal
  | .value _ => .release
  | .error e => if e.isInterruption then .cancel else .release
  | .crash _ => .drop

end Ending

theorem Scope.conclude_eq (p : Pool) (l : Lease) (kept : LeaseBook) (told : List Reply)
    (ending : Ending) : conclude p l kept told ending =
      (ending.result told.reverse, (kept.dropAll p).settle l ending.disposal) := by
  cases ending <;> rfl

/-! ### Where an acquire may crash -/

namespace Acquisition

/-- The pool when the time of a startup hook is over. It may have changed the flags of its
connection. -/
def hookBrink (p : Pool) (connection : Nat) (hook : HookPlan) : Pool :=
  p.modifyHandle connection fun h =>
    { h with broken := h.broken || hook.breaks, closed := h.closed || hook.hangsUp }

/-- What an acquire has, and the pool, when the time that opening its connection takes is over: its
place, and the connection too if this has come and a startup hook has run on it. -/
def connectBrink (p : Pool) (r : Request) (plan : ConnectPlan) : Option Opening × Pool :=
  match plan.result, r.startup with
  | .connected closed broken failClose, some hook =>
    let connection := p.handles.length
    let fresh : Handle := { database := r.database, closed, broken, failClose }
    let p := ((p.addHandle fresh).note (.connected r.database connection)).tally .opened
    (some ⟨r, .starting connection⟩, hookBrink (p.note (.hookStarted connection)) connection hook)
  | _, _ => (some ⟨r, .asked⟩, p)

/-- The same after an attempt to be admitted: nothing, unless a place is kept. -/
def attemptBrink (plans : String → ConnectPlan) (p : Pool) (now : Instant) (r : Request) :
    Option Opening × Pool :=
  match p.attempt r.database r.ttl now with
  | (.reserved, p) =>
    connectBrink ((p.note (.opening r.database)).note (.connecting r.database)) r
      (plans r.database)
  | (_, p) => (none, p)

/-- **The brink of an acquire that is called**: what it has, and the pool, at the last point at
which it may crash. -/
def startBrink (plans : String → ConnectPlan) (p : Pool) (now : Instant) (r : Request) :
    Option Opening × Pool :=
  attemptBrink plans (p.prune now).2 now r

/-- **The brink of an acquire that is polled.** -/
def pollBrink (plans : String → ConnectPlan) (p : Pool) (now : Instant) (a : Acquisition) :
    Option Opening × Pool :=
  match a.stage with
  | .queued .. => attemptBrink plans p now a.request
  | .connecting plan _ => connectBrink p a.request plan
  | .starting connection hook _ =>
    (some ⟨a.request, .starting connection⟩, hookBrink p connection hook)

end Acquisition

/-! ### Steps -/

namespace Scope

/-- **A body does something with a nested acquire** that has ended: it is told how that went, and
the lease, if there is one, ends or is kept. -/
inductive Uses (kept : LeaseBook) (p : Pool) :
    LeaseUse → Acquired → Reply → LeaseBook → Pool → Prop
  /-- The lease ends at once. -/
  | ended (l : Lease) (how : Disposal) :
    Uses kept p (.ended how) (.lease l) (.leased l.connection) kept (p.settle l how)
  /-- The lease is kept. -/
  | kept (l : Lease) (label : String) :
    Uses kept p (.kept label) (.lease l) (.leased l.connection) (kept.keep label l p).1
      (kept.keep label l p).2
  /-- There is no lease. -/
  | failed (use : LeaseUse) (e : PoolError) : Uses kept p use (.failed e) (.failed e) kept p

/-- **A step of a body**, from what it keeps and the pool to what it is told, what it keeps and the
pool afterwards. To wait is not a step. -/
inductive Does (plans : String → ConnectPlan) (now : Instant) (l : Lease) (kept : LeaseBook)
    (p : Pool) : BodyStep → Reply → LeaseBook → Pool → Prop
  /-- Its connection breaks. -/
  | breakConnection : Does plans now l kept p .breakConnection .done kept
      (p.modifyHandle l.connection fun h => { h with broken := true })
  /-- Its connection is closed by the peer. -/
  | hangUp : Does plans now l kept p .hangUp .done kept
      (p.modifyHandle l.connection fun h => { h with closed := true })
  /-- It looks at its connection. -/
  | inspect : Does plans now l kept p .inspect (inspection p l.connection) kept p
  /-- It does something to the pool. -/
  | command (c : Command) :
    Does plans now l kept p (.command c) (p.execute now c).1 kept (p.execute now c).2
  /-- It ends a lease that it keeps. -/
  | settle {label how kept' q} (h : kept.settle? label how p = some (kept', q)) :
    Does plans now l kept p (.settle label how) .done kept' q
  /-- It keeps no such lease. -/
  | missing {label how} (h : kept.settle? label how p = none) :
    Does plans now l kept p (.settle label how) .done kept p
  /-- It leases another connection, for which it need not wait. -/
  | acquire {r use acquired q reply kept' q'}
    (h : Acquisition.start plans p now r = (.finished acquired, q))
    (huse : Uses kept q use acquired reply kept' q') :
    Does plans now l kept p (.acquire r use) reply kept' q'

variable {plans : String → ConnectPlan} {now : Instant} {l : Lease} {kept kept' : LeaseBook}
  {p q : Pool} {use : LeaseUse} {acquired : Acquired} {reply : Reply} {step : BodyStep}
  {rest : List BodyStep} {told : List Reply} {ending : Ending} {text : String}
  {L : Multiset Lease} {O : Multiset Opening}

theorem nested_eq_iff_uses :
    nested p kept use acquired = (.ok (reply, kept'), q) ↔
      Uses kept p use acquired reply kept' q := by
  constructor
  · intro h
    cases acquired with
    | lease l =>
      cases use with
      | ended how =>
        cases h
        exact .ended l how
      | kept label =>
        cases h
        exact .kept l label
    | failed e =>
      cases h
      exact .failed use e
    | crashed text => cases h
  · rintro (⟨l, how⟩ | ⟨l, label⟩ | ⟨use, e⟩) <;> rfl

/-- A nested acquire passes on its own crash, and no other. -/
theorem nested_eq_error_iff :
    nested p kept use acquired = (.error text, q) ↔ acquired = .crashed text ∧ p = q := by
  constructor
  · intro h
    cases acquired with
    | lease l => cases use <;> cases h
    | failed e => cases h
    | crashed text =>
      cases h
      exact ⟨rfl, rfl⟩
  · rintro ⟨rfl, rfl⟩
    rfl

theorem Uses.moves (h : Uses kept p use acquired reply kept' q) :
    Moves now (acquired.holding.beside p (↑kept.leases + L) O) ⟨q, ↑kept'.leases + L, O, 0⟩ := by
  have hmoves : Moves now (acquired.holding.beside p (↑kept.leases + L) O) _ :=
    moves_nested kept use acquired
  rwa [nested_eq_iff_uses.mpr h] at hmoves

/-- **A step is a sequence of moves.** -/
theorem Does.moves (h : Does plans now l kept p step reply kept' q) :
    Moves now ⟨p, ↑kept.leases + L, O, 0⟩ ⟨q, ↑kept'.leases + L, O, 0⟩ := by
  cases h with
  | breakConnection =>
    exact .single (.flags l.connection (fun h => { h with broken := true }) fun _ => ⟨rfl, rfl⟩)
  | hangUp =>
    exact .single (.flags l.connection (fun h => { h with closed := true }) fun _ => ⟨rfl, rfl⟩)
  | inspect => exact .refl
  | command c => exact Pool.moves_execute c
  | settle h => exact LeaseBook.moves_settle? h
  | missing h => exact .refl
  | @acquire r _ _ _ _ _ _ h huse =>
    have hstart : Moves now ⟨p, ↑kept.leases + L, O, 0⟩ _ := Acquisition.moves_start plans r
    rw [h] at hstart
    exact hstart.trans huse.moves

/-- **To run a body is to do its first step, and to run the others.** -/
theorem Does.run_eq (h : Does plans now l kept p step reply kept' q) :
    run plans now l ending (step :: rest) kept told p =
      run plans now l ending rest kept' (reply :: told) q := by
  cases h with
  | settle h => simp only [run, h]
  | missing h => simp only [run, h]
  | acquire h huse => simp only [run, h, nested_eq_iff_uses.mpr huse]
  | _ => simp only [run]

/-- A nested acquire that crashes as soon as it is called takes the body with it. -/
theorem run_crashed {r : Request}
    (h : Acquisition.start plans p now r = (.finished (.crashed text), q)) :
    run plans now l ending (.acquire r use :: rest) kept told p =
      (.finished (.crashed text), (kept.dropAll q).settle l .drop) := by
  simp only [run, h, nested_eq_error_iff.mpr ⟨rfl, rfl⟩]

variable {body : Body} {a : Acquisition}

/-- A body that has slept for long enough is run. -/
theorem poll_awoken {wake : Instant} (hwake : ¬now < wake) :
    poll plans p now ⟨l, kept, .asleep wake, body, told⟩ =
      run plans now l body.ending body.steps kept (.done :: told) p := by
  rw [poll]
  exact if_neg hwake

/-- So is one whose acquire has ended. -/
theorem poll_answered (h : Acquisition.poll plans p now a = (.finished acquired, q)) {q' : Pool}
    (huse : Uses kept q use acquired reply kept' q') :
    poll plans p now ⟨l, kept, .acquiring a use, body, told⟩ =
      run plans now l body.ending body.steps kept' (reply :: told) q' := by
  simp only [poll, h, nested_eq_iff_uses.mpr huse]

/-- A nested acquire that crashes when it is polled takes the body with it, too. -/
theorem poll_crashed (h : Acquisition.poll plans p now a = (.finished (.crashed text), q)) :
    poll plans p now ⟨l, kept, .acquiring a use, body, told⟩ =
      (.finished (.crashed text), (kept.dropAll q).settle l .drop) := by
  simp only [poll, h, nested_eq_error_iff.mpr ⟨rfl, rfl⟩]

end Scope

/-! ### Points -/

namespace World

/-- **A body goes on in an event**: with its lease, what is left of it, the leases that it keeps,
what it has told, and the pool. -/
inductive Resumes (w : World) :
    Event → Lease → Body → LeaseBook → List Reply → Pool → Prop
  /-- It begins, since its scope is called and gets its lease at once. -/
  | called {r errors body l p} (hheld : w.held = true)
    (h : Acquisition.start w.planFor w.pool w.now r = (.finished (.lease l), p)) :
    Resumes w (.start (.scope r errors body)) l body {} [] p
  /-- It begins, since its scope has been waiting for its lease and gets it. -/
  | entered {n a errors body l p} (ht : w.task? n = some ⟨n, .entering a errors body⟩)
    (h : Acquisition.poll w.planFor w.pool w.now a = (.finished (.lease l), p)) :
    Resumes w (.poll n) l body {} [] p
  /-- It has slept for long enough. -/
  | awoken {n l kept wake rest told}
    (ht : w.task? n = some ⟨n, .inside ⟨l, kept, .asleep wake, rest, told⟩⟩)
    (hwake : ¬w.now < wake) : Resumes w (.poll n) l rest kept (.done :: told) w.pool
  /-- The acquire for which it has been waiting has ended. -/
  | answered {n l kept a use rest told acquired p reply kept' p'}
    (ht : w.task? n = some ⟨n, .inside ⟨l, kept, .acquiring a use, rest, told⟩⟩)
    (h : Acquisition.poll w.planFor w.pool w.now a = (.finished acquired, p))
    (huse : Scope.Uses kept p use acquired reply kept' p') :
    Resumes w (.poll n) l rest kept' (reply :: told) p'

/-- **An event leads a body to a point**: with its lease, what is left of it there, the leases that
it keeps, what it has told, and the pool. -/
inductive BodyAt (w : World) (e : Event) (l : Lease) :
    Body → LeaseBook → List Reply → Pool → Prop
  /-- It goes on from there. -/
  | resumes {body kept told p} (h : w.Resumes e l body kept told p) :
    BodyAt w e l body kept told p
  /-- It has done one more step. -/
  | does {step rest ending kept told p reply kept' p'}
    (h : BodyAt w e l ⟨step :: rest, ending⟩ kept told p)
    (hstep : Scope.Does w.planFor w.now l kept p step reply kept' p') :
    BodyAt w e l ⟨rest, ending⟩ kept' (reply :: told) p'

/-- **An acquire crashes in a body**, which an event has led to the point where it calls it, or
which has been waiting for it. The acquire asks for something, and it has something on its brink,
and the pool is given as it is then, and as the acquire leaves it. -/
inductive Breaks (w : World) (e : Event) (l : Lease) :
    Request → String → LeaseBook → Option Opening × Pool → Pool → Prop
  /-- It crashes as soon as it is called. -/
  | called {r use rest ending kept told p text q}
    (hat : w.BodyAt e l ⟨.acquire r use :: rest, ending⟩ kept told p)
    (h : Acquisition.start w.planFor p w.now r = (.finished (.crashed text), q)) :
    Breaks w e l r text kept (Acquisition.startBrink w.planFor p w.now r) q
  /-- It crashes when it is polled. -/
  | polled {n kept a use rest told text q} (he : e = .poll n)
    (ht : w.task? n = some ⟨n, .inside ⟨l, kept, .acquiring a use, rest, told⟩⟩)
    (h : Acquisition.poll w.planFor w.pool w.now a = (.finished (.crashed text), q)) :
    Breaks w e l a.request text kept (Acquisition.pollBrink w.planFor w.pool w.now a) q

/-! ### The turn of a task -/

/-- **A task has its turn** in an event, and comes to something. -/
inductive HasGone (w : World) : Event → Progress PendingJob JobResult × Pool → Prop
  /-- It is started. -/
  | started {job} (hheld : w.held = true) :
    HasGone w (.start job) (job.start w.planFor w.pool w.now)
  /-- It is polled. -/
  | polled {n t} (ht : w.task? n = some t) :
    HasGone w (.poll n) (t.job.poll w.planFor w.pool w.now)

/-- The number of the task that has its turn in an event. -/
def ticketIn (w : World) : Event → Nat
  | .poll n => n
  | _ => w.nextTicket

/-- The world of the others, while a task has its turn in an event. -/
def others (w : World) : Event → World
  | .poll n => w.withoutTask n
  | _ => w

variable {w : World} {e : Event} {l : Lease} {body : Body} {kept : LeaseBook} {told : List Reply}
  {p q : Pool} {n : Nat} {t : Task} {r : Request} {text : String} {brink : Option Opening × Pool}
  {job : PendingJob} {result : JobResult} {c : Concluded}

/-- A task that is started and waits. -/
theorem step_start_waiting {j : Job} (hheld : w.held = true)
    (h : j.start w.planFor w.pool w.now = (.waiting job, q)) :
    w.step (.start j) = (.pending w.nextTicket, { w with
      nextTicket := w.nextTicket + 1, pool := q, tasks := w.tasks ++ [⟨w.nextTicket, job⟩] }) := by
  rw [step, ifHeld, if_pos hheld, startTask]
  simp only [h]

/-- A task that is started and ends at once. -/
theorem step_start_finished {j : Job} (hheld : w.held = true)
    (h : j.start w.planFor w.pool w.now = (.finished result, q)) :
    w.step (.start j) =
      { w with nextTicket := w.nextTicket + 1, pool := q }.conclude w.nextTicket result := by
  rw [step, ifHeld, if_pos hheld, startTask]
  simp only [h]

/-- A task that is polled and waits on. -/
theorem step_poll_waiting (ht : w.task? n = some t)
    (h : t.job.poll w.planFor w.pool w.now = (.waiting job, q)) :
    w.step (.poll n) = (.pending n, { w with pool := q }.withJob n job) := by
  rw [step, pollTask, ht]
  simp only [h]
  rfl

/-- A task that is polled and ends. -/
theorem step_poll_finished (ht : w.task? n = some t)
    (h : t.job.poll w.planFor w.pool w.now = (.finished result, q)) :
    w.step (.poll n) = ({ w with pool := q }.withoutTask n).conclude n result := by
  rw [step, pollTask, ht]
  simp only [h]

/-- **A scope is over after an event**, with an end and a pool, and nothing else has happened. -/
structure Concludes (w : World) (e : Event) (c : Concluded) (q : Pool) : Prop where
  /-- Its task is answered so. -/
  answer : (w.step e).1 = .finished (w.ticketIn e) (.concluded c)
  /-- This is the pool. -/
  pool : (w.step e).2.pool = q
  /-- The callers keep the leases that they kept. -/
  leases : (w.step e).2.leases = w.leases
  /-- The tasks of the others are as they were. -/
  tasks : (w.step e).2.tasks = (w.others e).tasks

theorem HasGone.concludes (h : w.HasGone e (.finished (.concluded c), q)) :
    w.Concludes e c q := by
  generalize hx : ((.finished (.concluded c), q) : Progress PendingJob JobResult × Pool) = x at h
  cases h with
  | started hheld =>
    have hstep := step_start_finished hheld hx.symm
    constructor <;> rw [hstep] <;> rfl
  | polled ht =>
    have hstep := step_poll_finished ht hx.symm
    constructor <;> rw [hstep] <;> rfl

/-- What the others have is as it was. -/
theorem Concludes.custody_eq (h : w.Concludes e c q) :
    (w.step e).2.custody = { (w.others e).custody with pool := q } := by
  have hleases : (w.others e).leases = w.leases := by
    cases e <;> rfl
  simp only [custody, heldLeases, openings, acquisitions, h.pool, h.leases, h.tasks, hleases]

/-- A body that goes on is run. -/
theorem Resumes.hasGone (h : w.Resumes e l body kept told p) : w.HasGone e
    (Job.enter.proceed (Scope.run w.planFor w.now l body.ending body.steps kept told p)) := by
  cases h with
  | @called r errors body l p hheld h =>
    have hstart : w.HasGone (.start (.scope r errors body)) _ := .started hheld
    rwa [Job.start, h] at hstart
  | entered ht h =>
    have hpoll := HasGone.polled ht
    rwa [PendingJob.poll, h] at hpoll
  | awoken ht hwake =>
    have hpoll := HasGone.polled ht
    rwa [PendingJob.poll, Scope.poll_awoken hwake] at hpoll
  | answered ht h huse =>
    have hpoll := HasGone.polled ht
    rwa [PendingJob.poll, Scope.poll_answered h huse] at hpoll

/-- **To run a body from a point to which an event has led it** is what is left of the turn of its
task. -/
theorem BodyAt.hasGone (h : w.BodyAt e l body kept told p) : w.HasGone e
    (Job.enter.proceed (Scope.run w.planFor w.now l body.ending body.steps kept told p)) := by
  induction h with
  | resumes h => exact h.hasGone
  | does h hstep ih => rwa [hstep.run_eq] at ih

/-- **The end of a body**: the task is answered what the body has ended with, the leases that the
body keeps are lost, and then its own one ends. -/
theorem BodyAt.concludes {ending : Ending} (h : w.BodyAt e l ⟨[], ending⟩ kept told p) :
    w.Concludes e (ending.result told.reverse)
      ((kept.dropAll p).settle l ending.disposal) := by
  have hgone := h.hasGone
  simp only [Scope.run, Scope.conclude_eq] at hgone
  exact hgone.concludes

/-- **A crash of an acquire in a body**: the task is answered that it crashed, and every lease of
the body is lost. -/
theorem Breaks.concludes (h : w.Breaks e l r text kept brink q) :
    w.Concludes e (.crashed text) ((kept.dropAll q).settle l .drop) := by
  cases h with
  | called hat h =>
    have hgone := hat.hasGone
    rw [Scope.run_crashed h] at hgone
    exact hgone.concludes
  | polled he ht h =>
    have hpoll := HasGone.polled ht
    rw [PendingJob.poll, Scope.poll_crashed h] at hpoll
    exact he ▸ hpoll.concludes

/-! ### What is kept on the way -/

section Keeps

variable {I : Custody → Prop} {L : Multiset Lease} {O : Multiset Opening} {ending : Ending}
  {steps : List BodyStep}

/-- **What comes of a turn of a body**, while something is kept of the pool, of what the body has
beside its own lease, and of what the others have: it waits; or it is over; or an acquire in it
crashes. -/
inductive Sojourn (w : World) (e : Event) (l : Lease) (ending : Ending) (I : Custody → Prop)
    (L : Multiset Lease) (O : Multiset Opening) : Progress PendingJob JobResult × Pool → Prop
  /-- It waits. -/
  | waits {s : Scope} {p : Pool} (hlease : s.lease = l) (hending : s.rest.ending = ending)
    (h : I ⟨p, ↑s.kept.leases + L, ↑s.opening?.toList + O, 0⟩) :
    Sojourn w e l ending I L O (.waiting (.inside s), p)
  /-- It is over. -/
  | ends {kept : LeaseBook} {told : List Reply} {p : Pool}
    (hat : w.BodyAt e l ⟨[], ending⟩ kept told p) (h : I ⟨p, ↑kept.leases + L, O, 0⟩) :
    Sojourn w e l ending I L O (.finished (.concluded (ending.result told.reverse)),
      (kept.dropAll p).settle l ending.disposal)
  /-- An acquire crashes. -/
  | breaks {r : Request} {text : String} {kept : LeaseBook} {brink : Option Opening × Pool}
    {q : Pool} (hbreaks : w.Breaks e l r text kept brink q)
    (h : I ⟨q, ↑kept.leases + L, O, 0⟩) :
    Sojourn w e l ending I L O (.finished (.concluded (.crashed text)),
      (kept.dropAll q).settle l .drop)

/-- A body that waits for an acquire. -/
theorem sojourn_acquiring {a : Acquisition} {use : LeaseUse} {rest : Body}
    (h : I (a.holding.beside p (↑kept.leases + L) O)) (hending : rest.ending = ending) :
    w.Sojourn e l ending I L O (.waiting (.inside ⟨l, kept, .acquiring a use, rest, told⟩), p) := by
  refine .waits rfl hending ?_
  simpa [Holding.beside, Acquisition.holding, Scope.opening?] using h

variable (hI : ∀ {s t : Custody}, Moves w.now s t → I s → I t)
include hI

/-- **The steps of a body**, from a point to which an event has led it. -/
theorem sojourn_run (hat : w.BodyAt e l ⟨steps, ending⟩ kept told p)
    (h : I ⟨p, ↑kept.leases + L, O, 0⟩) :
    w.Sojourn e l ending I L O
      (Job.enter.proceed (Scope.run w.planFor w.now l ending steps kept told p)) := by
  induction steps generalizing kept told p with
  | nil =>
    simp only [Scope.run, Scope.conclude_eq]
    exact .ends hat h
  | cons step rest ih =>
    have hdoes {reply : Reply} {kept' : LeaseBook} {q : Pool}
        (hstep : Scope.Does w.planFor w.now l kept p step reply kept' q) :
        w.Sojourn e l ending I L O
          (Job.enter.proceed (Scope.run w.planFor w.now l ending (step :: rest) kept told p)) := by
      rw [hstep.run_eq]
      exact ih (hat.does hstep) (hI hstep.moves h)
    cases step with
    | sleep ms =>
      rw [Scope.run]
      refine .waits rfl rfl ?_
      simpa [Scope.opening?] using h
    | breakConnection => exact hdoes .breakConnection
    | hangUp => exact hdoes .hangUp
    | inspect => exact hdoes .inspect
    | command c => exact hdoes (.command c)
    | settle label how =>
      cases hsettle : kept.settle? label how p with
      | none => exact hdoes (.missing hsettle)
      | some book => exact hdoes (.settle hsettle)
    | acquire r use =>
      have hstart := hI (Acquisition.moves_start w.planFor r) h
      rcases hcall : Acquisition.start w.planFor p w.now r with ⟨a | acquired, q⟩ <;>
        rw [hcall] at hstart
      · simp only [Scope.run, hcall]
        exact sojourn_acquiring hstart rfl
      · rcases hnested : Scope.nested q kept use acquired with ⟨text | ⟨reply, kept'⟩, q'⟩
        · -- the acquire has crashed
          obtain ⟨rfl, rfl⟩ := Scope.nested_eq_error_iff.mp hnested
          rw [Scope.run_crashed hcall]
          exact .breaks (.called hat hcall) (Holding.beside_none ▸ hstart)
        · exact hdoes (.acquire hcall (Scope.nested_eq_iff_uses.mp hnested))

/-- **A body that waits.** The time has a name of its own, so that nobody multiplies the
milliseconds of the clock out. -/
theorem sojourn_poll {now : Instant} (hnow : w.now = now) {s : Scope}
    (ht : w.task? n = some ⟨n, .inside s⟩)
    (h : I ⟨w.pool, ↑s.kept.leases + L, ↑s.opening?.toList + O, 0⟩) :
    w.Sojourn (.poll n) s.lease s.rest.ending I L O
      (Job.enter.proceed (Scope.poll w.planFor w.pool now s)) := by
  rcases s with ⟨l, kept, pause, rest, told⟩
  cases pause with
  | asleep wake =>
    rw [Scope.poll]
    dsimp only
    split
    · exact .waits rfl rfl h
    · rename_i hwake
      have hrest : I ⟨w.pool, ↑kept.leases + L, O, 0⟩ := by
        simpa [Scope.opening?] using h
      subst hnow
      exact sojourn_run hI (.resumes (.awoken ht hwake)) hrest
  | acquiring a use =>
    have hacquire : I (a.holding.beside w.pool (↑kept.leases + L) O) := by
      simpa [Scope.opening?, Holding.beside, Acquisition.holding] using h
    have hpoll := hI (Acquisition.moves_poll w.planFor a) hacquire
    rw [hnow] at hpoll
    rcases hcall : Acquisition.poll w.planFor w.pool now a with ⟨b | acquired, q⟩ <;>
      rw [hcall] at hpoll
    · simp only [Scope.poll, hcall]
      exact sojourn_acquiring hpoll rfl
    · rcases hnested : Scope.nested q kept use acquired with ⟨text | ⟨reply, kept'⟩, q'⟩
      · -- the acquire has crashed
        obtain ⟨rfl, rfl⟩ := Scope.nested_eq_error_iff.mp hnested
        rw [Scope.poll_crashed hcall]
        exact .breaks (.polled rfl ht (hnow ▸ hcall)) (Holding.beside_none ▸ hpoll)
      · have huse := Scope.nested_eq_iff_uses.mp hnested
        rw [Scope.poll_answered hcall huse]
        subst hnow
        exact sojourn_run hI (.resumes (.answered ht hcall huse)) (hI huse.moves hpoll)

end Keeps

/-! ### The points of a run -/

/-- More leases may stand beside a state of a run. -/
theorem Passes.moves_beside {s t : Custody} (hs : w.Passes { s with leases := l ::ₘ s.leases })
    (h : Moves w.now s t) : w.Passes { t with leases := l ::ₘ t.leases } := by
  have hbeside := h.beside {l} 0
  simp only [Custody.beside, Multiset.singleton_add, zero_add] at hbeside
  exact hs.moves hbeside

/-- **A body that waits has its lease and what it keeps**, and the place of its acquire, beside what
the others have. -/
theorem IsReachable.passes_inside (hw : w.IsReachable) {s : Scope}
    (ht : w.task? n = some ⟨n, .inside s⟩) :
    w.Passes ⟨w.pool, s.lease ::ₘ (↑s.kept.leases + (w.withoutTask n).custody.leases),
      ↑s.opening?.toList + (w.withoutTask n).custody.openings, 0⟩ := by
  have hrest := Passes.rest hw
  have hopening : PendingJob.opening? (.inside s) = s.opening? :=
    congrArg Holding.opening? (PendingJob.holding_inside s)
  rw [custody_beside hw.tidy ht, hopening] at hrest
  have hleases : (↑(PendingJob.leases (.inside s)) : Multiset Lease) =
      s.lease ::ₘ ↑s.kept.leases := rfl
  rw [Custody.beside, hleases, Multiset.cons_add] at hrest
  exact hrest

/-- **A body that goes on after a wait** is the one that has been waiting, and comes there by moves
beside its lease. -/
theorem Resumes.of_inside {s : Scope} (ht : w.task? n = some ⟨n, .inside s⟩)
    (h : w.Resumes (.poll n) l body kept told p) :
    l = s.lease ∧ body = s.rest ∧ ∀ L O,
      Moves w.now ⟨w.pool, ↑s.kept.leases + L, ↑s.opening?.toList + O, 0⟩
        ⟨p, ↑kept.leases + L, O, 0⟩ := by
  cases h with
  | entered ht' h => cases ht.symm.trans ht'
  | awoken ht' hwake =>
    cases ht.symm.trans ht'
    exact ⟨rfl, rfl, fun L O => Moves.refl.congr (congrArg (Custody.mk w.pool _ · 0) (zero_add O))⟩
  | @answered _ _ kept₀ a _ _ _ _ q _ _ _ ht' h huse =>
    cases ht.symm.trans ht'
    refine ⟨rfl, rfl, fun L O => ?_⟩
    have hpoll : Moves w.now (a.holding.beside w.pool (↑kept₀.leases + L) O) _ :=
      Acquisition.moves_poll w.planFor a
    rw [h] at hpoll
    simpa [Holding.beside, Acquisition.holding, Scope.opening?] using hpoll.trans huse.moves

/-- A body that goes on does so in a state of the run. -/
theorem Resumes.passes (hw : w.IsReachable) (h : w.Resumes e l body kept told p) :
    w.Passes ⟨p, l ::ₘ (↑kept.leases + (w.others e).custody.leases),
      (w.others e).custody.openings, 0⟩ := by
  have hinside {n : Nat} {s : Scope} (ht : w.task? n = some ⟨n, .inside s⟩)
      (h : w.Resumes (.poll n) l body kept told p) :
      w.Passes ⟨p, l ::ₘ (↑kept.leases + (w.withoutTask n).custody.leases),
        (w.withoutTask n).custody.openings, 0⟩ := by
    obtain ⟨rfl, -, hmoves⟩ := h.of_inside ht
    exact (hw.passes_inside ht).moves_beside (hmoves _ _)
  cases h with
  | @called r errors _ _ _ hheld h =>
    have hstart := (Passes.rest hw).moves (Acquisition.moves_start w.planFor r)
    rw [h] at hstart
    exact (zero_add (↑w.heldLeases : Multiset Lease)).symm ▸ Holding.beside_lease l ▸ hstart
  | @entered n a errors _ _ _ ht h =>
    let v := w.withoutTask n
    have hrest := Passes.rest hw
    rw [custody_beside hw.tidy ht] at hrest
    have hpoll : w.Passes (Progress.custody Acquisition.holding Acquired.holding v.custody.leases
        v.custody.openings (Acquisition.poll w.planFor w.pool w.now a)) :=
      hrest.moves (Acquisition.moves_poll w.planFor a)
    rw [h] at hpoll
    exact (zero_add v.custody.leases).symm ▸ Holding.beside_lease l ▸ hpoll
  | awoken ht hwake => exact hinside ht (.awoken ht hwake)
  | answered ht h huse => exact hinside ht (.answered ht h huse)

/-- **A body comes to a point by moves** beside its lease, from where it goes on in the event. -/
theorem BodyAt.exists_resumes (h : w.BodyAt e l body kept told p) :
    ∃ body₀ kept₀ told₀ p₀, w.Resumes e l body₀ kept₀ told₀ p₀ ∧ body₀.ending = body.ending ∧
      ∀ L O, Moves w.now ⟨p₀, ↑kept₀.leases + L, O, 0⟩ ⟨p, ↑kept.leases + L, O, 0⟩ := by
  induction h with
  | resumes h => exact ⟨_, _, _, _, h, rfl, fun L O => .refl⟩
  | does h hstep ih =>
    obtain ⟨body₀, kept₀, told₀, p₀, hresumes, hending, hmoves⟩ := ih
    exact ⟨body₀, kept₀, told₀, p₀, hresumes, hending, fun L O => (hmoves L O).trans hstep.moves⟩

/-- **An event leads a body through states of the run.** -/
theorem BodyAt.passes (hw : w.IsReachable) (h : w.BodyAt e l body kept told p) :
    w.Passes ⟨p, l ::ₘ (↑kept.leases + (w.others e).custody.leases),
      (w.others e).custody.openings, 0⟩ := by
  obtain ⟨body₀, kept₀, told₀, p₀, hresumes, -, hmoves⟩ := h.exists_resumes
  exact (hresumes.passes hw).moves_beside (hmoves _ _)

/-- A body that waits for an acquire has its lease beside what the acquire has. -/
theorem IsReachable.passes_acquiring (hw : w.IsReachable) {a : Acquisition} {use : LeaseUse}
    {rest : Body}
    (ht : w.task? n = some ⟨n, .inside ⟨l, kept, .acquiring a use, rest, told⟩⟩) :
    let s := a.holding.beside w.pool (↑kept.leases + (w.withoutTask n).custody.leases)
      (w.withoutTask n).custody.openings
    w.Passes { s with leases := l ::ₘ s.leases } := by
  have hinside := hw.passes_inside ht
  simpa [Holding.beside, Acquisition.holding, Scope.opening?] using hinside

/-- An acquire that crashes in a body leaves a state of the run. -/
theorem Breaks.passes (hw : w.IsReachable) (h : w.Breaks e l r text kept brink q) :
    w.Passes ⟨q, l ::ₘ (↑kept.leases + (w.others e).custody.leases),
      (w.others e).custody.openings, 0⟩ := by
  let v := w.others e
  cases h with
  | @called _ _ _ _ _ _ p _ _ hat h =>
    have hstart : Moves w.now ⟨p, ↑kept.leases + v.custody.leases, v.custody.openings, 0⟩ _ :=
      Acquisition.moves_start w.planFor r
    rw [h] at hstart
    exact (hat.passes hw).moves_beside (hstart.congr Holding.beside_none)
  | @polled n _ a use rest told _ _ he ht h =>
    subst he
    have hpoll : Moves w.now
        (a.holding.beside w.pool (↑kept.leases + v.custody.leases) v.custody.openings) _ :=
      Acquisition.moves_poll w.planFor a
    rw [h] at hpoll
    exact (hw.passes_acquiring ht).moves_beside (hpoll.congr Holding.beside_none)

/-! ### Crashes -/

/-- What is answered when a body crashed is the end of its job. -/
theorem eq_of_conclude {ticket ticket' : Nat}
    (h : (w.conclude ticket result).1 = .finished ticket' (.concluded c)) :
    result = .concluded c := by
  cases result <;> cases h
  rfl

/-- Only the turn of a task brings a scope to its end. -/
theorem hasGone_of_answer (h : (w.step e).1 = .finished n (.concluded c)) :
    ∃ q, w.HasGone e (.finished (.concluded c), q) := by
  cases e with
  | start job =>
    simp only [step, ifHeld] at h
    split at h
    · rename_i hheld
      simp only [startTask] at h
      rcases hj : job.start w.planFor w.pool w.now with ⟨job' | r, q⟩ <;> rw [hj] at h
      · cases h
      · obtain rfl := eq_of_conclude h
        cases h
        exact ⟨q, hj ▸ .started hheld⟩
    · cases h
  | poll ticket =>
    simp only [step, pollTask] at h
    cases ht : w.task? ticket with
    | none =>
      rw [ht] at h
      cases h
    | some t =>
      rw [ht] at h
      dsimp only at h
      rcases hj : t.job.poll w.planFor w.pool w.now with ⟨job | r, q⟩ <;> rw [hj] at h
      · cases h
      · obtain rfl := eq_of_conclude h
        cases h
        exact ⟨q, hj ▸ .polled ht⟩
  | abort ticket =>
    simp only [step, abortTask] at h
    split at h <;> cases h
  | settle label disposal =>
    simp only [step, settleLease] at h
    split at h <;> cases h
  | command c =>
    simp only [step, ifHeld] at h
    split at h <;> cases h
  | flags connection closed broken failClose =>
    simp only [step, setFlags] at h
    split at h <;> cases h
  | spawnPruner label every =>
    simp only [step, ifHeld] at h
    split at h <;> cases h
  | abortPruner label =>
    simp only [step, abortPruner] at h
    split at h <;> cases h
  | askPruner label =>
    simp only [step, askPruner] at h
    split at h <;> cases h
  | letGo =>
    simp only [step, ifHeld] at h
    split at h <;> cases h
  | _ => cases h

/-- A turn of a body in which it has crashed came to its end, or to an acquire that crashed. -/
theorem Sojourn.crashed {ending : Ending} {I : Custody → Prop} {L : Multiset Lease}
    {O : Multiset Opening}
    (h : w.Sojourn e l ending I L O (.finished (.concluded (.crashed text)), q)) :
    (∃ kept told p, w.BodyAt e l ⟨[], .crash text⟩ kept told p) ∨
      ∃ r kept brink p, w.Breaks e l r text kept brink p := by
  generalize hx : ((.finished (.concluded (.crashed text)), q) :
    Progress PendingJob JobResult × Pool) = x at h
  cases h with
  | waits hlease hending h => cases hx
  | @ends kept told p hat h =>
    cases ending <;> cases hx
    exact .inl ⟨kept, told, p, hat⟩
  | breaks hbreaks h =>
    cases hx
    exact .inr ⟨_, _, _, _, hbreaks⟩

/-- A body that begins, and crashes in the same event. -/
theorem Resumes.crashed (h : w.Resumes e l body {} [] p)
    (hx : Job.enter.proceed (Scope.run w.planFor w.now l body.ending body.steps {} [] p) =
      (.finished (.concluded (.crashed text)), q)) :
    (∃ kept told p, w.BodyAt e l ⟨[], .crash text⟩ kept told p) ∨
      ∃ r kept brink p, w.Breaks e l r text kept brink p := by
  have hturn : w.Sojourn e l body.ending (fun _ => True) 0 0 _ :=
    sojourn_run (fun _ _ => trivial) (.resumes h) trivial
  rw [hx] at hturn
  exact hturn.crashed

/-- **A scope crashes** only when its body comes to such an end, or an acquire in it crashes. -/
theorem crashed_of_answer (h : (w.step e).1 = .finished n (.concluded (.crashed text))) :
    ∃ l, (∃ kept told p, w.BodyAt e l ⟨[], .crash text⟩ kept told p) ∨
      ∃ r kept brink p, w.Breaks e l r text kept brink p := by
  obtain ⟨q, hgone⟩ := hasGone_of_answer h
  generalize hx : ((.finished (.concluded (.crashed text)), q) :
    Progress PendingJob JobResult × Pool) = x at hgone
  cases hgone with
  | @started job hheld =>
    cases job with
    | lease r label =>
      rcases hcall : Acquisition.start w.planFor w.pool w.now r with ⟨_ | _ | _ | _, p⟩ <;>
        rw [Job.start, hcall] at hx <;> cases hx
    | scope r errors body =>
      rcases hcall : Acquisition.start w.planFor w.pool w.now r with ⟨_ | l | _ | _, p⟩ <;>
        rw [Job.start, hcall] at hx
      · cases hx
      · exact ⟨l, Resumes.crashed (.called hheld hcall) hx.symm⟩
      · cases hx
      · cases hx
  | @polled n t ht =>
    obtain ⟨n', job⟩ := t
    obtain rfl : n' = n := (task?_eq_some ht).2
    cases job with
    | leasing a label =>
      rcases hcall : Acquisition.poll w.planFor w.pool w.now a with ⟨_ | _ | _ | _, p⟩ <;>
        rw [PendingJob.poll, hcall] at hx <;> cases hx
    | entering a errors body =>
      rcases hcall : Acquisition.poll w.planFor w.pool w.now a with ⟨_ | l | _ | _, p⟩ <;>
        rw [PendingJob.poll, hcall] at hx
      · cases hx
      · exact ⟨l, Resumes.crashed (.entered ht hcall) hx.symm⟩
      · cases hx
      · cases hx
    | inside s =>
      have hturn : w.Sojourn (.poll n') s.lease s.rest.ending (fun _ => True) 0 0 _ :=
        sojourn_poll (fun _ _ => trivial) rfl ht trivial
      rw [PendingJob.poll] at hx
      rw [← hx] at hturn
      exact ⟨s.lease, hturn.crashed⟩

end World

end KeyedPool
