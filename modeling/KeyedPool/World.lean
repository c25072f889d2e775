import KeyedPool.Job
import KeyedPool.Pruner

/-!
# A pool among its users

A pool is used by many tasks at once, each of which runs until it has to wait. A world holds a pool
with its clock, the leases that callers keep, the tasks that wait and the pruners in the background.
Everything that may happen is an event; a run is a list of events in any order.

Nothing happens in between: what a task does from one wait to the next is one event, since no other
task can act meanwhile. So the events are exactly the points at which tasks may be interleaved, and
a law about every run is a law about every interleaving. Whether a task is due is decided inside
its own turn, so a turn that comes too early changes nothing, and a run need not be fair.

A lease lives in one of two places: under the label of a caller, or inside the body of a task that
waits, be it the lease of the scope or one that the body keeps. `KeyedPool.World.heldLeases` gathers
them all. A connection that is being opened belongs to the acquire that opens it, and
`KeyedPool.World.acquisitions` gathers those.

* `KeyedPool.World`: the state.
* `KeyedPool.Event`: what may happen next.
* `KeyedPool.World.step`: what an event does, and what is answered.
* `KeyedPool.World.run`: a list of events, one after the other.
* `KeyedPool.World.IsReachable`: whether a world can come about from a fresh pool.
* `KeyedPool.World.heldLeases`, `KeyedPool.World.acquisitions`: the leases that have not ended, and
  the acquires that wait.
-/

namespace KeyedPool

/-- A task that waits. -/
structure Task where
  /-- The number under which it was started. -/
  ticket : Nat
  /-- What it does. -/
  job : PendingJob

/-- A pool among its users. -/
structure World where
  /-- The pool. -/
  pool : Pool
  /-- The clock, in whole milliseconds. -/
  clock : Nat := 0
  /-- What opening a connection does, by database; the latest plan counts. -/
  plans : List (String × ConnectPlan) := []
  /-- The leases that callers keep. -/
  leases : LeaseBook := {}
  /-- The tasks that wait, in the order in which they were started. -/
  tasks : List Task := []
  /-- The number of the next task. -/
  nextTicket : Nat := 0
  /-- The pruners in the background. -/
  pruners : List Pruner := []
  /-- Whether the program still holds the pool. -/
  held : Bool := true
deriving Inhabited

/-- What may happen next. -/
inductive Event where
  /-- The clock moves on by a millisecond. -/
  | tick
  /-- The pruner at a position gets its turn. -/
  | sweep (position : Nat)
  /-- The task with a number gets its turn. -/
  | poll (ticket : Nat)
  /-- A task is started and runs until it has to wait. -/
  | start (job : Job)
  /-- A task is torn down while it waits. -/
  | abort (ticket : Nat)
  /-- The lease under a label is ended. -/
  | settle (label : String) (disposal : Disposal)
  /-- The pool is asked for something that is answered at once. -/
  | command (c : Command)
  /-- Opening a connection to a database does something else from now on. -/
  | plan (database : String) (plan : ConnectPlan)
  /-- The flags of a connection change. -/
  | flags (connection : Nat) (closed broken failClose : Option Bool)
  /-- A pruner is started. -/
  | spawnPruner (label : String) (every : Duration)
  /-- A pruner is stopped. -/
  | abortPruner (label : String)
  /-- Somebody asks how a pruner stands; one that has ended is forgotten. -/
  | askPruner (label : String)
  /-- The program lets go of the pool. -/
  | letGo

/-- What is answered to an event. -/
inductive Response where
  /-- It is done. -/
  | done
  /-- A command was carried out. -/
  | reply (r : Reply)
  /-- A task waits. -/
  | pending (ticket : Nat)
  /-- A task has ended. -/
  | finished (ticket : Nat) (r : JobResult)
  /-- How a pruner stands. -/
  | pruner (state : PrunerState)
  /-- The flags of a connection. -/
  | handle (h : Handle)
  /-- There is no such connection. -/
  | noConnection
  /-- There is no lease under the label. -/
  | noLease
  /-- There is no such task. -/
  | noTask
  /-- There is no pruner under the label. -/
  | noPruner
  /-- The program has let go of the pool. -/
  | noPool

namespace World

/-- The time on the clock. -/
def now (w : World) : Instant := .ofMillis w.clock

/-- What opening a connection to a database does. -/
def planFor (w : World) (database : String) : ConnectPlan :=
  (w.plans.lookup database).getD {}

/-- Whether anybody can still use the pool: the program, a lease, or a task that waits. -/
def isAlive (w : World) : Bool := w.held || !w.leases.entries.isEmpty || !w.tasks.isEmpty

/-- The leases that have not ended: those that callers keep, and those of the bodies that wait. -/
def heldLeases (w : World) : List Lease :=
  w.leases.leases ++ w.tasks.flatMap fun t => t.job.leases

/-- The acquires that wait. -/
def acquisitions (w : World) : List Acquisition :=
  w.tasks.filterMap fun t => t.job.acquisition?

/-- A world around a fresh pool. A pruner is started if the settings ask for it and there is
anything that could drive it. -/
def init (settings : PoolSettings) (driven : Bool) (enumeration : Enumeration := .stored) :
    World :=
  let pool : Pool := { settings, enumeration }
  match settings.prunePeriod? with
  | none => { pool }
  | some every =>
    if driven then { pool, pruners := [.start none (.ofMillis 0) every] }
    else { pool := pool.note .noScheduler }

/-! ### Leases that callers keep -/

/-- Keeps a lease under a label. A lease that was kept under it before is lost. -/
def keepLease (w : World) (label : String) (l : Lease) : World :=
  let book := w.leases.keep label l w.pool
  { w with leases := book.1, pool := book.2 }

/-- Ends the lease under a label. -/
def settleLease (w : World) (label : String) (disposal : Disposal) : Response × World :=
  match w.leases.settle? label disposal w.pool with
  | none => (.noLease, w)
  | some book => (.done, { w with leases := book.1, pool := book.2 })

/-! ### Tasks -/

/-- What becomes of the result of a job: a lease is kept. -/
def conclude (w : World) (ticket : Nat) (r : JobResult) : Response × World :=
  match r with
  | .leased l label => (.finished ticket r, w.keepLease label l)
  | _ => (.finished ticket r, w)

/-- Starts a task. -/
def startTask (w : World) (job : Job) : Response × World :=
  let ticket := w.nextTicket
  let w' := { w with nextTicket := ticket + 1 }
  match job.start w.planFor w.pool w.now with
  | (.waiting job, p) =>
    (.pending ticket, { w' with pool := p, tasks := w.tasks ++ [⟨ticket, job⟩] })
  | (.finished r, p) => { w' with pool := p }.conclude ticket r

/-- The task with a number. -/
def task? (w : World) (ticket : Nat) : Option Task := w.tasks.find? (·.ticket == ticket)

/-- The world without a task. -/
def withoutTask (w : World) (ticket : Nat) : World :=
  { w with tasks := w.tasks.filter (·.ticket != ticket) }

/-- Gives a task its turn. -/
def pollTask (w : World) (ticket : Nat) : Response × World :=
  match w.task? ticket with
  | none => (.noTask, w)
  | some t =>
    match t.job.poll w.planFor w.pool w.now with
    | (.waiting job, p) =>
      (.pending ticket,
        { w with
          pool := p
          tasks := w.tasks.map fun u => if u.ticket = ticket then ⟨ticket, job⟩ else u })
    | (.finished r, p) => ({ w with pool := p }.withoutTask ticket).conclude ticket r

/-- Tears a task down. -/
def abortTask (w : World) (ticket : Nat) : Response × World :=
  match w.task? ticket with
  | none => (.noTask, w)
  | some t => (.done, { w with pool := t.job.abandon w.pool }.withoutTask ticket)

/-! ### Pruners -/

/-- Gives the pruner at a position its turn. It ends when nobody can use the pool any more. -/
def sweep (w : World) (position : Nat) : World :=
  match w.pruners[position]? with
  | none => w
  | some r =>
    if r.isDue w.now then
      if w.isAlive then
        { w with
          pool := (w.pool.prune w.now).2
          pruners := w.pruners.set position (r.next w.now) }
      else
        { w with
          pool := w.pool.note .prunerStopped
          pruners := w.pruners.set position { r with state := .finished } }
    else w

/-- Starts a pruner. One that had the label before goes on without it. -/
def spawnPruner (w : World) (label : String) (every : Duration) : World :=
  let others := w.pruners.map fun r => if r.label = some label then { r with label := none } else r
  { w with pruners := others ++ [.start (some label) w.now every] }

/-- The pruner with a label. -/
def pruner? (w : World) (label : String) : Option Pruner :=
  w.pruners.find? (·.label == some label)

/-- Stops the pruner with a label, if it still runs. -/
def abortPruner (w : World) (label : String) : Response × World :=
  match w.pruner? label with
  | none => (.noPruner, w)
  | some _ =>
    let stop (r : Pruner) : Pruner :=
      if r.label = some label ∧ r.state = .running then { r with state := .aborted } else r
    (.done, { w with pruners := w.pruners.map stop })

/-- Tells how the pruner with a label stands, and forgets it once it has ended. -/
def askPruner (w : World) (label : String) : Response × World :=
  match w.pruner? label with
  | none => (.noPruner, w)
  | some r =>
    (.pruner r.state,
      if r.state = .running then w
      else { w with pruners := w.pruners.filter (·.label != some label) })

/-! ### Connections -/

/-- Changes the flags of a connection. -/
def setFlags (w : World) (connection : Nat) (closed broken failClose : Option Bool) :
    Response × World :=
  match w.pool.handles[connection]? with
  | none => (.noConnection, w)
  | some h =>
    (.handle (h.setFlags closed broken failClose),
      { w with pool := w.pool.modifyHandle connection (·.setFlags closed broken failClose) })

/-! ### Runs -/

/-- Does something that needs the pool, unless the program has let go of it. -/
def ifHeld (w : World) (act : Response × World) : Response × World :=
  if w.held then act else (.noPool, w)

/-- **What an event does, and what is answered.** -/
def step (w : World) : Event → Response × World
  | .tick => (.done, { w with clock := w.clock + 1 })
  | .sweep position => (.done, w.sweep position)
  | .poll ticket => w.pollTask ticket
  | .start job => w.ifHeld (w.startTask job)
  | .abort ticket => w.abortTask ticket
  | .settle label disposal => w.settleLease label disposal
  | .command c =>
    w.ifHeld (let answer := w.pool.execute w.now c; (.reply answer.1, { w with pool := answer.2 }))
  | .plan database plan => (.done, { w with plans := (database, plan) :: w.plans })
  | .flags connection closed broken failClose => w.setFlags connection closed broken failClose
  | .spawnPruner label every => w.ifHeld (.done, w.spawnPruner label every)
  | .abortPruner label => w.abortPruner label
  | .askPruner label => w.askPruner label
  | .letGo => w.ifHeld (.done, { w with held := false })

/-- **A run:** events one after the other, with what is answered to each. -/
def run (w : World) : List Event → List Response × World
  | [] => ([], w)
  | e :: es =>
    let first := w.step e
    let others := first.2.run es
    (first.1 :: others.1, others.2)

/-- The world after a run. -/
def after (w : World) (events : List Event) : World := (w.run events).2

@[simp] theorem after_nil (w : World) : w.after [] = w := rfl

@[simp] theorem after_cons (w : World) (e : Event) (es : List Event) :
    w.after (e :: es) = (w.step e).2.after es := rfl

/-- Whether a world can come about from a fresh pool. -/
def IsReachable (w : World) : Prop :=
  ∃ settings driven enumeration events,
    w = (World.init settings driven enumeration).after events

/-- A run in two parts. -/
theorem after_append (w : World) (xs ys : List Event) :
    w.after (xs ++ ys) = (w.after xs).after ys := by
  induction xs generalizing w with
  | nil => rfl
  | cons e es ih => exact ih _

/-- A run leads from one world that can come about to another. -/
theorem IsReachable.after {w : World} (h : w.IsReachable) (events : List Event) :
    (w.after events).IsReachable := by
  obtain ⟨settings, driven, enumeration, before, rfl⟩ := h
  exact ⟨settings, driven, enumeration, before ++ events, (after_append _ _ _).symm⟩

end World

end KeyedPool
