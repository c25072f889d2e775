import KeyedPool.Beat

/-!
# Sessions

A session carries out operations on a pool one by one and reports on each: what came of it,
which tasks ended meanwhile, what the log and the outside have seen, and how the pool stands.
Tasks go by names, and an operation without a name is waited for.

A report must not depend on the order in which the table happened to be walked. Connections that
leave in one walk are closed in the order of that walk, so closings that follow each other are put
in the order of their numbers, and log lines in the order of their texts.

* `KeyedPool.Operation`: what a session can be asked to do.
* `KeyedPool.Report`: what it tells afterwards.
* `KeyedPool.Session.perform`: carrying out an operation.
* `KeyedPool.inCloseOrder`: events with every block of closings in the order of the connections.
-/

namespace KeyedPool

/-- What a session can be asked to do. -/
inductive Operation where
  /-- Let some milliseconds pass. -/
  | advance (ms : Nat)
  /-- Acquire a lease and keep it under a label; the pool's own connection if no request is
  given. -/
  | acquire (r : Option Request) (label : String) (task : Option String)
  /-- Run a body in a scope; with the pool's own connection if no request is given. -/
  | scope (r : Option Request) (errors : ErrorKind) (body : Body) (task : Option String)
  /-- Tear a task down. -/
  | abort (task : String)
  /-- Show the lease under a label. -/
  | lease (label : String)
  /-- Show the settings of the pool. -/
  | settings
  /-- Let something happen. -/
  | event (e : Event)

/-- What came of an operation. -/
inductive Answer where
  /-- The answer to an event. -/
  | response (r : Response)
  /-- A task goes on in the background. -/
  | pending
  /-- The result of a task that was waited for. -/
  | result (r : JobResult)
  /-- A task was waited for in vain. -/
  | stuck
  /-- A lease with its connection. -/
  | lease (l : Lease) (h : Handle)
  /-- The settings of the pool. -/
  | settings (s : PoolSettings)

/-- How a pool stands. -/
structure Standing where
  /-- How many databases are tracked. -/
  size : Nat
  /-- The slots of the databases that the session has heard of, by name. -/
  slots : List (String × Slot)
  /-- The counters. -/
  counters : Counters

/-- What a session tells after an operation. -/
structure Report where
  /-- The clock, in milliseconds. -/
  clock : Nat
  /-- What came of the operation. -/
  answer : Answer
  /-- What the outside has seen since the last report. -/
  events : List OutsideEvent
  /-- The named tasks that have ended since the last report. -/
  done : List (String × JobResult)
  /-- What was logged since the last report. -/
  log : List String
  /-- How the pool stands, while the program holds it. -/
  standing : Option Standing

/-- A session with a pool. -/
structure Session where
  /-- The pool and its users. -/
  world : World
  /-- The numbers of the tasks that have a name. -/
  names : List (String × Nat) := []
  /-- The databases that the session has heard of. -/
  known : List String := []
  /-- How much of the history was reported. -/
  reported : Nat := 0
deriving Inhabited

/-! ### The order of a report -/

/-- A closing among others, ordered by the number of the connection. -/
def insertClose (connection : Nat) (success : Bool) :
    List (Nat × Bool) → List (Nat × Bool)
  | [] => [(connection, success)]
  | c :: cs =>
    if connection < c.1 then (connection, success) :: c :: cs
    else c :: insertClose connection success cs

/-- The events of a block of closings. -/
def closeBlock (block : List (Nat × Bool)) : List OutsideEvent :=
  block.map fun c => .close c.1 c.2

/-- **Events with every block of consecutive closings in the order of the connections**, after a
block that was begun before. The order within a block depends on how the table was walked. -/
def inCloseOrderFrom (block : List (Nat × Bool)) : List OutsideEvent → List OutsideEvent
  | [] => closeBlock block
  | .close connection success :: es => inCloseOrderFrom (insertClose connection success block) es
  | e :: es => closeBlock block ++ e :: inCloseOrderFrom [] es

/-- Events with every block of consecutive closings in the order of the connections. -/
def inCloseOrder (es : List OutsideEvent) : List OutsideEvent := inCloseOrderFrom [] es

namespace Session

/-- A session with a fresh pool. -/
def init (settings : PoolSettings) (driven : Bool) : Session where
  world := .init settings driven
  known := [settings.database]

/-- For how many beats a task is waited for. -/
def patience : Nat := 200000

/-- The session having heard of a database. -/
def hear (s : Session) (database : String) : Session :=
  if s.known.contains database then s else { s with known := database :: s.known }

/-- The results of tasks that have a name, by that name. -/
def named (s : Session) (ended : List (Nat × JobResult)) : List (String × JobResult) :=
  ended.filterMap fun e => (s.names.find? (·.2 == e.1)).map fun n => (n.1, e.2)

/-- Starts a job. Without a name it is waited for. -/
def start (s : Session) (job : Job) (task : Option String) :
    Answer × List (String × JobResult) × Session :=
  match s.world.step (.start job) with
  | (.pending ticket, w) =>
    match task with
    | some name => (.pending, [], { s with world := w, names := (name, ticket) :: s.names })
    | none =>
      let waited := w.wait ticket patience
      let s := { s with world := waited.2 }
      match waited.1.find? (·.1 == ticket) with
      | some e => (.result e.2, s.named waited.1, s)
      | none => (.stuck, s.named waited.1, s)
  | (.finished _ r, w) => (.result r, [], { s with world := w })
  | (r, w) => (.response r, [], { s with world := w })

/-- Carries out an operation; tells what came of it and which named tasks ended meanwhile. -/
def act (s : Session) : Operation → Answer × List (String × JobResult) × Session
  | .advance ms =>
    let passed := s.world.beats ms
    (.response .done, s.named passed.1, { s with world := passed.2 })
  | .acquire r label task =>
    s.start (.lease (r.getD s.world.pool.settings.mainRequest) label) task
  | .scope r errors body task =>
    s.start (.scope (r.getD s.world.pool.settings.mainRequest) errors body) task
  | .abort task =>
    match s.names.find? fun n => n.1 == task && (s.world.task? n.2).isSome with
    | none => (.response .noTask, [], s)
    | some n =>
      let answer := s.world.step (.abort n.2)
      (.response answer.1, [], { s with world := answer.2 })
  | .lease label =>
    match s.world.leases.find? label with
    | none => (.response .noLease, [], s)
    | some l =>
      match s.world.pool.handles[l.connection]? with
      | none => (.response .noConnection, [], s)
      | some h => (.lease l h, [], s)
  | .settings =>
    if s.world.held then (.settings s.world.pool.settings, [], s) else (.response .noPool, [], s)
  | .event e =>
    let answer := s.world.step e
    (.response answer.1, [], { s with world := answer.2 })

/-- How the pool stands. -/
def standing (s : Session) : Standing where
  size := s.world.pool.table.size
  slots := (sortTexts s.known).filterMap fun name =>
    (s.world.pool.table.find? name).map (name, ·)
  counters := s.world.pool.counters

/-- The entries of the history that were not reported, the earliest first. -/
def news (s : Session) : List Entry :=
  (s.world.pool.history.take (s.world.pool.history.length - s.reported)).reverse

/-- **Carries out an operation and reports on it.** -/
def perform (s : Session) (o : Operation) : Report × Session :=
  let outcome := s.act o
  let s := outcome.2.2
  let news := s.news
  ({ clock := s.world.clock
     answer := outcome.1
     events := inCloseOrder (news.filterMap Entry.event?)
     done := outcome.2.1
     log := LogLine.sorted (news.filterMap Entry.log?)
     standing := if s.world.held then some s.standing else none },
    { s with reported := s.world.pool.history.length })

end Session

end KeyedPool
