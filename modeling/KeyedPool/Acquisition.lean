import KeyedPool.LeaseOptions
import KeyedPool.Pool.Admission
import KeyedPool.Pool.Leasing
import KeyedPool.Pool.Upkeep

/-!
# Acquisitions

An acquire may have to wait: for admission, for its connection to be opened, and for the startup
hook of a fresh connection. An acquisition is what has become of an acquire so far. It is driven
by polls: each goes as far as it can at the time of the clock, and either ends the acquire or
leaves it waiting until some instant.

The stage tells what the acquire owns. While it is queued it owns nothing, and giving it up leaves
the pool alone. From its admission on it owns the place of its database in the table, and once the
connection is there it owns that too, until both become a record under its lease. So an acquire that
was admitted gives its place back, or gives it back and closes its connection, or publishes the
connection. A deadline beyond the horizon of the clock is the exception: publishing comes too late
to undo anything, and both are lost with the task.

* `KeyedPool.Request`: what an acquire asks for.
* `KeyedPool.Acquisition`: an acquire that waits.
* `KeyedPool.Acquired`: how an acquire ends.
* `KeyedPool.Acquisition.start`, `KeyedPool.Acquisition.poll`: driving it.
* `KeyedPool.Acquisition.abandon`: giving it up.
-/

namespace KeyedPool

/-- What an acquire asks for. -/
structure Request extends LeaseOptions where
  /-- The database. -/
  database : String
  /-- How long the connection lives when it is idle. -/
  ttl : Duration

/-- How far an acquire has come. -/
inductive Stage where
  /-- It was refused at some instants, the latest first, and tries again at `wake`. -/
  | queued (refusals : List Instant) (wake : Instant)
  /-- Its connection is being opened until `wake`. -/
  | connecting (plan : ConnectPlan) (wake : Instant)
  /-- The startup hook of its connection runs until `wake`. -/
  | starting (connection : Nat) (hook : HookPlan) (wake : Instant)

/-- An acquire that waits. -/
structure Acquisition where
  /-- What it asks for. -/
  request : Request
  /-- When it was called. -/
  since : Instant
  /-- How far it has come. -/
  stage : Stage

/-- How an acquire ends. -/
inductive Acquired where
  /-- With a lease. -/
  | lease (l : Lease)
  /-- With an error. -/
  | failed (e : PoolError)
  /-- It tears down the task in which it was called. -/
  | crashed (text : String)

/-- Where a poll leaves something that takes time. -/
inductive Progress (σ α : Type) where
  /-- It waits. -/
  | waiting (state : σ)
  /-- It has ended. -/
  | finished (result : α)

/-- The text with which a task is torn down when a deadline lies beyond the horizon. -/
def beyondHorizonText : String := "overflow when adding duration to instant"

/-- How long an acquire waits for admission: as it asks, unless it does not or asks for no time. -/
def PoolSettings.patience (s : PoolSettings) (r : Request) : Duration :=
  (r.timeout.filter (· ≠ .zero)).getD s.acquireTimeout

/-- The request for the pool's own connection. -/
def PoolSettings.mainRequest (s : PoolSettings) : Request where
  database := s.database
  ttl := s.mainTimeToLive
  persistent := true

namespace Acquisition

/-! ### Opening a connection -/

/-- The connection is there and fit for use: it is published under the lease of the acquire. -/
def publish (p : Pool) (now : Instant) (r : Request) (connection : Nat) : Acquired × Pool :=
  match p.publish r.database connection r.ttl r.persistent now with
  | (some l, p) => (.lease l, p)
  | (none, p) => (.crashed beyondHorizonText, p)

/-- The connection will not come: the place is given back. -/
def dropUnopened (p : Pool) (r : Request) : Pool :=
  (p.note (.unconnected r.database)).giveUpOpening r.database

/-- The connection is there but will not be used: the place is given back, and it is closed. -/
def dropOpened (p : Pool) (r : Request) (connection : Nat) : Pool :=
  ((p.giveUpOpening r.database).retire ⟨.abandoned, r.database, connection⟩).2

/-- The time of the startup hook is over. -/
def endHook (p : Pool) (now : Instant) (r : Request) (connection : Nat) (hook : HookPlan) :
    Acquired × Pool :=
  let p := p.modifyHandle connection fun h =>
    { h with broken := h.broken || hook.breaks, closed := h.closed || hook.hangsUp }
  match hook.result with
  | .crash text => (.crashed text, dropOpened p r connection)
  | .fail failure => (.failed (.startup r.database failure), dropOpened p r connection)
  | .done => publish (p.note (.hookFinished connection)) now r connection

/-- The time that opening the connection takes is over. -/
def endConnect (p : Pool) (now : Instant) (r : Request) (plan : ConnectPlan) :
    Progress Stage Acquired × Pool :=
  match plan.result with
  | .crash text => (.finished (.crashed text), dropUnopened p r)
  | .fail failure => (.finished (.failed (.connect r.database failure)), dropUnopened p r)
  | .connected closed broken failClose =>
    -- From here on the connection exists, and not to use it means to close it.
    let connection := p.handles.length
    let fresh : Handle := { database := r.database, closed, broken, failClose }
    let p := ((p.addHandle fresh).note (.connected r.database connection)).tally .opened
    match r.startup with
    | none =>
      let done := publish p now r connection
      (.finished done.1, done.2)
    | some hook =>
      let p := p.note (.hookStarted connection)
      if hook.delay = 0 then
        let done := endHook p now r connection hook
        (.finished done.1, done.2)
      else (.waiting (.starting connection hook (now.plus (.ofMillis hook.delay))), p)

/-- A place is kept: the connection is asked for. -/
def beginConnect (plans : String → ConnectPlan) (p : Pool) (now : Instant) (r : Request) :
    Progress Stage Acquired × Pool :=
  let p := (p.note (.opening r.database)).note (.connecting r.database)
  let plan := plans r.database
  if plan.delay = 0 then endConnect p now r plan
  else (.waiting (.connecting plan (now.plus (.ofMillis plan.delay))), p)

/-! ### Asking for admission -/

/-- The error of an acquire that gives up, decided by its last refusal alone. -/
def refusalError (s : PoolSettings) (r : Request) : Refusal → PoolError
  | .full => .full (s.maxConnections.getD 0) (s.patience r)
  | .busy => .busy r.database (s.patience r)

/-- An attempt was refused: the acquire gives up once its time is over, else it tries again after a
pause that does not go beyond that time. -/
def refuse (p : Pool) (now : Instant) (r : Request) (since : Instant) (refusals : List Instant)
    (why : Refusal) : Progress Stage Acquired × Pool :=
  let elapsed := now.since since
  let patience := p.settings.patience r
  if patience ≤ elapsed then
    (.finished (.failed (refusalError p.settings r why)),
      if why = .full then
        p.note (.gaveUp (p.settings.maxConnections.getD 0) r.database elapsed)
      else p)
  else
    -- The last pause ends with the time of the acquire, so there is one more attempt at its end.
    let pause := p.settings.retryPause.min (patience.minus elapsed)
    (.waiting (.queued (now :: refusals) (now.plus pause)),
      if refusals.isEmpty then p.note (.waiting r.database why) else p)

/-- **One attempt to be admitted**, and all that follows from it at the same time of the clock. -/
def attempt (plans : String → ConnectPlan) (p : Pool) (now : Instant) (r : Request)
    (since : Instant) (refusals : List Instant) : Progress Stage Acquired × Pool :=
  match p.attempt r.database r.ttl now with
  | (.leased connection generation, p) =>
    let lease : Lease := ⟨r.database, generation, connection⟩
    (.finished (.lease lease), p.note (.reused lease now r.ttl))
  | (.reserved, p) => beginConnect plans p now r
  | (.refused why, p) => refuse p now r since refusals why
  | (.beyondHorizon, p) => (.finished (.crashed beyondHorizonText), p)

/-! ### Driving an acquire -/

/-- Puts request and start back to a stage that waits. -/
def resume (r : Request) (since : Instant) :
    Progress Stage Acquired × Pool → Progress Acquisition Acquired × Pool
  | (.waiting stage, p) => (.waiting ⟨r, since, stage⟩, p)
  | (.finished result, p) => (.finished result, p)

/-- **An acquire is called.** What has expired is pruned first, whatever comes of the acquire. -/
def start (plans : String → ConnectPlan) (p : Pool) (now : Instant) (r : Request) :
    Progress Acquisition Acquired × Pool :=
  resume r now (attempt plans (p.prune now).2 now r now [])

/-- When an acquire that waits goes on. -/
def wake (a : Acquisition) : Instant :=
  match a.stage with
  | .queued _ wake => wake
  | .connecting _ wake => wake
  | .starting _ _ wake => wake

/-- **A poll of an acquire that waits.** Nothing happens before its time. -/
def poll (plans : String → ConnectPlan) (p : Pool) (now : Instant) (a : Acquisition) :
    Progress Acquisition Acquired × Pool :=
  if now < a.wake then (.waiting a, p)
  else
    match a.stage with
    | .queued refusals _ =>
      resume a.request a.since (attempt plans p now a.request a.since refusals)
    | .connecting plan _ => resume a.request a.since (endConnect p now a.request plan)
    | .starting connection hook _ =>
      let done := endHook p now a.request connection hook
      (.finished done.1, done.2)

/-- **An acquire is given up while it waits.** A place that it keeps is given back, and a connection
that it has opened is closed. -/
def abandon (p : Pool) (a : Acquisition) : Pool :=
  match a.stage with
  | .queued .. => p
  | .connecting .. => dropUnopened p a.request
  | .starting connection .. => dropOpened p a.request connection

end Acquisition

end KeyedPool
