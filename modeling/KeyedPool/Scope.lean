import KeyedPool.Acquisition
import KeyedPool.Command
import KeyedPool.Document
import KeyedPool.LeaseBook

/-!
# Scopes

A scope runs a body with a lease and ends the lease on every way out: released when the body
ends, but cancelled when it ends with an interruption or is torn down.

A body is laid down as a list of steps, so that it can do whatever a caller might: wait, spoil its
own connection, lease others and keep them over its waits, or do something to the pool that its
lease comes from. What the steps told comes back with the end. A crash anywhere in the body, in a
nested acquire too, tears down the whole task and loses what was told.

The leases that a body keeps are its own: what it has not ended by its end is lost there, the latest
first, and only then does the lease of the scope end.

* `KeyedPool.ScopeError`: what a body may fail with, a pool error or a failure of any kind.
* `KeyedPool.LeaseUse`: what a body does with another lease.
* `KeyedPool.Body`: the steps of a body, and how it ends.
* `KeyedPool.Scope`: a body that waits in the middle.
* `KeyedPool.Scope.run`, `KeyedPool.Scope.poll`: driving a body that has its lease.
* `KeyedPool.Scope.abandon`: tearing it down.
-/

namespace KeyedPool

/-! ### What a body fails with -/

/-- The kind of errors that a scope has. -/
inductive ErrorKind where
  /-- Pool errors. -/
  | pool
  /-- Failures of any kind. -/
  | any
deriving DecidableEq

/-- An error of a scope. -/
inductive ScopeError where
  /-- A pool error. -/
  | pool (e : PoolError)
  /-- A failure of any kind. -/
  | any (f : Failure)

/-- A pool error as an error of a kind. -/
def ErrorKind.ofPoolError : ErrorKind → PoolError → ScopeError
  | .pool, e => .pool e
  | .any, e => .any (.pool e)

/-- Whether an error means that the operation was cancelled. -/
def ScopeError.isInterruption : ScopeError → Bool
  | .pool e => e.isInterruption
  | .any f => f.isInterruption

/-! ### Bodies -/

/-- What a body does with another lease. -/
inductive LeaseUse where
  /-- It ends the lease at once. -/
  | ended (disposal : Disposal)
  /-- It keeps the lease under a label. -/
  | kept (label : String)

instance : Coe Disposal LeaseUse := ⟨.ended⟩

/-- One step of a body. -/
inductive BodyStep where
  /-- Wait for some milliseconds. -/
  | sleep (ms : Nat)
  /-- The connection reports itself broken from now on. -/
  | breakConnection
  /-- The connection is closed by its peer. -/
  | hangUp
  /-- Look at the connection. -/
  | inspect
  /-- Lease another connection. -/
  | acquire (r : Request) (use : LeaseUse)
  /-- End the lease that is kept under a label, if there is one. -/
  | settle (label : String) (disposal : Disposal)
  /-- Do something to the pool. -/
  | command (c : Command)

/-- How a body ends. -/
inductive Ending where
  /-- With a value. -/
  | value (value : Document)
  /-- With an error. -/
  | error (e : ScopeError)
  /-- Its task is torn down. -/
  | crash (text : String)

/-- A body: its steps, and how it ends. -/
structure Body where
  /-- What it does. -/
  steps : List BodyStep
  /-- How it ends. -/
  ending : Ending

/-- What a body waits for. -/
inductive Pause where
  /-- For an instant. -/
  | asleep (wake : Instant)
  /-- For a connection, with whose lease it does as given. -/
  | acquiring (a : Acquisition) (use : LeaseUse)

/-- A body that waits in the middle. -/
structure Scope where
  /-- The lease of the scope. -/
  lease : Lease
  /-- The leases that the body keeps besides. -/
  kept : LeaseBook := {}
  /-- What it waits for. -/
  pause : Pause
  /-- What it does afterwards, and how it ends. -/
  rest : Body
  /-- What its steps have told so far, the latest first. -/
  told : List Reply

/-- How a scope ends. -/
inductive Concluded where
  /-- With a value, and what the steps told. -/
  | value (value : Document) (told : List Reply)
  /-- With an error, and what the steps told. -/
  | error (e : ScopeError) (told : List Reply)
  /-- Its task is torn down. -/
  | crashed (text : String)

namespace Scope

/-- The leases that a body holds while it waits. -/
def leases (s : Scope) : List Lease := s.lease :: s.kept.leases

/-- **The body ends**, and with it every lease that it has. -/
def conclude (p : Pool) (l : Lease) (kept : LeaseBook) (told : List Reply) :
    Ending → Concluded × Pool
  | .value value => (.value value told.reverse, (kept.dropAll p).settle l .release)
  | .error e =>
    (.error e told.reverse,
      (kept.dropAll p).settle l (if e.isInterruption then .cancel else .release))
  | .crash text => (.crashed text, (kept.dropAll p).settle l .drop)

/-- What becomes of a nested acquire, once it ended: its lease is ended or kept, and it is told
how it went. A crash is passed on. -/
def nested (p : Pool) (kept : LeaseBook) (use : LeaseUse) :
    Acquired → Except String (Reply × LeaseBook) × Pool
  | .lease l =>
    match use with
    | .ended disposal => (.ok (.leased l.connection, kept), p.settle l disposal)
    | .kept label =>
      let book := kept.keep label l p
      (.ok (.leased l.connection, book.1), book.2)
  | .failed e => (.ok (.failed e, kept), p)
  | .crashed text => (.error text, p)

/-- The flags of a connection. -/
def inspection (p : Pool) (connection : Nat) : Reply :=
  match p.handles[connection]? with
  | none => .connection connection false false
  | some h => .connection connection h.closed h.broken

/-- **Runs the steps of a body** until one of them has to wait, or to the end. -/
def run (plans : String → ConnectPlan) (now : Instant) (l : Lease) (ending : Ending) :
    List BodyStep → LeaseBook → List Reply → Pool → Progress Scope Concluded × Pool
  | [], kept, told, p =>
    let done := conclude p l kept told ending
    (.finished done.1, done.2)
  | step :: rest, kept, told, p =>
    match step with
    | .sleep ms =>
      (.waiting ⟨l, kept, .asleep (now.plus (.ofMillis ms)), ⟨rest, ending⟩, told⟩, p)
    | .breakConnection =>
      run plans now l ending rest kept (.done :: told)
        (p.modifyHandle l.connection fun h => { h with broken := true })
    | .hangUp =>
      run plans now l ending rest kept (.done :: told)
        (p.modifyHandle l.connection fun h => { h with closed := true })
    | .inspect => run plans now l ending rest kept (inspection p l.connection :: told) p
    | .command c =>
      let answer := p.execute now c
      run plans now l ending rest kept (answer.1 :: told) answer.2
    | .settle label disposal =>
      match kept.settle? label disposal p with
      | none => run plans now l ending rest kept (.done :: told) p
      | some (kept, p) => run plans now l ending rest kept (.done :: told) p
    | .acquire r use =>
      match Acquisition.start plans p now r with
      | (.waiting a, p) => (.waiting ⟨l, kept, .acquiring a use, ⟨rest, ending⟩, told⟩, p)
      | (.finished acquired, p) =>
        match nested p kept use acquired with
        | (.ok (reply, kept), p) => run plans now l ending rest kept (reply :: told) p
        | (.error text, p) => (.finished (.crashed text), (kept.dropAll p).settle l .drop)

/-- **A poll of a body that waits.** -/
def poll (plans : String → ConnectPlan) (p : Pool) (now : Instant) (s : Scope) :
    Progress Scope Concluded × Pool :=
  match s.pause with
  | .asleep wake =>
    if now < wake then (.waiting s, p)
    else run plans now s.lease s.rest.ending s.rest.steps s.kept (.done :: s.told) p
  | .acquiring a use =>
    match Acquisition.poll plans p now a with
    | (.waiting a, p) => (.waiting { s with pause := .acquiring a use }, p)
    | (.finished acquired, p) =>
      match nested p s.kept use acquired with
      | (.ok (reply, kept), p) =>
        run plans now s.lease s.rest.ending s.rest.steps kept (reply :: s.told) p
      | (.error text, p) => (.finished (.crashed text), (s.kept.dropAll p).settle s.lease .drop)

/-- **A body is torn down while it waits:** first what it waits for, then its leases. -/
def abandon (p : Pool) (s : Scope) : Pool :=
  let p :=
    match s.pause with
    | .asleep _ => p
    | .acquiring a _ => Acquisition.abandon p a
  (s.kept.dropAll p).settle s.lease .drop

end Scope

end KeyedPool
