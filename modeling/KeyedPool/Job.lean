import KeyedPool.Scope

/-!
# Jobs

A job is what a task of a program does with a pool: acquire a lease and keep it, or run a body in a
scope.

* `KeyedPool.Job`: a job to do.
* `KeyedPool.PendingJob`: a job that waits, with the acquire it waits for and the leases it holds.
* `KeyedPool.JobResult`: what comes of a job.
* `KeyedPool.Job.start`, `KeyedPool.PendingJob.poll`, `KeyedPool.PendingJob.abandon`: driving it.
-/

namespace KeyedPool

/-- A job to do. -/
inductive Job where
  /-- Acquire a lease and keep it under a label. -/
  | lease (r : Request) (label : String)
  /-- Acquire a lease and run a body with it. -/
  | scope (r : Request) (errors : ErrorKind) (body : Body)

/-- A job that waits. -/
inductive PendingJob where
  /-- It acquires a lease to keep. -/
  | leasing (a : Acquisition) (label : String)
  /-- It acquires the lease of a scope. -/
  | entering (a : Acquisition) (errors : ErrorKind) (body : Body)
  /-- It runs the body of a scope. -/
  | inside (s : Scope)

/-- What comes of a job. -/
inductive JobResult where
  /-- A lease, which is kept under a label. -/
  | leased (l : Lease) (label : String)
  /-- No lease, but an error. -/
  | failed (e : PoolError)
  /-- A scope with its end. -/
  | concluded (c : Concluded)
  /-- The task was torn down. -/
  | crashed (text : String)

namespace PendingJob

/-- The acquire that a job waits for, its own or one inside its body. -/
def acquisition? : PendingJob → Option Acquisition
  | .leasing a _ => some a
  | .entering a _ _ => some a
  | .inside s =>
    match s.pause with
    | .asleep _ => none
    | .acquiring a _ => some a

/-- The leases that a job holds while it waits. -/
def leases : PendingJob → List Lease
  | .inside s => s.leases
  | _ => []

end PendingJob

namespace Job

/-- What becomes of a lease to keep. -/
def keep (label : String) :
    Progress Acquisition Acquired × Pool → Progress PendingJob JobResult × Pool
  | (.waiting a, p) => (.waiting (.leasing a label), p)
  | (.finished (.lease l), p) => (.finished (.leased l label), p)
  | (.finished (.failed e), p) => (.finished (.failed e), p)
  | (.finished (.crashed text), p) => (.finished (.crashed text), p)

/-- What becomes of a scope: its body runs once it has its lease; without one the body never
runs, and the error is passed on. -/
def enter (plans : String → ConnectPlan) (now : Instant) (errors : ErrorKind) (body : Body) :
    Progress Acquisition Acquired × Pool → Progress PendingJob JobResult × Pool
  | (.waiting a, p) => (.waiting (.entering a errors body), p)
  | (.finished (.lease l), p) => proceed (Scope.run plans now l body.ending body.steps {} [] p)
  | (.finished (.failed e), p) => (.finished (.concluded (.error (errors.ofPoolError e) [])), p)
  | (.finished (.crashed text), p) => (.finished (.crashed text), p)
where
  /-- What becomes of a scope inside its body. -/
  proceed : Progress Scope Concluded × Pool → Progress PendingJob JobResult × Pool
    | (.waiting s, p) => (.waiting (.inside s), p)
    | (.finished c, p) => (.finished (.concluded c), p)

/-- A job begins. -/
def start (plans : String → ConnectPlan) (p : Pool) (now : Instant) :
    Job → Progress PendingJob JobResult × Pool
  | .lease r label => keep label (Acquisition.start plans p now r)
  | .scope r errors body => enter plans now errors body (Acquisition.start plans p now r)

end Job

namespace PendingJob

/-- A poll of a job that waits. -/
def poll (plans : String → ConnectPlan) (p : Pool) (now : Instant) :
    PendingJob → Progress PendingJob JobResult × Pool
  | .leasing a label => Job.keep label (Acquisition.poll plans p now a)
  | .entering a errors body => Job.enter plans now errors body (Acquisition.poll plans p now a)
  | .inside s => Job.enter.proceed (Scope.poll plans p now s)

/-- A job is torn down while it waits. -/
def abandon (p : Pool) : PendingJob → Pool
  | .leasing a _ => Acquisition.abandon p a
  | .entering a _ _ => Acquisition.abandon p a
  | .inside s => Scope.abandon p s

end PendingJob

end KeyedPool
