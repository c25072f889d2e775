import KeyedPool.Handle
import KeyedPool.Lease
import KeyedPool.Log

/-!
# The history of a pool

A pool writes down everything that happens to it. From its history come the log that a user reads,
and the events that its connections and the program that opens them see.

* `KeyedPool.Removal`: why a connection left the pool.
* `KeyedPool.Entry`: one line of the history.
* `KeyedPool.Entry.log?`: what the log says of it.
* `KeyedPool.Entry.event?`: what the outside sees of it.
-/

namespace KeyedPool

/-- Why a connection left the pool. -/
inductive Removal where
  /-- It was idle and its time had come. -/
  | pruned
  /-- It was idle for the longest time, and room was needed. -/
  | evicted
  /-- It was found dead when it was to be leased again. -/
  | replaced
  /-- Its lease was cancelled. -/
  | cancelled
  /-- It was found dead when its lease was released. -/
  | broken
  /-- Everything was closed. -/
  | drained
  /-- It was opened, but did not get as far as a lease. -/
  | abandoned
  /-- Another connection was put in its place. -/
  | displaced
deriving DecidableEq

/-- Why an acquire is not admitted yet. -/
inductive Refusal where
  /-- The connection is leased, or being opened, by someone else. -/
  | busy
  /-- There is no room in the pool, and nothing to make room with. -/
  | full
deriving DecidableEq

/-- One line of the history of a pool. -/
inductive Entry where
  /-- An acquire is about to open a connection. -/
  | opening (database : String)
  /-- A connection is asked for. -/
  | connecting (database : String)
  /-- A connection was opened. -/
  | connected (database : String) (connection : Nat)
  /-- Nobody waits any more for a connection that was asked for and has not come. -/
  | unconnected (database : String)
  /-- The startup hook of a connection begins. -/
  | hookStarted (connection : Nat)
  /-- The startup hook of a connection ended well. -/
  | hookFinished (connection : Nat)
  /-- A lease on a fresh connection begins. -/
  | published (lease : Lease) (now : Instant) (ttl : Duration) (persistent : Bool)
  /-- A fresh connection was lost, and the place of its database with it: the deadline of its lease
  would have been beyond the horizon. -/
  | lost (database : String) (connection : Nat) (now : Instant) (ttl : Duration)
  /-- A lease on an idle connection begins. -/
  | reused (lease : Lease) (now : Instant) (ttl : Duration)
  /-- An acquire has to wait. -/
  | waiting (database : String) (why : Refusal)
  /-- An acquire gave up since the pool stayed full. -/
  | gaveUp (limit : Nat) (database : String) (elapsed : Duration)
  /-- A lease ends. -/
  | leaseEnded (lease : Lease) (how : Disposal)
  /-- The connection of a lease that has ended is idle. -/
  | released (lease : Lease)
  /-- The connection of a lease that has ended had left the pool before. -/
  | departed (lease : Lease)
  /-- A connection leaves the pool. -/
  | removed (why : Removal) (database : String) (connection : Nat)
  /-- A connection was closed. -/
  | closed (database : String) (connection : Nat)
  /-- A connection could not be closed. -/
  | closeFailed (database : String) (connection : Nat) (failure : Failure)
  /-- Pruning removed some connections. -/
  | pruned (count : Nat)
  /-- All connections were closed, with or without a failure. -/
  | drained (count : Nat) (success : Bool)
  /-- The counters were set back to zero. -/
  | countersReset
  /-- There is nothing that could prune in the background. -/
  | noScheduler
  /-- Pruning in the background ends with the pool. -/
  | prunerStopped

/-! ### The log -/

/-- The reason for a wait in the words of the log. -/
def Refusal.inWords : Refusal → String
  | .busy => "connection busy"
  | .full => "pool full"

/-- What the log says when a connection leaves the pool. -/
def Removal.log? (database : String) : Removal → Option LogLine
  | .pruned => some ⟨.trace, s!"Pruning idle connection for {database}"⟩
  | .evicted => some ⟨.debug, s!"Evicted least recently used connection for {database}"⟩
  | .replaced => some ⟨.debug, s!"Replacing closed or broken connection for {database}"⟩
  | .cancelled => some ⟨.debug, s!"Discarding connection for {database} (lease cancelled)"⟩
  | .broken => some ⟨.debug, s!"Discarding connection for {database} (connection broken)"⟩
  | .drained => none
  | .abandoned => none
  | .displaced => none

/-- **What the log says of an entry.** -/
def Entry.log? : Entry → Option LogLine
  | .opening database => some ⟨.debug, s!"Opening new connection for {database}"⟩
  | .reused lease .. => some ⟨.trace, s!"Reusing pooled connection for {lease.database}"⟩
  | .waiting database why =>
    some ⟨.debug, s!"Waiting for {database} (" ++ why.inWords ++ ")"⟩
  | .gaveUp limit database elapsed =>
    some ⟨.warn,
      s!"Pool full ({limit} connections), gave up opening {database} after " ++ elapsed.inUnits⟩
  | .leaseEnded lease .drop =>
    some ⟨.debug, s!"Lease for {lease.database} dropped without release, discarding connection"⟩
  | .released lease => some ⟨.trace, s!"Released connection for {lease.database} to idle"⟩
  | .departed lease =>
    some ⟨.trace, s!"Connection for {lease.database} left the pool while leased"⟩
  | .removed why database _ => why.log? database
  | .closeFailed database _ failure =>
    some ⟨.error, s!"Failed to close DB connection for db={database}: " ++ failure.oneLine⟩
  | .pruned count => some ⟨.debug, s!"Pruned {count} expired connections"⟩
  | .drained count success =>
    some ⟨.debug, s!"Closed {count} connections (all succeeded: {success})"⟩
  | .noScheduler => some ⟨.warn, "No tokio runtime available, periodic pruning not started"⟩
  | .prunerStopped => some ⟨.trace, "Pool dropped, stopping periodic pruning"⟩
  | _ => none

/-! ### What the outside sees -/

/-- What a connection, or the program that opens connections, sees of a pool. -/
inductive OutsideEvent where
  /-- A connection to a database is asked for. -/
  | connecting (database : String)
  /-- A connection is there. -/
  | connected (connection : Nat)
  /-- The startup hook of a connection begins. -/
  | hookStarted (connection : Nat)
  /-- A connection is closed, with or without success. -/
  | close (connection : Nat) (success : Bool)
deriving DecidableEq

/-- **What the outside sees of an entry.** -/
def Entry.event? : Entry → Option OutsideEvent
  | .connecting database => some (.connecting database)
  | .connected _ connection => some (.connected connection)
  | .hookStarted connection => some (.hookStarted connection)
  | .closed _ connection => some (.close connection true)
  | .closeFailed _ connection _ => some (.close connection false)
  | _ => none

end KeyedPool
