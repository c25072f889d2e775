import KeyedPool.Pool.Upkeep

/-!
# Commands

What a caller may do to a pool, or ask of it, that is answered at once.

* `KeyedPool.Command`: the commands.
* `KeyedPool.Reply`: the answers.
* `KeyedPool.Pool.execute`: what a command does.
-/

namespace KeyedPool

/-- What is answered at once. -/
inductive Command where
  /-- Close every idle connection whose time has come. -/
  | prune
  /-- Close the idle connection that has been unused for the longest time. -/
  | evict
  /-- Close every connection. -/
  | closeAll
  /-- Set the counters back to zero. -/
  | resetCounters
  /-- Tell the counters. -/
  | counters
  /-- Tell the meters. -/
  | meters
  /-- Tell how many databases are tracked. -/
  | size
  /-- Tell how a database stands. -/
  | probe (database : String)

/-- What is answered. -/
inductive Reply where
  /-- It is done. -/
  | done
  /-- So many connections were pruned. -/
  | pruned (count : Nat)
  /-- The connection of this database was evicted, if any was. -/
  | evicted (database : Option String)
  /-- Whether every connection could be closed. -/
  | drained (success : Bool)
  /-- The counters. -/
  | counters (counters : Counters)
  /-- The text of the meters. -/
  | meters (text : String)
  /-- How many databases are tracked. -/
  | size (count : Nat)
  /-- Whether a database is tracked, and whether its connection, if open, is leased and
  persistent. -/
  | standing (tracked : Bool) (busy persistent : Option Bool)
  /-- A connection was leased. -/
  | leased (connection : Nat)
  /-- A lease was not granted. -/
  | failed (e : PoolError)
  /-- The number and the flags of a connection. -/
  | connection (number : Nat) (closed broken : Bool)

namespace Pool

/-- Whether the connection of a database is leased; nothing if none is open. -/
def isBusy? (p : Pool) (database : String) : Option Bool := (p.table.record? database).map (·.busy)

/-- Whether the connection of a database is persistent; nothing if none is open. -/
def isPersistent? (p : Pool) (database : String) : Option Bool :=
  (p.table.record? database).map (·.persistent)

/-- What a command does, and what is answered. -/
def execute (p : Pool) (now : Instant) : Command → Reply × Pool
  | .prune => let pruned := p.prune now; (.pruned pruned.1, pruned.2)
  | .evict => let evicted := p.evict; (.evicted evicted.1, evicted.2)
  | .closeAll => let drained := p.closeAll; (.drained drained.1, drained.2)
  | .resetCounters => (.done, p.resetCounters)
  | .counters => (.counters p.counters, p)
  | .meters => (.meters p.meters.exposition, p)
  | .size => (.size p.table.size, p)
  | .probe database =>
    (.standing (p.table.contains database) (p.isBusy? database) (p.isPersistent? database), p)

end Pool

end KeyedPool
