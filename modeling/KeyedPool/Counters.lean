/-!
# Usage counters

What a pool counts for its users. Nothing in the pool reads the counters to decide anything.

* `KeyedPool.Tally`: what is counted.
* `KeyedPool.Counters`: the counts since the last reset.
-/

namespace KeyedPool

/-- What a pool counts. -/
inductive Tally where
  /-- A connection was opened. -/
  | opened
  /-- An idle connection was removed because its time had come. -/
  | pruned
  /-- An idle connection was removed to make room. -/
  | evicted
  /-- A connection was closed. -/
  | closed
  /-- Closing a connection failed. -/
  | closeFailed
deriving DecidableEq

/-- The counts since the last reset. -/
structure Counters where
  /-- Connections opened. -/
  opened : Nat := 0
  /-- Idle connections removed because their time had come. -/
  pruned : Nat := 0
  /-- Idle connections removed to make room. -/
  evicted : Nat := 0
  /-- Connections closed. -/
  closed : Nat := 0
  /-- Connections whose closing failed. -/
  closeFailed : Nat := 0
deriving DecidableEq, Inhabited

namespace Counters

/-- The counters after one more event. -/
def record (c : Counters) : Tally → Counters
  | .opened => { c with opened := c.opened + 1 }
  | .pruned => { c with pruned := c.pruned + 1 }
  | .evicted => { c with evicted := c.evicted + 1 }
  | .closed => { c with closed := c.closed + 1 }
  | .closeFailed => { c with closeFailed := c.closeFailed + 1 }

/-- The count of one kind of event. -/
def count (c : Counters) : Tally → Nat
  | .opened => c.opened
  | .pruned => c.pruned
  | .evicted => c.evicted
  | .closed => c.closed
  | .closeFailed => c.closeFailed

/-- The counters in the order in which they are reported. -/
def toList (c : Counters) : List Nat := [c.opened, c.pruned, c.evicted, c.closed, c.closeFailed]

/-- An event adds one to its own count and leaves the others. -/
@[simp] theorem count_record (c : Counters) (t u : Tally) :
    (c.record t).count u = c.count u + if u = t then 1 else 0 := by
  cases t <;> cases u <;> simp [record, count]

end Counters

end KeyedPool
