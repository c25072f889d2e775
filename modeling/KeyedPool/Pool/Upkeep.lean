import KeyedPool.Pool

/-!
# Upkeep of a pool

Connections are closed without anyone asking for them: because their time has come, to make room, or
because the pool is emptied.

* `KeyedPool.Pool.prune`: closes every idle connection whose time has come.
* `KeyedPool.Pool.evict`: closes the idle connection that has been unused for the longest time.
* `KeyedPool.Pool.closeAll`: closes every connection, those that are leased included.
-/

namespace KeyedPool.Pool

/-- Closes every idle connection whose time has come, persistent ones excepted; tells how many. -/
def prune (p : Pool) (now : Instant) : Nat × Pool :=
  let expired := p.takeLive .pruned (Record.isPrunable now)
  let p := (expired.2.retireAll expired.1).2
  (expired.1.length, if expired.1.isEmpty then p else p.note (.pruned expired.1.length))

/-- Closes the idle connection that has been unused for the longest time, persistent ones excepted;
tells its database. -/
def evict (p : Pool) : Option String × Pool :=
  match p.takeOldest with
  | (none, p) => (none, p)
  | (some d, p) => (some d.database, (p.retire d).2)

/-- Closes every open connection. What is being opened is left to those who open it. Tells whether
every connection could be closed. -/
def closeAll (p : Pool) : Bool × Pool :=
  let drained := p.takeLive .drained fun _ => true
  let closed := drained.2.retireAll drained.1
  (closed.1, closed.2.note (.drained drained.1.length closed.1))

end KeyedPool.Pool
