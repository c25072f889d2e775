import KeyedPool.Pool

/-!
# Admission

An acquire that asks for a connection is told at once how it stands: it gets the idle connection of
its database, it may open one, or it has to wait. Room for a new connection is made by removing what
has expired, else what has been unused for the longest time.

The answer is found before anything is closed: first the table loses what has to go and gains the
place that is kept, then the connections that left are closed one after the other. So at no time is
the table above its limit, and a connection that gave way is closed before another one is asked
for. Room is looked for even when it turns out that there is none; what has expired then stays
removed.

* `KeyedPool.Admission`: the answer to an acquire.
* `KeyedPool.Pool.makeRoom`: what leaves the pool so that it is below its limit.
* `KeyedPool.Pool.admission`: the answer, and what leaves the table for it.
* `KeyedPool.Pool.attempt`: the same, with what left the table closed.
-/

namespace KeyedPool

/-- The answer to an acquire. -/
inductive Admission where
  /-- The idle connection of the database is leased. -/
  | leased (connection generation : Nat)
  /-- A place is kept for a connection that the acquire is to open. -/
  | reserved
  /-- The acquire has to wait. -/
  | refused (why : Refusal)
  /-- The deadline of the lease would lie beyond the horizon of the clock. -/
  | beyondHorizon
deriving DecidableEq

namespace Pool

/-- **Makes room in a pool with a limit.** A pool below its limit loses nothing; else all that has
expired leaves; if that is nothing, the connection that has been unused for the longest time. -/
def makeRoom (p : Pool) (limit : Nat) (now : Instant) : List Departure × Pool :=
  if p.table.size < limit then ([], p)
  else
    let expired := p.takeLive .pruned (Record.isPrunable now)
    if expired.2.table.size < limit then expired
    else
      let oldest := expired.2.takeOldest
      (expired.1 ++ oldest.1.toList, oldest.2)

/-- Keeps a place for a database, which has none, if there is room or room can be made. -/
def reserve (p : Pool) (database : String) (now : Instant) :
    Admission × List Departure × Pool :=
  let kept (p : Pool) : Pool := p.withTable (p.table.put database .opening)
  match p.settings.maxConnections with
  | none => (.reserved, [], kept p)
  | some limit =>
    let room := p.makeRoom limit now
    if room.2.table.size < limit then (.reserved, room.1, kept room.2)
    else (.refused .full, room.1, room.2)

/-- **The answer to an acquire**, and what leaves the table for it. An idle connection is leased
again while it is healthy, whatever the limit; a dead one gives its place away. -/
def admission (p : Pool) (database : String) (ttl : Duration) (now : Instant) :
    Admission × List Departure × Pool :=
  match p.table.find? database with
  | none => p.reserve database now
  | some .opening => (.refused .busy, [], p)
  | some (.live r) =>
    if r.busy then (.refused .busy, [], p)
    else if p.isHealthy r.connection then
      match now.after? ttl with
      | none => (.beyondHorizon, [], p)
      | some deadline =>
        (.leased r.connection r.generation, [],
          p.withTable (p.table.modify database (Record.lease deadline now)))
    else
      let freed := (p.withTable (p.table.erase database)).reserve database now
      (freed.1, ⟨.replaced, database, r.connection⟩ :: freed.2.1, freed.2.2)

/-- One attempt of an acquire: the answer, with everything closed that left the table for it. -/
def attempt (p : Pool) (database : String) (ttl : Duration) (now : Instant) : Admission × Pool :=
  let answer := p.admission database ttl now
  (answer.1, (answer.2.2.retireAll answer.2.1).2)

end Pool

end KeyedPool
