import KeyedPool.Pool

/-!
# How leases begin and end

A lease begins when a fresh connection is published, or when an idle one is leased again, which is a
matter of admission. When it ends, its connection becomes idle or is closed; nothing happens to a
connection that the pool has lost meanwhile.

* `KeyedPool.Pool.publish`: a fresh connection enters the table under a new lease.
* `KeyedPool.Pool.giveUpOpening`: a place that was kept is given back.
* `KeyedPool.Pool.settle`: a lease ends.
-/

namespace KeyedPool

namespace Pool

/-- Whether a slot is the record of a generation. -/
def isGeneration (generation : Nat) : Slot → Bool := Slot.holds (·.generation == generation)

/-- The pool with the record of a fresh connection, whose lease begins now. -/
def enroll (p : Pool) (database : String) (connection : Nat) (deadline now : Instant)
    (persistent : Bool) : Pool :=
  let fresh : Record :=
    { connection, expiresAt := deadline, lastUsedAt := now, busy := true, persistent,
      generation := p.table.nextGeneration }
  p.withTable (p.table.useGeneration.put database (.live fresh))

/-- The pool with a generation used up for nothing. -/
def skipGeneration (p : Pool) : Pool := p.withTable p.table.useGeneration

/-- **A fresh connection enters the table under a new lease**, which is busy from the start. Nothing
comes of it when the deadline would lie beyond the horizon; the generation is used up even so, and
the connection is lost. -/
def publish (p : Pool) (database : String) (connection : Nat) (ttl : Duration) (persistent : Bool)
    (now : Instant) : Option Lease × Pool :=
  match now.after? ttl with
  | none => (none, p.skipGeneration.note (.lost database connection now ttl))
  | some deadline =>
    let lease : Lease := ⟨database, p.table.nextGeneration, connection⟩
    let p' := (p.enroll database connection deadline now persistent).note
      (.published lease now ttl persistent)
    (some lease,
      -- A place that was kept holds no connection, so as a rule nothing is displaced.
      match p.table.record? database with
      | none => p'
      | some old => (p'.retire ⟨.displaced, database, old.connection⟩).2)

/-- Gives back the place that was kept for a connection which did not come to be. -/
def giveUpOpening (p : Pool) (database : String) : Pool :=
  if p.table.find? database = some .opening then p.withTable (p.table.erase database) else p

/-- The connection of a lease becomes idle, if the pool still has it. -/
def returnIdle (p : Pool) (l : Lease) : Pool :=
  if (p.table.find? l.database).any (isGeneration l.generation) then
    (p.withTable (p.table.modify l.database Record.rest)).note (.released l)
  else p.note (.departed l)

/-- The connection of a lease leaves the pool, if the pool still has it. -/
def discard (p : Pool) (l : Lease) (why : Removal) : Pool :=
  match (p.table.find? l.database).filter (isGeneration l.generation) with
  | some (.live r) =>
    ((p.withTable (p.table.erase l.database)).retire ⟨why, l.database, r.connection⟩).2
  | _ => p

/-- **A lease ends.** -/
def settle (p : Pool) (l : Lease) (how : Disposal) : Pool :=
  let p := p.note (.leaseEnded l how)
  match how with
  | .release => if p.isHealthy l.connection then p.returnIdle l else p.discard l .broken
  | .cancel => p.discard l .cancelled
  | .drop => p.discard l .cancelled

end Pool

end KeyedPool
