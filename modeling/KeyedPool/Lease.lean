import KeyedPool.Text.Quoted

/-!
# Leases

A lease is the right to use one connection alone. It ends in one of three ways, each of which
takes it away from its holder.

* `KeyedPool.Lease`: a lease that has not ended.
* `KeyedPool.Disposal`: how a lease ends.
-/

namespace KeyedPool

/-- A lease that has not ended. -/
structure Lease where
  /-- The database. -/
  database : String
  /-- The generation of the record that was leased. -/
  generation : Nat
  /-- The connection. -/
  connection : Nat
deriving DecidableEq, Inhabited

/-- How a lease ends. -/
inductive Disposal where
  /-- The connection goes back to the pool, unless it is dead. -/
  | release
  /-- The connection cannot be trusted and is closed. -/
  | cancel
  /-- The lease was lost, which counts as cancelled. -/
  | drop
deriving DecidableEq

/-- How a lease that has not ended is shown. -/
def Lease.shown (l : Lease) : String :=
  "Lease \x7b dbname: " ++ Text.quoted l.database ++
    s!", generation: {l.generation}, settled: false \x7d"

end KeyedPool
