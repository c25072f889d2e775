import KeyedPool.Counters

/-!
# Meters

Counts over the whole life of a pool, and the number of connections that are open now, with the text
in which a monitoring system reads them. A reset of the usage counters does not touch the meters.

* `KeyedPool.Meters`: the readings.
* `KeyedPool.MeterFamily`: one reading with its name and its explanation.
* `KeyedPool.Meters.exposition`: the text, families in the order of their names.
-/

namespace KeyedPool

/-- The readings of a pool's meters. -/
structure Meters where
  /-- Events since the pool was made. -/
  totals : Counters := {}
  /-- Connections that are open now. -/
  openConnections : Int := 0
deriving DecidableEq, Inhabited

/-- One meter as it is exposed. -/
structure MeterFamily where
  /-- The name under which it is read. -/
  name : String
  /-- What it tells. -/
  help : String
  /-- Whether it only grows, or moves both ways. -/
  kind : String
  /-- The reading. -/
  reading : Int

namespace Meters

/-- The change of the number of open connections that an event brings. -/
def openChange : Tally → Int
  | .opened => 1
  | .closed => -1
  | .closeFailed => -1
  | _ => 0

/-- The meters after one more event. -/
def record (m : Meters) (t : Tally) : Meters where
  totals := m.totals.record t
  openConnections := m.openConnections + openChange t

/-- A meter that only grows. -/
def total (event help : String) (reading : Nat) : MeterFamily where
  name := s!"multidb_pool_connections_{event}_total"
  help := help
  kind := "counter"
  reading := reading

/-- Every meter, in the order of the names. -/
def families (m : Meters) : List MeterFamily :=
  [total "closed_failed" "Connections whose close call failed" m.totals.closeFailed,
   total "closed" "Connections closed successfully" m.totals.closed,
   total "evicted" "Idle connections removed by LRU eviction to make room" m.totals.evicted,
   total "opened" "Connections opened through the connection factory" m.totals.opened,
   total "pruned" "Idle connections removed after their TTL elapsed" m.totals.pruned,
   { name := "multidb_pool_open_connections"
     help := "Connections currently tracked by the pool"
     kind := "gauge"
     reading := m.openConnections }]

end Meters

/-- The lines of one meter: its explanation, its kind and its reading. -/
def MeterFamily.lines (f : MeterFamily) : String :=
  s!"# HELP {f.name} {f.help}\n# TYPE {f.name} {f.kind}\n{f.name} " ++ toString f.reading ++ "\n"

/-- **The text of all meters.** -/
def Meters.exposition (m : Meters) : String := String.join (m.families.map MeterFamily.lines)

end KeyedPool
