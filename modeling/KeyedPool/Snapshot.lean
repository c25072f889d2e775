import KeyedPool.Counters
import KeyedPool.Document
import KeyedPool.Timestamp

/-!
# Snapshots of the counters

A snapshot is a copy of the counters, with the time since when they have been counting. It is
written as a map, and read with every field required.

* `KeyedPool.Snapshot`: a snapshot.
* `KeyedPool.Snapshot.toDocument`, `KeyedPool.Snapshot.ofDocument?`: writing and reading it.
-/

namespace KeyedPool

/-- A copy of the counters. -/
structure Snapshot where
  /-- The counts. -/
  counters : Counters
  /-- Since when they were counting. -/
  since : Timestamp
deriving DecidableEq, Inhabited

namespace Counters

/-- The names of the counts in a document, in their order. -/
def fieldNames : List String :=
  ["connection_opened", "connection_pruned", "connection_evicted", "connection_closed",
   "connection_closed_failed"]

/-- The counts by name. -/
def toEntries (c : Counters) : List (String × Document) :=
  fieldNames.zip (c.toList.map fun (n : Nat) => .int n)

end Counters

namespace Snapshot

/-- The name of the time in a document. -/
def sinceName : String := "since"

/-- A required field. -/
def required? {α : Type} (read : Document → Option α) (d : Option Document) : Option α :=
  d.bind read

/-- The document of a snapshot. -/
def toDocument (s : Snapshot) : Document :=
  .map (s.counters.toEntries ++ [(sinceName, .text s.since.written)])

/-- The snapshot that a document gives. -/
def ofDocument? (d : Document) : Option Snapshot := do
  match ← d.fields? .refused (Counters.fieldNames ++ [sinceName]) with
  | [opened, pruned, evicted, closed, closeFailed, since] =>
    some {
      counters := {
        opened := ← required? Document.count? opened
        pruned := ← required? Document.count? pruned
        evicted := ← required? Document.count? evicted
        closed := ← required? Document.count? closed
        closeFailed := ← required? Document.count? closeFailed }
      since := ← required? (fun d => d.text?.bind Timestamp.read?) since }
  | _ => none

end Snapshot

end KeyedPool
