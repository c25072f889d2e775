import KeyedPool.Counters
import KeyedPool.History
import KeyedPool.Meters
import KeyedPool.Settings
import KeyedPool.Table

/-!
# Pools

The state of a pool, and the one way in which a connection leaves it.

* `KeyedPool.Pool`: settings, table, connections, counters, meters and history.
* `KeyedPool.Pool.retire`: a connection that has left the table is counted and closed.
* `KeyedPool.Pool.takeLive`, `KeyedPool.Pool.takeOldest`: records leave the table.
-/

namespace KeyedPool

/-- The state of a pool. -/
structure Pool where
  /-- How the pool is set up. -/
  settings : PoolSettings := {}
  /-- The order in which the table is walked. -/
  enumeration : Enumeration := .stored
  /-- How often the table was walked. -/
  walks : Nat := 0
  /-- What is tracked. -/
  table : Table := {}
  /-- Every connection that was ever opened, in the order of its number. -/
  handles : List Handle := []
  /-- The usage counters. -/
  counters : Counters := {}
  /-- The meters. -/
  meters : Meters := {}
  /-- What happened, the latest first. -/
  history : List Entry := []
deriving Inhabited

/-- A connection on its way out of the pool. -/
structure Departure where
  /-- Why it leaves. -/
  why : Removal
  /-- The database it was tracked for. -/
  database : String
  /-- Its number. -/
  connection : Nat
deriving DecidableEq

/-- What is counted when a connection leaves, its closing apart. -/
def Removal.tally? : Removal → Option Tally
  | .pruned => some .pruned
  | .evicted => some .evicted
  | _ => none

namespace Pool

/-! ### Counting and writing down -/

/-- The pool with one more entry in its history. -/
def note (p : Pool) (e : Entry) : Pool := { p with history := e :: p.history }

/-- The pool with one more event counted, by its counters and by its meters alike. -/
def tally (p : Pool) (t : Tally) : Pool :=
  { p with counters := p.counters.record t, meters := p.meters.record t }

/-- The pool with its counters back at zero. -/
def resetCounters (p : Pool) : Pool := { p with counters := {} }.note .countersReset

/-! ### Table and connections -/

/-- The pool with another table. -/
def withTable (p : Pool) (t : Table) : Pool := { p with table := t }

/-- The pool with one more walk over its table. -/
def walked (p : Pool) : Pool := { p with walks := p.walks + 1 }

/-- The pool with one more connection, which has the next number. -/
def addHandle (p : Pool) (h : Handle) : Pool := { p with handles := p.handles ++ [h] }

/-- Whether a connection may be handed out again. -/
def isHealthy (p : Pool) (connection : Nat) : Bool :=
  p.handles[connection]?.any Handle.isHealthy

/-- The pool with one connection changed. -/
def modifyHandle (p : Pool) (connection : Nat) (f : Handle → Handle) : Pool :=
  { p with handles := p.handles.modify connection f }

/-- Closes a connection, counts the outcome and tells it. -/
def close (p : Pool) (database : String) (connection : Nat) : Bool × Pool :=
  match p.handles[connection]? with
  | none => (true, p)
  | some h =>
    let attempt := h.close
    let p : Pool := { p with handles := p.handles.set connection attempt.2 }
    if attempt.1 then (true, (p.tally .closed).note (.closed database connection))
    else
      (false, (p.tally .closeFailed).note
        (.closeFailed database connection (h.closeFailure connection)))

/-- **A connection that has left the table is counted under its cause and closed.** -/
def retire (p : Pool) (d : Departure) : Bool × Pool :=
  let p := p.note (.removed d.why d.database d.connection)
  let p := d.why.tally?.elim p p.tally
  p.close d.database d.connection

/-- Connections leave one after the other; tells whether every one of them could be closed. -/
def retireAll (p : Pool) : List Departure → Bool × Pool
  | [] => (true, p)
  | d :: ds =>
    let first := p.retire d
    let others := first.2.retireAll ds
    (first.1 && others.1, others.2)

/-! ### What an operation leaves alone -/

section Frame

variable (p : Pool) (t : Table) (h : Handle) (e : Entry) (tally : Tally)

@[simp] theorem table_withTable : (p.withTable t).table = t := rfl

@[simp] theorem handles_withTable : (p.withTable t).handles = p.handles := rfl

@[simp] theorem settings_withTable : (p.withTable t).settings = p.settings := rfl

@[simp] theorem counters_withTable : (p.withTable t).counters = p.counters := rfl

@[simp] theorem meters_withTable : (p.withTable t).meters = p.meters := rfl

@[simp] theorem history_withTable : (p.withTable t).history = p.history := rfl

@[simp] theorem table_walked : p.walked.table = p.table := rfl

@[simp] theorem handles_walked : p.walked.handles = p.handles := rfl

@[simp] theorem settings_walked : p.walked.settings = p.settings := rfl

@[simp] theorem counters_walked : p.walked.counters = p.counters := rfl

@[simp] theorem meters_walked : p.walked.meters = p.meters := rfl

@[simp] theorem history_walked : p.walked.history = p.history := rfl

@[simp] theorem table_addHandle : (p.addHandle h).table = p.table := rfl

@[simp] theorem handles_addHandle : (p.addHandle h).handles = p.handles ++ [h] := rfl

@[simp] theorem settings_addHandle : (p.addHandle h).settings = p.settings := rfl

@[simp] theorem counters_addHandle : (p.addHandle h).counters = p.counters := rfl

@[simp] theorem meters_addHandle : (p.addHandle h).meters = p.meters := rfl

@[simp] theorem history_addHandle : (p.addHandle h).history = p.history := rfl

@[simp] theorem table_note : (p.note e).table = p.table := rfl

@[simp] theorem handles_note : (p.note e).handles = p.handles := rfl

@[simp] theorem settings_note : (p.note e).settings = p.settings := rfl

@[simp] theorem counters_note : (p.note e).counters = p.counters := rfl

@[simp] theorem meters_note : (p.note e).meters = p.meters := rfl

@[simp] theorem history_note : (p.note e).history = e :: p.history := rfl

@[simp] theorem table_tally : (p.tally tally).table = p.table := rfl

@[simp] theorem handles_tally : (p.tally tally).handles = p.handles := rfl

@[simp] theorem settings_tally : (p.tally tally).settings = p.settings := rfl

@[simp] theorem counters_tally : (p.tally tally).counters = p.counters.record tally := rfl

@[simp] theorem meters_tally : (p.tally tally).meters = p.meters.record tally := rfl

@[simp] theorem history_tally : (p.tally tally).history = p.history := rfl

@[simp] theorem table_resetCounters : p.resetCounters.table = p.table := rfl

@[simp] theorem handles_resetCounters : p.resetCounters.handles = p.handles := rfl

@[simp] theorem settings_resetCounters : p.resetCounters.settings = p.settings := rfl

@[simp] theorem meters_resetCounters : p.resetCounters.meters = p.meters := rfl

@[simp] theorem history_resetCounters :
    p.resetCounters.history = .countersReset :: p.history := rfl

end Frame

@[simp] theorem table_close (p : Pool) (database : String) (connection : Nat) :
    (p.close database connection).2.table = p.table := by
  unfold close
  split
  · rfl
  · simp only
    split <;> rfl

@[simp] theorem settings_close (p : Pool) (database : String) (connection : Nat) :
    (p.close database connection).2.settings = p.settings := by
  unfold close
  split
  · rfl
  · simp only
    split <;> rfl

@[simp] theorem table_retire (p : Pool) (d : Departure) : (p.retire d).2.table = p.table := by
  unfold retire
  cases d.why.tally? <;> simp

@[simp] theorem settings_retire (p : Pool) (d : Departure) :
    (p.retire d).2.settings = p.settings := by
  unfold retire
  cases d.why.tally? <;> simp

@[simp] theorem table_retireAll (p : Pool) (ds : List Departure) :
    (p.retireAll ds).2.table = p.table := by
  induction ds generalizing p with
  | nil => rfl
  | cons d ds ih => simp [retireAll, ih]

@[simp] theorem settings_retireAll (p : Pool) (ds : List Departure) :
    (p.retireAll ds).2.settings = p.settings := by
  induction ds generalizing p with
  | nil => rfl
  | cons d ds ih => simp [retireAll, ih]

/-! ### Taking records out of the table -/

/-- The order of the next walk over the table. -/
def order (p : Pool) : List String := p.enumeration.visit p.walks p.table.keys

/-- Takes every record with some property out of the table, and tells which connections leave. -/
def takeLive (p : Pool) (why : Removal) (which : Record → Bool) : List Departure × Pool :=
  ((p.table.recordsAlong p.order which).map fun e => ⟨why, e.1, e.2.connection⟩,
    p.walked.withTable (p.table.without which))

/-- Takes the reclaimable record that has been unused for the longest time out of the table. -/
def takeOldest (p : Pool) : Option Departure × Pool :=
  match Table.oldest? (p.table.recordsAlong p.order Record.isReclaimable) with
  | none => (none, p.walked)
  | some e =>
    (some ⟨.evicted, e.1, e.2.connection⟩, p.walked.withTable (p.table.erase e.1))

end Pool

end KeyedPool
