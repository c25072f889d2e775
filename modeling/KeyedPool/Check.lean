import KeyedPool.Document
import KeyedPool.Log

/-!
# Outcomes of checks

An operation that is run for a monitoring check is guarded: a failure is logged under a label,
and either way there is an outcome to report.

* `KeyedPool.Outcome`: what is reported.
* `KeyedPool.guarded`: the outcome of an operation, and what is logged.
-/

namespace KeyedPool

/-- The health that an outcome reports. -/
inductive CheckStatus where
  /-- All is well. -/
  | ok
  /-- The operation failed. -/
  | critical
deriving DecidableEq

/-- What is reported of a guarded operation. -/
structure Outcome (α : Type) where
  /-- The health. -/
  status : CheckStatus
  /-- What the operation gave, if it succeeded. -/
  value : Option α := none
  /-- What went wrong, if it failed. -/
  error : Option String := none

namespace Outcome

variable {α : Type}

/-- The outcome of a success. -/
def ok (value : α) : Outcome α := { status := .ok, value := some value }

/-- The outcome of a failure. -/
def critical (error : String) : Outcome α := { status := .critical, error := some error }

/-- Whether an outcome is that of a success. -/
def isOk (o : Outcome α) : Bool := o.status == .ok

/-- An outcome as a document: what is absent is left out. -/
def toDocument (o : Outcome Document) : Document :=
  .map ([("status", .text (match o.status with | .ok => "ok" | .critical => "critical"))] ++
    (o.value.map (("value", ·))).toList ++ (o.error.map (("error", .text ·))).toList)

end Outcome

/-- **The outcome of an operation**, and the lines that are logged for it: one under the label
when it failed. -/
def guarded {ε α : Type} (message : ε → String) (label : String) :
    Except ε α → Outcome α × List LogLine
  | .ok value => (.ok value, [])
  | .error e => (.critical (message e), [⟨.error, label ++ ": " ++ message e⟩])

end KeyedPool
