/-!
# Documents

The values that settings, snapshots and reports are written as, whatever the notation.

* `KeyedPool.Document`: a value.
* `KeyedPool.Document.text?`, `KeyedPool.Document.count?`, `KeyedPool.Document.optional?`: reading a
  value as something.
* `KeyedPool.Document.fields?`: the parts of a value that stands for a record with named fields.
-/

namespace KeyedPool

/-- A value of a document. -/
inductive Document where
  /-- No value. -/
  | null
  /-- A truth value. -/
  | bool (value : Bool)
  /-- A whole number. -/
  | int (value : Int)
  /-- A number with a fraction or an exponent, as it was written. -/
  | real (written : String)
  /-- A text. -/
  | text (value : String)
  /-- A date or a time of day, as it was written. -/
  | date (written : String)
  /-- Values one after the other. -/
  | list (items : List Document)
  /-- Values by name, no name twice. -/
  | map (entries : List (String × Document))
deriving Inhabited

namespace Document

/-- The greatest count that a document may hold: it fits an unsigned 64-bit word. -/
def countMax : Nat := UInt64.size - 1

/-- A value as a text. -/
def text? : Document → Option String
  | .text s => some s
  | _ => none

/-- A value as a count: a whole number that is neither negative nor too great. -/
def count? : Document → Option Nat
  | .int (.ofNat n) => if n ≤ countMax then some n else none
  | _ => none

/-- A value that may be absent: the null value stands for that. -/
def optional? {α : Type} (read : Document → Option α) : Document → Option (Option α)
  | .null => some none
  | d => (read d).map some

/-- A field that may be left out: it then has the given value. -/
def orElse? {α : Type} (missing : α) (read : Document → Option α) : Option Document → Option α
  | none => some missing
  | some d => read d

/-- What becomes of the values of a list beyond the last field that it stands for. -/
inductive Surplus where
  /-- The list is not accepted. -/
  | refused
  /-- They do not matter. -/
  | ignored
deriving DecidableEq

/-- **The parts of a value that stands for a record with the given fields.** A map gives each
field by its name, and other names do not matter. A list gives the fields in their order; the
last ones may be left out. A date counts as a map with none of the names. -/
def fields? (surplus : Surplus) (names : List String) : Document → Option (List (Option Document))
  | .map entries => some (names.map fun name => entries.lookup name)
  | .list items =>
    if surplus = .refused ∧ names.length < items.length then none
    else some ((List.range names.length).map fun i => items[i]?)
  | .date _ => some (names.map fun _ => none)
  | _ => none

/-- The document of a count that may be absent. -/
def ofOptional : Option Nat → Document
  | none => .null
  | some n => .int n

/-! ### Reading what was written -/

@[simp] theorem text?_text (s : String) : (Document.text s).text? = some s := rfl

/-- A count that is not too great is read as it was written. -/
theorem count?_int {n : Nat} (h : n ≤ countMax) : (Document.int n).count? = some n := if_pos h

/-- A count that may be absent is read as it was written, if it is not too great. -/
theorem optional?_ofOptional {o : Option Nat} (h : ∀ n ∈ o, n ≤ countMax) :
    optional? count? (ofOptional o) = some o := by
  cases o with
  | none => rfl
  | some n => simp [optional?, ofOptional, count?_int (h n rfl)]

end Document

end KeyedPool
