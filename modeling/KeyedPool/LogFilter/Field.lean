import KeyedPool.Pattern.Written

/-!
# Fields that a filter asks for

A directive may ask for a field of a span, and for its value. A value that is a number stands for
itself; any other is a pattern, and refused unless the pattern can be used. So a value may begin
with a plus sign only if it is a number.

* `KeyedPool.LogField`: a field, perhaps with its value.
* `KeyedPool.LogField.read?`: the field that a text gives.
-/

namespace KeyedPool

/-- What a field has to be. -/
inductive LogFieldValue where
  /-- A number, given by its text. -/
  | number (text : String)
  /-- A text that matches a pattern. -/
  | pattern (p : Pattern)

/-- A field that a span has to have. -/
structure LogField where
  /-- Its name. -/
  name : String
  /-- What it has to be; anything if absent. -/
  value : Option LogFieldValue := none

namespace LogField

/-- A text without the sign in front of it, if it has one. -/
def unsigned : List Char → List Char
  | '+' :: r => r
  | '-' :: r => r
  | cs => cs

/-- Whether a text is an exponent, or nothing. -/
def isExponent : List Char → Bool
  | [] => true
  | c :: r =>
    let digits := unsigned r
    (c == 'e' || c == 'E') && !digits.isEmpty && digits.all Text.isDigit

/-- Whether a text writes a number that is finite: digits with a point at most, one digit at least,
and perhaps an exponent. -/
def isFinite (cs : List Char) : Bool :=
  let whole := cs.takeWhile Text.isDigit
  match cs.dropWhile Text.isDigit with
  | '.' :: r =>
    let part := r.takeWhile Text.isDigit
    !(whole.isEmpty && part.isEmpty) && isExponent (r.dropWhile Text.isDigit)
  | r => !whole.isEmpty && isExponent r

/-- **Whether a text writes a number**, with or without a sign. -/
def isNumber (cs : List Char) : Bool :=
  let cs := unsigned cs
  ["inf", "infinity", "nan"].contains (String.ofList (cs.map Char.toLower)) || isFinite cs

/-- The value that a text gives: a number, or else a pattern that can be used. -/
def value? (cs : List Char) : Option LogFieldValue :=
  if isNumber cs then some (.number (String.ofList cs))
  else ((Pattern.read? cs).filter Pattern.isUsable).map .pattern

/-- **The field that a text gives:** a name, and perhaps a value after a sign of equality. What is
behind another sign of equality does not matter. -/
def read? (cs : List Char) : Option LogField :=
  match cs.splitOn '=' with
  | name :: value :: _ =>
    (value? value).map fun value => { name := String.ofList name, value := some value }
  | _ => some { name := String.ofList cs }

end LogField

end KeyedPool
