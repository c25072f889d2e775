import KeyedPool.LogFilter.Field
import KeyedPool.Text.Bytes

/-!
# Directives of a filter

A directive names a level, or a part of the program, or a part of the program and the level for it.
It may also ask for a span, by its name or by a field that the span has.

* `KeyedPool.LogLevel`: from which severity on events are logged.
* `KeyedPool.LogDirective`: a directive.
* `KeyedPool.LogDirective.read?`: the directive that a text gives.
-/

namespace KeyedPool

/-! ### Levels -/

/-- From which severity on events are logged. -/
inductive LogLevel where
  /-- Nothing is logged. -/
  | off
  /-- Errors. -/
  | error
  /-- Warnings and errors. -/
  | warn
  /-- What is of interest in operation. -/
  | info
  /-- What is of interest to a developer. -/
  | debug
  /-- Everything. -/
  | trace
deriving DecidableEq

namespace LogLevel

/-- The levels by name, in the order of their numbers. -/
def byName : List (String × LogLevel) :=
  [("off", .off), ("error", .error), ("warn", .warn), ("info", .info), ("debug", .debug),
   ("trace", .trace)]

/-- The number that a text of digits writes, with or without a plus sign. -/
def number? (cs : List Char) : Option Nat :=
  let digits := match cs with
    | '+' :: r => r
    | cs => cs
  if digits.isEmpty || !digits.all Text.isDigit then none else some (Text.ofDigits 10 digits)

/-- **The level that a text gives**, by its number or by its name in upper or lower case. -/
def read? (cs : List Char) : Option LogLevel :=
  match number? cs with
  | some n => byName[n]?.map Prod.snd
  | none => byName.lookup (String.ofList (cs.map Char.toLower))

end LogLevel

/-! ### Directives -/

/-- One directive of a filter. -/
structure LogDirective where
  /-- The part of the program that it is about; all of it if absent. -/
  target : Option String := none
  /-- The span of the program that it is about; any if absent. -/
  span : Option String := none
  /-- The field that the span must have. -/
  field : Option LogField := none
  /-- The level. -/
  level : LogLevel := .trace

namespace LogDirective

/-- The level after the sign of equality; everything is logged if none is given. -/
def levelAfterSign? (cs : List Char) : Option LogLevel :=
  if cs.isEmpty then some .trace else LogLevel.read? cs

/-- The directive with the level that a text has from some position on. -/
def withLevel? (d : LogDirective) (given : List Char) (start : Nat) : Option LogDirective := do
  let level ← levelAfterSign? (← Text.dropBytes start given)
  some { d with level }

/-- A part of a text as a name, if there is anything in it. -/
def name? (given : List Char) (start stop : Nat) : Option (Option String) :=
  (Text.slice given start stop).map fun name =>
    if name.isEmpty then none else some (String.ofList name)

/-- Whether a directive may begin with a character. -/
def mayBegin (c : Char) : Bool :=
  c == '-' || c == ':' || c == '_' || Text.isAlphanumeric c

/-- A text without white space around it. -/
def trimmed (cs : List Char) : List Char :=
  ((cs.dropWhile Text.isWhiteSpace).reverse.dropWhile Text.isWhiteSpace).reverse

/-- What may follow the span of a directive: nothing, or a sign of equality and a level. -/
def afterSpan? (given : List Char) (d : LogDirective) (after : Nat) :
    List Char → Option LogDirective
  | [] => some d
  | '=' :: _ => d.withLevel? given (after + 1)
  | _ => none

/-- The span of a directive after its bracket, from a position on: a name, and between braces a
field. -/
def span? (given : List Char) (d : LogDirective) (start : Nat) (cs : List Char) :
    Option LogDirective := do
  let name := cs.takeWhile fun c => c != ']' && c != '\x7b'
  let stop := start + Text.byteCount name
  let d := { d with span := ← name? given start stop }
  match cs.dropWhile fun c => c != ']' && c != '\x7b' with
  | ']' :: r => afterSpan? given d (stop + 1) r
  | '\x7b' :: r =>
    let field := r.takeWhile (· != '\x7d')
    let start := stop + 1
    let stop := start + Text.byteCount field
    if field.isEmpty then none
    else
      match r.dropWhile (· != '\x7d') with
      | '\x7d' :: ']' :: r =>
        let d := { d with field := some (← LogField.read? (← Text.slice given start stop)) }
        afterSpan? given d (stop + 2) r
      | _ => none
  | _ => none

/-- **The directive that a text gives.** Where its parts begin and end is found in the text without
the white space around it, but the parts are taken from the text as it was given. So white space in
front moves every part, and white space behind belongs to the level; a directive of white space
alone is none. -/
def read? (given : List Char) : Option LogDirective :=
  match trimmed given with
  | [] => none
  | '[' :: r => span? given {} 1 r
  | c :: r =>
    if !mayBegin c then none
    else do
      let name := c :: r.takeWhile fun c => c != '=' && c != '['
      let stop := Text.byteCount name
      match r.dropWhile fun c => c != '=' && c != '[' with
      | [] =>
        match LogLevel.read? given with
        | some level => some { level }
        | none => some { target := String.ofList given }
      | sign :: r =>
        let d : LogDirective := { target := ← name? given 0 stop }
        if sign = '=' then d.withLevel? given (stop + 1) else span? given d (stop + 1) r

end LogDirective

end KeyedPool
