import KeyedPool.Document
import KeyedPool.Timestamp
import KeyedPool.Toml.Text

/-!
# Numbers, dates and times of TOML

* `KeyedPool.Toml.dateOrTime`: a date, a time of day, or both with or without an offset from UTC.
* `KeyedPool.Toml.number`: a whole number to one of four bases, or one with a fraction or an
  exponent.
-/

namespace KeyedPool.Toml

/-! ### Dates and times -/

/-- Exactly two digits, which write a number in some range. -/
def twoDigits (low high : Nat) : Reader Nat
  | a :: b :: r =>
    let n := Text.ofDigits 10 [a, b]
    if Text.isDigit a && Text.isDigit b && low ≤ n && n ≤ high then some (n, r) else none
  | _ => none

/-- A character that must stand at the front. -/
def mark (c : Char) : List Char → Option (List Char)
  | [] => none
  | d :: r => if d = c then some r else none

/-- A date that the calendar has. -/
def date (cs : List Char) : Option (List Char) := do
  let digits := cs.take 4
  let cs ← mark '-' (cs.drop 4)
  let (month, cs) ← twoDigits 1 12 cs
  let cs ← mark '-' cs
  let (day, cs) ← twoDigits 1 31 cs
  if day ≤ CivilDate.daysInMonth (Text.ofDigits 10 digits) month then some cs else none

/-- The decimals of a second, with their point; nothing if there are none. -/
def decimals : List Char → Option (List Char)
  | '.' :: r =>
    if r.head?.any Text.isDigit then some (r.dropWhile Text.isDigit) else none
  | cs => some cs

/-- A time of day. -/
def time (cs : List Char) : Option (List Char) := do
  let (_, cs) ← twoDigits 0 23 cs
  let cs ← mark ':' cs
  let (_, cs) ← twoDigits 0 59 cs
  let cs ← mark ':' cs
  let (_, cs) ← twoDigits 0 60 cs
  decimals cs

/-- An offset from UTC; nothing if there is none. -/
def offset : List Char → Option (List Char)
  | c :: r =>
    if c = 'Z' ∨ c = 'z' then some r
    else if c = '+' ∨ c = '-' then do
      let (_, r) ← twoDigits 0 23 r
      let r ← mark ':' r
      let (_, r) ← twoDigits 0 59 r
      some r
    else some (c :: r)
  | [] => some []

/-- Whether a text begins like a time of day: with an hour and a colon. -/
def beginsTime (cs : List Char) : Bool :=
  ((twoDigits 0 23 cs).bind fun hour => mark ':' hour.2).isSome

/-- Whether a text begins like a date: with four digits and a hyphen. -/
def beginsDate (cs : List Char) : Bool :=
  (cs.take 4).length == 4 && (cs.take 4).all Text.isDigit && (cs.drop 4).head? == some '-'

/-- Whether a character may stand between a date and a time. -/
def isDelimiter (c : Char) : Bool := c == 'T' || c == 't' || c == ' '

/-- The time after a date, with what stands in between and the offset; nothing if there is none. -/
def timeAfterDate : List Char → Option (List Char)
  | c :: r => if isDelimiter c && beginsTime r then time r >>= offset else some (c :: r)
  | [] => some []

/-- **A date, a time of day, or both.** Which one it is shows at its beginning. -/
def dateOrTime (cs : List Char) : Option (Document × List Char) := do
  let rest ← if beginsDate cs then date cs >>= timeAfterDate else time cs
  some (.date (String.ofList (cs.take (cs.length - rest.length))), rest)

/-! ### Numbers -/

/-- More digits of a number, which are taken with the underscores that may stand between two of
them, the last digit first. -/
def digitsFrom (isDigit : Char → Bool) (read : List Char) : Reader (List Char)
  | [] => some (read.reverse, [])
  | '_' :: c :: r => if isDigit c then digitsFrom isDigit (c :: read) r else none
  | c :: r =>
    if isDigit c then digitsFrom isDigit (c :: read) r
    else if c = '_' then none
    else some (read.reverse, c :: r)

/-- One digit or more, with underscores that may stand between two of them. -/
def digits (isDigit : Char → Bool) : Reader (List Char)
  | c :: r => if isDigit c then digitsFrom isDigit [c] r else none
  | [] => none

/-- The digits of a whole number to base ten: a zero stands alone. -/
def decimalDigits : Reader (List Char)
  | '0' :: r => some (['0'], r)
  | cs => digits Text.isDigit cs

/-- Whether a character is a digit to base eight. -/
def isOctal (c : Char) : Bool := '0' ≤ c && c ≤ '7'

/-- Whether a character is a digit to base two. -/
def isBinary (c : Char) : Bool := c == '0' || c == '1'

/-- Whether a character is a digit to base sixteen. -/
def isHex (c : Char) : Bool := (Text.hexValue? c).isSome

/-- A whole number, if a signed 64-bit word holds it. -/
def whole? (n : Int) : Option Document :=
  if Int64.minValue.toInt ≤ n ∧ n ≤ Int64.maxValue.toInt then some (.int n) else none

/-- A whole number to some base, after the letter of the base. -/
def inBase (base : Nat) (isDigit : Char → Bool) (cs : List Char) :
    Option (Document × List Char) := do
  let (ds, cs) ← digits isDigit cs
  let n ← whole? (Text.ofDigits base ds)
  some (n, cs)

/-- The fraction of a number after its whole digits, with its point; nothing if there is none. -/
def fraction : Reader (List Char)
  | '.' :: r => digits Text.isDigit r
  | cs => some ([], cs)

/-- The exponent of a number; nothing if there is none. -/
def exponent : Reader (Option Int)
  | c :: r =>
    if c = 'e' ∨ c = 'E' then
      match r with
      | '-' :: r => (digits Text.isDigit r).map fun d => (some (-(Text.ofDigits 10 d.1 : Int)), d.2)
      | '+' :: r => (digits Text.isDigit r).map fun d => (some (Text.ofDigits 10 d.1 : Int), d.2)
      | r => (digits Text.isDigit r).map fun d => (some (Text.ofDigits 10 d.1 : Int), d.2)
    else some (none, c :: r)
  | [] => some (none, [])

/-- The least number that double precision cannot tell from an infinite one: half a step above the
greatest finite number. -/
def overflowBound : Nat := 1 <<< 1024 - 1 <<< 970

/-- Whether `mantissa * 10 ^ scale` is finite in double precision. Its order of magnitude
decides, but for a narrow range. -/
def isFinite (mantissa : Nat) (scale : Int) : Bool :=
  if mantissa = 0 then true
  else
    let order : Int := (Nat.toDigits 10 mantissa).length + scale
    if order < 300 then true
    else if 320 < order then false
    else if 0 ≤ scale then mantissa * Nat.pow 10 scale.toNat < overflowBound
    else mantissa < overflowBound * Nat.pow 10 scale.natAbs

/-- A number to base ten, after its sign. One that is too great for double precision is refused
if it is positive. -/
def decimal (negative : Bool) (cs : List Char) : Option (Document × List Char) := do
  let (ds, rest) ← decimalDigits cs
  let (part, rest) ← fraction rest
  let (scale, rest) ← exponent rest
  if !part.isEmpty || scale.isSome then
    let mantissa := Text.ofDigits 10 (ds ++ part)
    if negative || isFinite mantissa (scale.getD 0 - part.length) then
      some (.real (String.ofList (cs.take (cs.length - rest.length))), rest)
    else none
  else
    let n : Int := Text.ofDigits 10 ds
    let n ← whole? (if negative then -n else n)
    some (n, rest)

/-- A number that has no digits, after its sign. -/
def special (cs : List Char) : Option (Document × List Char) :=
  match cs with
  | 'i' :: 'n' :: 'f' :: r => some (.real "inf", r)
  | 'n' :: 'a' :: 'n' :: r => some (.real "nan", r)
  | _ => none

/-- A number after its sign, or without one. -/
def unsigned (negative : Bool) (cs : List Char) : Option (Document × List Char) :=
  (special cs).orElse fun _ => decimal negative cs

/-- **A number.** Only one to base ten may have a sign. -/
def number : Reader Document
  | '+' :: r => unsigned false r
  | '-' :: r => unsigned true r
  | '0' :: 'x' :: r => inBase 16 isHex r
  | '0' :: 'o' :: r => inBase 8 isOctal r
  | '0' :: 'b' :: r => inBase 2 isBinary r
  | cs => unsigned false cs

end KeyedPool.Toml
