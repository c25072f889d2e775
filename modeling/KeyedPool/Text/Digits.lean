/-!
# Decimal digits

Numbers in fixed-width fields and decimal fractions.

* `KeyedPool.Text.padded`: the digits of a number, filled up with zeros to a width.
* `KeyedPool.Text.fraction`: a decimal fraction without its trailing zeros.
* `KeyedPool.Text.hexDigits`: the digits of a number to base sixteen.
-/

namespace KeyedPool.Text

/-- The decimal digits of `n`, with zeros in front up to `width` places. -/
def padded (width n : Nat) : String :=
  let digits := Nat.toDigits 10 n
  String.ofList (List.replicate (width - digits.length) '0' ++ digits)

/-- A list without the longest run of `c` at its end. -/
def dropTrailing (c : Char) (cs : List Char) : List Char :=
  (cs.reverse.dropWhile (· == c)).reverse

/-- **The fraction `part / 10 ^ places`** written after a point without trailing zeros; nothing at
all when `part` is zero. -/
def fraction (places part : Nat) : String :=
  if part = 0 then ""
  else String.ofList ('.' :: dropTrailing '0' (padded places part).toList)

/-- The digits of `n` to base sixteen, in lower case. -/
def hexDigits (n : Nat) : String := String.ofList (Nat.toDigits 16 n)

/-- The value of a digit to base sixteen, in either case. -/
def hexValue? (c : Char) : Option Nat :=
  if '0' ≤ c ∧ c ≤ '9' then some (c.toNat - '0'.toNat)
  else if 'a' ≤ c ∧ c ≤ 'f' then some (c.toNat - 'a'.toNat + 10)
  else if 'A' ≤ c ∧ c ≤ 'F' then some (c.toNat - 'A'.toNat + 10)
  else none

/-- The number that a list of digits to a base writes; a character that is no digit counts as
nothing. -/
def ofDigits (base : Nat) (cs : List Char) : Nat :=
  cs.foldl (fun n c => n * base + (hexValue? c).getD 0) 0

/-- Whether a character is one of the ten ASCII digits. -/
def isDigit (c : Char) : Bool := '0' ≤ c ∧ c ≤ '9'

end KeyedPool.Text
