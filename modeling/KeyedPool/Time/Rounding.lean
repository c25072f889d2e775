/-!
# Rounding quotients of whole numbers

Exact arithmetic for values that are kept to a limited number of digits.

* `KeyedPool.roundDiv`: a quotient rounded to the nearest whole number, ties to even.
* `KeyedPool.roundSignificant`: a quotient rounded to a number of significant binary digits.
-/

namespace KeyedPool

/-- **The quotient `num / den` rounded to the nearest whole number**; a tie goes to the even one. -/
def roundDiv (num den : Nat) : Nat :=
  let low := num / den
  let twice := 2 * (num % den)
  if twice < den then low
  else if den < twice then low + 1
  else low + low % 2

/-- The quotient `num / den` rounded to `bits` significant binary digits, ties to even, for a
quotient with at least that many digits before the point or none after it. -/
def roundSignificant (bits num den : Nat) : Nat :=
  let unit := 1 <<< ((num / den).log2 + 1 - bits)
  roundDiv num (den * unit) * unit

/-- Rounding is off by at most half: the remainder on either side is at most half the divisor. -/
theorem roundDiv_near (num : Nat) {den : Nat} (h : 0 < den) :
    2 * num ≤ 2 * (roundDiv num den * den) + den ∧
      2 * (roundDiv num den * den) ≤ 2 * num + den := by
  have hdiv : num / den * den + num % den = num := Nat.div_add_mod' num den
  have hlt : num % den < den := Nat.mod_lt _ h
  have hsucc : (num / den + 1) * den = num / den * den + den := Nat.succ_mul _ _
  unfold roundDiv
  simp only
  split
  · omega
  · split
    · omega
    · rcases Nat.mod_two_eq_zero_or_one (num / den) with e | e <;> rw [e]
      · rw [Nat.add_zero]
        omega
      · omega

end KeyedPool
