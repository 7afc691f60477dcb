import FeedSync.Text.Digits

/-!
# Numbers with a fixed number of decimal places

A quotient of natural numbers is rounded to a whole number, ties to the even neighbour
(`roundQuotient`); a double is decomposed exactly into a quotient (`doubleQuotient`). Together they
print a double with a fixed number of places as it is, without rounding twice.
-/

namespace FeedSync.Text

/-- The whole number nearest to a quotient; a half goes to the even neighbour. -/
def roundQuotient (num den : Nat) : Nat :=
  let quotient := num / den
  let twice := 2 * (num % den)
  if twice > den || (twice == den && quotient % 2 == 1) then quotient + 1 else quotient

/-- The rounded number is within half a unit of the quotient. -/
theorem roundQuotient_near {num den : Nat} (h : 0 < den) :
    2 * num ≤ (2 * roundQuotient num den + 1) * den ∧
      2 * roundQuotient num den * den ≤ 2 * num + den := by
  have split : den * (num / den) + num % den = num := Nat.div_add_mod num den
  have small : num % den < den := Nat.mod_lt num h
  unfold roundQuotient
  simp only [Bool.or_eq_true, decide_eq_true_eq, Bool.and_eq_true, beq_iff_eq]
  split <;> rename_i hc
  · constructor <;> grind
  · constructor <;> grind

/-- The finite double with the given bits as an exact quotient, without its sign. -/
def doubleQuotient (bits : UInt64) : Nat × Nat :=
  let exponent := (bits >>> 52).toNat % 2048
  let fraction := bits.toNat % (1 <<< 52)
  if exponent = 0 then (fraction, 1 <<< 1074)
  else if exponent ≥ 1075 then (((1 <<< 52) + fraction) <<< (exponent - 1075), 1)
  else ((1 <<< 52) + fraction, 1 <<< (1075 - exponent))

/-- A whole number of hundredths with two decimal places. -/
def hundredths (n : Nat) : List Char := decimal (n / 100) ++ '.' :: padded 2 (n % 100)

end FeedSync.Text
