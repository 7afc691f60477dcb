/-!
# Digits

Runs of ASCII decimal digits read as natural numbers, and natural numbers written as such runs,
bare or filled up with zeros to a least width; and digits of other bases.
-/

namespace FeedSync.Text

/-- The value of one ASCII digit; only meant for characters that are digits. -/
def digitValue (c : Char) : Nat := c.toNat - '0'.toNat

/-- The number that a run of digits denotes, read on from `n`. -/
def readDigits (n : Nat) (cs : List Char) : Nat :=
  cs.foldl (fun n c => 10 * n + digitValue c) n

/-- The number that a run of digits denotes. -/
def digitsValue (cs : List Char) : Nat := readDigits 0 cs

/-- The number in a text of digits, perhaps with a plus sign in front, if it is within a limit. -/
def unsigned? (most : Nat) (cs : List Char) : Option Nat :=
  let digits := if cs.head? = some '+' then cs.drop 1 else cs
  if digits.isEmpty || !digits.all Char.isDigit then none
  else if digitsValue digits ≤ most then some (digitsValue digits)
  else none

/-- The value of a hexadecimal digit in either case. -/
def hexValue? (c : Char) : Option Nat :=
  if '0' ≤ c && c ≤ '9' then some (c.toNat - '0'.toNat)
  else if 'a' ≤ c && c ≤ 'f' then some (c.toNat - 'a'.toNat + 10)
  else if 'A' ≤ c && c ≤ 'F' then some (c.toNat - 'A'.toNat + 10)
  else none

/-- The number that some digits of a base up to sixteen denote; no digits denote zero. -/
def numberIn? (base : Nat) (digits : List Char) : Option Nat :=
  digits.foldlM (fun n d => do
    let value ← hexValue? d
    if value < base then some (base * n + value) else none) 0

/-- A natural number in decimal, without leading zeros. -/
def decimal (n : Nat) : List Char := Nat.toDigits 10 n

/-- A natural number in decimal, filled up with zeros on the left to at least `width` digits. -/
def padded (width n : Nat) : List Char :=
  List.replicate (width - (decimal n).length) '0' ++ decimal n

/-- An integer in decimal: a minus sign for the negative ones, no sign for the others. -/
def signedDecimal (i : Int) : List Char :=
  if i < 0 then '-' :: decimal i.natAbs else decimal i.natAbs

/-- The longest run of digits at the front of a text that is at most `limit` long, and the rest. -/
def spanDigits : (limit : Nat) → List Char → List Char × List Char
  | 0, cs => ([], cs)
  | _, [] => ([], [])
  | limit + 1, c :: cs =>
    if c.isDigit then
      let (run, rest) := spanDigits limit cs
      (c :: run, rest)
    else ([], c :: cs)

/-- Splitting off a run of digits loses nothing. -/
theorem spanDigits_append (limit : Nat) (cs : List Char) :
    (spanDigits limit cs).1 ++ (spanDigits limit cs).2 = cs := by
  fun_induction spanDigits limit cs <;> simp_all

/-- What is split off holds digits only. -/
theorem isDigit_of_mem_spanDigits {limit : Nat} {cs : List Char} {c : Char}
    (h : c ∈ (spanDigits limit cs).1) : c.isDigit = true := by
  fun_induction spanDigits limit cs with
  | case1 | case2 | case4 => exact absurd h List.not_mem_nil
  | case3 limit d cs hdigit run rest hspan ih =>
      rcases List.mem_cons.mp h with rfl | h
      · exact hdigit
      · exact ih (hspan ▸ h)

/-- No more than the limit is split off. -/
theorem length_spanDigits_le (limit : Nat) (cs : List Char) :
    (spanDigits limit cs).1.length ≤ limit := by
  fun_induction spanDigits limit cs <;> simp_all

end FeedSync.Text
