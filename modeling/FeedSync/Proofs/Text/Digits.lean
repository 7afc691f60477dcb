import FeedSync.Text.Digits
import Mathlib.Tactic.IntervalCases

/-!
# Written numbers

What a number that is written in decimal consists of, and what its digits denote when they are read
again.

## Main statements

* `digitsValue_decimal`, `digitsValue_padded` — a written number denotes itself.
* `length_padded` — a number that is filled up has the width it is filled up to.
* `spanDigits_append_of_digits` — a run of digits is split off as a whole where it ends.
-/

namespace FeedSync.Text

/-- There are ten digits. -/
theorem mem_of_isDigit {c : Char} (h : c.isDigit = true) : c ∈ "0123456789".toList := by
  rw [Char.isDigit, Bool.and_eq_true, decide_eq_true_eq, decide_eq_true_eq] at h
  have hfirst : 48 ≤ c.toNat := h.1
  have hlast : c.toNat ≤ 57 := h.2
  rw [← Char.ofNat_toNat c]
  generalize c.toNat = n at *
  interval_cases n <;> decide

/-- A text of digits. -/
abbrev AllDigits (cs : List Char) : Prop := ∀ c ∈ cs, c.isDigit = true

/-- A digit denotes a number below ten. -/
theorem digitValue_lt {c : Char} (h : c.isDigit = true) : digitValue c < 10 := by
  rw [Char.isDigit, Bool.and_eq_true, decide_eq_true_eq, decide_eq_true_eq] at h
  have hlast : c.toNat ≤ 57 := h.2
  have hzero : '0'.toNat = 48 := rfl
  rw [digitValue]
  omega

/-- What digits denote is what the core library makes of them. -/
theorem readDigits_eq_ofDigitChars (n : Nat) (cs : List Char) :
    readDigits n cs = Nat.ofDigitChars 10 cs n :=
  rfl

theorem readDigits_append (n : Nat) (cs ds : List Char) :
    readDigits n (cs ++ ds) = readDigits (readDigits n cs) ds :=
  List.foldl_append

/-! ### Bare numbers -/

theorem decimal_ne_nil (n : Nat) : decimal n ≠ [] := Nat.toDigits_ne_nil

theorem allDigits_decimal (n : Nat) : AllDigits (decimal n) := fun _ h =>
  Nat.isDigit_of_mem_toDigits (by decide) (by decide) h

/-- What a number consists of that is put into a text. -/
theorem toList_toString (n : Nat) : (toString n).toList = decimal n := by
  rw [Nat.toString_eq_repr, Nat.toList_repr, decimal]

/-- **A written number denotes itself.** -/
@[simp]
theorem digitsValue_decimal (n : Nat) : digitsValue (decimal n) = n :=
  Nat.ofDigitChars_ten_toDigits

/-- Only zero is written with a zero in front. -/
theorem head_decimal_ne_zero {n : Nat} (h : n ≠ 0) : (decimal n).head? ≠ some '0' := by
  induction n using Nat.strongRecOn with
  | ind n ih =>
      by_cases hlt : n < 10
      · rw [decimal, Nat.toDigits_of_lt_base hlt, List.head?_cons, ne_eq, Option.some.injEq,
          Nat.digitChar_eq_zero]
        exact h
      · rw [decimal, Nat.toDigits_of_base_le (by decide) (Nat.not_lt.mp hlt), List.head?_append]
        have hne := decimal_ne_nil (n / 10)
        have hhead := ih (n / 10) (by omega) (by omega)
        rw [decimal] at hne hhead
        cases hd : (Nat.toDigits 10 (n / 10)).head? with
        | none => exact absurd (List.head?_eq_none_iff.mp hd) hne
        | some c => rwa [hd] at hhead

/-! ### Numbers that are filled up -/

/-- A number that is small enough has the width it is filled up to. -/
theorem length_padded {width n : Nat} (hwidth : 0 < width) (h : n < 10 ^ width) :
    (padded width n).length = width := by
  have hle : (decimal n).length ≤ width := (Nat.length_toDigits_le_iff (by decide) hwidth).mpr h
  rw [padded, List.length_append, List.length_replicate]
  omega

theorem allDigits_padded (width n : Nat) : AllDigits (padded width n) := by
  intro c hc
  rcases List.mem_append.mp hc with hc | hc
  · obtain rfl := List.eq_of_mem_replicate hc
    rfl
  · exact allDigits_decimal n c hc

/-- **A number that is filled up denotes itself.** -/
@[simp]
theorem digitsValue_padded (width n : Nat) : digitsValue (padded width n) = n := by
  rw [digitsValue, padded, readDigits_append]
  have hzeros : readDigits 0 (List.replicate (width - (decimal n).length) '0') = 0 := by
    rw [readDigits_eq_ofDigitChars, Nat.ofDigitChars_replicate_zero, Nat.mul_zero]
  rw [hzeros]
  exact digitsValue_decimal n

/-! ### Runs of digits in a text -/

/-- A text that does not go on with a digit. -/
def EndsDigits (rest : List Char) : Prop := ∀ c, rest.head? = some c → c.isDigit = false

/-- A character that is no digit ends digits. -/
theorem endsDigits_cons {c : Char} (h : c.isDigit = false) (rest : List Char) :
    EndsDigits (c :: rest) := by
  rintro _ ⟨⟩
  exact h

theorem takeWhile_isDigit_append {cs rest : List Char} (hcs : AllDigits cs)
    (hrest : EndsDigits rest) : (cs ++ rest).takeWhile Char.isDigit = cs := by
  rw [List.takeWhile_append_of_pos hcs]
  cases rest with
  | nil => simp
  | cons c rest => simp [hrest c rfl]

theorem dropWhile_isDigit_append {cs rest : List Char} (hcs : AllDigits cs)
    (hrest : EndsDigits rest) : (cs ++ rest).dropWhile Char.isDigit = rest := by
  rw [List.dropWhile_append_of_pos hcs]
  cases rest with
  | nil => rfl
  | cons c rest => simp [hrest c rfl]

/-- **A run of digits is split off as a whole**, if it is as long as may be or nothing goes on. -/
theorem spanDigits_append_of_digits {limit : Nat} {cs rest : List Char} (hcs : AllDigits cs)
    (hlimit : cs.length ≤ limit) (hrest : cs.length < limit → EndsDigits rest) :
    spanDigits limit (cs ++ rest) = (cs, rest) := by
  induction cs generalizing limit with
  | nil =>
      rw [List.nil_append]
      cases limit with
      | zero => rfl
      | succ limit =>
          cases rest with
          | nil => rfl
          | cons c rest => simp [spanDigits, hrest (Nat.succ_pos limit) c rfl]
  | cons c cs ih =>
      cases limit with
      | zero => nomatch hlimit
      | succ limit =>
          obtain ⟨hc, hcs⟩ := List.forall_mem_cons.mp hcs
          have := ih hcs (Nat.le_of_succ_le_succ hlimit) fun h => hrest (Nat.succ_lt_succ h)
          simp [spanDigits, hc, this]

end FeedSync.Text
