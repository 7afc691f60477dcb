import FeedSync.Json.Tree
import FeedSync.Json.Value
import FeedSync.Proofs.Text.Digits
import Mathlib.Data.List.Basic

/-!
# The grammar of JSON

Which texts are values of JSON, told apart from any reader. Strings and numbers have a grammar of
their own; a value may have blanks around it, so that the grammar of containers need not mention
them. What the library writes is in the grammar.

## Main definitions

* `IsStringBody`, `IsNumber` — the texts of strings, without their quotes, and of numbers.
* `IsJson` — the texts of values, with blanks around them.

## Main statements

* `isStringBody_escape`, `isNumber_signedDecimal` — strings and integers as they are written.
-/

namespace FeedSync.Json

open FeedSync.Text

/-- A text of blanks. -/
abbrev Blanks (cs : List Char) : Prop := ∀ c ∈ cs, isJsonBlank c = true

/-! ### Strings -/

/-- **What stands between the quotes of a string**: characters that need no escape, escapes of one
letter, and numeric escapes. -/
inductive IsStringBody : List Char → Prop where
  | nil : IsStringBody []
  | plain {c : Char} {cs : List Char} :
      c ≠ '"' → c ≠ '\\' → ¬ c < ' ' → IsStringBody cs → IsStringBody (c :: cs)
  | letter {e : Char} {cs : List Char} :
      e ∈ "\"\\/bfnrt".toList → IsStringBody cs → IsStringBody ('\\' :: e :: cs)
  | unit {a b c d : Char} {cs : List Char} :
      (∀ x ∈ [a, b, c, d], (hexValue? x).isSome = true) → IsStringBody cs →
        IsStringBody ('\\' :: 'u' :: a :: b :: c :: d :: cs)

/-- A written character is one piece of a string. -/
theorem IsStringBody.escapeChar_append (c : Char) {cs : List Char} (h : IsStringBody cs) :
    IsStringBody (escapeChar c ++ cs) := by
  by_cases hquote : c = '"'
  · rw [hquote]
    exact .letter (by decide) h
  by_cases hbackslash : c = '\\'
  · rw [hbackslash]
    exact .letter (by decide) h
  unfold escapeChar
  rw [if_neg (by simpa using hquote), if_neg (by simpa using hbackslash)]
  iterate 5
    split
    · exact .letter (by decide) h
  split
  · next hcontrol =>
      have hn : c.toNat < 32 := hcontrol
      have hhigh := hexValue?_hexDigit (c.toNat / 16) (by omega)
      have hlow := hexValue?_hexDigit (c.toNat % 16) (by omega)
      refine .unit (fun x hx => ?_) h
      rcases List.mem_cons.mp hx with rfl | hx
      · rfl
      rcases List.mem_cons.mp hx with rfl | hx
      · rfl
      rcases List.mem_cons.mp hx with rfl | hx
      · rw [hhigh]
        rfl
      · rw [List.mem_singleton.mp hx, hlow]
        rfl
  · next hcontrol => exact .plain hquote hbackslash hcontrol h

/-- What is written between the quotes of a string stands there rightly. -/
theorem isStringBody_escape (chars : List Char) : IsStringBody (escape chars) := by
  induction chars with
  | nil => exact .nil
  | cons c chars ih => exact ih.escapeChar_append c

/-! ### Numbers -/

/-- Zero, or digits that do not start with zero. -/
def IsInteger (cs : List Char) : Prop :=
  cs = ['0'] ∨ ∃ c ds, cs = c :: ds ∧ c.isDigit = true ∧ c ≠ '0' ∧ AllDigits ds

/-- Nothing, or a point and some digits. -/
def IsFraction (cs : List Char) : Prop :=
  cs = [] ∨ ∃ ds, cs = '.' :: ds ∧ ds ≠ [] ∧ AllDigits ds

/-- Nothing, or the letter, perhaps a sign, and some digits. -/
def IsExponent (cs : List Char) : Prop :=
  cs = [] ∨ ∃ e sign ds, cs = e :: (sign ++ ds) ∧ e ∈ ['e', 'E'] ∧ sign ∈ [[], ['+'], ['-']] ∧
    ds ≠ [] ∧ AllDigits ds

/-- **The text of a number.** -/
def IsNumber (cs : List Char) : Prop :=
  ∃ sign whole fraction exponent, cs = sign ++ (whole ++ (fraction ++ exponent)) ∧
    sign ∈ [[], ['-']] ∧ IsInteger whole ∧ IsFraction fraction ∧ IsExponent exponent

/-- Written numbers have no zero in front. -/
theorem isInteger_decimal (n : Nat) : IsInteger (decimal n) := by
  by_cases h : n = 0
  · exact .inl (by rw [h]; rfl)
  · have hhead := head_decimal_ne_zero h
    have hdigits := allDigits_decimal n
    cases hdecimal : decimal n with
    | nil => exact absurd hdecimal (decimal_ne_nil n)
    | cons c ds =>
        rw [hdecimal] at hhead hdigits
        obtain ⟨hc, hds⟩ := List.forall_mem_cons.mp hdigits
        exact .inr ⟨c, ds, rfl, hc, fun heq => hhead (congrArg some heq), hds⟩

/-- Written integers are numbers. -/
theorem isNumber_signedDecimal (i : Int) : IsNumber (signedDecimal i) := by
  unfold signedDecimal
  split
  · exact ⟨['-'], decimal i.natAbs, [], [], by simp, by simp, isInteger_decimal _, .inl rfl,
      .inl rfl⟩
  · exact ⟨[], decimal i.natAbs, [], [], by simp, by simp, isInteger_decimal _, .inl rfl,
      .inl rfl⟩

/-! ### Values -/

/-- A member of an object as it is written: its name with quotes, and its value. -/
structure Entry where
  name : List Char
  value : List Char

/-- The text of a member. -/
def Entry.text (entry : Entry) : List Char := entry.name ++ ':' :: entry.value

/-- Texts with commas between them. -/
def separated : List (List Char) → List Char
  | [] => []
  | [text] => text
  | text :: texts => text ++ ',' :: separated texts

/-- The text of an array with elements of the given texts. -/
def arrayText (texts : List (List Char)) : List Char := '[' :: separated texts ++ [']']

/-- The text of an object with the given members. -/
def objectText (entries : List Entry) : List Char :=
  '{' :: separated (entries.map Entry.text) ++ ['}']

/-- The name of a member: a string with blanks around it. -/
def IsName (cs : List Char) : Prop :=
  ∃ front body back, cs = front ++ '"' :: (body ++ '"' :: back) ∧ Blanks front ∧
    IsStringBody body ∧ Blanks back

/-- **The text of a value**, with blanks around it. -/
inductive IsJson : List Char → Prop where
  | null : IsJson "null".toList
  | true : IsJson "true".toList
  | false : IsJson "false".toList
  | number {cs : List Char} : IsNumber cs → IsJson cs
  | string {body : List Char} : IsStringBody body → IsJson ('"' :: body ++ ['"'])
  | emptyArray {blanks : List Char} : Blanks blanks → IsJson ('[' :: blanks ++ [']'])
  | array {texts : List (List Char)} : (∀ text ∈ texts, IsJson text) → IsJson (arrayText texts)
  | emptyObject {blanks : List Char} : Blanks blanks → IsJson ('{' :: blanks ++ ['}'])
  | object {entries : List Entry} : (∀ entry ∈ entries, IsName entry.name) →
      (∀ entry ∈ entries, IsJson entry.value) → IsJson (objectText entries)
  | blankBefore {c : Char} {cs : List Char} : isJsonBlank c = Bool.true → IsJson cs →
      IsJson (c :: cs)
  | blankAfter {c : Char} {cs : List Char} : isJsonBlank c = Bool.true → IsJson cs →
      IsJson (cs ++ [c])

end FeedSync.Json
