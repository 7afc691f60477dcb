import FeedSync.Text.Blank
import FeedSync.Text.Digits

/-!
# Scanning a text from the left

A `Scan` takes a piece from the front of a text or refuses it. The readers of the date formats are
written in it; each primitive below states which piece it takes.
-/

namespace FeedSync.Text

/-- A reader that takes a piece from the front of a text, or refuses. -/
abbrev Scan := StateT (List Char) Option

namespace Scan

/-- What a scan makes of a whole text, if it takes all of it. -/
def whole {α : Type} (scan : Scan α) (text : List Char) : Option α :=
  match scan.run text with
  | some (a, []) => some a
  | _ => none

/-- The text that is still to be read. -/
def rest : Scan (List Char) := get

/-- Takes the given character. -/
def char (c : Char) : Scan Unit := fun
  | [] => none
  | x :: cs => if x = c then some ((), cs) else none

/-- Takes any one of the given characters. -/
def oneOf (choices : List Char) : Scan Char := fun
  | [] => none
  | x :: cs => if x ∈ choices then some (x, cs) else none

/-- Takes the given word as it is written. -/
def word : List Char → Scan Unit
  | [] => pure ()
  | c :: cs => do char c; word cs

/-- Takes the given character if it is next, and tells whether it was. -/
def optional (c : Char) : Scan Bool := fun
  | [] => some (false, [])
  | x :: cs => if x = c then some (true, cs) else some (false, x :: cs)

/-- Takes all blanks, also none. -/
def blanks : Scan Unit := modify trimStart

/-- Takes all blanks, at least one. -/
def someBlanks : Scan Unit := fun
  | [] => none
  | x :: cs => if isBlank x then some ((), trimStart cs) else none

/-- Takes at most `most` digits, which must be at least `least` and denote no more than the
greatest signed number of 64 bits. -/
def number (least most : Nat) : Scan Nat := fun cs =>
  let (run, rest) := spanDigits most cs
  if least ≤ run.length ∧ digitsValue run ≤ Int64.maxValue.toNatClampNeg then
    some (digitsValue run, rest)
  else none

/-- Takes all digits that follow, which must be at least `least` and denote no more than the
greatest signed number of 64 bits. -/
def numeral (least : Nat) : Scan Nat := fun cs => number least cs.length cs

/-- Takes the digits of a fraction of a second and gives it in nanoseconds. Digits after the ninth
are taken and not counted. -/
def nanoseconds : Scan Nat := fun cs =>
  let (run, rest) := spanDigits 9 cs
  if run.isEmpty then none
  else some (digitsValue run * Nat.pow 10 (9 - run.length), rest.dropWhile Char.isDigit)

/-- Tries a scan and gives back what it took if it refuses. -/
def attempt {α : Type} (scan : Scan α) : Scan (Option α) := fun cs =>
  match scan.run cs with
  | some (a, rest) => some (some a, rest)
  | none => some (none, cs)

end Scan

end FeedSync.Text
