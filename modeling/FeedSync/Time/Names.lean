import FeedSync.Text.Scan

/-!
# Names of months and weekdays

English names in any mixture of cases, by their first three letters.
-/

namespace FeedSync.Time

open FeedSync.Text

/-- The months, each with its first three letters and the rest of its name. -/
def monthNames : List (String × String) :=
  [("jan", "uary"), ("feb", "ruary"), ("mar", "ch"), ("apr", "il"), ("may", ""), ("jun", "e"),
    ("jul", "y"), ("aug", "ust"), ("sep", "tember"), ("oct", "ober"), ("nov", "ember"),
    ("dec", "ember")]

/-- The first three letters of the weekdays, from Monday on. -/
def weekdayNames : List String := ["mon", "tue", "wed", "thu", "fri", "sat", "sun"]

/-- What follows a word at the front of a text, if the text starts with it in any case. -/
def afterWord? : (word : List Char) → List Char → Option (List Char)
  | [], cs => some cs
  | _ :: _, [] => none
  | w :: word, c :: cs => if c.toLower == w then afterWord? word cs else none

/-- The first entry of a list, with its index, that a text starts with, and what follows it. -/
def firstName? (names : List String) (cs : List Char) : Option (Nat × List Char) :=
  names.zipIdx.findSome? fun (name, i) => (afterWord? name.toList cs).map (i, ·)

/-- Takes the first three letters of a month and gives its number. -/
def shortMonth : Scan Nat := fun cs =>
  (firstName? (monthNames.map Prod.fst) cs).map fun (i, rest) => (i + 1, rest)

/-- Takes a month, by its name or the first three letters of it, and gives its number. -/
def month : Scan Nat := do
  let number ← shortMonth
  modify fun cs => (afterWord? (monthNames.getD (number - 1) ("", "")).2.toList cs).getD cs
  return number

/-- Takes the first three letters of a weekday and gives its position from Monday. -/
def shortWeekday : Scan Nat := fun cs => firstName? weekdayNames cs

end FeedSync.Time
