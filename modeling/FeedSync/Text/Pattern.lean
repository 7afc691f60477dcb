import FeedSync.Text.Blank

/-!
# Patterns of texts

Sequences of characters described by classes, choices and repetitions. A pattern is matched at the
front of a text; `Pattern.rests` lists what may follow, **the preferred way first**: of two choices
the left one, of two counts of a repetition the greater one. A text matches as a whole if one of
the ways leaves nothing.
-/

namespace FeedSync.Text

/-- A set of sequences of characters. -/
inductive Pattern where
  | empty
  /-- One character of a class. -/
  | one (test : Char → Bool)
  | seq (first second : Pattern)
  | either (left right : Pattern)
  /-- At least `least` and at most `most` times; any number of times without `most`. -/
  | repeated (pattern : Pattern) (least : Nat) (most : Option Nat)

namespace Pattern

/-- What may follow after between `least` and `most` steps, longer ways first. -/
def steps (step : List Char → List (List Char)) : (most least : Nat) → List Char → List (List Char)
  | 0, least, cs => if least = 0 then [cs] else []
  | most + 1, least, cs =>
    (step cs).flatMap (steps step most (least - 1)) ++ (if least = 0 then [cs] else [])

/-- What may follow a pattern at the front of a text, the preferred way first. -/
def rests : Pattern → List Char → List (List Char)
  | .empty, cs => [cs]
  | .one _, [] => []
  | .one test, c :: cs => if test c then [cs] else []
  | .seq first second, cs => (first.rests cs).flatMap second.rests
  | .either left right, cs => left.rests cs ++ right.rests cs
  | .repeated pattern least most, cs =>
    steps pattern.rests (most.getD (max least cs.length)) least cs

/-- Whether the text starts with the pattern. -/
def matchesFront (p : Pattern) (cs : List Char) : Bool := !(p.rests cs).isEmpty

/-- Whether the text as a whole has the form of the pattern. -/
def matchesAll (p : Pattern) (cs : List Char) : Bool := (p.rests cs).any List.isEmpty

/-- Whether the pattern occurs somewhere in the text. -/
def occursIn (p : Pattern) : List Char → Bool
  | [] => p.matchesFront []
  | c :: cs => p.matchesFront (c :: cs) || occursIn p cs

/-- The end of a text after a first pattern, where the end as a whole has the form of a second
one. -/
def splitEnd? (front back : Pattern) (cs : List Char) : Option (List Char) :=
  (front.rests cs).find? back.matchesAll

/-! ### Common patterns -/

/-- One given character. -/
def char (c : Char) : Pattern := .one (· == c)

/-- The given word. -/
def word (s : String) : Pattern := s.toList.foldr (fun c p => .seq (char c) p) .empty

/-- One pattern after the other. -/
def all (ps : List Pattern) : Pattern := ps.foldr .seq .empty

/-- A pattern or nothing, rather the pattern. -/
def opt (p : Pattern) : Pattern := .repeated p 0 (some 1)

/-- Between `least` and `most` digits. -/
def digits (least most : Nat) : Pattern := .repeated (.one Char.isDigit) least (some most)

/-- Between `least` and `most` ASCII letters. -/
def letters (least most : Nat) : Pattern := .repeated (.one Char.isAlpha) least (some most)

/-- Any number of blanks. -/
def blanks : Pattern := .repeated (.one isBlank) 0 none

/-- At least one blank. -/
def someBlanks : Pattern := .repeated (.one isBlank) 1 none

end Pattern

end FeedSync.Text
