/-!
# Characters of two bytes

Character sets that put the two bytes of a character next to ASCII find the character in a table of
rows. Missing characters stand for bytes that are none; an ASCII byte in the place of a second byte
counts by itself.
-/

namespace FeedSync.Text

/-- The character with a number in a table of rows of some width. -/
def cell? (rows : List String) (width number : Nat) : Option Char := do
  let c ← (← rows[number / width]?).toList[number % width]?
  if c = '\ufffd' then none else some c

/-- An ASCII byte as a character. -/
def ascii (b : UInt8) : Char := Char.ofNat b.toNat

/-- What a pair of bytes is read as, given its character and its second byte. -/
def pairText (c : Option Char) (second : UInt8) : List (Option Char) :=
  if c.isNone && second < 0x80 then [none, some (ascii second)] else [c]

/-- The place of a second byte in a row whose bytes start at 0x40 and leave out some from 0x7f. -/
def trailPlace (skipped : Nat) (trail : UInt8) : Nat :=
  if trail < 0x7f then trail.toNat - 0x40 else trail.toNat - 0x40 - skipped

end FeedSync.Text
