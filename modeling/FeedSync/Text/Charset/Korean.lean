import FeedSync.Text.Charset.Hangul
import FeedSync.Text.Charset.Pair

/-!
# Korean character sets

How Korean texts are read that put the two bytes of a character next to ASCII.
-/

namespace FeedSync.Text

/-- The character of a pair of bytes in a Korean text. -/
def koreanPair? (lead trail : UInt8) : Option Char :=
  if 0x41 ≤ trail && trail ≤ 0xfe then
    cell? hangul 190 ((lead.toNat - 0x81) * 190 + (trail.toNat - 0x41))
  else none

/-- The characters of a Korean text. -/
def readEucKr : List UInt8 → List (Option Char)
  | [] => []
  | b :: bytes =>
    if b < 0x80 then some (ascii b) :: readEucKr bytes
    else if 0x81 ≤ b && b ≤ 0xfe then
      match bytes with
      | [] => [none]
      | second :: rest => pairText (koreanPair? b second) second ++ readEucKr rest
    else none :: readEucKr bytes

end FeedSync.Text
