import FeedSync.Text.Digits
import FeedSync.Text.Utf8

/-!
# Percent-encoding

A character outside the ones that may stand as they are is written as its UTF-8 bytes, each as `%`
and two hexadecimal digits. Which characters may stand depends on the place.
-/

namespace FeedSync.Text

/-- A byte as `%` and two digits. -/
def percentByte (b : UInt8) : List Char :=
  ['%', (Nat.digitChar (b.toNat / 16)).toUpper, (Nat.digitChar (b.toNat % 16)).toUpper]

/-- A text with the characters of a set percent-encoded. -/
def percentEncode (isEncoded : Char → Bool) (cs : List Char) : List Char :=
  cs.flatMap fun c =>
    if isEncoded c then (String.singleton c).toUTF8.toList.flatMap percentByte else [c]

/-- The bytes of a percent-encoded text. A `%` without two digits after it stands for itself. -/
def percentDecode : List Char → List UInt8
  | '%' :: a :: b :: rest =>
    match hexValue? a, hexValue? b with
    | some x, some y => UInt8.ofNat (16 * x + y) :: percentDecode rest
    | _, _ => '%'.toNat.toUInt8 :: percentDecode (a :: b :: rest)
  | c :: rest => (String.singleton c).toUTF8.toList ++ percentDecode rest
  | [] => []

end FeedSync.Text
