/-!
# Texts in UTF-8

How bytes are read as a text. Bytes that are no text are found in **runs**: the longest beginning of
a character that cannot be finished, or a single byte that begins none. A strict reader refuses the
text, a lenient one puts a replacement character for each run.
-/

namespace FeedSync.Text

/-- How a character in UTF-8 goes on after its first byte. -/
structure Utf8Lead where
  /-- The bits of the first byte that belong to the character. -/
  bits : Nat
  /-- How many bytes follow. -/
  more : Nat
  /-- The bounds of the second byte; those after it lie between 0x80 and 0xBF. -/
  low : Nat := 0x80
  high : Nat := 0xBF

/-- What a first byte says, if it begins a character of more than one byte. -/
def utf8Lead? (b : Nat) : Option Utf8Lead :=
  if 0xC2 ≤ b ∧ b ≤ 0xDF then some { bits := b - 0xC0, more := 1 }
  else if b = 0xE0 then some { bits := 0, more := 2, low := 0xA0 }
  else if b = 0xED then some { bits := 0xD, more := 2, high := 0x9F }
  else if 0xE1 ≤ b ∧ b ≤ 0xEF then some { bits := b - 0xE0, more := 2 }
  else if b = 0xF0 then some { bits := 0, more := 3, low := 0x90 }
  else if 0xF1 ≤ b ∧ b ≤ 0xF3 then some { bits := b - 0xF0, more := 3 }
  else if b = 0xF4 then some { bits := 4, more := 3, high := 0x8F }
  else none

/-- Takes the bytes that finish a character. The answer is missing for a run that is no text. -/
def takeUtf8 : (more low high : Nat) → (value : Nat) → List UInt8 → Option Char × List UInt8
  | 0, _, _, value, bytes => (some (Char.ofNat value), bytes)
  | _ + 1, _, _, _, [] => (none, [])
  | more + 1, low, high, value, b :: bytes =>
    if low ≤ b.toNat ∧ b.toNat ≤ high then
      takeUtf8 more 0x80 0xBF (value * 0x40 + (b.toNat - 0x80)) bytes
    else (none, b :: bytes)

/-- The characters of some bytes; missing ones stand for runs that are no text. -/
def readUtf8 : (fuel : Nat) → List UInt8 → List (Option Char)
  | 0, _ => []
  | _, [] => []
  | fuel + 1, b :: bytes =>
    if b.toNat < 0x80 then some (Char.ofNat b.toNat) :: readUtf8 fuel bytes
    else
      match utf8Lead? b.toNat with
      | none => none :: readUtf8 fuel bytes
      | some lead =>
        let (c, bytes) := takeUtf8 lead.more lead.low lead.high lead.bits bytes
        c :: readUtf8 fuel bytes

/-- The text of some bytes, if they are one. -/
def utf8? (bytes : List UInt8) : Option String :=
  ((readUtf8 bytes.length bytes).mapM id).map String.ofList

/-- The text of some bytes with a replacement character for each run that is no text. -/
def utf8Lenient (bytes : List UInt8) : String :=
  String.ofList ((readUtf8 bytes.length bytes).map (·.getD '\ufffd'))

end FeedSync.Text
