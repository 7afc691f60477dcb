import FeedSync.Text.Charset.Big5
import FeedSync.Text.Charset.Gb18030
import FeedSync.Text.Charset.Pair

/-!
# Chinese character sets

How Chinese texts are read: GB 18030, which has characters of two and of four bytes and contains the
older sets of simplified Chinese, and Big5.
-/

namespace FeedSync.Text

/-! ### GB 18030 -/

/-- Whether a byte is the first or the third one of a character. -/
def isGbLead (b : UInt8) : Bool := 0x81 ≤ b && b ≤ 0xfe

/-- Whether a byte is a digit, which stands second and last in four bytes. -/
def isGbDigit (b : UInt8) : Bool := 0x30 ≤ b && b ≤ 0x39

/-- The character for private use that a pair of bytes stands for. -/
def gbPrivate (lead trail : UInt8) : Char :=
  let start :=
    if lead < 0xa8 then 0xe4c6 + (lead.toNat - 0xa1) * 96 + trailPlace 1 trail
    else if lead < 0xb0 then 0xe000 + (lead.toNat - 0xaa) * 94 + (trail.toNat - 0xa1)
    else 0xe234 + (lead.toNat - 0xf8) * 94 + (trail.toNat - 0xa1)
  Char.ofNat start

/-- The character of a pair of bytes in GB 18030. -/
def gbPair? (lead trail : UInt8) : Option Char :=
  if (0x40 ≤ trail && trail ≤ 0x7e) || (0x80 ≤ trail && trail ≤ 0xfe) then
    cell? gb18030 190 ((lead.toNat - 0x81) * 190 + trailPlace 1 trail) <|>
      some (gbPrivate lead trail)
  else none

/-- The character with a number among those of four bytes. -/
def gbFourBytes? (number : Nat) : Option Char :=
  if number = 7457 then some '\ue7c7'
  else if 189000 ≤ number && number ≤ 1237575 then some (Char.ofNat (0x10000 + (number - 189000)))
  else if number ≤ 39419 then do
    let (first, c) ← (gb18030Runs.takeWhile (·.1 ≤ number)).getLast?
    return Char.ofNat (c + (number - first))
  else none

/-- The number of four bytes. -/
def gbNumber (a b c d : UInt8) : Nat :=
  (((a.toNat - 0x81) * 10 + (b.toNat - 0x30)) * 126 + (c.toNat - 0x81)) * 10 + (d.toNat - 0x30)

/-- The characters of a text in GB 18030. Of four bytes that turn out to be none, only the first one
is left out. -/
def readGb18030 : List UInt8 → List (Option Char)
  | [] => []
  | b :: bytes =>
    if b < 0x80 then some (ascii b) :: readGb18030 bytes
    else if b = 0x80 then some '€' :: readGb18030 bytes
    else if isGbLead b then
      match bytes with
      | [] => [none]
      | second :: rest =>
        if isGbDigit second then
          match rest with
          | [] => [none]
          | [third] => if isGbLead third then [none] else none :: readGb18030 [second, third]
          | third :: fourth :: rest =>
            if isGbLead third && isGbDigit fourth then
              gbFourBytes? (gbNumber b second third fourth) :: readGb18030 rest
            else none :: readGb18030 (second :: third :: fourth :: rest)
        else pairText (gbPair? b second) second ++ readGb18030 rest
    else none :: readGb18030 bytes

/-! ### Big5 -/

/-- The characters of a pair of bytes in Big5. Four pairs stand for a letter with a mark. -/
def big5Pair? (lead trail : UInt8) : Option (List Char) :=
  if (0x40 ≤ trail && trail ≤ 0x7e) || (0xa1 ≤ trail && trail ≤ 0xfe) then
    match (lead.toNat - 0x81) * 157 + trailPlace 34 trail with
    | 1133 => some ['Ê', '\u0304']
    | 1135 => some ['Ê', '\u030c']
    | 1164 => some ['ê', '\u0304']
    | 1166 => some ['ê', '\u030c']
    | number => (cell? big5 157 number).map ([·])
  else none

/-- The characters of a text in Big5. -/
def readBig5 : List UInt8 → List (Option Char)
  | [] => []
  | b :: bytes =>
    if b < 0x80 then some (ascii b) :: readBig5 bytes
    else if 0x81 ≤ b && b ≤ 0xfe then
      match bytes with
      | [] => [none]
      | second :: rest =>
        match big5Pair? b second with
        | some cs => cs.map some ++ readBig5 rest
        | none => pairText none second ++ readBig5 rest
    else none :: readBig5 bytes

end FeedSync.Text
