import FeedSync.Text.Charset.Jis0208
import FeedSync.Text.Charset.Jis0212
import FeedSync.Text.Charset.Pair

/-!
# Japanese character sets

How Japanese texts are read. Two character sets put the two bytes of a character next to ASCII; the
third one switches between sets of characters by sequences of bytes that begin with an escape byte.
-/

namespace FeedSync.Text

/-- The character of half width with a number. -/
def halfWidth (number : Nat) : Char := Char.ofNat (0xff61 + number)

/-! ### Shift JIS -/

/-- Whether a byte is the first one of a pair in Shift JIS. -/
def isShiftJisLead (b : UInt8) : Bool := (0x81 ≤ b && b ≤ 0x9f) || (0xe0 ≤ b && b ≤ 0xfc)

/-- The character of a pair of bytes in Shift JIS. The numbers between two parts of the table are
for private use. -/
def shiftJisPair? (lead trail : UInt8) : Option Char :=
  if (0x40 ≤ trail && trail ≤ 0x7e) || (0x80 ≤ trail && trail ≤ 0xfc) then
    let first := if lead < 0xa0 then 0x81 else 0xc1
    let number := (lead.toNat - first) * 188 + trailPlace 1 trail
    if 8836 ≤ number && number ≤ 10715 then some (Char.ofNat (0xe000 + (number - 8836)))
    else cell? jis0208 94 number
  else none

/-- The characters of a text in Shift JIS. -/
def readShiftJis : List UInt8 → List (Option Char)
  | [] => []
  | b :: bytes =>
    if b ≤ 0x80 then some (ascii b) :: readShiftJis bytes
    else if 0xa1 ≤ b && b ≤ 0xdf then some (halfWidth (b.toNat - 0xa1)) :: readShiftJis bytes
    else if isShiftJisLead b then
      match bytes with
      | [] => [none]
      | trail :: rest => pairText (shiftJisPair? b trail) trail ++ readShiftJis rest
    else none :: readShiftJis bytes

/-! ### EUC -/

/-- Whether a byte belongs to a pair in EUC. -/
def isEucByte (b : UInt8) : Bool := 0xa1 ≤ b && b ≤ 0xfe

/-- The character of a pair of bytes in EUC. -/
def eucPair? (rows : List String) (lead trail : UInt8) : Option Char :=
  if isEucByte lead && isEucByte trail then
    cell? rows 94 ((lead.toNat - 0xa1) * 94 + (trail.toNat - 0xa1))
  else none

/-- The characters of a text in EUC. A first byte of 0x8e means half width, one of 0x8f the rarer
characters, whose pair follows. -/
def readEucJp : List UInt8 → List (Option Char)
  | [] => []
  | b :: bytes =>
    if b < 0x80 then some (ascii b) :: readEucJp bytes
    else if b = 0x8e || b = 0x8f || isEucByte b then
      match bytes with
      | [] => [none]
      | second :: rest =>
        if b = 0x8e && 0xa1 ≤ second && second ≤ 0xdf then
          some (halfWidth (second.toNat - 0xa1)) :: readEucJp rest
        else if b = 0x8f && isEucByte second then
          match rest with
          | [] => [none]
          | third :: rest => pairText (eucPair? jis0212 second third) third ++ readEucJp rest
        else pairText (eucPair? jis0208 b second) second ++ readEucJp rest
    else none :: readEucJp bytes

/-! ### ISO 2022 -/

/-- The sets of characters between which ISO 2022 switches. -/
inductive JisMode where
  | ascii
  /-- ASCII with a yen sign and an overline. -/
  | roman
  | halfWidth
  | pairs
  deriving DecidableEq, Repr

/-- The set of characters that two bytes after an escape byte select. -/
def JisMode.ofEscape? (a b : UInt8) : Option JisMode :=
  if a = 0x28 && b = 0x42 then some .ascii
  else if a = 0x28 && b = 0x4a then some .roman
  else if a = 0x28 && b = 0x49 then some .halfWidth
  else if a = 0x24 && (b = 0x40 || b = 0x42) then some .pairs
  else none

/-- The character of a single byte in a set of characters. -/
def JisMode.single? (mode : JisMode) (b : UInt8) : Option Char :=
  match mode with
  | .halfWidth => if 0x21 ≤ b && b ≤ 0x5f then some (Text.halfWidth (b.toNat - 0x21)) else none
  | .pairs => none
  | _ =>
    if b ≥ 0x80 || b = 0x0e || b = 0x0f then none
    else if mode = .roman && b = 0x5c then some '¥'
    else if mode = .roman && b = 0x7e then some '‾'
    else some (Text.ascii b)

/-- Whether a byte belongs to a pair in ISO 2022. -/
def isJisByte (b : UInt8) : Bool := 0x21 ≤ b && b ≤ 0x7e

/-- The characters of a text in ISO 2022. One switch right after another one is no character. -/
def readIso2022Jp (mode : JisMode) (hasSwitched : Bool) : List UInt8 → List (Option Char)
  | [] => []
  | b :: bytes =>
    if b = 0x1b then
      match bytes with
      | first :: second :: rest =>
        match JisMode.ofEscape? first second with
        | some mode =>
          let switched := readIso2022Jp mode true rest
          if hasSwitched then none :: switched else switched
        | none => none :: readIso2022Jp mode false (first :: second :: rest)
      | rest => none :: readIso2022Jp mode false rest
    else if mode = .pairs && isJisByte b then
      match bytes with
      | [] => [none]
      | second :: rest =>
        if isJisByte second then
          cell? jis0208 94 ((b.toNat - 0x21) * 94 + (second.toNat - 0x21)) ::
            readIso2022Jp mode false rest
        else if second = 0x1b then none :: readIso2022Jp mode false (second :: rest)
        else none :: readIso2022Jp mode false rest
    else mode.single? b :: readIso2022Jp mode false bytes

end FeedSync.Text
