import FeedSync.Text.Charset.Chinese
import FeedSync.Text.Charset.Japanese
import FeedSync.Text.Charset.Korean
import FeedSync.Text.Charset.SingleByte
import FeedSync.Text.Utf8

/-!
# Character sets

How the bytes of a web page are read as text. Bytes that stand for no character are read as the
replacement character. A byte order mark at the front decides which character set it is, whatever
else has been said, and is no part of the text.
-/

namespace FeedSync.Text

/-- A character set. -/
inductive Charset where
  | utf8
  /-- Units of two bytes, the higher one first or last. -/
  | utf16 (isHighFirst : Bool)
  | singleByte (set : SingleByte)
  | shiftJis
  | eucJp
  | iso2022Jp
  | gb18030
  | big5
  | eucKr
  /-- A character set that is not read, because its texts could be taken for others. -/
  | unread
  deriving DecidableEq, Repr

/-- What stands for bytes that are no character. -/
def replacement : Char := '\ufffd'

namespace Charset

/-- Names of the character sets with more than one byte a character. -/
def labels : List (Charset × List String) := [
  (.utf8, ["unicode-1-1-utf-8", "unicode11utf8", "unicode20utf8", "utf-8", "utf8",
    "x-unicode20utf8"]),
  (.utf16 false, ["csunicode", "iso-10646-ucs-2", "ucs-2", "unicode", "unicodefeff", "utf-16",
    "utf-16le"]),
  (.utf16 true, ["unicodefffe", "utf-16be"]),
  (.shiftJis, ["csshiftjis", "ms932", "ms_kanji", "shift-jis", "shift_jis", "sjis", "windows-31j",
    "x-sjis"]),
  (.eucJp, ["cseucpkdfmtjapanese", "euc-jp", "x-euc-jp"]),
  (.iso2022Jp, ["csiso2022jp", "iso-2022-jp"]),
  (.gb18030, ["chinese", "csgb2312", "csiso58gb231280", "gb18030", "gb2312", "gb_2312",
    "gb_2312-80", "gbk", "iso-ir-58", "x-gbk"]),
  (.big5, ["big5", "big5-hkscs", "cn-big5", "csbig5", "x-x-big5"]),
  (.eucKr, ["cseuckr", "csksc56011987", "euc-kr", "iso-ir-149", "korean", "ks_c_5601-1987",
    "ks_c_5601-1989", "ksc5601", "ksc_5601", "windows-949"]),
  (.unread, ["csiso2022kr", "hz-gb-2312", "iso-2022-cn", "iso-2022-cn-ext", "iso-2022-kr",
    "replacement"])]

/-- A blank around the name of a character set. -/
def isLabelBlank (c : Char) : Bool := c ∈ [' ', '\t', '\n', '\r', '\x0c']

/-- The character set with a name. Case and blanks around the name do not count. -/
def ofLabel? (label : String) : Option Charset :=
  let trimmed := ((label.toList.dropWhile isLabelBlank).reverse.dropWhile isLabelBlank).reverse
  let name := String.ofList (trimmed.map Char.toLower)
  let singleByte := SingleByte.all.find? fun set => name ∈ set.labels
  (labels.find? fun (_, names) => name ∈ names).map (·.1) <|> singleByte.map .singleByte

/-! ### Units of two bytes -/

/-- The units of some bytes. A single byte at the end is no unit. -/
def units (isHighFirst : Bool) : List UInt8 → List (Option Nat)
  | a :: b :: rest =>
    let unit := if isHighFirst then 256 * a.toNat + b.toNat else 256 * b.toNat + a.toNat
    some unit :: units isHighFirst rest
  | [_] => [none]
  | [] => []

/-- Whether a unit is the first or the second half of a character. -/
def isHighHalf (unit : Nat) : Bool := 0xd800 ≤ unit && unit < 0xdc00

/-- Whether a unit is the second half of a character. -/
def isLowHalf (unit : Nat) : Bool := 0xdc00 ≤ unit && unit < 0xe000

/-- The characters of some units. A half without its counterpart is no character. -/
def readUnits : List (Option Nat) → List Char
  | some high :: some low :: rest =>
    if isHighHalf high && isLowHalf low then
      Char.ofNat (0x10000 + (high - 0xd800) * 0x400 + (low - 0xdc00)) :: readUnits rest
    else
      (if isHighHalf high || isLowHalf high then replacement else Char.ofNat high) ::
        readUnits (some low :: rest)
  | some unit :: rest =>
    if isHighHalf unit then [replacement]
    else (if isLowHalf unit then replacement else Char.ofNat unit) :: readUnits rest
  | none :: _ => [replacement]
  | [] => []

/-! ### Texts -/

/-- The text of some characters, of which some may be missing. -/
def lenient (cs : List (Option Char)) : String := String.ofList (cs.map (·.getD replacement))

/-- The text of some bytes in a character set. -/
def read : Charset → List UInt8 → String
  | .utf8, bytes => utf8Lenient bytes
  | .utf16 isHighFirst, bytes => String.ofList (readUnits (units isHighFirst bytes))
  | .singleByte set, bytes => String.ofList (bytes.map set.char)
  | .shiftJis, bytes => lenient (readShiftJis bytes)
  | .eucJp, bytes => lenient (readEucJp bytes)
  | .iso2022Jp, bytes => lenient (readIso2022Jp .ascii false bytes)
  | .gb18030, bytes => lenient (readGb18030 bytes)
  | .big5, bytes => lenient (readBig5 bytes)
  | .eucKr, bytes => lenient (readEucKr bytes)
  | .unread, bytes => if bytes.isEmpty then "" else String.singleton replacement

/-- The text of some bytes that are said to be in a character set. -/
def decode (charset : Charset) : List UInt8 → String
  | 0xef :: 0xbb :: 0xbf :: rest => utf8.read rest
  | 0xff :: 0xfe :: rest => (utf16 false).read rest
  | 0xfe :: 0xff :: rest => (utf16 true).read rest
  | bytes => charset.read bytes

end Charset

end FeedSync.Text
