import FeedSync.Text.Scan

/-!
# Offsets from UTC

The written forms of a clock's distance from UTC: `Z`, or a sign, two digits of hours and two of
minutes. The formats differ in what may stand between hours and minutes, whether the minutes may be
missing, and whether `Z` and the minus sign U+2212 are allowed.
-/

namespace FeedSync.Time

open FeedSync.Text

/-- The choices that the formats make about offsets. -/
structure OffsetFormat where
  /-- Whether `Z` or `z` stands for no offset. -/
  zulu : Bool
  /-- Takes what stands between hours and minutes. -/
  separator : Scan Unit
  /-- Whether the minutes may be missing. -/
  hoursAlone : Bool
  /-- Whether U+2212 is a minus sign too. -/
  minusSign : Bool

/-- Any number of colons and blanks between hours and minutes. -/
def looseSeparator : Scan Unit := modify fun cs => cs.dropWhile fun c => c == ':' || isBlank c

/-- The minutes of an offset: two digits below 60. Where fewer than two bytes are left they are
missing; a single byte that is left over is refused. -/
def offsetMinutes (hoursAlone : Bool) : Scan Nat := fun
  | [] => if hoursAlone then some (0, []) else none
  | [_] => none
  | m :: n :: cs =>
    if m.isDigit && n.isDigit && digitValue m < 6 then
      some (10 * digitValue m + digitValue n, cs)
    else none

/-- Takes an offset and gives it in seconds, positive to the east. -/
def offset (format : OffsetFormat) : Scan Int := do
  match ← Scan.rest with
  | c :: cs =>
    if format.zulu && (c == 'Z' || c == 'z') then
      set cs
      return 0
    else if c == '+' || c == '-' || (c == '\u2212' && format.minusSign) then
      set cs
      let hours ← Scan.number 2 2
      format.separator
      let minutes ← offsetMinutes format.hoursAlone
      let seconds : Int := (3600 * hours + 60 * minutes : Nat)
      return if c == '+' then seconds else -seconds
    else failure
  | [] => failure

end FeedSync.Time
