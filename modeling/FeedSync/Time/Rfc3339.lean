import FeedSync.Time.Instant
import FeedSync.Time.Offset

/-!
# Times in the format of RFC 3339

`Instant.toRfc3339` writes an instant in UTC with the suffix `Z`; `Instant.ofRfc3339?` reads the
lenient form in which times stand inside JSON texts: blanks may stand before each number, the
separator may be `T`, `t` or a blank, and the offset may be `UTC` or have blanks in it.
-/

namespace FeedSync

open FeedSync.Text FeedSync.Time

namespace Instant

/-! ### Writing -/

/-- A year: four digits from 0 to 9999, a sign and at least four digits outside. -/
def writeYear (year : Int) : List Char :=
  if 0 ≤ year ∧ year ≤ 9999 then padded 4 year.toNat
  else (if year < 0 then '-' else '+') :: padded 4 year.natAbs

/-- A fraction of a second: nothing if it is zero, else three, six or nine digits, the fewest that
lose nothing. -/
def writeFraction (nanos : Nat) : List Char :=
  if nanos = 0 then []
  else if nanos % 1000000 = 0 then '.' :: padded 3 (nanos / 1000000)
  else if nanos % 1000 = 0 then '.' :: padded 6 (nanos / 1000)
  else '.' :: padded 9 nanos

/-- A date as year, month and day. -/
def writeDate (date : Date) : List Char :=
  writeYear date.year ++ '-' :: padded 2 date.month ++ '-' :: padded 2 date.day

/-- The time of day of an instant in UTC. A leap second is written as second 60. -/
def writeClock (t : Instant) : List Char :=
  padded 2 (t.secondOfDay / 3600) ++
    ':' :: padded 2 (t.secondOfDay / 60 % 60) ++
    ':' :: padded 2 (t.secondOfDay % 60 + t.nanos / nanosPerSecond) ++
    writeFraction (t.nanos % nanosPerSecond)

/-- The text of an instant in UTC. -/
def toRfc3339 (t : Instant) : String :=
  String.ofList (writeDate t.date ++ 'T' :: writeClock t ++ ['Z'])

/-- The text of an instant in UTC for people. -/
def display (t : Instant) : String :=
  String.ofList (writeDate t.date ++ ' ' :: writeClock t ++ [' ', 'U', 'T', 'C'])

/-! ### Reading -/

/-- A year: a sign and any number of digits, or up to four digits without a sign. -/
def scanYear : Scan Int := do
  Scan.blanks
  if ← Scan.optional '-' then return -((← Scan.numeral 1 : Nat) : Int)
  else if ← Scan.optional '+' then return ((← Scan.numeral 1 : Nat) : Int)
  else return ((← Scan.number 1 4 : Nat) : Int)

/-- One or two digits after any blanks. -/
def scanTwoDigits : Scan Nat := do
  Scan.blanks
  Scan.number 1 2

/-- A mark that stands between two numbers, with blanks before it. -/
def scanMark (c : Char) : Scan Unit := do
  Scan.blanks
  Scan.char c

/-- The offset at the end of a time: `UTC` in any case, `Z`, or hours and minutes. -/
def scanZone : Scan Int := do
  match ← Scan.rest with
  | u :: t :: c :: cs =>
    if u.toLower == 'u' && t.toLower == 't' && c.toLower == 'c' then
      set cs
      return 0
    else offset ⟨true, looseSeparator, false, true⟩
  | _ => offset ⟨true, looseSeparator, false, true⟩

/-- Takes a whole time in the lenient form. -/
def scanRfc3339 : Scan Instant := do
  let year ← scanYear
  scanMark '-'
  let month ← scanTwoDigits
  scanMark '-'
  let day ← scanTwoDigits
  let _ ← Scan.oneOf ['T', 't', ' ']
  let hour ← scanTwoDigits
  scanMark ':'
  let minute ← scanTwoDigits
  scanMark ':'
  let second ← scanTwoDigits
  let nanos ← if ← Scan.optional '.' then Scan.nanoseconds else pure 0
  Scan.blanks
  let zone ← scanZone
  Scan.blanks
  ofClock? ⟨year, month, day⟩ hour minute second nanos zone

/-- The instant that a text denotes, if it is a time in the lenient form. -/
def ofRfc3339? (text : String) : Option Instant := scanRfc3339.whole text.toList

end Instant

end FeedSync
