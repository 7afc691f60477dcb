import FeedSync.Time.Instant
import FeedSync.Time.Names
import FeedSync.Time.Offset
import FeedSync.Time.Rfc3339

/-!
# Layouts of dates and times

A layout is a sequence of items, written as a format text with conversions such as `%Y` and `%H`.
Reading a text by a layout fills in a `Reading`; a reading with a full date or a full time of day
can then be resolved. Where the layout has a blank the text may have any number of blanks, also
none, and blanks may stand before every number.
-/

namespace FeedSync.Time

open FeedSync.Text

/-- One element of a layout. -/
inductive Item where
  /-- A character that has to be there. -/
  | literal (c : Char)
  | blanks
  /-- `%Y`, four digits or a sign and any number of them. -/
  | year
  /-- `%y`, a year from 1970 to 2069 by its last two digits. -/
  | shortYear
  /-- `%m` -/
  | month
  /-- `%B`, a month by its name or three letters. -/
  | monthName
  /-- `%b`, a month by three letters. -/
  | shortMonthName
  /-- `%d` -/
  | day
  /-- `%H` -/
  | hour
  /-- `%I`, an hour from 1 to 12. -/
  | halfDayHour
  /-- `%M` -/
  | minute
  /-- `%S` -/
  | second
  /-- `%f`, a fraction of a second with its point, if there is one. -/
  | fraction
  /-- `%P`, `am` or `pm` in any case. -/
  | halfDay
  /-- `%Z`, anything up to the next blank. -/
  | zoneName
  /-- `%z`, an offset whose minutes may be missing. -/
  | offset
  deriving DecidableEq, Repr

/-- The item that a conversion letter stands for. -/
def Item.ofLetter (c : Char) : Item :=
  match c with
  | 'Y' => .year
  | 'y' => .shortYear
  | 'm' => .month
  | 'B' => .monthName
  | 'b' => .shortMonthName
  | 'd' => .day
  | 'H' => .hour
  | 'I' => .halfDayHour
  | 'M' => .minute
  | 'S' => .second
  | 'f' => .fraction
  | 'P' => .halfDay
  | 'Z' => .zoneName
  | 'z' => .offset
  | c => .literal c

/-- The items of a format text. -/
def items : List Char → List Item
  | [] => []
  | '%' :: c :: cs => Item.ofLetter c :: items cs
  | ' ' :: cs => .blanks :: items cs
  | c :: cs => .literal c :: items cs

/-- What was read by a layout. -/
structure Reading where
  year : Option Int := none
  month : Option Nat := none
  day : Option Nat := none
  hour : Option Nat := none
  /-- The hour within half a day, 12 counting as 0. -/
  halfDayHour : Option Nat := none
  /-- Whether it is the second half of the day. -/
  afternoon : Option Bool := none
  minute : Option Nat := none
  second : Option Nat := none
  nanos : Option Nat := none
  offset : Option Int := none
  deriving Inhabited, Repr

/-- Takes a number of one or two digits between two bounds, after any blanks. -/
def boundedNumber (least greatest : Nat) : Scan Nat := do
  Scan.blanks
  let n ← Scan.number 1 2
  if least ≤ n ∧ n ≤ greatest then return n else failure

/-- The year from 1970 to 2069 with the given last two digits. -/
def centuryOf (n : Nat) : Nat := if n < 70 then 2000 + n else 1900 + n

/-- Takes `am` or `pm`. -/
def takeHalfDay : Scan Bool := fun
  | c :: m :: cs =>
    if m.toLower == 'm' then
      if c.toLower == 'a' then some (false, cs)
      else if c.toLower == 'p' then some (true, cs)
      else none
    else none
  | _ => none

/-- Takes one item of a layout. -/
def takeItem (r : Reading) : Item → Scan Reading
  | .literal c => do Scan.char c; return r
  | .blanks => do Scan.blanks; return r
  | .year => do return { r with year := ← Instant.scanYear }
  | .shortYear => do return { r with year := some (centuryOf (← boundedNumber 0 99) : Nat) }
  | .month => do return { r with month := ← boundedNumber 1 12 }
  | .monthName => do return { r with month := ← month }
  | .shortMonthName => do return { r with month := ← shortMonth }
  | .day => do return { r with day := ← boundedNumber 1 31 }
  | .hour => do return { r with hour := ← boundedNumber 0 23 }
  | .halfDayHour => do return { r with halfDayHour := some ((← boundedNumber 1 12) % 12) }
  | .minute => do return { r with minute := ← boundedNumber 0 59 }
  | .second => do return { r with second := ← boundedNumber 0 60 }
  | .fraction => do
    if ← Scan.optional '.' then return { r with nanos := ← Scan.nanoseconds } else return r
  | .halfDay => do return { r with afternoon := ← takeHalfDay }
  | .zoneName => do
    modify fun cs => cs.dropWhile fun c => !isBlank c
    return r
  | .offset => do
    Scan.blanks
    return { r with offset := ← offset ⟨true, looseSeparator, true, true⟩ }

/-- Takes the items of a layout one after the other. -/
def takeItems (r : Reading) : List Item → Scan Reading
  | [] => return r
  | item :: rest => do takeItems (← takeItem r item) rest

/-- Reads a whole text by the layout of a format text. -/
def readLayout (format : String) (text : List Char) : Option Reading :=
  (takeItems {} (items format.toList)).whole text

namespace Reading

/-- The date, if all its parts were read. -/
def date? (r : Reading) : Option Date := do
  let date ← Date.mk? (← r.year) (← r.month) (← r.day)
  if Instant.firstYear ≤ date.year ∧ date.year ≤ Instant.lastYear then some date else none

/-- The hour of the day, read as such or within half a day. -/
def hour? (r : Reading) : Option Nat :=
  match r.hour, r.halfDayHour, r.afternoon with
  | some hour, _, _ => some hour
  | none, some hour, some afternoon => some (if afternoon then hour + 12 else hour)
  | _, _, _ => none

/-- The instant at which a clock `offset` seconds ahead of UTC shows a date and what was read as the
time of day. Missing seconds are zero. -/
def at? (r : Reading) (date : Date) (offset : Int) : Option Instant := do
  Instant.ofClock? date (← r.hour?) (← r.minute) (r.second.getD 0) (r.nanos.getD 0) offset

/-- The instant of a full date and time, at the offset that was read or else the given one. -/
def instant? (r : Reading) (offset : Int) : Option Instant := do
  r.at? (← r.date?) (r.offset.getD offset)

end Reading

end FeedSync.Time
