import FeedSync.Text.Pattern
import FeedSync.Time.Layout
import FeedSync.Time.Rfc2822
import FeedSync.Time.Rfc3339

/-!
# Dates in many formats

`Instant.ofDateText?` reads a publication date that may be written in any of a number of formats.
They are tried in a fixed order. Most formats have a **pattern** that a text must match before its
layouts are tried; a text that matches but fits no layout is passed on to the next format. Only a
format with a zone ends the search once its pattern matches and the zone is none.

A text without a zone is meant in UTC. What a text leaves out is taken from the present: a date
alone has the present time of day, a time alone today's date.
-/

namespace FeedSync

open FeedSync.Text FeedSync.Time
open FeedSync.Text.Pattern (all opt char word digits letters blanks someBlanks)

/-! ### Strict RFC 3339 -/

/-- The offset of a strict time: `Z`, or hours and minutes with a colon, below a whole day. -/
def scanStrictOffset : Scan Int := do
  let east ← offset ⟨true, Scan.char ':', false, true⟩
  if -secondsPerDay < east ∧ east < secondsPerDay then return east else failure

/-- Takes a time in the strict form: every number has its full width and nothing is blank but the
separator. -/
def scanStrict : Scan Instant := do
  let year ← Scan.number 4 4
  Scan.char '-'
  let month ← Scan.number 2 2
  Scan.char '-'
  let day ← Scan.number 2 2
  let _ ← Scan.oneOf ['T', 't', ' ']
  let hour ← Scan.number 2 2
  Scan.char ':'
  let minute ← Scan.number 2 2
  Scan.char ':'
  let second ← Scan.number 2 2
  let nanos ← if ← Scan.optional '.' then Scan.nanoseconds else pure 0
  let east ← scanStrictOffset
  Instant.ofClock? ⟨year, month, day⟩ hour minute second nanos east

namespace DateText

/-- What a format makes of a text. -/
inductive Verdict where
  /-- It is not in this format. -/
  | foreign
  /-- It is in this format, but denotes nothing. -/
  | refused
  | time (t : Instant)

/-- The verdict of a format that passes on what it cannot read. -/
def Verdict.of : Option Instant → Verdict
  | some t => .time t
  | none => .foreign

/-- A format: what it makes of a text, given the present. -/
abbrev Format := (now : Instant) → List Char → Verdict

/-- The first format of a list that claims the text. -/
def firstOf (formats : List Format) : Format := fun now text =>
  match formats with
  | [] => .foreign
  | format :: formats =>
    match format now text with
    | .foreign => firstOf formats now text
    | verdict => verdict

/-- A family of formats whose texts start in the same way. -/
def family (front : Pattern) (formats : List Format) : Format := fun now text =>
  if front.matchesFront text then firstOf formats now text else .foreign

/-- The first of some layouts by which a text can be read. -/
def firstLayout? (layouts : List String) (resolve : Reading → Option Instant)
    (text : List Char) : Option Instant :=
  layouts.findSome? fun layout => readLayout layout text >>= resolve

/-- A format for texts of a pattern, read by the first layout that fits. -/
def dated (pattern : Pattern) (layouts : List String)
    (resolve : (now : Instant) → Reading → Option Instant)
    (rewrite : (now : Instant) → List Char → List Char := fun _ text => text) : Format :=
  fun now text =>
    if pattern.matchesAll text then .of (firstLayout? layouts (resolve now) (rewrite now text))
    else .foreign

/-- A format for texts of a pattern followed by a zone. A zone that is none ends the search. -/
def zoned (front back : Pattern) (layouts : List String)
    (resolve : (now : Instant) → (offset : Int) → Reading → Option Instant)
    (rewrite : List Char → List Char) (zone : List Char → Option Int) : Format :=
  fun now text =>
    match Pattern.splitEnd? front back text with
    | none => .foreign
    | some name =>
      match zone (trim name) with
      | none => .refused
      | some offset => .of (firstLayout? layouts (resolve now offset) (rewrite text))

/-! ### Zones -/

/-- The zones with names, in hours east of UTC. -/
def zoneHours : List (String × Int) :=
  [("gmt", 0), ("ut", 0), ("utc", 0), ("edt", -4), ("est", -5), ("cdt", -5), ("cst", -6),
    ("mdt", -6), ("mst", -7), ("pdt", -7), ("pst", -8)]

/-- Hours and minutes with a sign. What follows the minutes is of no account. -/
def numericZone? (separator : Scan Unit) (text : List Char) : Option Int :=
  ((offset ⟨false, separator, false, false⟩).run text).map Prod.fst

/-- The offset of a zone at the end of a text. A name that is not known stands for UTC. -/
def zone? (text : List Char) : Option Int := do
  let east ←
    if text.contains ':' then numericZone? looseSeparator text
    else
      let name := text.takeWhile Char.isAlpha
      if name.isEmpty then numericZone? (pure ()) text
      else some (((zoneHours.lookup (String.ofList (name.map Char.toLower))).getD 0) * 3600)
  if -secondsPerDay < east ∧ east < secondsPerDay then some east else none

/-! ### Resolving readings -/

/-- A full date and time in UTC. -/
def inUtc (_now : Instant) (r : Reading) : Option Instant := r.instant? 0

/-- A full date and time in a zone. -/
def inZone (_now : Instant) (offset : Int) (r : Reading) : Option Instant := r.instant? offset

/-- The second of the day that a clock shows. -/
def clockSecond (now : Instant) (offset : Int) : Int := (now.seconds + offset) % secondsPerDay

/-- A date at the present time of day, in a zone. -/
def dayInZone (now : Instant) (offset : Int) (r : Reading) : Option Instant := do
  let date ← r.date?
  Instant.ofDate? date (clockSecond now offset - offset) now.nanos

/-- A date at the present time of day, in UTC. -/
def dayInUtc (now : Instant) (r : Reading) : Option Instant := dayInZone now 0 r

/-- A time of day on the present date, in a zone. -/
def todayInZone (now : Instant) (offset : Int) (r : Reading) : Option Instant :=
  r.at? (Date.ofEpochDay ((now.seconds + offset) / secondsPerDay)) offset

/-- A time of day on the present date, in UTC. -/
def todayInUtc (now : Instant) (r : Reading) : Option Instant := todayInZone now 0 r

/-! ### Pieces of patterns -/

/-- Hours, minutes and maybe seconds; the hours have `least` digits or two. -/
def clockPattern (least : Nat) : Pattern :=
  all [digits least 2, char ':', digits 2 2, opt (all [char ':', digits 2 2])]

/-- A fraction of up to nine digits, if any. -/
def fractionPattern : Pattern := opt (all [char '.', digits 1 9])

/-- Which half of the day, if it is said. -/
def halfDayPattern : Pattern :=
  all [blanks, opt (.either (word "am") (.either (word "pm") (.either (word "AM") (word "PM"))))]

/-- A character of a zone; between the plus sign and the colon lie comma, minus, point, slash and
the digits. -/
def isZoneChar (c : Char) : Bool := ('+' ≤ c && c ≤ ':') || c.isAlpha

/-- A zone: three to six characters after blanks. -/
def zonePattern (gap : Pattern) : Pattern := all [gap, .repeated (.one isZoneChar) 3 (some 6)]

/-- A date as year, month and day in digits. -/
def isoDatePattern : Pattern := all [digits 4 4, char '-', digits 2 2, char '-', digits 2 2]

/-- Replaces every occurrence of a word of at least one character. -/
def replaceWord (old new : List Char) (text : List Char) : List Char :=
  (String.ofList text).replace (String.ofList old) (String.ofList new) |>.toList

/-! ### The formats -/

/-- Seconds, milliseconds or nanoseconds from the start of 1970, told apart by the number of
digits. -/
def unixTimestamp : Format := fun _ text =>
  if text.all Char.isDigit && digitsValue text ≤ Int64.maxValue.toNatClampNeg then
    let n := digitsValue text
    if text.length = 10 then .of (Instant.mk? n 0)
    else if text.length = 13 then .of (Instant.mk? (n / 1000 : Nat) (n % 1000 * 1000000))
    else if text.length = 19 then .of (Instant.mk? (n / 1000000000 : Nat) (n % 1000000000))
    else .foreign
  else .foreign

/-- `Wed, 02 Jun 2021 06:31:39 GMT` -/
def rfc2822 : Format := fun _ text => .of (Instant.ofRfc2822? text)

/-- `2021-05-01T01:17:02.604456Z` -/
def rfc3339 : Format := fun _ text => .of (scanStrict.whole text)

/-- `2019-11-29 08:08:05-08` -/
def databaseTimestamp : Format :=
  dated
    (all [isoDatePattern, someBlanks, clockPattern 2, fractionPattern,
      .repeated (.one fun c => '+' ≤ c && c ≤ ':') 3 (some 6)])
    ["%Y-%m-%d %H:%M:%S%z", "%Y-%m-%d %H:%M:%S%f%z", "%Y-%m-%d %H:%M%z"] inUtc

/-- `2014-04-26 05:24:37 PM` -/
def isoDateTime : Format :=
  dated (all [isoDatePattern, someBlanks, clockPattern 2, fractionPattern, halfDayPattern])
    ["%Y-%m-%d %H:%M:%S", "%Y-%m-%d %H:%M", "%Y-%m-%d %H:%M:%S%f", "%Y-%m-%d %I:%M:%S %P",
      "%Y-%m-%d %I:%M %P"] inUtc

/-- `2017-11-25 13:31:15 PST` -/
def isoDateTimeZone : Format :=
  zoned (all [isoDatePattern, someBlanks, clockPattern 2, fractionPattern]) (zonePattern blanks)
    ["%Y-%m-%d %H:%M:%S %Z", "%Y-%m-%d %H:%M %Z", "%Y-%m-%d %H:%M:%S%f %Z"] inZone id zone?

/-- `2021-02-21` -/
def isoDate : Format := dated isoDatePattern ["%Y-%m-%d"] dayInUtc

/-- `2021-02-21 PST` -/
def isoDateZone : Format :=
  zoned isoDatePattern (zonePattern blanks) ["%Y-%m-%d %Z"] dayInZone id zone?

/-- `23:04:54`, `6:00 AM` -/
def clock : Format :=
  dated (all [clockPattern 1, halfDayPattern])
    ["%H:%M:%S", "%H:%M", "%I:%M:%S %P", "%I:%M %P"] todayInUtc

/-- `6:00 AM EST` -/
def clockZone : Format :=
  zoned (all [clockPattern 1, halfDayPattern]) (zonePattern someBlanks)
    ["%H:%M:%S %Z", "%H:%M %Z", "%I:%M:%S %P %Z", "%I:%M %P %Z"] todayInZone id zone?

/-- `2021-Feb-21` -/
def isoDateNamed : Format :=
  dated
    (all [digits 4 4, char '-', .repeated (.one fun c => c.isAlphanum || c == '_') 3 (some 9),
      char '-', digits 2 2])
    ["%Y-%m-%d", "%Y-%b-%d"] dayInUtc

/-- `May 27 02:45:27`, `May 6 at 9:24 PM`, in the present year. -/
def monthDayTime : Format :=
  dated
    (all [letters 3 3, someBlanks, digits 1 2, blanks, opt (word "at"), someBlanks, clockPattern 1,
      halfDayPattern])
    ["%Y %b %d at %I:%M %P", "%Y %b %d %H:%M:%S"] inUtc
    fun now text => Instant.writeYear now.date.year ++ ' ' :: text

/-- The form of a month's name at the start of a text, which may be cut short by a point. -/
def leadingMonth : Pattern := all [letters 3 9, opt (char '.'), someBlanks, digits 1 2]

/-- Drops the comma, or the point, before each single blank. -/
def dropMarks (_now : Instant) (text : List Char) : List Char :=
  replaceWord ['.', ' '] [' '] (replaceWord [',', ' '] [' '] text)

/-- `September 17, 2012, 10:10:09` -/
def monthDayYearTime : Format :=
  dated
    (all [leadingMonth, char ',', someBlanks, digits 2 4, opt (char ','), someBlanks,
      clockPattern 1, halfDayPattern])
    ["%B %d %Y %H:%M:%S", "%B %d %Y %H:%M", "%B %d %Y %I:%M:%S %P", "%B %d %Y %I:%M %P"] inUtc
    dropMarks

/-- `May 02, 2021 15:51:31 UTC` -/
def monthDayYearTimeZone : Format :=
  zoned
    (all [letters 3 9, someBlanks, digits 1 2, opt (char ','), someBlanks, digits 4 4, blanks,
      opt (char ','), opt (word "at"), someBlanks, clockPattern 2, halfDayPattern])
    (zonePattern someBlanks)
    ["%B %d %Y %H:%M:%S %Z", "%B %d %Y %H:%M %Z", "%B %d %Y %I:%M:%S %P %Z",
      "%B %d %Y %I:%M %P %Z"] inZone
    (fun text => replaceWord ['a', 't'] [] (text.filter (· != ','))) zone?

/-- `oct. 7, 1970` -/
def monthDayYear : Format :=
  dated (all [leadingMonth, char ',', someBlanks, digits 2 4]) ["%B %d %y", "%B %d %Y"] dayInUtc
    dropMarks

/-- A day and a month's name at the start of a text. -/
def leadingDay : Pattern := all [digits 1 2, someBlanks, letters 3 9]

/-- `14 May 2019 19:11:40.164` -/
def dayMonthYearTime : Format :=
  dated
    (all [leadingDay, someBlanks, digits 2 4, opt (char ','), someBlanks, clockPattern 1,
      fractionPattern])
    ["%d %B %Y %H:%M:%S", "%d %B %Y %H:%M", "%d %B %Y %H:%M:%S%f", "%d %B %Y %I:%M:%S %P",
      "%d %B %Y %I:%M %P"] inUtc
    fun _ text => replaceWord [',', ' '] [' '] text

/-- `7 oct 1970` -/
def dayMonthYear : Format :=
  dated (all [leadingDay, someBlanks, digits 2 4]) ["%d %B %y", "%d %B %Y"] dayInUtc

/-- Month, day and year with slashes. -/
def slashedMonthFirst : Pattern :=
  all [digits 1 2, char '/', digits 1 2, char '/', digits 2 4]

/-- `8/8/1965 01:00:01 PM` -/
def slashedMonthFirstTime : Format :=
  dated (all [slashedMonthFirst, someBlanks, clockPattern 1, fractionPattern, halfDayPattern])
    ["%m/%d/%y %H:%M:%S", "%m/%d/%y %H:%M", "%m/%d/%y %H:%M:%S%f", "%m/%d/%y %I:%M:%S %P",
      "%m/%d/%y %I:%M %P", "%m/%d/%Y %H:%M:%S", "%m/%d/%Y %H:%M", "%m/%d/%Y %H:%M:%S%f",
      "%m/%d/%Y %I:%M:%S %P", "%m/%d/%Y %I:%M %P"] inUtc

/-- `3/31/2014` -/
def slashedMonthFirstDate : Format :=
  dated slashedMonthFirst ["%m/%d/%y", "%m/%d/%Y"] dayInUtc

/-- Year, month and day with slashes. -/
def slashedYearFirst : Pattern :=
  all [digits 4 4, char '/', digits 1 2, char '/', digits 1 2]

/-- `2012/03/19 10:11:59` -/
def slashedYearFirstTime : Format :=
  dated (all [slashedYearFirst, someBlanks, clockPattern 1, fractionPattern, halfDayPattern])
    ["%Y/%m/%d %H:%M:%S", "%Y/%m/%d %H:%M", "%Y/%m/%d %H:%M:%S%f", "%Y/%m/%d %I:%M:%S %P",
      "%Y/%m/%d %I:%M %P"] inUtc

/-- `2014/03/31` -/
def slashedYearFirstDate : Format := dated slashedYearFirst ["%Y/%m/%d"] dayInUtc

/-- `3.31.2014`, `2014.03.30`, or `2014.03` for the present day of that month. -/
def dotted : Format := fun now text =>
  if (all [digits 1 4, .one fun c => c != '\n', digits 1 4]).occursIn text then
    .of <| firstLayout? ["%m.%d.%y", "%m.%d.%Y", "%Y.%m.%d"] (dayInUtc now) text <|>
      firstLayout? ["%Y.%m.%d"] (dayInUtc now) (text ++ '.' :: decimal now.date.day)
  else .foreign

/-- `171113 14:14:20` -/
def serverLog : Format := fun now text =>
  if (all [digits 6 6, someBlanks, digits 2 2, char ':', digits 2 2, char ':', digits 2 2]).occursIn
      text then
    .of (firstLayout? ["%y%m%d %H:%M:%S"] (inUtc now) text)
  else .foreign

/-- Year, month and day with their Chinese words. -/
def chineseDatePattern : Pattern :=
  all [digits 4 4, char '年', digits 2 2, char '月', digits 2 2, char '日']

/-- `2014年04月08日11时25分18秒` -/
def chineseDateTime : Format :=
  dated
    (all [chineseDatePattern, digits 2 2, char '时', digits 2 2, char '分', digits 2 2, char '秒'])
    ["%Y年%m月%d日%H时%M分%S秒"] inUtc

/-- `2014年04月08日` -/
def chineseDate : Format := dated chineseDatePattern ["%Y年%m月%d日"] dayInUtc

/-- All formats in the order in which they are tried. -/
def formats : List Format :=
  [unixTimestamp,
    rfc2822,
    family (all [digits 4 4, char '-', digits 2 2])
      [rfc3339, databaseTimestamp, isoDateTime, isoDateTimeZone, isoDate, isoDateZone],
    family (all [digits 1 2, char ':', digits 2 2]) [clock, clockZone],
    isoDateNamed,
    family leadingMonth [monthDayTime, monthDayYearTime, monthDayYearTimeZone, monthDayYear],
    family leadingDay [dayMonthYearTime, dayMonthYear],
    family (all [digits 1 2, char '/', digits 1 2]) [slashedMonthFirstTime, slashedMonthFirstDate],
    family (all [digits 4 4, char '/', digits 1 2]) [slashedYearFirstTime, slashedYearFirstDate],
    dotted,
    serverLog,
    family (all [digits 4 4, char '年', digits 2 2, char '月']) [chineseDateTime, chineseDate]]

end DateText

/-- The instant that a date text denotes, if it is in one of the formats. -/
def Instant.ofDateText? (now : Instant) (text : String) : Option Instant :=
  match DateText.firstOf DateText.formats now text.toList with
  | .time t => some t
  | _ => none

end FeedSync
