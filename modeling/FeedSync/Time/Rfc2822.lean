import FeedSync.Time.Instant
import FeedSync.Time.Names
import FeedSync.Time.Offset

/-!
# Times in the format of RFC 2822

The dates of mails: `Wed, 02 Jun 2021 06:31:39 GMT`. The weekday and the seconds may be missing,
years of two and three digits are completed, some zones have names, and comments may follow.
-/

namespace FeedSync

open FeedSync.Text FeedSync.Time

namespace Rfc2822

/-- The zones with names, in hours east of UTC. -/
def zoneHours : List (String × Int) :=
  [("gmt", 0), ("ut", 0), ("z", 0), ("edt", -4), ("est", -5), ("cdt", -5), ("cst", -6),
    ("mdt", -6), ("mst", -7), ("pdt", -7), ("pst", -8)]

/-- The offset of a zone's name. Single letters other than `j` stand for UTC. -/
def zoneOffset? (name : List Char) : Option Int :=
  match zoneHours.lookup (String.ofList (name.map Char.toLower)) with
  | some hours => some (hours * 3600)
  | none =>
    match name with
    | [c] => if c.toLower == 'j' then none else some 0
    | _ => none

/-- Takes a zone: a name, or a sign and four digits. -/
def zone : Scan Int := do
  let cs ← Scan.rest
  let name := cs.takeWhile Char.isAlpha
  if name.isEmpty then offset ⟨false, pure (), false, false⟩
  else
    set (cs.dropWhile Char.isAlpha)
    zoneOffset? name

/-- The year that was meant by a number of the given length. -/
def completeYear (length year : Nat) : Nat :=
  if length = 2 then if year < 50 then year + 2000 else year + 1900
  else if length = 3 then year + 1900
  else year

/-- What follows a comment, whose opening parenthesis was already taken `depth` times more than
its closing one. A backslash takes the next character along. -/
def afterComment? : (depth : Nat) → List Char → Option (List Char)
  | _, [] => none
  | 0, _ => none
  | depth + 1, ')' :: cs => if depth = 0 then some cs else afterComment? depth cs
  | depth, '(' :: cs => afterComment? (depth + 1) cs
  | depth, '\\' :: _ :: cs => afterComment? depth cs
  | depth, _ :: cs => afterComment? depth cs

/-- Skips comments, with the blanks before each, as long as there are any. -/
def skipComments : (fuel : Nat) → List Char → List Char
  | 0, cs => cs
  | fuel + 1, cs =>
    match trimStart cs with
    | '(' :: rest =>
      match afterComment? 1 rest with
      | some after => skipComments fuel after
      | none => cs
    | _ => cs

/-- Takes the weekday and its comma, if there is one. -/
def weekday : Scan (Option Nat) := do
  match ← Scan.attempt shortWeekday with
  | none => return none
  | some day =>
    Scan.char ','
    return day

/-- Takes the seconds after a colon, if there are any. -/
def seconds : Scan Nat := do
  match ← Scan.attempt (do Scan.blanks; Scan.char ':') with
  | none => return 0
  | some () => Scan.number 2 2

/-- Takes a whole time of a mail. -/
def scan : Scan Instant := do
  Scan.blanks
  let dayName ← weekday
  Scan.blanks
  let day ← Scan.number 1 2
  Scan.someBlanks
  let month ← shortMonth
  Scan.someBlanks
  let run := (← Scan.rest).takeWhile Char.isDigit
  let year ← Scan.numeral 2
  Scan.someBlanks
  let hour ← Scan.number 2 2
  Scan.blanks
  Scan.char ':'
  Scan.blanks
  let minute ← Scan.number 2 2
  let second ← seconds
  Scan.someBlanks
  let east ← zone
  modify fun cs => skipComments cs.length cs
  let date : Date := ⟨completeYear run.length year, month, day⟩
  if dayName.any (· != date.weekday) then failure
  else Instant.ofClock? date hour minute second 0 east

end Rfc2822

/-- The instant that a text denotes, if it is the date of a mail. -/
def Instant.ofRfc2822? (text : List Char) : Option Instant := Rfc2822.scan.whole text

end FeedSync
