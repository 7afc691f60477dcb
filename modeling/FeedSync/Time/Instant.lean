import FeedSync.Time.Calendar

/-!
# Instants

A point of time with nanosecond resolution, between the years −262143 and 262142. A **leap
second** is the second 60 of a minute; it is kept as the second 59 with a fraction of one second
or more, so that the order of instants is the lexicographic order of second and fraction.
-/

namespace FeedSync

/-- Nanoseconds in a second. -/
def nanosPerSecond : Nat := 1000000000

/-- Seconds in a day. -/
def secondsPerDay : Int := 86400

/-- A point of time: whole seconds from 1 January 1970 00:00:00 UTC, and the fraction in
nanoseconds. -/
structure Instant where
  seconds : Int
  nanos : Nat
  first_le : -8334601228800 ≤ seconds := by omega
  le_last : seconds ≤ 8210266876799 := by omega
  /-- A fraction of a second or more occurs in leap seconds only. -/
  leap : nanos < 1000000000 ∨ nanos < 2000000000 ∧ seconds % 60 = 59 := by omega
  deriving DecidableEq

namespace Instant

/-- The first second that can be represented: −262143-01-01T00:00:00Z. -/
def firstSecond : Int := -8334601228800

/-- The last second that can be represented: 262142-12-31T23:59:59Z. -/
def lastSecond : Int := 8210266876799

/-- The first instant. -/
def first : Instant where
  seconds := firstSecond
  nanos := 0
  first_le := by decide
  le_last := by decide

/-- The start of 1970. -/
def epoch : Instant where
  seconds := 0
  nanos := 0

instance : Inhabited Instant := ⟨epoch⟩

instance : Repr Instant where
  reprPrec t _ := "⟨" ++ repr t.seconds ++ ", " ++ repr t.nanos ++ "⟩"

/-- The instant with the given second and fraction, if there is one. -/
def mk? (seconds : Int) (nanos : Nat) : Option Instant :=
  if h : (-8334601228800 ≤ seconds ∧ seconds ≤ 8210266876799) ∧
      (nanos < 1000000000 ∨ nanos < 2000000000 ∧ seconds % 60 = 59) then
    some ⟨seconds, nanos, h.1.1, h.1.2, h.2⟩
  else none

/-- One instant is before another if its second is, or in the same second its fraction. -/
instance : LT Instant where
  lt s t := s.seconds < t.seconds ∨ s.seconds = t.seconds ∧ s.nanos < t.nanos

/-- One instant is not after another. -/
instance : LE Instant where
  le s t := ¬ t < s

instance (s t : Instant) : Decidable (s < t) :=
  inferInstanceAs (Decidable (s.seconds < t.seconds ∨ s.seconds = t.seconds ∧ s.nanos < t.nanos))

instance (s t : Instant) : Decidable (s ≤ t) := inferInstanceAs (Decidable (¬ t < s))

theorem lt_def {s t : Instant} :
    s < t ↔ s.seconds < t.seconds ∨ s.seconds = t.seconds ∧ s.nanos < t.nanos := Iff.rfl

theorem le_def {s t : Instant} : s ≤ t ↔ ¬ t < s := Iff.rfl

theorem lt_irrefl (t : Instant) : ¬ t < t := by simp [lt_def]

theorem le_trans {s t u : Instant} (hst : s ≤ t) (htu : t ≤ u) : s ≤ u := by
  rw [le_def, lt_def] at *; omega

theorem le_of_lt {s t : Instant} (h : s < t) : s ≤ t := by
  rw [le_def, lt_def]; rw [lt_def] at h; omega

theorem not_le {s t : Instant} : ¬ s ≤ t ↔ t < s := by rw [le_def, Decidable.not_not]

/-- Two instants of the same second and fraction are the same. -/
theorem ext {s t : Instant} (hs : s.seconds = t.seconds) (hn : s.nanos = t.nanos) : s = t := by
  cases s; cases t; simp_all

theorem le_antisymm {s t : Instant} (hst : s ≤ t) (hts : t ≤ s) : s = t := by
  rw [le_def, lt_def] at *
  exact ext (by omega) (by omega)

/-! ### Dates and times of day -/

/-- The instant of a date, a second of that day and a fraction. -/
def ofDate? (date : Date) (secondOfDay : Int) (nanos : Nat) : Option Instant :=
  mk? (date.toEpochDay * secondsPerDay + secondOfDay) nanos

/-- The UTC date of an instant. -/
def date (t : Instant) : Date := Date.ofEpochDay (t.seconds / secondsPerDay)

/-- The UTC second of the day, from 0 to 86399. -/
def secondOfDay (t : Instant) : Nat := (t.seconds % secondsPerDay).toNat

/-! ### Arithmetic -/

/-- The instant a number of milliseconds from the start of 1970, if it can be represented. -/
def ofEpochMillis? (millis : Int64) : Option Instant :=
  mk? (millis.toInt / 1000) ((millis.toInt % 1000).toNat * 1000000)

/-- The instant whole days earlier, if it can be represented. **A leap second that is left counts
as the second after it**: a day before 23:59:60.5 it is 00:00:00.5. -/
def minusDays? (t : Instant) (days : Nat) : Option Instant :=
  if days = 0 then some t
  else if t.nanos < nanosPerSecond then mk? (t.seconds - days * secondsPerDay) t.nanos
  else mk? (t.seconds + 1 - days * secondsPerDay) (t.nanos - nanosPerSecond)

/-! ### Clock readings -/

/-- The first year of the calendar in which a clock can be read. -/
def firstYear : Int := -262143

/-- The last year of the calendar in which a clock can be read. -/
def lastYear : Int := 262142

/-- The instant at which a clock that runs `offset` seconds ahead of UTC shows a date and a time of
day. Second 60 is a leap second, in whatever minute it is read. There is none if the reading is no
time of day, the offset is a whole day or more, or the date or the instant is out of range. -/
def ofClock? (date : Date) (hour minute second nanos : Nat) (offset : Int) : Option Instant :=
  if date.isValid && firstYear ≤ date.year && date.year ≤ lastYear &&
      hour < 24 && minute < 60 && second ≤ 60 && nanos < nanosPerSecond &&
      -secondsPerDay < offset && offset < secondsPerDay then
    mk?
      (date.toEpochDay * secondsPerDay + (3600 * hour + 60 * minute + min second 59 : Nat) - offset)
      (if second = 60 then nanos + nanosPerSecond else nanos)
  else none

end Instant

end FeedSync
