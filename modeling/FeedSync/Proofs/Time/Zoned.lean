import FeedSync.Proofs.Time.Line
import FeedSync.Proofs.Time.Rfc3339
import FeedSync.Time.DateText
import Mathlib.Data.List.Basic

/-!
# Times at any offset

A clock that runs some minutes ahead of UTC shows another time of day, and maybe another date, month
or year. The texts of RFC 3339 say what such a clock shows and how far it is ahead. This module
writes them, with any separator and any fraction that loses nothing, and shows that the strict
reader takes from them the instant that was written: from the second of the local date it goes back
by the offset, whichever day that leads to.

## Main definitions

* `Instant.writeLocal` — what a clock at an offset shows.
* `Instant.IsTextAt` — the texts of an instant at an offset.

## Main statements

* `ofClock?_localDate` — what a clock at an offset shows belongs to one instant only.
* `run_scanStrict` — a strict time reads back.
-/

namespace FeedSync

open FeedSync.Text FeedSync.Time

namespace Instant

/-! ### Clocks ahead of UTC and behind it -/

/-- The second, counted from the start of 1970, that a clock shows which runs some minutes ahead of
UTC. -/
def localSeconds (t : Instant) (minutes : Int) : Int := t.seconds + 60 * minutes

/-- The date that such a clock shows. -/
def localDate (t : Instant) (minutes : Int) : Date :=
  Date.ofEpochDay (t.localSeconds minutes / secondsPerDay)

/-- The second of the day that such a clock shows. -/
def localSecondOfDay (t : Instant) (minutes : Int) : Nat :=
  (t.localSeconds minutes % secondsPerDay).toNat

/-- Hours and minutes. -/
def writeHours (minutes : Nat) : List Char :=
  padded 2 (minutes / 60) ++ ':' :: padded 2 (minutes % 60)

/-- What such a clock shows, with a fraction of the given number of digits. -/
def writeLocal (t : Instant) (minutes : Int) (separator : Char) (digits : Nat) : List Char :=
  writeDate (t.localDate minutes) ++
    separator :: padded 2 (t.localSecondOfDay minutes / 3600) ++
    ':' :: padded 2 (t.localSecondOfDay minutes / 60 % 60) ++
    ':' :: padded 2 (t.localSecondOfDay minutes % 60) ++ writeFractionTo digits t.nanos

/-- How it is said that a clock runs some minutes ahead of UTC. Without a difference there are three
ways. -/
inductive IsZone : (minutes : Int) → List Char → Prop
  | zulu : IsZone 0 ['Z']
  | ahead (n : Nat) : IsZone n ('+' :: writeHours n)
  | behind (n : Nat) : IsZone (-n) ('-' :: writeHours n)

/-- **The texts of an instant** at an offset in minutes, in the format of RFC 3339. -/
inductive IsTextAt (t : Instant) (minutes : Int) : List Char → Prop
  | intro {separator : Char} {digits : Nat} {zone : List Char}
      (hseparator : separator ∈ ['T', 't', ' ']) (hdigits : IsExactTo digits t.nanos)
      (hzone : IsZone minutes zone) :
      IsTextAt t minutes (t.writeLocal minutes separator digits ++ zone)

/-! ### Pieces of a strict time -/

/-- A number in its full width. -/
theorem run_fullNumber {width n : Nat} (hpos : 0 < width) (hwidth : width ≤ 18)
    (h : n < 10 ^ width) (rest : List Char) :
    (Scan.number width width).run (padded width n ++ rest) = some (n, rest) := by
  have hlength : (padded width n).length = width := length_padded hpos h
  have hbound : (10 : Nat) ^ width ≤ 10 ^ 18 := Nat.pow_le_pow_right (by decide) hwidth
  exact Scan.run_number (allDigits_padded width n) (digitsValue_padded width n) (by omega)
    (by omega) (by omega) (by omega)

/-- The digits of a number below 100. -/
theorem exists_twoDigits {n : Nat} (h : n < 100) :
    ∃ a b, padded 2 n = [a, b] ∧ a.isDigit = true ∧ b.isDigit = true ∧
      10 * digitValue a + digitValue b = n := by
  have hlength : (padded 2 n).length = 2 := length_padded (by decide) h
  obtain ⟨a, b, hpadded⟩ := List.length_eq_two.mp hlength
  have hdigits := allDigits_padded 2 n
  have hvalue := digitsValue_padded 2 n
  rw [hpadded] at hdigits hvalue
  refine ⟨a, b, hpadded, hdigits a (by simp), hdigits b (by simp), ?_⟩
  rw [← hvalue]
  simp [digitsValue, readDigits]

/-- The minutes of an offset. -/
theorem run_offsetMinutes {n : Nat} (h : n < 60) (rest : List Char) :
    (offsetMinutes false).run (padded 2 n ++ rest) = some (n, rest) := by
  obtain ⟨a, b, hpadded, ha, hb, hvalue⟩ := exists_twoDigits (n := n) (by omega)
  have hsmall : digitValue a < 6 := by omega
  rw [hpadded]
  change offsetMinutes false (a :: b :: rest) = _
  rw [offsetMinutes, ha, hb, decide_eq_true hsmall, hvalue]
  rfl

/-- A sign, hours and minutes. -/
theorem run_offset {n : Nat} {sign : Char} (hsign : sign = '+' ∨ sign = '-') (h : n < 6000) :
    (offset ⟨true, Scan.char ':', false, true⟩).run (sign :: writeHours n) =
      some (if sign == '+' then ((60 * n : Nat) : Int) else -((60 * n : Nat) : Int), []) := by
  have hzulu : ¬ (true && (sign == 'Z' || sign == 'z')) = true := by
    rcases hsign with rfl | rfl <;> decide
  have hsigned : (sign == '+' || sign == '-' || (sign == '\u2212' && true)) = true := by
    rcases hsign with rfl | rfl <;> decide
  have hset (cs : List Char) :
      (set (writeHours n) : Scan PUnit).run cs = some (⟨⟩, writeHours n) := rfl
  have hseconds : 3600 * (n / 60) + 60 * (n % 60) = 60 * n := by omega
  have hminutes := run_offsetMinutes (Nat.mod_lt n (by decide : 0 < 60)) []
  rw [List.append_nil] at hminutes
  rw [offset, Scan.run_bind_of_run (rfl : Scan.rest.run (sign :: writeHours n) = some (_, _))]
  simp only
  rw [if_neg hzulu, if_pos hsigned, Scan.run_bind_of_run (hset _), writeHours,
    Scan.run_bind_of_run (run_fullNumber (by decide) (by decide) (by omega) _),
    Scan.run_bind_of_run (Scan.run_char ':' _), Scan.run_bind_of_run hminutes, hseconds]
  rfl

/-- The zone of a strict time, with less than a day between its clocks and UTC. -/
theorem run_scanStrictOffset {minutes : Int} {zone : List Char} (hzone : IsZone minutes zone)
    (h : -1440 < minutes ∧ minutes < 1440) :
    scanStrictOffset.run zone = some (60 * minutes, []) := by
  have hday (east : Int) (hoffset : (offset ⟨true, Scan.char ':', false, true⟩).run zone =
      some (east, [])) (hlimits : -secondsPerDay < east ∧ east < secondsPerDay) :
      scanStrictOffset.run zone = some (east, []) := by
    rw [scanStrictOffset, Scan.run_bind_of_run hoffset, if_pos hlimits]
    rfl
  cases hzone with
  | zulu => exact hday 0 rfl (by decide)
  | ahead n =>
      have hseconds : ((60 * n : Nat) : Int) = 60 * n := by omega
      rw [← hseconds]
      exact hday _ (run_offset (.inl rfl) (by omega)) (by rw [secondsPerDay]; omega)
  | behind n =>
      have hseconds : -((60 * n : Nat) : Int) = 60 * -n := by omega
      rw [← hseconds]
      exact hday _ (run_offset (.inr rfl) (by omega)) (by rw [secondsPerDay]; omega)

/-! ### Strict times -/

section

variable {t : Instant} {minutes : Int}

theorem localSecondOfDay_lt (t : Instant) (minutes : Int) : t.localSecondOfDay minutes < 86400 := by
  rw [localSecondOfDay, secondsPerDay]
  omega

/-- A clock ahead of UTC shows the second that lies this much later. -/
theorem localDate_localSecondOfDay (t : Instant) (minutes : Int) :
    (t.localDate minutes).toEpochDay * secondsPerDay + t.localSecondOfDay minutes - 60 * minutes =
      t.seconds := by
  rw [localDate, Date.toEpochDay_ofEpochDay, localSecondOfDay, localSeconds, secondsPerDay]
  omega

/-- **What a clock at an offset shows belongs to one instant only.** -/
theorem ofClock?_localDate (ht : t.IsRegular) (hminutes : -1440 < minutes ∧ minutes < 1440)
    (hyear : 0 ≤ (t.localDate minutes).year ∧ (t.localDate minutes).year ≤ 9999) :
    ofClock? (t.localDate minutes) (t.localSecondOfDay minutes / 3600)
      (t.localSecondOfDay minutes / 60 % 60) (t.localSecondOfDay minutes % 60) t.nanos
      (60 * minutes) = some t := by
  have hclock := ofClock?_eq_some (Date.isValid_ofEpochDay _)
    ⟨Int.le_trans (by decide) hyear.1, Int.le_trans hyear.2 (by decide)⟩
    (by rw [secondsPerDay]; omega) (t.localSecondOfDay_lt minutes) (.inl ht)
    (t.localDate_localSecondOfDay minutes)
  rwa [Nat.div_eq_of_lt ht, Nat.mod_eq_of_lt ht, Nat.add_zero] at hclock

/-- What says how far a clock is ahead of UTC goes on with no digit and no point. -/
theorem IsZone.ends {zone : List Char} (h : IsZone minutes zone) :
    EndsDigits zone ∧ zone.head? ≠ some '.' := by
  cases h <;> exact ⟨endsDigits_cons rfl _, by simp⟩

/-- **A strict time reads back.** -/
theorem run_scanStrict {text : List Char} (htext : IsTextAt t minutes text) (ht : t.IsRegular)
    (hminutes : -1440 < minutes ∧ minutes < 1440)
    (hyear : 0 ≤ (t.localDate minutes).year ∧ (t.localDate minutes).year ≤ 9999) :
    scanStrict.run text = some (t, []) := by
  obtain ⟨hseparator, hdigits, hzone⟩ := htext
  obtain ⟨hmonth, hday⟩ := Date.month_day_lt
    (Date.isValid_ofEpochDay (t.localSeconds minutes / secondsPerDay))
  obtain ⟨hends, hpoint⟩ := hzone.ends
  have hsecond := t.localSecondOfDay_lt minutes
  rw [writeLocal, writeDate, writeYear, if_pos hyear, scanStrict]
  simp only [List.append_assoc, List.cons_append]
  rw [Scan.run_bind_of_run (run_fullNumber (by decide) (by decide) (by omega) _),
    Scan.run_bind_of_run (Scan.run_char '-' _),
    Scan.run_bind_of_run (run_fullNumber (by decide) (by decide) hmonth _),
    Scan.run_bind_of_run (Scan.run_char '-' _),
    Scan.run_bind_of_run (run_fullNumber (by decide) (by decide) hday _),
    Scan.run_bind_of_run (Scan.run_oneOf hseparator _),
    Scan.run_bind_of_run (run_fullNumber (by decide) (by decide) (by omega) _),
    Scan.run_bind_of_run (Scan.run_char ':' _),
    Scan.run_bind_of_run (run_fullNumber (by decide) (by decide) (by omega) _),
    Scan.run_bind_of_run (Scan.run_char ':' _),
    Scan.run_bind_of_run (run_fullNumber (by decide) (by decide) (by omega) _)]
  refine (run_fractionTo hdigits ht hends hpoint _).trans ?_
  rw [Scan.run_bind_of_run (run_scanStrictOffset hzone hminutes), Int.toNat_of_nonneg hyear.1,
    ofClock?_localDate ht hminutes hyear]
  rfl

end

end Instant

end FeedSync
