import FeedSync.Proofs.Text.Digits
import FeedSync.Proofs.Time.Calendar
import FeedSync.Time.Rfc3339

/-!
# Written times read back

A written time has all its numbers in full width and no blanks, so that every piece of the lenient
reader takes exactly the piece that was written. What is read are the date and the clock that were
shown, and these belong to one instant only.

## Main statements

* `ofClock?_date` — the date and the clock of an instant are those of no other one.
* `ofRfc3339?_toRfc3339` — every written time reads back, leap seconds and years of more than four
  digits among them.
-/

namespace FeedSync

open FeedSync.Text FeedSync.Time

/-! ### Pieces of a text -/

namespace Text.Scan

/-- After a scan that takes a piece, another one goes on with the rest. -/
theorem run_bind_of_run {α β : Type} {scan : Scan α} {next : α → Scan β} {cs rest : List Char}
    {a : α} (h : scan.run cs = some (a, rest)) : (scan >>= next).run cs = (next a).run rest := by
  rw [StateT.run_bind, h]
  rfl

/-- Where no blank is, none is skipped. -/
theorem run_blanks {c : Char} (h : isBlank c = false) (cs : List Char) :
    blanks.run (c :: cs) = some ((), c :: cs) := by
  change some ((), trimStart (c :: cs)) = _
  simp [trimStart, h]

theorem run_blanks_nil : blanks.run [] = some ((), []) := rfl

theorem run_char (c : Char) (cs : List Char) : (char c).run (c :: cs) = some ((), cs) :=
  if_pos rfl

theorem run_oneOf {choices : List Char} {c : Char} (h : c ∈ choices) (cs : List Char) :
    (oneOf choices).run (c :: cs) = some (c, cs) :=
  if_pos h

theorem run_optional (c : Char) (cs : List Char) : (optional c).run (c :: cs) = some (true, cs) :=
  if_pos rfl

theorem run_optional_of_ne {c x : Char} (h : x ≠ c) (cs : List Char) :
    (optional c).run (x :: cs) = some (false, x :: cs) :=
  if_neg h

/-- A character that does not come next is not taken. -/
theorem run_optional_of_head_ne {c : Char} {cs : List Char} (h : cs.head? ≠ some c) :
    (optional c).run cs = some (false, cs) := by
  cases cs with
  | nil => rfl
  | cons x cs => exact run_optional_of_ne (fun heq => h (congrArg some heq)) cs

/-- A number is taken as a whole, if it is as wide as may be or ends there. -/
theorem run_number {least most n : Nat} {digits rest : List Char} (hdigits : AllDigits digits)
    (hvalue : digitsValue digits = n) (hleast : least ≤ digits.length)
    (hmost : digits.length ≤ most) (hrest : digits.length < most → EndsDigits rest)
    (hn : n < 10 ^ 18) : (number least most).run (digits ++ rest) = some (n, rest) := by
  have hrange : n ≤ Int64.maxValue.toNatClampNeg := by
    have : (10 : Nat) ^ 18 ≤ Int64.maxValue.toNatClampNeg := by decide
    omega
  change number least most (digits ++ rest) = _
  rw [number, spanDigits_append_of_digits hdigits hmost hrest]
  simp only [hvalue]
  rw [if_pos ⟨hleast, hrange⟩]

end Text.Scan

namespace Instant

/-! ### Numbers of a time -/

/-- No digit is a blank. -/
theorem isBlank_eq_false_of_isDigit {c : Char} (h : c.isDigit = true) : isBlank c = false := by
  have hdigits : ∀ c ∈ "0123456789".toList, isBlank c = false := by simp [isBlank]
  exact hdigits c (mem_of_isDigit h)

/-- A number that is filled up starts with a digit. -/
theorem exists_padded_eq (width n : Nat) :
    ∃ c cs, padded width n = c :: cs ∧ c.isDigit = true := by
  have hdigits := allDigits_padded width n
  cases hpadded : padded width n with
  | nil =>
      have := congrArg List.length hpadded
      simp [padded, decimal_ne_nil] at this
  | cons c cs => exact ⟨c, cs, rfl, hdigits c (hpadded ▸ List.mem_cons_self)⟩

/-- A number of two digits. -/
theorem run_scanTwoDigits {n : Nat} (h : n < 100) (rest : List Char) :
    scanTwoDigits.run (padded 2 n ++ rest) = some (n, rest) := by
  obtain ⟨c, cs, hpadded, hc⟩ := exists_padded_eq 2 n
  have hlength : (padded 2 n).length = 2 := length_padded (by decide) h
  have hblanks : Scan.blanks.run (padded 2 n ++ rest) = some ((), padded 2 n ++ rest) := by
    rw [hpadded]
    exact Scan.run_blanks (isBlank_eq_false_of_isDigit hc) (cs ++ rest)
  rw [scanTwoDigits, Scan.run_bind_of_run hblanks]
  exact Scan.run_number (allDigits_padded 2 n) (digitsValue_padded 2 n) (by omega) (by omega)
    (by omega) (by omega)

/-- A mark between two numbers. -/
theorem run_scanMark {c : Char} (h : isBlank c = false) (rest : List Char) :
    (scanMark c).run (c :: rest) = some ((), rest) := by
  rw [scanMark, Scan.run_bind_of_run (Scan.run_blanks h rest)]
  exact Scan.run_char c rest

/-- A year, which ends at a hyphen. -/
theorem run_scanYear {year : Int} (h : year.natAbs < 10 ^ 18) (rest : List Char) :
    scanYear.run (writeYear year ++ '-' :: rest) = some (year, '-' :: rest) := by
  have hhyphen : EndsDigits ('-' :: rest) := endsDigits_cons rfl rest
  have hnumeral : (Scan.numeral 1).run (padded 4 year.natAbs ++ '-' :: rest) =
      some (year.natAbs, '-' :: rest) := by
    obtain ⟨c, cs, hpadded, -⟩ := exists_padded_eq 4 year.natAbs
    have hlength : 1 ≤ (padded 4 year.natAbs).length := by simp [hpadded]
    refine Scan.run_number (allDigits_padded 4 _) (digitsValue_padded 4 _) hlength ?_
      (fun _ => hhyphen) h
    rw [List.length_append]
    omega
  rw [writeYear, scanYear]
  by_cases hshort : 0 ≤ year ∧ year ≤ 9999
  · rw [if_pos hshort]
    obtain ⟨c, cs, hpadded, hc⟩ := exists_padded_eq 4 year.toNat
    have hlength : (padded 4 year.toNat).length = 4 := length_padded (by decide) (by omega)
    have hminus : c ≠ '-' := fun heq => by simp [heq] at hc
    have hplus : c ≠ '+' := fun heq => by simp [heq] at hc
    have hnumber : (Scan.number 1 4).run (padded 4 year.toNat ++ '-' :: rest) =
        some (year.toNat, '-' :: rest) :=
      Scan.run_number (allDigits_padded 4 _) (digitsValue_padded 4 _) (by omega) (by omega)
        (fun _ => hhyphen) (by omega)
    rw [hpadded, List.cons_append] at hnumber ⊢
    rw [Scan.run_bind_of_run (Scan.run_blanks (isBlank_eq_false_of_isDigit hc) _),
      Scan.run_bind_of_run (Scan.run_optional_of_ne hminus _), if_neg Bool.false_ne_true,
      Scan.run_bind_of_run (Scan.run_optional_of_ne hplus _), if_neg Bool.false_ne_true,
      Scan.run_bind_of_run hnumber]
    exact congrArg (fun year => some (year, '-' :: rest)) (Int.toNat_of_nonneg hshort.1)
  · rw [if_neg hshort]
    by_cases hnegative : year < 0
    · rw [if_pos hnegative, List.cons_append, Scan.run_bind_of_run (Scan.run_blanks rfl _),
        Scan.run_bind_of_run (Scan.run_optional '-' _), if_pos rfl,
        Scan.run_bind_of_run hnumeral]
      have hyear : -(year.natAbs : Int) = year := by omega
      exact congrArg (fun year => some (year, '-' :: rest)) hyear
    · rw [if_neg hnegative, List.cons_append, Scan.run_bind_of_run (Scan.run_blanks rfl _),
        Scan.run_bind_of_run (Scan.run_optional_of_ne (by decide) _), if_neg Bool.false_ne_true,
        Scan.run_bind_of_run (Scan.run_optional '+' _), if_pos rfl,
        Scan.run_bind_of_run hnumeral]
      have hyear : (year.natAbs : Int) = year := by omega
      exact congrArg (fun year => some (year, '-' :: rest)) hyear

/-- The digits of a fraction, all that follow. -/
theorem run_nanoseconds {width value : Nat} {rest : List Char} (hpos : 0 < width)
    (hwidth : width ≤ 9) (hvalue : value < 10 ^ width) (hrest : EndsDigits rest) :
    Scan.nanoseconds.run (padded width value ++ rest) = some (value * 10 ^ (9 - width), rest) := by
  have hlength : (padded width value).length = width := length_padded hpos hvalue
  have hdrop : rest.dropWhile Char.isDigit = rest := @dropWhile_isDigit_append [] rest nofun hrest
  change Scan.nanoseconds (padded width value ++ rest) = _
  rw [Scan.nanoseconds,
    spanDigits_append_of_digits (allDigits_padded width value) (by omega) fun _ => hrest]
  have hne : (padded width value).isEmpty = false := by
    rw [List.isEmpty_eq_false_iff, ← List.length_pos_iff]
    omega
  simp only [hne, digitsValue_padded, hlength, hdrop]
  rfl

/-- A fraction of a second to a number of digits. To none, nothing is written. -/
def writeFractionTo (digits nanos : Nat) : List Char :=
  if digits = 0 then [] else '.' :: padded digits (nanos / 10 ^ (9 - digits))

/-- A number of digits that a fraction of a second can be written to without a loss. -/
def IsExactTo (digits nanos : Nat) : Prop := digits ≤ 9 ∧ 10 ^ (9 - digits) ∣ nanos
  deriving Decidable

/-- A fraction of a second that loses nothing; without a point it is zero. -/
theorem run_fractionTo {α : Type} {digits nanos : Nat} {rest : List Char}
    (hexact : IsExactTo digits nanos) (h : nanos < nanosPerSecond) (hrest : EndsDigits rest)
    (hpoint : rest.head? ≠ some '.') (next : Nat → Scan α) :
    (do
      if ← Scan.optional '.' then
        let nanos ← Scan.nanoseconds
        next nanos
      else next 0).run (writeFractionTo digits nanos ++ rest) = (next nanos).run rest := by
  obtain ⟨hdigits, hwhole⟩ := hexact
  rw [nanosPerSecond] at h
  rw [writeFractionTo]
  by_cases hnone : digits = 0
  · subst hnone
    have hzero : nanos = 0 := Nat.eq_zero_of_dvd_of_lt hwhole h
    rw [if_pos rfl, List.nil_append, Scan.run_bind_of_run (Scan.run_optional_of_head_ne hpoint),
      hzero]
    rfl
  · have hvalue : nanos / 10 ^ (9 - digits) < 10 ^ digits := by
      rw [Nat.div_lt_iff_lt_mul (Nat.pow_pos (by decide)), ← Nat.pow_add,
        Nat.add_sub_of_le hdigits]
      exact h
    rw [if_neg hnone, List.cons_append, Scan.run_bind_of_run (Scan.run_optional '.' _), if_pos rfl,
      Scan.run_bind_of_run (run_nanoseconds (by omega) hdigits hvalue hrest),
      Nat.div_mul_cancel hwhole]

/-- A fraction is written to a number of digits that loses nothing. -/
theorem exists_writeFractionTo (nanos : Nat) :
    ∃ digits, IsExactTo digits nanos ∧ writeFraction nanos = writeFractionTo digits nanos := by
  have hexact (digits : Nat) (h : digits ≤ 9) (hmod : nanos % 10 ^ (9 - digits) = 0) :
      IsExactTo digits nanos := ⟨h, Nat.dvd_of_mod_eq_zero hmod⟩
  rw [writeFraction]
  split
  · next hzero => exact ⟨0, hexact 0 (by decide) (by rw [hzero, Nat.zero_mod]), rfl⟩
  · split
    · next hmillis => exact ⟨3, hexact 3 (by decide) hmillis, rfl⟩
    · split
      · next hmicros => exact ⟨6, hexact 6 (by decide) hmicros, rfl⟩
      · exact ⟨9, hexact 9 (by decide) (Nat.mod_one nanos), by simp [writeFractionTo]⟩

/-- A fraction of a second, which ends at the zone; without a point it is zero. -/
theorem run_fraction {α : Type} {nanos : Nat} (h : nanos < nanosPerSecond) (next : Nat → Scan α) :
    (do
      if ← Scan.optional '.' then
        let nanos ← Scan.nanoseconds
        next nanos
      else next 0).run (writeFraction nanos ++ ['Z']) = (next nanos).run ['Z'] := by
  obtain ⟨digits, hexact, hwrite⟩ := exists_writeFractionTo nanos
  rw [hwrite]
  exact run_fractionTo hexact h (endsDigits_cons rfl []) (by decide) next

theorem run_scanZone : scanZone.run ['Z'] = some (0, []) := rfl

/-! ### Date and clock -/

/-- The date of an instant exists. -/
theorem isValid_date (t : Instant) : t.date.isValid = true := Date.isValid_ofEpochDay _

/-- The date of an instant is one at which clocks can be read. -/
theorem date_year_le (t : Instant) : firstYear ≤ t.date.year ∧ t.date.year ≤ lastYear := by
  have hfirst := t.first_le
  have hlast := t.le_last
  refine Date.year_ofEpochDay_le ?_ ?_ <;> rw [secondsPerDay] <;> omega

theorem secondOfDay_lt (t : Instant) : t.secondOfDay < 86400 := by
  rw [secondOfDay, secondsPerDay]
  omega

/-- A fraction of a second or more occurs in the second 59 of a minute only. -/
theorem nanos_lt (t : Instant) :
    t.nanos < 1000000000 ∨ t.nanos < 2000000000 ∧ t.secondOfDay % 60 = 59 := by
  have hleap := t.leap
  rw [secondOfDay, secondsPerDay]
  omega

/-- An instant lies on its date at its second of the day. -/
theorem date_secondOfDay (t : Instant) :
    t.date.toEpochDay * secondsPerDay + t.secondOfDay = t.seconds := by
  rw [date, Date.toEpochDay_ofEpochDay, secondOfDay, secondsPerDay]
  omega

/-- **A clock shows one instant only**: the one that lies its offset before the second of the date
that it shows. -/
theorem ofClock?_eq_some {date : Date} {second : Nat} {offset : Int} {t : Instant}
    (hvalid : date.isValid = true) (hyear : firstYear ≤ date.year ∧ date.year ≤ lastYear)
    (hoffset : -secondsPerDay < offset ∧ offset < secondsPerDay) (hsecond : second < 86400)
    (hnanos : t.nanos < 1000000000 ∨ t.nanos < 2000000000 ∧ second % 60 = 59)
    (hpoint : date.toEpochDay * secondsPerDay + second - offset = t.seconds) :
    ofClock? date (second / 3600) (second / 60 % 60) (second % 60 + t.nanos / nanosPerSecond)
      (t.nanos % nanosPerSecond) offset = some t := by
  have hhour : second / 3600 < 24 := by omega
  have hminute : second / 60 % 60 < 60 := Nat.mod_lt _ (by decide)
  have hlast : second % 60 + t.nanos / nanosPerSecond ≤ 60 := by
    rw [nanosPerSecond]
    omega
  have hpart : t.nanos % nanosPerSecond < nanosPerSecond := Nat.mod_lt _ (by decide)
  have hclock : 3600 * (second / 3600) + 60 * (second / 60 % 60) +
      min (second % 60 + t.nanos / nanosPerSecond) 59 = second := by
    rw [nanosPerSecond]
    omega
  have hfraction : (if second % 60 + t.nanos / nanosPerSecond = 60 then
      t.nanos % nanosPerSecond + nanosPerSecond else t.nanos % nanosPerSecond) = t.nanos := by
    rw [nanosPerSecond]
    split <;> omega
  rw [ofClock?, hclock, hfraction, hpoint, mk?, dif_pos ⟨⟨t.first_le, t.le_last⟩, t.leap⟩]
  refine if_pos ?_
  simp only [hvalid, hyear, hhour, hminute, hlast, hpart, hoffset, decide_true, Bool.and_true]

/-- **The date and the clock of an instant are those of no other one.** -/
theorem ofClock?_date (t : Instant) :
    ofClock? t.date (t.secondOfDay / 3600) (t.secondOfDay / 60 % 60)
      (t.secondOfDay % 60 + t.nanos / nanosPerSecond) (t.nanos % nanosPerSecond) 0 = some t :=
  ofClock?_eq_some t.isValid_date t.date_year_le (by decide) t.secondOfDay_lt t.nanos_lt
    ((Int.sub_zero _).trans t.date_secondOfDay)

/-- **Every written time reads back.** -/
theorem ofRfc3339?_toRfc3339 (t : Instant) : ofRfc3339? t.toRfc3339 = some t := by
  obtain ⟨hmonth, hday⟩ := Date.month_day_lt t.isValid_date
  have hyear : t.date.year.natAbs < 10 ^ 18 := by
    have hyear := t.date_year_le
    rw [firstYear, lastYear] at hyear
    omega
  have hsecond := t.secondOfDay_lt
  have hnanos := t.nanos_lt
  have hfraction : t.nanos % nanosPerSecond < nanosPerSecond := Nat.mod_lt _ (by decide)
  have hscan : scanRfc3339.run t.toRfc3339.toList = some (t, []) := by
    rw [toRfc3339, String.toList_ofList, writeDate, writeClock, scanRfc3339]
    simp only [List.append_assoc, List.cons_append]
    rw [Scan.run_bind_of_run (run_scanYear hyear _), Scan.run_bind_of_run (run_scanMark rfl _),
      Scan.run_bind_of_run (run_scanTwoDigits hmonth _), Scan.run_bind_of_run (run_scanMark rfl _),
      Scan.run_bind_of_run (run_scanTwoDigits hday _),
      Scan.run_bind_of_run (Scan.run_oneOf (by decide) _),
      Scan.run_bind_of_run (run_scanTwoDigits (by omega) _),
      Scan.run_bind_of_run (run_scanMark rfl _),
      Scan.run_bind_of_run (run_scanTwoDigits (by omega) _),
      Scan.run_bind_of_run (run_scanMark rfl _),
      Scan.run_bind_of_run (run_scanTwoDigits (by rw [nanosPerSecond]; omega) _)]
    refine (run_fraction hfraction _).trans ?_
    rw [Scan.run_bind_of_run (Scan.run_blanks rfl _), Scan.run_bind_of_run run_scanZone,
      Scan.run_bind_of_run Scan.run_blanks_nil, ofClock?_date]
    rfl
  rw [ofRfc3339?, Scan.whole, hscan]

end Instant

end FeedSync
