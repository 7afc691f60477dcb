import FeedSync.Proofs.Time.Zoned

/-!
# Dates among the formats

A date text is tried in one format after the other, so that what one format reads is what the text
denotes only if no earlier one claims it. Before the strict times stand the Unix timestamps, which
are nothing but digits, and the dates of mails, whose day has at most two digits; a text that starts
with a year of four digits and a hyphen is neither.

## Main definitions

* `DateText.StartsWithYear` — how dates start that have a year of four digits.

## Main statements

* `StartsWithYear.foreign` — the formats before strict times do not claim them.
* `dates_keep_their_instant` — the text of an instant at any offset is read as this instant.
-/

namespace FeedSync

open FeedSync.Text FeedSync.Time
open FeedSync.Text.Pattern (all char digits)

/-! ### Patterns of digits -/

namespace Text.Pattern

/-- A fixed number of digits is taken from the front of a text in one way. -/
theorem rests_digits {cs : List Char} (h : AllDigits cs) (rest : List Char) :
    (digits cs.length cs.length).rests (cs ++ rest) = [rest] := by
  change steps (Pattern.one Char.isDigit).rests cs.length cs.length (cs ++ rest) = [rest]
  induction cs with
  | nil => rfl
  | cons c cs ih =>
      obtain ⟨hc, hcs⟩ := List.forall_mem_cons.mp h
      have hone : (Pattern.one Char.isDigit).rests (c :: (cs ++ rest)) = [cs ++ rest] := by
        rw [rests, if_pos hc]
      rw [List.length_cons, List.cons_append, steps, hone, List.flatMap_singleton,
        Nat.add_sub_cancel, ih hcs, if_neg (Nat.succ_ne_zero _)]
      rfl

end Text.Pattern

/-! ### Texts that are no dates of mails -/

namespace Text.Scan

/-- After a scan that refuses a text nothing goes on. -/
theorem run_bind_of_run_none {α β : Type} {scan : Scan α} {next : α → Scan β} {cs : List Char}
    (h : scan.run cs = none) : (scan >>= next).run cs = none := by
  rw [StateT.run_bind, h]
  rfl

end Text.Scan

/-- No weekday starts with a digit. -/
theorem run_weekday_of_isDigit {c : Char} (h : c.isDigit = true) (cs : List Char) :
    Rfc2822.weekday.run (c :: cs) = some (none, c :: cs) := by
  have hdigits : ∀ c ∈ "0123456789".toList,
      Rfc2822.weekday.run (c :: cs) = some (none, c :: cs) := by
    intro c hc
    simp only [String.reduceToList, List.mem_cons, List.not_mem_nil, or_false] at hc
    rcases hc with rfl | rfl | rfl | rfl | rfl | rfl | rfl | rfl | rfl | rfl <;> rfl
  exact hdigits c (mem_of_isDigit h)

/-- **A text that starts with three digits is no date of a mail**: the day has at most two. -/
theorem ofRfc2822?_of_digits {a b c : Char} (ha : a.isDigit = true) (hb : b.isDigit = true)
    (hc : c.isDigit = true) (cs : List Char) : Instant.ofRfc2822? (a :: b :: c :: cs) = none := by
  have hblanks := Scan.run_blanks (Instant.isBlank_eq_false_of_isDigit ha) (b :: c :: cs)
  have hday : (Scan.number 1 2).run (a :: b :: c :: cs) = some (digitsValue [a, b], c :: cs) := by
    have hvalue : digitsValue [a, b] = 10 * (10 * 0 + digitValue a) + digitValue b := rfl
    have hsmall := digitValue_lt ha
    have hsmall' := digitValue_lt hb
    have hall : AllDigits [a, b] :=
      List.forall_mem_cons.mpr ⟨ha, List.forall_mem_singleton.mpr hb⟩
    exact Scan.run_number hall rfl (Nat.le_succ 1) (Nat.le_refl 2)
      (fun h => absurd h (Nat.lt_irrefl 2)) (by omega)
  have hnone : Rfc2822.scan.run (a :: b :: c :: cs) = none := by
    rw [Rfc2822.scan, Scan.run_bind_of_run hblanks,
      Scan.run_bind_of_run (run_weekday_of_isDigit ha _), Scan.run_bind_of_run hblanks,
      Scan.run_bind_of_run hday]
    refine Scan.run_bind_of_run_none ?_
    change (if isBlank c then some ((), trimStart cs) else none) = none
    rw [if_neg (Bool.eq_false_iff.mp (Instant.isBlank_eq_false_of_isDigit hc))]
  rw [Instant.ofRfc2822?, Scan.whole, hnone]

/-! ### The order of the formats -/

namespace DateText

variable {now t : Instant} {minutes : Int} {text : List Char} {format : Format}
  {others : List Format}

/-- A format that claims no text leaves it to the next ones. -/
theorem firstOf_cons_of_foreign (h : format now text = .foreign) :
    firstOf (format :: others) now text = firstOf others now text := by
  rw [firstOf, h]

/-- A format that reads a text ends the search. -/
theorem firstOf_cons_of_time (h : format now text = .time t) :
    firstOf (format :: others) now text = .time t := by
  rw [firstOf, h]

/-- A text with a character that is no digit is no Unix timestamp. -/
theorem unixTimestamp_eq_foreign {c : Char} (hmem : c ∈ text) (hc : c.isDigit = false) :
    unixTimestamp now text = .foreign := by
  have hdigits : text.all Char.isDigit = false :=
    List.all_eq_false.mpr ⟨c, hmem, Bool.eq_false_iff.mp hc⟩
  rw [unixTimestamp, hdigits]
  rfl

/-- **How dates start that have a year of four digits.** -/
inductive StartsWithYear : List Char → Prop
  | intro {year month : Nat} (hyear : year < 10000) (hmonth : month < 100) (rest : List Char) :
      StartsWithYear (padded 4 year ++ '-' :: (padded 2 month ++ rest))

/-- The text of an instant starts with a year of four digits. -/
theorem startsWithYear_of_isTextAt (htext : t.IsTextAt minutes text)
    (hyear : 0 ≤ (t.localDate minutes).year ∧ (t.localDate minutes).year ≤ 9999) :
    StartsWithYear text := by
  obtain ⟨hseparator, hdigits, hzone⟩ := htext
  obtain ⟨hmonth, -⟩ := Date.month_day_lt
    (Date.isValid_ofEpochDay (t.localSeconds minutes / secondsPerDay))
  rw [Instant.writeLocal, Instant.writeDate, Instant.writeYear, if_pos hyear]
  simp only [List.append_assoc, List.cons_append]
  exact .intro (by omega) hmonth _

/-- **Neither Unix timestamps nor dates of mails start with a year of four digits.** -/
theorem StartsWithYear.foreign (h : StartsWithYear text) (now : Instant) :
    unixTimestamp now text = .foreign ∧ rfc2822 now text = .foreign := by
  obtain @⟨year, month, hyear, hmonth, rest⟩ := h
  refine ⟨unixTimestamp_eq_foreign (List.mem_append_right _ List.mem_cons_self) (by decide), ?_⟩
  have hdigits := allDigits_padded 4 year
  have hlength : (padded 4 year).length = 4 := length_padded (by decide) hyear
  match hpadded : padded 4 year, hlength with
  | [a, b, c, d], _ =>
      rw [hpadded] at hdigits
      simp only [List.forall_mem_cons] at hdigits
      obtain ⟨ha, hb, hc, -⟩ := hdigits
      rw [rfc2822, List.cons_append, List.cons_append, List.cons_append,
        ofRfc2822?_of_digits ha hb hc]
      rfl

/-- A text that starts with a year of four digits is left to the formats of such dates. -/
theorem StartsWithYear.matchesFront (h : StartsWithYear text) :
    (all [digits 4 4, char '-', digits 2 2]).matchesFront text = true := by
  obtain @⟨year, month, hyear, hmonth, rest⟩ := h
  have hyears := Pattern.rests_digits (allDigits_padded 4 year) ('-' :: (padded 2 month ++ rest))
  have hmonths := Pattern.rests_digits (allDigits_padded 2 month) rest
  rw [length_padded (by decide) hyear] at hyears
  rw [length_padded (by decide) hmonth] at hmonths
  have hrests : (all [digits 4 4, char '-', digits 2 2]).rests
      (padded 4 year ++ '-' :: (padded 2 month ++ rest)) = [rest] := by
    change (((digits 4 4).rests _).flatMap fun cs => ((char '-').rests cs).flatMap fun cs =>
      ((digits 2 2).rests cs).flatMap Pattern.empty.rests) = [rest]
    rw [hyears, List.flatMap_singleton]
    change ([padded 2 month ++ rest].flatMap fun cs =>
      ((digits 2 2).rests cs).flatMap Pattern.empty.rests) = [rest]
    rw [List.flatMap_singleton, hmonths]
    rfl
  rw [Pattern.matchesFront, hrests]
  rfl

/-- A strict time is the first thing that is tried of a text with a year of four digits. -/
theorem firstOf_formats_of_strict (h : StartsWithYear text)
    (hstrict : scanStrict.whole text = some t) (now : Instant) :
    firstOf formats now text = .time t := by
  obtain ⟨hunix, hmail⟩ := h.foreign now
  have hread : rfc3339 now text = .time t := by rw [rfc3339, hstrict, Verdict.of]
  rw [formats, firstOf_cons_of_foreign hunix, firstOf_cons_of_foreign hmail]
  refine firstOf_cons_of_time ?_
  rw [family, if_pos h.matchesFront]
  exact firstOf_cons_of_time hread

end DateText

/-! ### Publication dates -/

/-- **A publication date keeps its instant at every offset.** Of an instant that is no leap second,
the text at an offset of less than a day whose local year has four digits is read as this instant,
whatever the separator, the digits of the fraction and the form of the zone, and whatever the
present. The formats that are tried before its own do not claim it. -/
theorem dates_keep_their_instant {t : Instant} {minutes : Int} {text : List Char}
    (ht : t.IsRegular) (hminutes : -1439 ≤ minutes ∧ minutes ≤ 1439)
    (hyear : 0 ≤ (t.localDate minutes).year ∧ (t.localDate minutes).year ≤ 9999)
    (htext : t.IsTextAt minutes text) (now : Instant) :
    DateText.unixTimestamp now text = .foreign ∧ DateText.rfc2822 now text = .foreign ∧
      Instant.ofDateText? now (String.ofList text) = some t := by
  have hstarts := DateText.startsWithYear_of_isTextAt htext hyear
  obtain ⟨hunix, hmail⟩ := hstarts.foreign now
  have hscan := Instant.run_scanStrict htext ht (by omega) hyear
  have hstrict : scanStrict.whole text = some t := by rw [Scan.whole, hscan]
  refine ⟨hunix, hmail, ?_⟩
  rw [Instant.ofDateText?, String.toList_ofList,
    DateText.firstOf_formats_of_strict hstarts hstrict now]

/-- Half a second after the start of the year 10000. -/
def yearTenThousand : Instant := ⟨253402300800, 500000000, by decide, by decide, by decide⟩

/-- Where clocks are almost a day behind UTC, it is still the last day of the year 9999. -/
theorem year_ten_thousand_is_read_in_the_year_before :
    yearTenThousand.IsTextAt (-1439) "9999-12-31 00:01:00.5-23:59".toList ∧
      (yearTenThousand.localDate (-1439)).year = 9999 ∧ yearTenThousand.date.year = 10000 ∧
      Instant.ofDateText? .epoch (String.ofList "9999-12-31 00:01:00.5-23:59".toList) =
        some yearTenThousand := by
  have htext : yearTenThousand.IsTextAt (-1439) "9999-12-31 00:01:00.5-23:59".toList := by
    have hzone : Instant.IsZone (-1439) ('-' :: Instant.writeHours 1439) := .behind 1439
    exact Instant.IsTextAt.intro (by decide : ' ' ∈ ['T', 't', ' '])
      (by decide : Instant.IsExactTo 1 yearTenThousand.nanos) hzone
  exact ⟨htext, by decide, by decide,
    (dates_keep_their_instant (by decide) (by decide) (by decide) htext .epoch).2.2⟩

end FeedSync
