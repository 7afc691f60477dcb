import FeedSync.Proofs.Json.Grammar

/-!
# Ends of strings and numbers

A string ends at its closing quote, whatever escapes are in it, and a number ends where a character
follows that no number goes on with. Both are found by the functions that only look for the end.

## Main statements

* `skipString_append` — the end of a string is found.
* `skipNumeral_append` — the end of a number is found.
* `readNumeral_signedDecimal` — a written integer within 64 bits is read as it is.
-/

namespace FeedSync.Json

open FeedSync.Text

/-- A text that does not go on with a number. -/
def EndsNumber (rest : List Char) : Prop :=
  ∀ c, rest.head? = some c → c.isDigit = false ∧ c ≠ '.' ∧ c ≠ 'e' ∧ c ≠ 'E'

theorem EndsNumber.endsDigits {rest : List Char} (h : EndsNumber rest) : EndsDigits rest :=
  fun c hc => (h c hc).1

theorem endsNumber_nil : EndsNumber [] := nofun

theorem endsNumber_cons {c : Char} (h : c.isDigit = false ∧ c ≠ '.' ∧ c ≠ 'e' ∧ c ≠ 'E')
    (rest : List Char) : EndsNumber (c :: rest) := by
  intro x hx
  rwa [← Option.some.inj hx]

/-! ### Strings -/

/-- Every one-letter escape denotes a character. -/
theorem isSome_simpleEscape? : ∀ e ∈ "\"\\/bfnrt".toList, (simpleEscape? e).isSome = true :=
  List.all_eq_true.mp (by decide)

/-- Four hexadecimal digits are taken. -/
theorem exists_takeHex {a b c d : Char} (h : ∀ x ∈ [a, b, c, d], (hexValue? x).isSome = true) :
    ∃ n, ∀ rest, takeHex (a :: b :: c :: d :: rest) = .ok (n, rest) := by
  obtain ⟨w, hw⟩ := Option.isSome_iff_exists.mp (h a (by simp))
  obtain ⟨x, hx⟩ := Option.isSome_iff_exists.mp (h b (by simp))
  obtain ⟨y, hy⟩ := Option.isSome_iff_exists.mp (h c (by simp))
  obtain ⟨z, hz⟩ := Option.isSome_iff_exists.mp (h d (by simp))
  exact ⟨_, fun rest => by rw [takeHex, hw, hx, hy, hz]⟩

/-- **The end of a string is found.** -/
theorem skipString_append {body : List Char} (h : IsStringBody body) (rest : List Char) :
    skipString (body ++ '"' :: rest) = .ok rest := by
  induction h with
  | nil =>
      rw [List.nil_append, skipString.eq_def]
      rfl
  | @plain c cs hquote hbackslash hcontrol _ ih =>
      rw [List.cons_append, skipString.eq_def]
      simp only [beq_iff_eq, hquote, hbackslash, hcontrol, if_false, ih]
  | @letter e cs he _ ih =>
      have hunit : e ≠ 'u' := by
        rintro rfl
        exact absurd he (by decide)
      obtain ⟨c, hc⟩ := Option.isSome_iff_exists.mp (isSome_simpleEscape? e he)
      rw [List.cons_append, List.cons_append, skipString, if_neg (by decide), if_pos (by decide)]
      simp only [beq_iff_eq, hunit, if_false, hc, ih]
  | @unit a b c d cs hhex _ ih =>
      obtain ⟨n, hn⟩ := exists_takeHex hhex
      simp only [List.cons_append]
      rw [skipString, if_neg (by decide), if_pos (by decide)]
      simp only [beq_self_eq_true, if_true]
      split
      · next hfault => rw [hn] at hfault; cases hfault
      · next after hafter =>
          rw [hn] at hafter
          obtain ⟨-, rfl⟩ := Prod.mk.inj (Except.ok.inj hafter)
          exact ih

/-! ### Numbers -/

/-- Digits are skipped to their end. -/
theorem skipDigits_append {ds rest : List Char} (hds : AllDigits ds) (hne : ds ≠ [])
    (hrest : EndsDigits rest) : skipDigits (ds ++ rest) = .ok rest := by
  cases ds with
  | nil => exact absurd rfl hne
  | cons d ds =>
      have hd : (d :: ds ++ rest).head?.any Char.isDigit = true := hds d List.mem_cons_self
      rw [skipDigits, if_pos hd, dropWhile_isDigit_append hds hrest]

theorem endsDigits_exponent {exponent rest : List Char} (h : IsExponent exponent)
    (hrest : EndsNumber rest) : EndsDigits (exponent ++ rest) := by
  rcases h with rfl | ⟨e, sign, ds, rfl, he, -⟩
  · exact hrest.endsDigits
  · have hletters : ∀ e ∈ ['e', 'E'], e.isDigit = false := by simp
    intro c hc
    rw [← Option.some.inj hc]
    exact hletters e he

theorem endsDigits_fraction {fraction rest : List Char} (h : IsFraction fraction)
    (hrest : EndsDigits rest) : EndsDigits (fraction ++ rest) := by
  rcases h with rfl | ⟨ds, rfl, -⟩
  · exact hrest
  · intro c hc
    rw [← Option.some.inj hc]
    rfl

/-- An exponent is skipped to its end. -/
theorem skipExponent_append {exponent rest : List Char} (h : IsExponent exponent)
    (hrest : EndsNumber rest) : skipExponent (exponent ++ rest) = .ok rest := by
  rcases h with rfl | ⟨e, sign, ds, rfl, he, hsign, hne, hds⟩
  · cases rest with
    | nil => rfl
    | cons c rest =>
        obtain ⟨-, -, hlower, hupper⟩ := hrest c rfl
        simp [skipExponent, hlower, hupper]
  · have hletter : (e == 'e' || e == 'E') = true := by simpa using he
    have hdigits := skipDigits_append hds hne hrest.endsDigits
    obtain ⟨d, ds', rfl⟩ := List.exists_cons_of_ne_nil hne
    have hd := hds d List.mem_cons_self
    have hplus : d ≠ '+' := fun heq => by simp [heq] at hd
    have hminus : d ≠ '-' := fun heq => by simp [heq] at hd
    simp only [List.mem_cons, List.not_mem_nil, or_false] at hsign
    rcases hsign with rfl | rfl | rfl
    · simpa [skipExponent, hletter, hplus, hminus] using hdigits
    · simpa [skipExponent, hletter] using hdigits
    · simpa [skipExponent, hletter] using hdigits

/-- The digits of an integer. -/
theorem IsInteger.digits {cs : List Char} (h : IsInteger cs) :
    ∃ c ds, cs = c :: ds ∧ AllDigits cs ∧ (c = '0' → ds = []) := by
  rcases h with rfl | ⟨c, ds, rfl, hc, hzero, hds⟩
  · exact ⟨'0', [], rfl, List.forall_mem_singleton.mpr rfl, fun _ => rfl⟩
  · exact ⟨c, ds, rfl, List.forall_mem_cons.mpr ⟨hc, hds⟩, fun heq => absurd heq hzero⟩

/-- A fraction is skipped to its end, with the exponent after it. -/
theorem skipFraction_append {fraction exponent rest : List Char} (hfraction : IsFraction fraction)
    (hexponent : IsExponent exponent) (hrest : EndsNumber rest) :
    (match fraction ++ (exponent ++ rest) with
      | '.' :: rest => skipDigits rest >>= skipExponent
      | rest => skipExponent rest) = .ok rest := by
  have hskip := skipExponent_append hexponent hrest
  rcases hfraction with rfl | ⟨ds, rfl, hne, hds⟩
  · have hpoint : ∀ after, exponent ++ rest ≠ '.' :: after := by
      intro after heq
      rcases hexponent with rfl | ⟨e, sign, ds, rfl, he, -⟩
      · exact (hrest '.' (congrArg List.head? heq)).2.1 rfl
      · obtain rfl := (List.cons.inj heq).1
        exact absurd he (by decide)
    rw [List.nil_append]
    split
    · next heq => exact absurd heq (hpoint _)
    · exact hskip
  · have hdigits := skipDigits_append hds hne (endsDigits_exponent hexponent hrest)
    change skipDigits (ds ++ (exponent ++ rest)) >>= skipExponent = _
    rw [hdigits]
    exact hskip

/-- No zero stands in front of an integer. -/
theorem leadingZero_eq_false {c : Char} {ds after : List Char} (hzero : c = '0' → ds = [])
    (hends : EndsDigits after) : (c == '0' && (ds ++ after).head?.any Char.isDigit) = false := by
  by_cases heq : c = '0'
  · rw [hzero heq, List.nil_append]
    cases hhead : after.head? with
    | none => simp
    | some x => simp [hends x hhead]
  · simp [heq]

/-- **The end of a number is found.** -/
theorem skipNumeral_append {cs rest : List Char} (h : IsNumber cs) (hrest : EndsNumber rest) :
    skipNumeral (cs ++ rest) = .ok rest := by
  obtain ⟨sign, whole, fraction, exponent, rfl, hsign, hwhole, hfraction, hexponent⟩ := h
  obtain ⟨c, ds, rfl, hdigits, hzero⟩ := hwhole.digits
  have hends : EndsDigits (fraction ++ (exponent ++ rest)) :=
    endsDigits_fraction hfraction (endsDigits_exponent hexponent hrest)
  have hc : c ≠ '-' := fun heq => by simpa [heq] using hdigits c List.mem_cons_self
  have hunsigned : (let cs := sign ++ (c :: ds ++ (fraction ++ exponent)) ++ rest
      if cs.head? == some '-' then cs.tail else cs) =
        c :: ds ++ (fraction ++ (exponent ++ rest)) := by
    simp only [List.mem_cons, List.not_mem_nil, or_false] at hsign
    rcases hsign with rfl | rfl
    · simp [hc]
    · simp
  have hskip := skipDigits_append hdigits (List.cons_ne_nil c ds) hends
  unfold skipNumeral
  rw [hunsigned]
  simp only [hskip]
  change (if (c == '0' && (ds ++ (fraction ++ (exponent ++ rest))).head?.any Char.isDigit) = true
    then Except.error Fault.malformed else _) = _
  rw [leadingZero_eq_false hzero hends, if_neg Bool.false_ne_true]
  exact skipFraction_append hfraction hexponent hrest

/-! ### Integers -/

theorem le_readDigits (n : Nat) (ds : List Char) : n ≤ readDigits n ds := by
  induction ds generalizing n with
  | nil => exact Nat.le_refl n
  | cons d ds ih =>
      have := ih (10 * n + digitValue d)
      rw [readDigits, List.foldl_cons]
      exact Nat.le_trans (by omega) this

/-- Digits are taken as long as their number stays within 64 bits. -/
theorem accumulate_eq {significand : Nat} {ds : List Char}
    (h : readDigits significand ds ≤ greatestWord) :
    accumulate significand ds = (readDigits significand ds, []) := by
  induction ds generalizing significand with
  | nil => rfl
  | cons d ds ih =>
      have hle := le_readDigits (10 * significand + digitValue d) ds
      rw [accumulate, if_pos (Nat.le_trans hle h)]
      exact ih h

/-- What `readUnsigned` makes of what follows the digits of an integer, given the significand and
the digits that do not fit into it. -/
def readAfterWhole (isNegative : Bool) (significand : Nat) (dropped : List Char) :
    List Char → Except Fault (Numeral × List Char)
  | '.' :: rest => readFraction significand dropped.length rest
  | 'e' :: rest => readExponent significand dropped.length rest
  | 'E' :: rest => readExponent significand dropped.length rest
  | rest =>
    if dropped.isEmpty then .ok (integerOf isNegative significand, rest)
    else floatWithin significand dropped.length rest

/-- An integer is read to the end of its digits, and then what follows. -/
theorem readUnsigned_whole (isNegative : Bool) {whole after : List Char} (h : IsInteger whole)
    (hends : EndsDigits after) :
    readUnsigned isNegative (whole ++ after) =
      readAfterWhole isNegative (accumulate 0 whole).1 (accumulate 0 whole).2 after := by
  obtain ⟨c, ds, rfl, hdigits, hzero⟩ := h.digits
  have hc : c.isDigit = true := hdigits c List.mem_cons_self
  have htake := takeWhile_isDigit_append hdigits hends
  have hdrop := dropWhile_isDigit_append hdigits hends
  have hleading := leadingZero_eq_false hzero hends
  rw [List.cons_append] at htake hdrop ⊢
  simp only [readUnsigned, hc, hleading, htake, hdrop, Bool.not_true, Bool.false_eq_true, if_false]
  rfl

/-- What does not go on with a number ends it. -/
theorem readAfterWhole_end (isNegative : Bool) (significand : Nat) (dropped : List Char)
    {rest : List Char} (hrest : EndsNumber rest) :
    readAfterWhole isNegative significand dropped rest =
      if dropped.isEmpty then .ok (integerOf isNegative significand, rest)
      else floatWithin significand dropped.length rest := by
  unfold readAfterWhole
  split
  · exact absurd rfl (hrest '.' rfl).2.1
  · exact absurd rfl (hrest 'e' rfl).2.2.1
  · exact absurd rfl (hrest 'E' rfl).2.2.2
  · rfl

/-- A written number within 64 bits is read as it is. -/
theorem readUnsigned_decimal {n : Nat} (h : n ≤ greatestWord) (isNegative : Bool)
    {rest : List Char} (hrest : EndsNumber rest) :
    readUnsigned isNegative (decimal n ++ rest) = .ok (integerOf isNegative n, rest) := by
  have haccumulate : accumulate 0 (decimal n) = (n, []) := by
    have hvalue : readDigits 0 (decimal n) = n := digitsValue_decimal n
    rw [accumulate_eq (hvalue.symm ▸ h), hvalue]
  rw [readUnsigned_whole isNegative (isInteger_decimal n) hrest.endsDigits, haccumulate,
    readAfterWhole_end isNegative n [] hrest]
  rfl

/-- **A written integer within 64 bits is read as it is.** -/
theorem readNumeral_signedDecimal {i : Int} (hleast : Int64.minValue.toInt ≤ i)
    (hgreatest : i ≤ greatestWord) {rest : List Char} (hrest : EndsNumber rest) :
    readNumeral (signedDecimal i ++ rest) = .ok (.integer i, rest) := by
  have hmin : Int64.minValue.toInt = -9223372036854775808 := by decide
  have hmax : greatestWord = 18446744073709551615 := by decide
  have hread := readUnsigned_decimal (n := i.natAbs) (by omega) (decide (i < 0)) hrest
  have hinteger : integerOf (decide (i < 0)) i.natAbs = .integer i := by
    unfold integerOf
    by_cases hnegative : i < 0
    · have hsize : -(i.natAbs : Int) = i := by omega
      have hfits : (i.natAbs = 0 || -(i.natAbs : Int) < Int64.minValue.toInt : Bool) = false := by
        rw [hmin]
        simp only [Bool.or_eq_false_iff, decide_eq_false_iff_not]
        omega
      rw [decide_eq_true hnegative, hfits, hsize]
      rfl
    · have hsize : (i.natAbs : Int) = i := by omega
      rw [decide_eq_false hnegative, hsize]
      rfl
  rw [hinteger] at hread
  unfold signedDecimal
  split
  · next hnegative =>
      rw [decide_eq_true hnegative] at hread
      exact hread
  · next hpositive =>
      rw [decide_eq_false hpositive] at hread
      obtain ⟨c, ds, hdecimal, hdigits, -⟩ := (isInteger_decimal i.natAbs).digits
      have hc : c ≠ '-' := fun heq => by
        simpa [heq] using hdigits c (hdecimal ▸ List.mem_cons_self)
      rw [hdecimal, List.cons_append] at hread ⊢
      unfold readNumeral
      split
      · next heq => exact absurd (List.cons.inj heq).1 hc
      · exact hread

end FeedSync.Json
