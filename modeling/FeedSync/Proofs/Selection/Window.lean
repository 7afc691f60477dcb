import FeedSync.Proofs.Selection
import FeedSync.Time.Span

/-!
# The window of a cycle

The cutoff of a cycle is some days before now. On the unbounded line of time it is that point, or
the first instant where the point lies before it; the end of the calendar shows in no other way. An
article is inside the window if its age is less than the days, whatever the calendar can represent,
with one exception: what was published at the first instant is left out even if the window reaches
further, since no cutoff is before it.

## Main definitions

* `nanosPerDay` — a day on the line of time.
* `cutoffInWords?` — the cutoff as machines compute it.

## Main statements

* `minusDays?_cases` — going back some days on the line, and where it ends.
* `sinceEpoch_historyCutoff` — the cutoff on the line.
* `window_is_exact` — what is inside the window, by age.
-/

namespace FeedSync

/-- Nanoseconds in a day. -/
def nanosPerDay : Int := secondsPerDay * nanosPerSecond

/-- The cutoff, computed in words. There is none if the days make no span. -/
def cutoffInWords? (now : Instant) (days : UInt32) : Option Instant := do
  let span ← TimeSpan.ofDays? (Int64.ofNat days.toNat)
  return (now.minus? span).getD Instant.first

/-- **Computing the cutoff in words always gives the cutoff.** -/
theorem cutoffInWords?_eq (now : Instant) (days : UInt32) :
    cutoffInWords? now days = some (historyCutoff now days) := by
  obtain ⟨span, hspan, hseconds⟩ := TimeSpan.exists_ofDays? days.toNat_lt
  rw [cutoffInWords?, hspan, historyCutoff, ← now.minus?_eq_minusDays? hseconds]
  rfl

/-! ### The cutoff on the line of time -/

variable {now now' : Instant} {days days' : UInt32}

/-- **Going back some days** on the line of time: the point that is so many days earlier is an
instant, or lies before all of them. -/
theorem Instant.minusDays?_cases {t : Instant} (ht : t.IsRegular) (days : Nat) :
    (∃ u, t.minusDays? days = some u ∧ u.IsRegular ∧
      u.sinceEpoch = t.sinceEpoch - days * nanosPerDay) ∨
    (t.minusDays? days = none ∧ t.sinceEpoch - days * nanosPerDay < first.sinceEpoch) := by
  by_cases hdays : days = 0
  · subst hdays
    refine .inl ⟨t, if_pos rfl, ht, ?_⟩
    rw [Int.natCast_zero, Int.zero_mul, Int.sub_zero]
  · have hback : t.minusDays? days = mk? (t.seconds - days * secondsPerDay) t.nanos := by
      rw [minusDays?, if_neg hdays, if_pos ht]
    have hpoint : (t.seconds - days * secondsPerDay) * nanosPerSecond + t.nanos =
        t.sinceEpoch - days * nanosPerDay := by
      rw [sinceEpoch, nanosPerDay, Int.sub_mul, Int.mul_assoc]
      omega
    cases hu : t.minusDays? days with
    | some u =>
        rw [hback] at hu
        refine .inl ⟨u, rfl, ?_, (sinceEpoch_of_mk? hu).trans hpoint⟩
        rw [IsRegular, nanos_of_mk? hu]
        exact ht
    | none =>
        have hnone : ¬ (mk? (t.seconds - days * secondsPerDay) t.nanos).isSome = true := by
          rw [← hback, hu]
          exact Bool.false_ne_true
        -- going back does not lead past the last instant
        have hlast : t.sinceEpoch - days * nanosPerDay ≤ last.sinceEpoch := by
          have hle : t.sinceEpoch ≤ last.sinceEpoch := t.sinceEpoch_le_last ht
          have hpos : 0 ≤ (days : Int) * nanosPerDay := Int.mul_nonneg (by omega) (by decide)
          omega
        rw [isSome_mk?_iff ht, hpoint] at hnone
        exact .inr ⟨rfl, Int.not_le.mp fun hfirst => hnone ⟨hfirst, hlast⟩⟩

/-- **The cutoff on the line of time**: some days before now, or the first instant if that is
later. -/
theorem sinceEpoch_historyCutoff (hnow : now.IsRegular) (days : UInt32) :
    (historyCutoff now days).IsRegular ∧ (historyCutoff now days).sinceEpoch =
      max Instant.first.sinceEpoch (now.sinceEpoch - days.toNat * nanosPerDay) := by
  rw [historyCutoff]
  rcases Instant.minusDays?_cases hnow days.toNat with ⟨u, hu, hregular, hpoint⟩ | ⟨hnone, hearly⟩
  · rw [hu, Option.getD_some, ← hpoint]
    exact ⟨hregular, (Int.max_eq_right u.sinceEpoch_first_le).symm⟩
  · rw [hnone, Option.getD_none]
    exact ⟨by decide, (Int.max_eq_left (Int.le_of_lt hearly)).symm⟩

/-- More days move the cutoff earlier, never later. -/
theorem historyCutoff_antitone (hnow : now.IsRegular) (h : days ≤ days') :
    historyCutoff now days' ≤ historyCutoff now days := by
  obtain ⟨hregular, hpoint⟩ := sinceEpoch_historyCutoff hnow days
  obtain ⟨hregular', hpoint'⟩ := sinceEpoch_historyCutoff hnow days'
  have hdays : (days.toNat : Int) * nanosPerDay ≤ days'.toNat * nanosPerDay :=
    Int.mul_le_mul_of_nonneg_right (Int.ofNat_le.mpr (UInt32.le_iff_toNat_le.mp h)) (by decide)
  refine not_lt.mp fun hlt => ?_
  have hlt := (Instant.sinceEpoch_lt_iff hregular hregular').mpr hlt
  omega

/-! ### The window -/

/-- A later cutoff leaves articles out and keeps the others in order. -/
theorem insideWindow_sublist {cutoff cutoff' : Instant} (h : cutoff ≤ cutoff')
    (articles : List Article) :
    (insideWindow cutoff' articles).Sublist (insideWindow cutoff articles) :=
  List.monotone_filter_right _ fun _ ha =>
    decide_eq_true (lt_of_le_of_lt h (of_decide_eq_true ha))

/-- **An article is after the cutoff if its age is less than the window**, unless it was published
at the first instant. -/
theorem historyCutoff_lt_iff {t : Instant} (hnow : now.IsRegular) (ht : t.IsRegular) :
    historyCutoff now days < t ↔
      now.sinceEpoch - t.sinceEpoch < days.toNat * nanosPerDay ∧ t ≠ Instant.first := by
  obtain ⟨hregular, hpoint⟩ := sinceEpoch_historyCutoff hnow days
  have hfirst : t ≠ Instant.first ↔ Instant.first.sinceEpoch < t.sinceEpoch := by
    rw [ne_eq, ← Instant.sinceEpoch_inj ht (by decide)]
    have := t.sinceEpoch_first_le
    omega
  rw [← Instant.sinceEpoch_lt_iff hregular ht, hpoint, hfirst]
  omega

/-- **The window is exact**, up to the first instant and beyond it. Computing the cutoff in words
gives it for any number of days; it is the later one of the first instant and of the point so many
days before now. Inside the window are, in order and with repetitions, the articles whose age is
less than these days, except those published at the first instant. More days keep no less, and a
later clock keeps no more. -/
theorem window_is_exact (hnow : now.IsRegular) (days : UInt32) :
    cutoffInWords? now days = some (historyCutoff now days) ∧
    (historyCutoff now days).IsRegular ∧
    (historyCutoff now days).sinceEpoch =
      max Instant.first.sinceEpoch (now.sinceEpoch - days.toNat * nanosPerDay) ∧
    (∀ articles : List Article, (∀ a ∈ articles, a.publishedAt.IsRegular) →
      insideWindow (historyCutoff now days) articles = articles.filter fun a =>
        now.sinceEpoch - a.publishedAt.sinceEpoch < days.toNat * nanosPerDay ∧
          a.publishedAt ≠ Instant.first) ∧
    (∀ days' articles, days ≤ days' → (insideWindow (historyCutoff now days) articles).Sublist
      (insideWindow (historyCutoff now days') articles)) ∧
    ∀ now' articles, now ≤ now' → (insideWindow (historyCutoff now' days) articles).Sublist
      (insideWindow (historyCutoff now days) articles) := by
  obtain ⟨hregular, hpoint⟩ := sinceEpoch_historyCutoff hnow days
  refine ⟨cutoffInWords?_eq now days, hregular, hpoint, fun articles harticles => ?_,
    fun days' articles h => insideWindow_sublist (historyCutoff_antitone hnow h) articles,
    fun now' articles h => insideWindow_sublist (historyCutoff_mono h hnow days) articles⟩
  exact List.filter_congr fun a ha =>
    decide_eq_decide.mpr (historyCutoff_lt_iff hnow (harticles a ha))

/-- An article of which only the time of publication matters. -/
def publishedOnly (t : Instant) : Article := { (default : Article) with publishedAt := t }

/-- The second instant of the calendar, a nanosecond after the first. -/
def secondInstant : Instant := { Instant.first with nanos := 1, leap := by decide }

/-- A window of eleven million years reaches beyond the first instant. What was published a
nanosecond after that instant is inside, what was published at it is not. -/
theorem window_beyond_first_instant :
    Instant.epoch.IsRegular ∧
    historyCutoff Instant.epoch 4294967295 = Instant.first ∧
    insideWindow (historyCutoff Instant.epoch 4294967295)
      [publishedOnly Instant.first, publishedOnly secondInstant] =
        [publishedOnly secondInstant] := by
  obtain ⟨-, hregular, hpoint, hinside, -, -⟩ :=
    window_is_exact (by decide : Instant.epoch.IsRegular) 4294967295
  have hfirst : historyCutoff Instant.epoch 4294967295 = Instant.first := by
    refine (Instant.sinceEpoch_inj hregular (by decide)).mp (hpoint.trans ?_)
    decide
  refine ⟨by decide, hfirst, (hinside _ fun a ha => ?_).trans rfl⟩
  rcases List.mem_pair.mp ha with rfl | rfl
  · exact (by decide : Instant.first.IsRegular)
  · exact (by decide : secondInstant.IsRegular)

end FeedSync
