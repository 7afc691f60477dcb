import FeedSync.Time.Instant

/-!
# Spans of time in words

A span of whole seconds back in time, as machines compute with it: the seconds are a signed word of
64 bits, and there are no more of them than make a word of milliseconds. Whole days make a span if
their seconds fit; the seconds of an instant and of a span are subtracted as words. Each operation
says what it does in numbers of any size.
-/

namespace FeedSync

/-- A span of whole seconds back in time. -/
structure TimeSpan where
  seconds : Int64
  within : 0 ≤ seconds.toInt ∧ seconds.toInt ≤ 9223372036854775

namespace TimeSpan

/-- The product of two words, unless it takes more than a word. -/
def product? (a b : Int64) : Option Int64 :=
  if (a * b).toInt = a.toInt * b.toInt then some (a * b) else none

/-- A span of whole days, unless it would be longer than spans can be. -/
def ofDays? (days : Int64) : Option TimeSpan := do
  let seconds ← product? days 86400
  if h : 0 ≤ seconds.toInt ∧ seconds.toInt ≤ 9223372036854775 then some ⟨seconds, h⟩ else none

/-- A product that fits into a word is the product. -/
theorem toInt_mul_of_fits {a b : Int64} (hleast : Int64.minValue.toInt ≤ a.toInt * b.toInt)
    (hgreatest : a.toInt * b.toInt ≤ Int64.maxValue.toInt) :
    (a * b).toInt = a.toInt * b.toInt := by
  rw [Int64.toInt_minValue] at hleast
  rw [Int64.toInt_maxValue] at hgreatest
  rw [Int64.toInt_mul]
  exact Int.bmod_eq_of_le (by omega) (by omega)

/-- **Days that are counted by a word of 32 bits always make a span.** -/
theorem exists_ofDays? {days : Nat} (h : days < UInt32.size) :
    ∃ span, ofDays? (Int64.ofNat days) = some span ∧
      span.seconds.toInt = days * secondsPerDay := by
  have hsmall : days < 4294967296 := h
  have hdays : (Int64.ofNat days).toInt = days := Int64.toInt_ofNat_of_lt (by omega)
  have hday : (86400 : Int64).toInt = secondsPerDay := rfl
  have hproduct : (Int64.ofNat days * 86400).toInt = days * secondsPerDay := by
    rw [toInt_mul_of_fits, hdays, hday]
    all_goals
      rw [hdays, hday, secondsPerDay]
      simp only [Int64.toInt_minValue, Int64.toInt_maxValue]
      omega
  have hwithin : 0 ≤ (Int64.ofNat days * 86400).toInt ∧
      (Int64.ofNat days * 86400).toInt ≤ 9223372036854775 := by
    rw [hproduct, secondsPerDay]
    omega
  refine ⟨⟨_, hwithin⟩, ?_, hproduct⟩
  rw [ofDays?, product?, if_pos (by rw [hproduct, hdays, hday])]
  exact dif_pos hwithin

end TimeSpan

namespace Instant

/-- The second that lies a span before an instant, as words are subtracted. -/
def secondsBefore (t : Instant) (span : TimeSpan) : Int64 := Int64.ofInt t.seconds - span.seconds

/-- The instant that lies a span earlier, if it can be represented. A leap second that is left
counts as the second after it. -/
def minus? (t : Instant) (span : TimeSpan) : Option Instant :=
  if span.seconds = 0 then some t
  else if t.nanos < nanosPerSecond then mk? (t.secondsBefore span).toInt t.nanos
  else mk? (t.secondsBefore span + 1).toInt (t.nanos - nanosPerSecond)

/-- **Subtracting words is subtracting numbers**: no span leads out of a word. -/
theorem toInt_secondsBefore (t : Instant) (span : TimeSpan) :
    (t.secondsBefore span).toInt = t.seconds - span.seconds.toInt := by
  have hfirst := t.first_le
  have hlast := t.le_last
  have hwithin := span.within
  have hseconds : (Int64.ofInt t.seconds).toInt = t.seconds :=
    Int64.toInt_ofInt_of_le (by omega) (by omega)
  rw [secondsBefore, Int64.toInt_sub, hseconds]
  exact Int.bmod_eq_of_le (by omega) (by omega)

/-- **Going back some days in words is going back these days.** -/
theorem minus?_eq_minusDays? (t : Instant) {span : TimeSpan} {days : Nat}
    (h : span.seconds.toInt = days * secondsPerDay) : t.minus? span = t.minusDays? days := by
  have hzero : span.seconds = 0 ↔ days = 0 := by
    rw [← Int64.toInt_inj, h, secondsPerDay, Int64.toInt_zero]
    omega
  have hnext : (t.secondsBefore span + 1).toInt = t.seconds + 1 - days * secondsPerDay := by
    have hfirst := t.first_le
    have hlast := t.le_last
    have hwithin := span.within
    have hone : (1 : Int64).toInt = 1 := rfl
    rw [Int64.toInt_add, toInt_secondsBefore, hone]
    refine (Int.bmod_eq_of_le (by omega) (by omega)).trans ?_
    omega
  rw [minus?, minusDays?, hnext, toInt_secondsBefore, h]
  simp only [hzero]

end Instant

end FeedSync
