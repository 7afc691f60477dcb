import FeedSync.Time.Instant

/-!
# Durations

A duration is kept in two words: whole seconds, and the nanoseconds within a second. A duration that
is taken so many times that its seconds take more than a word counts as the longest one. What a
duration is worth is its **length**, a number of nanoseconds of any size; each operation says what
it does to it.
-/

namespace FeedSync

/-- A duration, kept in words. -/
structure Duration where
  seconds : UInt64
  /-- The nanoseconds within a second. -/
  nanos : UInt32
  nanos_lt : nanos.toNat < nanosPerSecond
  deriving DecidableEq, Repr

namespace Duration

/-- What a duration is worth, in nanoseconds. -/
def length (s : Duration) : Nat := s.seconds.toNat * nanosPerSecond + s.nanos.toNat

/-! ### Milliseconds -/

theorem toNat_nanosOfMillis (millis : UInt64) :
    ((millis % 1000).toUInt32 * 1000000).toNat = millis.toNat % 1000 * 1000000 := by
  have hthousand : (1000 : UInt64).toNat = 1000 := rfl
  have hmillion : (1000000 : UInt32).toNat = 1000000 := rfl
  rw [UInt32.toNat_mul, UInt64.toNat_toUInt32, UInt64.toNat_mod, hthousand, hmillion]
  omega

/-- Some milliseconds. -/
def ofMillis (millis : UInt64) : Duration where
  seconds := millis / 1000
  nanos := (millis % 1000).toUInt32 * 1000000
  nanos_lt := by
    rw [toNat_nanosOfMillis, nanosPerSecond]
    omega

theorem length_ofMillis (millis : UInt64) :
    (ofMillis millis).length = millis.toNat * 1000000 := by
  have hthousand : (1000 : UInt64).toNat = 1000 := rfl
  rw [length, ofMillis, toNat_nanosOfMillis, UInt64.toNat_div, hthousand, nanosPerSecond]
  omega

/-! ### Products -/

/-- The longest duration. -/
def longest : Duration where
  seconds := 18446744073709551615
  nanos := 999999999
  nanos_lt := by decide

/-- All nanoseconds of a duration together, so many times. -/
def nanosTimes (s : Duration) (factor : UInt32) : UInt64 := s.nanos.toUInt64 * factor.toUInt64

/-- **The nanoseconds never take more than a word.** -/
theorem toNat_nanosTimes (s : Duration) (factor : UInt32) :
    (s.nanosTimes factor).toNat = s.nanos.toNat * factor.toNat := by
  have hsize : s.nanos.toNat * factor.toNat < 2 ^ 32 * 2 ^ 32 :=
    Nat.mul_lt_mul'' s.nanos.toNat_lt factor.toNat_lt
  rw [nanosTimes, UInt64.toNat_mul, UInt32.toNat_toUInt64, UInt32.toNat_toUInt64]
  exact Nat.mod_eq_of_lt (by omega)

theorem toNat_nanosWithinSecond (nanos : UInt64) :
    (nanos % 1000000000).toUInt32.toNat = nanos.toNat % nanosPerSecond := by
  have hsecond : (1000000000 : UInt64).toNat = 1000000000 := rfl
  rw [UInt64.toNat_toUInt32, UInt64.toNat_mod, hsecond, nanosPerSecond]
  omega

/-- The seconds of a duration, so many times, with those that its nanoseconds come to. -/
def secondsTimes (s : Duration) (factor : UInt32) : Nat :=
  s.seconds.toNat * factor.toNat + (s.nanosTimes factor / 1000000000).toNat

/-- A duration so many times, unless its seconds take more than a word then. -/
def times? (s : Duration) (factor : UInt32) : Option Duration :=
  if s.secondsTimes factor < UInt64.size then
    some {
      seconds := s.seconds * factor.toUInt64 + s.nanosTimes factor / 1000000000
      nanos := (s.nanosTimes factor % 1000000000).toUInt32
      nanos_lt := by
        rw [toNat_nanosWithinSecond]
        exact Nat.mod_lt _ (by decide) }
  else none

/-- A duration so many times, and at most the longest one. -/
def times (s : Duration) (factor : UInt32) : Duration := (s.times? factor).getD longest

/-- The whole seconds and the rest of a product are all of it. -/
theorem secondsTimes_add (s : Duration) (factor : UInt32) :
    s.secondsTimes factor * nanosPerSecond + (s.nanosTimes factor).toNat % nanosPerSecond =
      s.length * factor.toNat := by
  have hsecond : (1000000000 : UInt64).toNat = nanosPerSecond := rfl
  rw [secondsTimes, length, UInt64.toNat_div, hsecond, Nat.add_mul, Nat.add_assoc,
    Nat.mul_comm (_ / _), Nat.div_add_mod, toNat_nanosTimes, Nat.add_mul, Nat.mul_right_comm]

/-- **A product in words is the product**, up to the longest duration. -/
theorem length_times (s : Duration) (factor : UInt32) :
    (s.times factor).length = min (s.length * factor.toNat) longest.length := by
  have hall := s.secondsTimes_add factor
  have hrest : (s.nanosTimes factor).toNat % nanosPerSecond < nanosPerSecond :=
    Nat.mod_lt _ (by decide)
  have hlongest : longest.length + 1 = UInt64.size * nanosPerSecond := by decide
  rw [times, times?]
  split
  · next hfits =>
      have hseconds : (s.seconds * factor.toUInt64 + s.nanosTimes factor / 1000000000).toNat =
          s.secondsTimes factor := by
        have hproduct : s.seconds.toNat * factor.toNat < 2 ^ 64 :=
          Nat.lt_of_le_of_lt (Nat.le_add_right _ _) hfits
        rw [UInt64.toNat_add, UInt64.toNat_mul, UInt32.toNat_toUInt64, Nat.mod_eq_of_lt hproduct]
        exact Nat.mod_eq_of_lt hfits
      have hle : (s.secondsTimes factor + 1) * nanosPerSecond ≤ UInt64.size * nanosPerSecond :=
        Nat.mul_le_mul_right _ hfits
      rw [Option.getD_some, length, hseconds, toNat_nanosWithinSecond, hall, Nat.min_eq_left]
      rw [Nat.add_mul] at hle
      omega
  · next hmore =>
      have hle : UInt64.size * nanosPerSecond ≤ s.secondsTimes factor * nanosPerSecond :=
        Nat.mul_le_mul_right _ (Nat.not_lt.mp hmore)
      rw [Option.getD_none, Nat.min_eq_right]
      omega

/-! ### The shorter one of two durations -/

/-- Whether a duration is shorter than another. -/
def isShorter (s t : Duration) : Bool :=
  s.seconds < t.seconds || s.seconds == t.seconds && s.nanos < t.nanos

theorem isShorter_iff (s t : Duration) : s.isShorter t = true ↔ s.length < t.length := by
  have hs := s.nanos_lt
  have ht := t.nanos_lt
  rw [isShorter, length, length, nanosPerSecond] at *
  simp only [Bool.or_eq_true, Bool.and_eq_true, decide_eq_true_eq, beq_iff_eq,
    UInt64.lt_iff_toNat_lt, UInt32.lt_iff_toNat_lt, ← UInt64.toNat_inj]
  omega

/-- The shorter one of two durations. -/
def shorter (s t : Duration) : Duration := if t.isShorter s then t else s

theorem length_shorter (s t : Duration) : (s.shorter t).length = min s.length t.length := by
  rw [shorter]
  split
  · next h => exact (Nat.min_eq_right (Nat.le_of_lt ((isShorter_iff t s).mp h))).symm
  · next h => exact (Nat.min_eq_left (Nat.not_lt.mp (mt (isShorter_iff t s).mpr h))).symm

end Duration

end FeedSync
