import FeedSync.Time.Instant
import Mathlib.Order.Defs.LinearOrder
import Mathlib.Tactic.Common

/-!
# The line of time

Instants are in a linear order. Those that are no leap seconds are the points of a line of
nanoseconds between two limits, and a second and a fraction that are computed without any limits
make an instant exactly if their point lies between them.

## Main definitions

* `Instant.sinceEpoch` — the point of an instant, counted from the start of 1970.
* `Instant.last` — the last instant.
* `nanosPerMilli` — a millisecond on the line.

## Main statements

* `sinceEpoch_lt_iff`, `sinceEpoch_inj` — instants are ordered as their points are.
* `isSome_mk?_iff` — the points that are instants.
* `sinceEpoch_of_ofEpochMillis?`, `lt_iff_of_ofEpochMillis?` — milliseconds are points in order.
-/

namespace FeedSync

/-- Nanoseconds in a millisecond. -/
def nanosPerMilli : Int := 1000000

namespace Instant

/-! ### The order of instants -/

/-- Of two instants one is not after the other. -/
protected theorem le_total (s t : Instant) : s ≤ t ∨ t ≤ s := by
  rw [le_def, le_def, lt_def, lt_def]
  omega

/-- No instant is before the first one. -/
theorem first_le_all (t : Instant) : first ≤ t := by
  rw [le_def, lt_def]
  rintro (hsec | ⟨-, hnan⟩)
  · exact absurd t.first_le (Int.not_le.mpr hsec)
  · exact absurd hnan (Nat.not_lt_zero _)

instance : LinearOrder Instant where
  le_refl t := lt_irrefl t
  le_trans _ _ _ := le_trans
  le_antisymm _ _ := le_antisymm
  le_total := Instant.le_total
  lt_iff_le_not_ge s t := by
    rw [not_le]
    exact ⟨fun h => ⟨le_of_lt h, h⟩, fun h => h.2⟩
  toDecidableLE := fun s t => inferInstance

/-- A second and a fraction that make an instant are those of the instant. -/
theorem mk?_eq_some_iff {seconds : Int} {nanos : Nat} {t : Instant} :
    mk? seconds nanos = some t ↔ t.seconds = seconds ∧ t.nanos = nanos := by
  rw [mk?]
  constructor
  · intro h
    split at h
    · obtain rfl := Option.some.inj h
      exact ⟨rfl, rfl⟩
    · exact absurd h (Option.some_ne_none t).symm
  · rintro ⟨rfl, rfl⟩
    rw [dif_pos ⟨⟨t.first_le, t.le_last⟩, t.leap⟩]

/-! ### Points of the line -/

/-- The last instant that is no leap second. -/
def last : Instant where
  seconds := lastSecond
  nanos := 999999999
  first_le := by decide
  le_last := by decide

/-- An instant that does not lie in a leap second. -/
abbrev IsRegular (t : Instant) : Prop := t.nanos < nanosPerSecond

/-- **The point of an instant**: the nanoseconds from the start of 1970, on a line that knows no
leap seconds and has no ends. -/
def sinceEpoch (t : Instant) : Int := t.seconds * nanosPerSecond + t.nanos

variable {s t : Instant} {seconds : Int} {nanos : Nat}

/-- **Instants are ordered as their points are.** -/
theorem sinceEpoch_lt_iff (hs : s.IsRegular) (ht : t.IsRegular) :
    s.sinceEpoch < t.sinceEpoch ↔ s < t := by
  rw [IsRegular, nanosPerSecond] at hs ht
  rw [lt_def, sinceEpoch, sinceEpoch, nanosPerSecond]
  omega

/-- Instants at one point are the same. -/
theorem sinceEpoch_inj (hs : s.IsRegular) (ht : t.IsRegular) :
    s.sinceEpoch = t.sinceEpoch ↔ s = t := by
  rw [IsRegular, nanosPerSecond] at hs ht
  refine ⟨fun h => ?_, fun h => congrArg sinceEpoch h⟩
  rw [sinceEpoch, sinceEpoch, nanosPerSecond] at h
  exact ext (by omega) (by omega)

/-- The point of the first instant is the least one. -/
theorem sinceEpoch_first_le (t : Instant) : first.sinceEpoch ≤ t.sinceEpoch := by
  have hfirst := t.first_le
  rw [sinceEpoch, sinceEpoch, nanosPerSecond]
  change (-8334601228800 : Int) * 1000000000 + 0 ≤ t.seconds * 1000000000 + t.nanos
  omega

/-- Of the instants that are no leap seconds the point of the last one is the greatest. -/
theorem sinceEpoch_le_last (ht : t.IsRegular) : t.sinceEpoch ≤ last.sinceEpoch := by
  have hlast := t.le_last
  rw [IsRegular, nanosPerSecond] at ht
  rw [sinceEpoch, sinceEpoch, nanosPerSecond]
  change t.seconds * 1000000000 + t.nanos ≤ (8210266876799 : Int) * 1000000000 + 999999999
  omega

/-- The point of an instant that was made of a second and a fraction. -/
theorem sinceEpoch_of_mk? (h : mk? seconds nanos = some t) :
    t.sinceEpoch = seconds * nanosPerSecond + nanos := by
  obtain ⟨rfl, rfl⟩ := mk?_eq_some_iff.mp h
  rfl

/-- The fraction of an instant that was made of one. -/
theorem nanos_of_mk? (h : mk? seconds nanos = some t) : t.nanos = nanos :=
  (mk?_eq_some_iff.mp h).2

/-- **The points that are instants** are those between the first and the last one. -/
theorem isSome_mk?_iff (hnanos : nanos < nanosPerSecond) :
    (mk? seconds nanos).isSome = true ↔
      first.sinceEpoch ≤ seconds * nanosPerSecond + nanos ∧
        seconds * nanosPerSecond + nanos ≤ last.sinceEpoch := by
  have hfirst : first.sinceEpoch = -8334601228800 * 1000000000 := by decide
  have hlast : last.sinceEpoch = 8210266876799 * 1000000000 + 999999999 := by decide
  rw [nanosPerSecond] at *
  rw [hfirst, hlast, mk?]
  split
  · simp only [Option.isSome_some, true_iff]
    omega
  · simp only [Option.isSome_none, Bool.false_eq_true, false_iff]
    omega

/-! ### Milliseconds -/

/-- Milliseconds split into whole seconds and the milliseconds above them, also before 1970. -/
theorem millis_split (millis : Int) :
    millis / 1000 * nanosPerSecond + ((millis % 1000).toNat * 1000000 : Nat) =
      millis * nanosPerMilli := by
  rw [nanosPerSecond, nanosPerMilli]
  omega

/-- The milliseconds above a whole second do not make a second. -/
theorem millis_lt_second (millis : Int) : (millis % 1000).toNat * 1000000 < nanosPerSecond := by
  rw [nanosPerSecond]
  omega

variable {millis millis' : Int64}

/-- **The milliseconds that denote an instant** are those whose point lies between the first and the
last instant. -/
theorem isSome_ofEpochMillis?_iff (millis : Int64) :
    (ofEpochMillis? millis).isSome = true ↔
      first.sinceEpoch ≤ millis.toInt * nanosPerMilli ∧
        millis.toInt * nanosPerMilli ≤ last.sinceEpoch := by
  rw [ofEpochMillis?, isSome_mk?_iff (millis_lt_second millis.toInt), millis_split]

/-- **Milliseconds denote the instant at their point.** -/
theorem sinceEpoch_of_ofEpochMillis? (h : ofEpochMillis? millis = some t) :
    t.sinceEpoch = millis.toInt * nanosPerMilli :=
  (sinceEpoch_of_mk? h).trans (millis_split millis.toInt)

/-- Milliseconds denote no leap seconds. -/
theorem isRegular_of_ofEpochMillis? (h : ofEpochMillis? millis = some t) : t.IsRegular := by
  rw [IsRegular, nanos_of_mk? h]
  exact millis_lt_second millis.toInt

/-- **Milliseconds denote instants in their order.** -/
theorem lt_iff_of_ofEpochMillis? (hs : ofEpochMillis? millis = some s)
    (ht : ofEpochMillis? millis' = some t) : s < t ↔ millis < millis' := by
  rw [← sinceEpoch_lt_iff (isRegular_of_ofEpochMillis? hs) (isRegular_of_ofEpochMillis? ht),
    sinceEpoch_of_ofEpochMillis? hs, sinceEpoch_of_ofEpochMillis? ht, Int64.lt_iff_toInt_lt,
    nanosPerMilli]
  omega

/-- Milliseconds that denote the same instant are equal. -/
theorem eq_iff_of_ofEpochMillis? (hs : ofEpochMillis? millis = some s)
    (ht : ofEpochMillis? millis' = some t) : s = t ↔ millis = millis' := by
  rw [← sinceEpoch_inj (isRegular_of_ofEpochMillis? hs) (isRegular_of_ofEpochMillis? ht),
    sinceEpoch_of_ofEpochMillis? hs, sinceEpoch_of_ofEpochMillis? ht, ← Int64.toInt_inj,
    nanosPerMilli]
  omega

end Instant

end FeedSync
