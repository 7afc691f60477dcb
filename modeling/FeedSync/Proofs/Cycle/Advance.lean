import FeedSync.Cycle

/-!
# Bringing a sync state up to date

A cycle that saved some articles adds their number to the total of its source. The total is a signed
word of 64 bits, and the sum is looked at before it is put into one: a state whose total overflows
has no successor.

## Main definitions

* `Advanced` — a sync state brought up to date.

## Main statements

* `advance?_eq_some_iff`, `advance?_eq_none_iff` — which states have a successor, and which one.
* `Advanced.le` — no total goes back.
-/

namespace FeedSync.Cycle

variable {state state' : SyncState} {now : Instant} {synced : Nat} {lastStored : Option Int64}

/-- Articles whose number is a word all count. -/
theorem weight_of_le (h : (synced : Int) ≤ Int64.maxValue.toInt) : weight synced = synced :=
  Nat.min_eq_left (Int.ofNat_le.mp h : synced ≤ Int64.maxValue.toNatClampNeg)

/-- **A sync state brought up to date** at some time, after so many articles, the last of which has
the given number. -/
structure Advanced (state : SyncState) (now : Instant) (synced : Nat) (lastStored : Option Int64)
    (state' : SyncState) : Prop where
  sourceId : state'.sourceId = state.sourceId
  lastSyncedAt : state'.lastSyncedAt = some now
  lastArticleId : state'.lastArticleId = lastStored.getD state.lastArticleId
  totalSynced : state'.totalSynced.toInt = state.totalSynced.toInt + weight synced

/-- What counts only moves a total onward. -/
theorem Advanced.le (h : Advanced state now synced lastStored state') :
    state.totalSynced ≤ state'.totalSynced := by
  have hsum := h.totalSynced
  exact Int64.le_iff_toInt_le.mpr (by omega)

/-- The total of a state brought up to date has held the sum. -/
theorem Advanced.not_overflows (h : Advanced state now synced lastStored state') :
    ¬ Overflows state.totalSynced synced := by
  rw [Overflows, ← h.totalSynced]
  exact Int.not_lt.mpr state'.totalSynced.toInt_le

/-- **A state has no successor** exactly if its total overflows. -/
theorem advance?_eq_none_iff : advance? state now synced lastStored = none ↔
    Overflows state.totalSynced synced := by
  rw [advance?]
  split
  · next hover => exact iff_of_true rfl hover
  · next hholds => exact iff_of_false nofun hholds

/-- **The successor of a state** is the state brought up to date. -/
theorem advance?_eq_some_iff : advance? state now synced lastStored = some state' ↔
    Advanced state now synced lastStored state' := by
  have hleast := state.totalSynced.le_toInt
  have hgreatest : Int64.maxValue.toInt = 2 ^ 63 - 1 := Int64.toInt_maxValue
  constructor
  · intro h
    rw [advance?] at h
    split at h
    · nomatch h
    · next hholds =>
        rw [Overflows] at hholds
        obtain rfl := Option.some.inj h
        exact ⟨rfl, rfl, rfl, Int64.toInt_ofInt_of_le (by omega) (by omega)⟩
  · intro h
    rw [advance?, if_neg h.not_overflows, ← h.totalSynced, Int64.ofInt_toInt]
    exact congrArg some
      (SyncState.ext h.sourceId.symm h.lastSyncedAt.symm h.lastArticleId.symm rfl)

/-- A state that nothing was counted in goes on in time alone. -/
theorem advance?_zero (state : SyncState) (now : Instant) :
    advance? state now 0 none = some { state with lastSyncedAt := some now } :=
  advance?_eq_some_iff.mpr ⟨rfl, rfl, rfl, (Int.add_zero _).symm⟩

end FeedSync.Cycle
