import FeedSync.Proofs.Cycle.Served

/-!
# Many cycles on one store

Cycles of several sources run one after the other on one store, each with its own list, failures and
end. What the store keeps about a source then tells the story of those of its cycles that succeeded,
and of no others: a cycle that fails leaves no trace there, even if it has stored articles.

## Main definitions

* `Turn`, `afterTurns` — one cycle of many, and the store after some of them.
* `successes` — the cycles of a source that succeeded.
* `Recorded` — a sync state that tells of the cycles that succeeded.

## Main statements

* `Turn.states_after` — what one cycle does to the sync state of a source.
* `recorded_afterTurns` — what any number of cycles do to it, by induction on them.
* `progress_of_turns` — the progress of a source over cycles on a store without sync states.
-/

namespace FeedSync

namespace Cycle

/-! ### Turns -/

/-- One cycle of many on a store: what it is about, what is replied to it, and which failures are
planned for it. -/
structure Turn where
  settings : Settings
  replies : Replies
  plan : FaultPlan

/-- What is known of a cycle that succeeded. -/
structure Success where
  stats : Stats
  /-- The articles whose units of work were committed, in order. -/
  committed : List Article

namespace Turn

/-- The end of a cycle that began with a store. -/
def outcome (turn : Turn) (s : Store) : Except CycleFault Stats × Scene :=
  Cycle.outcome turn.replies turn.settings { s with plan := turn.plan }

/-- The store after a cycle. -/
def after (turn : Turn) (s : Store) : Store := (turn.outcome s).2.store

/-- The success of a cycle, if it is one of the given source and succeeds. -/
def success? (turn : Turn) (sourceId : String) (s : Store) : Option Success :=
  if turn.settings.sourceId = sourceId then
    match (turn.outcome s).1 with
    | .ok stats => some ⟨stats, (turn.outcome s).2.committed⟩
    | .error _ => none
  else none

end Turn

/-- The store after some cycles. -/
def afterTurns (s : Store) (turns : List Turn) : Store := turns.foldl (fun s turn => turn.after s) s

/-- The cycles of a source that succeed, in order. -/
def successes (sourceId : String) : Store → List Turn → List Success
  | _, [] => []
  | s, turn :: turns => (turn.success? sourceId s).toList ++ successes sourceId (turn.after s) turns

/-- How many articles were synced: those that are new or updated. -/
def totalOf : List Success → Nat
  | [] => 0
  | x :: successes => x.stats.new + x.stats.updated + totalOf successes

/-- The number of the article committed last: the last one of the latest success that committed
any, and zero if there is none. -/
def lastOf (successes : List Success) : Int64 :=
  ((successes.reverse.findSome? fun x => x.committed.getLast?).map Article.externalId).getD 0

/-- **A sync state tells of the cycles of its source that succeeded**: there is none before the
first of them. -/
structure Recorded (successes : List Success) (state? : Option SyncState) : Prop where
  absent : state? = none ↔ successes = []
  total : ∀ state ∈ state?, state.totalSynced.toInt = totalOf successes
  last : ∀ state ∈ state?, state.lastArticleId = lastOf successes
  syncedAt : ∀ state ∈ state?, state.lastSyncedAt.isSome = true

variable {s : Store} {sourceId : String} {turn : Turn} {turns : List Turn}

/-! ### One cycle -/

/-- **What one cycle does to the sync state of a source**: it is brought up to date by a success of
that source, and stays as it is otherwise. -/
theorem Turn.states_after (hnamed : ∀ sourceId, (s.stateOf sourceId).sourceId = sourceId)
    (turn : Turn) (sourceId : String) :
    (turn.success? sourceId s = none ∧
      (turn.after s).states.get? sourceId = s.states.get? sourceId) ∨
    ∃ x now state, turn.success? sourceId s = some x ∧
      (turn.after s).states.get? sourceId = some state ∧
      Advanced (s.stateOf sourceId) now (x.stats.new + x.stats.updated)
        (x.committed.getLast?.map Article.externalId) state := by
  rcases states_outcome turn.replies turn.settings { s with plan := turn.plan } with
    ⟨e, hresult, hstates⟩ | ⟨stats, now, state, hresult, hadvanced, hstates⟩
  · refine .inl ⟨?_, congrArg (Table.get? · sourceId) hstates⟩
    rw [success?, outcome, hresult, ite_self]
  · have hsourceId : state.sourceId = turn.settings.sourceId :=
      hadvanced.sourceId.trans (hnamed _)
    have hget : (turn.after s).states.get? sourceId =
        if sourceId = turn.settings.sourceId then some state else s.states.get? sourceId := by
      rw [← hsourceId]
      exact (congrArg (Table.get? · sourceId) hstates).trans (Table.get?_set _ _ _ _)
    rw [hget, success?]
    by_cases hsource : turn.settings.sourceId = sourceId
    · subst hsource
      refine .inr ⟨⟨stats, (turn.outcome s).2.committed⟩, now, state, ?_, if_pos rfl, hadvanced⟩
      rw [if_pos rfl, outcome, hresult]
    · exact .inl ⟨if_neg hsource, if_neg (Ne.symm hsource)⟩

/-- Sync states are kept under the ids of their sources, before a cycle and after it. -/
theorem Turn.sourceId_stateOf_after (hnamed : ∀ sourceId, (s.stateOf sourceId).sourceId = sourceId)
    (turn : Turn) (sourceId : String) : ((turn.after s).stateOf sourceId).sourceId = sourceId := by
  rw [Store.stateOf]
  rcases turn.states_after hnamed sourceId with ⟨-, hget⟩ | ⟨x, now, state, -, hget, hadvanced⟩
  · rw [hget]
    exact hnamed sourceId
  · rw [hget]
    exact hadvanced.sourceId.trans (hnamed sourceId)

/-- The successes of two stretches of cycles count together. -/
theorem totalOf_append (successes successes' : List Success) :
    totalOf (successes ++ successes') = totalOf successes + totalOf successes' := by
  induction successes with
  | nil => exact (Nat.zero_add _).symm
  | cons x successes ih =>
      rw [List.cons_append, totalOf, totalOf, ih]
      exact (Nat.add_assoc _ _ _).symm

/-- What a sync state tells holds of the one that a cycle reads, which is a new one before the first
success. -/
theorem Recorded.stateOf {successes : List Success}
    (h : Recorded successes (s.states.get? sourceId)) :
    (s.stateOf sourceId).totalSynced.toInt = totalOf successes ∧
      (s.stateOf sourceId).lastArticleId = lastOf successes := by
  rw [Store.stateOf]
  cases hstate : s.states.get? sourceId with
  | none =>
      obtain rfl := h.absent.mp hstate
      exact ⟨rfl, rfl⟩
  | some state => exact ⟨h.total state hstate, h.last state hstate⟩

/-- **One more success.** -/
theorem Recorded.advanced {before : List Success} (h : Recorded before (s.states.get? sourceId))
    (x : Success) (hfits : (totalOf (before ++ [x]) : Int) ≤ Int64.maxValue.toInt) {now : Instant}
    {state : SyncState}
    (hadvanced : Advanced (s.stateOf sourceId) now (x.stats.new + x.stats.updated)
      (x.committed.getLast?.map Article.externalId) state) :
    Recorded (before ++ [x]) (some state) := by
  obtain ⟨htotal, hlast⟩ := h.stateOf
  have hsum : totalOf (before ++ [x]) = totalOf before + (x.stats.new + x.stats.updated) :=
    totalOf_append before [x]
  refine ⟨by simp, ?_, ?_, ?_⟩
  · rintro state ⟨⟩
    have hweight : weight (x.stats.new + x.stats.updated) = x.stats.new + x.stats.updated :=
      weight_of_le (by omega)
    rw [hadvanced.totalSynced, hweight, htotal, hsum]
    exact (Int.natCast_add _ _).symm
  · rintro state ⟨⟩
    rw [lastOf, List.reverse_append, List.reverse_singleton, List.singleton_append,
      List.findSome?_cons, hadvanced.lastArticleId]
    cases x.committed.getLast? with
    | none => exact hlast
    | some a => rfl
  · rintro state ⟨⟩
    rw [hadvanced.lastSyncedAt]
    rfl

/-! ### Many cycles -/

theorem afterTurns_append (s : Store) (turns turns' : List Turn) :
    afterTurns s (turns ++ turns') = afterTurns (afterTurns s turns) turns' :=
  List.foldl_append

/-- The successes of cycles in a row. -/
theorem successes_append (sourceId : String) (s : Store) (turns turns' : List Turn) :
    successes sourceId s (turns ++ turns') =
      successes sourceId s turns ++ successes sourceId (afterTurns s turns) turns' := by
  induction turns generalizing s with
  | nil => rfl
  | cons turn turns ih =>
      rw [List.cons_append, successes, successes, ih, List.append_assoc]
      rfl

/-- The successes of some cycles and one more. -/
theorem successes_concat (sourceId : String) (s : Store) (turns : List Turn) (turn : Turn) :
    successes sourceId s (turns ++ [turn]) =
      successes sourceId s turns ++ (turn.success? sourceId (afterTurns s turns)).toList := by
  rw [successes_append, successes, successes, List.append_nil]

/-- More cycles have synced no fewer articles. -/
theorem totalOf_successes_take_le (sourceId : String) (s : Store) (turns : List Turn) (n : Nat) :
    totalOf (successes sourceId s (turns.take n)) ≤ totalOf (successes sourceId s turns) := by
  conv_rhs => rw [← List.take_append_drop n turns]
  rw [successes_append, totalOf_append]
  exact Nat.le_add_right _ _

/-- Sync states are kept under the ids of their sources, whatever cycles run. -/
theorem sourceId_stateOf_afterTurns (hnamed : ∀ sourceId, (s.stateOf sourceId).sourceId = sourceId)
    (turns : List Turn) :
    ∀ sourceId, ((afterTurns s turns).stateOf sourceId).sourceId = sourceId := by
  induction turns generalizing s with
  | nil => exact hnamed
  | cons turn turns ih => exact ih (turn.sourceId_stateOf_after hnamed)

/-- Before the first cycle nothing is recorded. -/
theorem recorded_nil (hempty : s.states = .empty) : Recorded [] (s.states.get? sourceId) := by
  rw [hempty, Table.get?_empty]
  exact ⟨by simp, fun _ h => (nomatch h), fun _ h => (nomatch h), fun _ h => nomatch h⟩

/-- On a store without sync states each source has a new one, under its id. -/
theorem sourceId_stateOf_of_empty (hempty : s.states = .empty) (sourceId : String) :
    (s.stateOf sourceId).sourceId = sourceId := by
  rw [Store.stateOf, hempty]
  rfl

/-- **What cycles record about a source**, on a store that had no sync states before. -/
theorem recorded_afterTurns (hempty : s.states = .empty) (turns : List Turn)
    (hfits : (totalOf (successes sourceId s turns) : Int) ≤ Int64.maxValue.toInt) :
    Recorded (successes sourceId s turns) ((afterTurns s turns).states.get? sourceId) := by
  induction turns using List.reverseRecOn with
  | nil => exact recorded_nil hempty
  | append_singleton turns turn ih =>
      have hnamed := sourceId_stateOf_afterTurns (sourceId_stateOf_of_empty hempty) turns
      have hle := totalOf_successes_take_le sourceId s (turns ++ [turn]) turns.length
      rw [List.take_left] at hle
      have hrecorded := ih (by omega)
      rw [successes_concat] at hfits ⊢
      rw [afterTurns_append]
      change Recorded _ ((turn.after (afterTurns s turns)).states.get? sourceId)
      rcases turn.states_after hnamed sourceId with
        ⟨hnone, hget⟩ | ⟨x, now, state, hsome, hget, hadvanced⟩
      · rw [hnone, hget, Option.toList_none, List.append_nil]
        exact hrecorded
      · rw [hsome] at hfits ⊢
        rw [hget]
        exact hrecorded.advanced x hfits hadvanced

/-- **The progress of a source over any cycles** on a store that had no sync states before, whatever
sources they are of, lists they fetch, failures they meet and ends they come to: the sync state
tells of the cycles of the source that succeeded, its total never decreases, and no cycle of another
source changes it. (Only the totals have to fit into the counter.) -/
theorem progress_of_turns (hempty : s.states = .empty) (turns : List Turn)
    (hfits : (totalOf (successes sourceId s turns) : Int) ≤ Int64.maxValue.toInt) :
    Recorded (successes sourceId s turns) ((afterTurns s turns).states.get? sourceId) ∧
    (∀ n, ((afterTurns s (turns.take n)).stateOf sourceId).totalSynced ≤
      ((afterTurns s turns).stateOf sourceId).totalSynced) ∧
    ∀ before turn after, turns = before ++ turn :: after → turn.settings.sourceId ≠ sourceId →
      (afterTurns s (before ++ [turn])).states.get? sourceId =
        (afterTurns s before).states.get? sourceId := by
  have hrecorded := recorded_afterTurns hempty turns hfits
  refine ⟨hrecorded, fun n => ?_, fun before turn after _ hother => ?_⟩
  · have hle := totalOf_successes_take_le sourceId s turns n
    have htaken := recorded_afterTurns hempty (turns.take n)
      (Int.le_trans (Int.ofNat_le.mpr hle) hfits)
    rw [Int64.le_iff_toInt_le, htaken.stateOf.1, hrecorded.stateOf.1]
    exact Int.ofNat_le.mpr hle
  · have hnamed := sourceId_stateOf_afterTurns (sourceId_stateOf_of_empty hempty) before
    rw [afterTurns_append]
    rcases turn.states_after hnamed sourceId with ⟨-, hget⟩ | ⟨x, now, state, hsome, -, -⟩
    · exact hget
    · rw [Turn.success?, if_neg hother] at hsome
      nomatch hsome

/-- A first cycle saves one of two articles and cannot publish it; a second one saves the other, but
not the sync state; a third one is of another source. What is recorded is the first one alone. -/
theorem progress_after_lost_state :
    let a := Article.bare 1 .sooner []
    let b := Article.bare 2 .sooner []
    let w := { Replies.listing [a, b] with publish _ _ _ := .error (.backend "") }
    let turns : List Turn := [
      ⟨.daily, w, { upserts := [2] }⟩,
      ⟨.daily, w, { states := true }⟩,
      ⟨{ Settings.daily with sourceId := "fed" }, .listing [], {}⟩]
    ∃ state, (afterTurns {} turns).states.get? "ecb" = some state ∧
      state.totalSynced.toInt = 1 ∧ state.lastArticleId = 1 := by
  intro a b w turns
  have htotal : totalOf (successes "ecb" {} turns) = 1 := by decide +kernel
  have hlast : lastOf (successes "ecb" {} turns) = 1 := by decide +kernel
  obtain ⟨hrecorded, -, -⟩ := progress_of_turns (rfl : Store.states {} = .empty) turns
    (by rw [htotal]; decide)
  cases hstate : (afterTurns {} turns).states.get? "ecb" with
  | none =>
      rw [hrecorded.absent.mp hstate] at htotal
      exact absurd htotal (by decide)
  | some state =>
      exact ⟨state, rfl, (hrecorded.total state hstate).trans (congrArg _ htotal),
        (hrecorded.last state hstate).trans hlast⟩

end Cycle

end FeedSync
