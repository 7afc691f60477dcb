import FeedSync.Proofs.Cycle.Advance
import FeedSync.Proofs.Cycle.Merge

/-!
# Running a cycle twice

After a cycle in which every save succeeded, the store holds every article inside the window in a
version that is as late. A later cycle over the same list looks at a window that is no larger, so it
finds no news: it selects nothing, saves nothing, publishes nothing, and only notes when it ended.

## Main statements

* `selection_eq_nil_of_saved` — the second cycle selects nothing.
* `keeps_idle_cycle` — what a cycle does that selects nothing.
* `second_cycle_finds_nothing` — the two together.
-/

namespace FeedSync

/-- Whether a call takes part in saving or publishing an article. -/
def Call.saves : Call Transaction → Bool
  | .begin => true
  | .upsert _ _ => true
  | .upsertTags _ _ => true
  | .link _ _ _ => true
  | .commit _ => true
  | .rollback _ => true
  | .external (.publish _ _) => true
  | _ => false

/-- The store without any planned failure. -/
def Store.cleared (s : Store) : Store := { s with plan := {} }

namespace Cycle

variable {w w' : Replies} {settings : Settings} {s : Store} {sc : Scene}

/-! ### A cycle that selects nothing -/

/-- A scene with a store, in which nothing was saved or published, nor was it tried, and the clock
was read so many times. -/
structure Idle (s : Store) (n : Nat) (sc : Scene) : Prop where
  store : sc.store = s
  readings : sc.readings = n
  calls : ∀ c ∈ sc.calls, c.saves = false

/-- The rule for a call that saves and publishes nothing. -/
theorem keeps_idle_call {α : Type} {c : Call Transaction} {f : c.Reply → Calls Transaction α}
    {post : α → Scene → Prop} {s' : Store} {reply : c.Reply} {n : Nat} (hsc : Idle s n sc)
    (hc : c.saves = false) (hanswer : s.answer (w.external sc.calls) c = (reply, s'))
    (h : ∀ sc', Idle s' (n + if c.isReading then 1 else 0) sc' →
      Keeps w (fun _ => True) (f reply) post sc') :
    Keeps w (fun _ => True) (call c >>= f) post sc := by
  refine .call trivial ?_
  rw [hsc.store, hanswer]
  refine h _ ⟨rfl, ?_, fun c' hc' => ?_⟩
  · rw [← hsc.readings]
    exact Scene.readings_called sc _ _
  · rcases List.mem_append.mp hc' with hc' | hc'
    · exact hsc.calls c' hc'
    · rw [List.mem_singleton.mp hc']
      exact hc

/-- **What a cycle leaves behind that found nothing to do**, on a store with so many articles inside
the window. -/
structure FoundNothing (settings : Settings) (s : Store) (n : Nat)
    (result : Except CycleFault Stats) (sc : Scene) : Prop where
  /-- All articles were skipped; nothing is new, updated, published or an error. -/
  result : ∃ elapsed,
    result = .ok { sourceId := settings.sourceId, fetched := n, skipped := n, elapsed }
  calls : ∀ c ∈ sc.calls, c.saves = false
  content : sc.store.content = s.content
  lastId : sc.store.lastId = s.lastId
  /-- The sync state of the source changed in the time of the last sync, all others stayed. -/
  states : ∃ now, ∀ sourceId, sc.store.states.get? sourceId =
    if sourceId = settings.sourceId then
      some { s.stateOf sourceId with lastSyncedAt := some now }
    else s.states.get? sourceId

/-- The end of a cycle that has stored nothing notes when it ended. -/
theorem keeps_idle_updateState {n : Nat} {progress : Progress} (hsc : Idle s n sc)
    (hsynced : progress.stats.synced = 0) (hlast : progress.lastStored = none) :
    Keeps w (fun _ => True) (updateState settings progress) (fun reply sc' => ∃ now m,
      let state := { s.stateOf settings.sourceId with lastSyncedAt := some now }
      reply = some (Store.writeState state s).1 ∧ Idle (Store.writeState state s).2 m sc') sc := by
  rw [updateState, hsynced, hlast]
  refine keeps_idle_call hsc rfl rfl fun sc₁ hsc₁ => ?_
  refine keeps_idle_call hsc₁ rfl rfl fun sc₂ hsc₂ => ?_
  simp only [advance?_zero]
  exact keeps_idle_call hsc₂ rfl rfl fun sc₃ hsc₃ => .pure trivial ⟨_, _, rfl, hsc₃⟩

/-- A cycle that selects nothing reads, and writes the sync state of its source. -/
theorem keeps_idle_store {started n : Nat} {articles : List Article} (hsc : Idle s n sc)
    (hundisturbed : s.Undisturbed) (hbatch : s.plan.refuses (s.counts.queries + 1) = false)
    (hstates : s.plan.states = false)
    (hsourceId : (s.stateOf settings.sourceId).sourceId = settings.sourceId)
    (hnone : selectForSync articles (s.lastModified? settings.sourceId) = []) :
    Keeps w (fun _ => True) (Cycle.store settings started articles)
      (FoundNothing settings s articles.length) sc := by
  have hsel : selectForSync articles (s.heldOf settings.sourceId
      (articles.map Article.externalId)).get? = [] := by
    rw [← hnone]
    refine selectForSync_congr fun a ha => ?_
    rw [Store.get?_heldOf, if_pos (List.mem_map_of_mem ha)]
  have hheld := Store.held_of_undisturbed hundisturbed settings.sourceId
    (articles.map Article.externalId)
  rw [hbatch, if_neg Bool.false_ne_true] at hheld
  rw [Cycle.store]
  refine keeps_idle_call hsc rfl hheld fun sc₁ hsc₁ => ?_
  simp only
  rw [hsel]
  refine keeps_idle_call hsc₁ rfl rfl fun sc₂ hsc₂ => ?_
  rw [handleAll, pure_bind, conclude]
  refine .bind (keeps_idle_updateState hsc₂ rfl rfl) ?_
  rintro updated sc₃ ⟨now, m, rfl, hsc₃⟩
  have hplan : s.asked.plan.states = false := hstates
  rw [Store.writeState, hplan, if_neg Bool.false_ne_true] at hsc₃ ⊢
  refine keeps_idle_call hsc₃ rfl rfl fun sc₄ hsc₄ => ?_
  refine keeps_idle_call hsc₄ rfl rfl fun sc₅ hsc₅ => ?_
  refine .pure trivial ⟨⟨_, rfl⟩, hsc₅.calls, ?_, ?_, now, fun sourceId => ?_⟩
  · rw [hsc₅.store]
    rfl
  · rw [hsc₅.store]
    rfl
  · rw [hsc₅.store]
    change (s.states.set (s.stateOf settings.sourceId).sourceId _).get? sourceId = _
    rw [Table.get?_set, hsourceId]
    split
    · next heq =>
        rw [heq]
        rfl
    · rfl

/-- **A whole cycle that selects nothing.** -/
theorem keeps_idle_cycle {fetched : List Article} (hfetch : w.fetch settings.maxPages = .ok fetched)
    (hundisturbed : s.Undisturbed) (hbatch : s.plan.refuses (s.counts.queries + 1) = false)
    (hstates : s.plan.states = false)
    (hsourceId : (s.stateOf settings.sourceId).sourceId = settings.sourceId)
    (hnone : selection w settings s = []) :
    Keeps w (fun _ => True) (cycle settings) (FoundNothing settings s (window w settings).length)
      (Scene.start s) := by
  have hstart : Idle s 0 (Scene.start s) := ⟨rfl, rfl, fun c hc => nomatch hc⟩
  rw [selection_of_undisturbed hundisturbed, hbatch, if_neg Bool.false_ne_true, window,
    hfetch] at hnone
  rw [cycle, window, hfetch]
  refine keeps_idle_call hstart rfl rfl fun sc₁ hsc₁ => ?_
  refine keeps_idle_call hsc₁ rfl rfl fun sc₂ hsc₂ => ?_
  refine keeps_idle_call hsc₂ rfl (Prod.ext hfetch rfl) fun sc₃ hsc₃ => ?_
  have hclock : s.answer (w.external sc₃.calls) (.external .now) = (w.clock 0, s) :=
    Prod.ext (congrArg w.clock hsc₃.readings) rfl
  refine keeps_idle_call hsc₃ rfl hclock fun sc₄ hsc₄ => ?_
  refine keeps_idle_call hsc₄ rfl rfl fun sc₅ hsc₅ => ?_
  refine keeps_idle_call hsc₅ rfl rfl fun sc₆ hsc₆ => ?_
  exact keeps_idle_store hsc₆ hundisturbed hbatch hstates hsourceId hnone

/-! ### Twice the same list -/

/-- What the store holds after a cycle in which every save succeeded: every article inside the
window, in a version that is as late. -/
theorem exists_row_of_mem_window {fetched : List Article} {a : Article}
    (hundisturbed : s.Undisturbed) (hfetch : w.fetch settings.maxPages = .ok fetched)
    (hsource : ∀ a ∈ fetched, a.sourceId = settings.sourceId)
    (hbatch : s.plan.refuses (s.counts.queries + 1) = false)
    (hsaved : ∀ c ∈ selection w settings s, c ∈ s.asked.saved (selection w settings s))
    (ha : a ∈ window w settings) :
    ∃ row, (s.asked.settleAll (selection w settings s)).row? a.key = some row ∧
      a.lastModified ≤ row.article.lastModified := by
  have hwindow := forall_window_sourceId hfetch hsource
  obtain ⟨c, hlatest, hid⟩ := exists_isLatest ha
  have hkey : a.key = c.key :=
    Prod.ext ((hwindow a ha).trans (hwindow c hlatest.mem).symm) hid.symm
  have hle := hlatest.le ha hid.symm
  rw [hkey]
  by_cases hnews : ∀ row, s.row? c.key = some row → row.article.lastModified < c.lastModified
  · have hmem := (mem_selection hundisturbed hwindow hbatch).mpr ⟨hlatest, hnews⟩
    obtain ⟨row, hrow, hle'⟩ := Store.exists_row_of_mem_saved (hsaved c hmem)
    exact ⟨row, hrow, le_trans hle hle'⟩
  · push Not at hnews
    obtain ⟨row, hrow, hle'⟩ := hnews
    obtain ⟨row', hrow', -, hle''⟩ := Store.Kept.settleAll s.asked (selection w settings s) c.key
      row hrow
    exact ⟨row', hrow', le_trans hle (le_trans hle' hle'')⟩

/-- **The second cycle selects nothing**, if every save of the first one succeeded, the list is the
same and the clock was not set back. -/
theorem selection_eq_nil_of_saved {fetched : List Article} {s' : Store}
    (hundisturbed : s.Undisturbed) (hundisturbed' : s'.Undisturbed)
    (hfetch : w.fetch settings.maxPages = .ok fetched)
    (hfetch' : w'.fetch settings.maxPages = .ok fetched) (hclock : w.clock 0 ≤ w'.clock 0)
    (hsource : ∀ a ∈ fetched, a.sourceId = settings.sourceId)
    (hbatch : s.plan.refuses (s.counts.queries + 1) = false)
    (hsaved : ∀ c ∈ selection w settings s, c ∈ s.asked.saved (selection w settings s))
    (hcontent : s'.content = (s.asked.settleAll (selection w settings s)).content) :
    selection w' settings s' = [] := by
  have hwindow : window w' settings ⊆ window w settings := by
    rw [window, window, hfetch, hfetch']
    exact insideWindow_subset (historyCutoff_mono hclock (w.regular 0) _) fetched
  rw [selection_of_undisturbed hundisturbed']
  split
  · rfl
  · refine selectForSync_eq_nil fun a ha => ?_
    obtain ⟨row, hrow, hle⟩ :=
      exists_row_of_mem_window hundisturbed hfetch hsource hbatch hsaved (hwindow ha)
    have hkey : a.key = (settings.sourceId, a.externalId) :=
      congrArg (·, a.externalId) (hsource a (mem_fetched_of_mem_window hfetch' ha))
    rw [← Store.row?_of_content hcontent, hkey] at hrow
    rw [isNews, Store.lastModified?, hrow]
    exact decide_eq_false (not_lt_of_ge hle)

/-- After a cycle the sync state of its source is kept under its own id, whether it was written or
not. -/
theorem sourceId_stateOf_outcome {fetched : List Article} (hreachable : s.Reachable)
    (hundisturbed : s.Undisturbed) (hfetch : w.fetch settings.maxPages = .ok fetched)
    (hbatch : s.plan.refuses (s.counts.queries + 1) = false) :
    ((outcome w settings s).2.store.stateOf settings.sourceId).sourceId = settings.sourceId := by
  obtain ⟨opened, hreachable⟩ := hreachable
  obtain ⟨⟨now, synced, lastStored, hstore⟩, -⟩ := outcome_of_fetched hundisturbed hfetch hbatch
  rw [hstore]
  refine Store.sourceId_stateOf_writeState? ?_ _
  rw [Store.stateOf, Store.states_settleAll]
  exact hreachable.sound.sourceId_stateOf settings.sourceId

/-- **Running a cycle twice is running it once.** If the first cycle fetches its list, has its batch
query answered and saves all that it selects, then a second one over the same list, when the clock
was not set back and no failure is planned, finds nothing to do. -/
theorem second_cycle_finds_nothing {fetched : List Article} (hreachable : s.Reachable)
    (hundisturbed : s.Undisturbed) (hfetch : w.fetch settings.maxPages = .ok fetched)
    (hfetch' : w'.fetch settings.maxPages = .ok fetched) (hclock : w.clock 0 ≤ w'.clock 0)
    (hsource : ∀ a ∈ fetched, a.sourceId = settings.sourceId)
    (hbatch : s.plan.refuses (s.counts.queries + 1) = false)
    (hsaved : ∀ c ∈ selection w settings s, c ∈ (outcome w settings s).2.committed) :
    let s₁ := (outcome w settings s).2.store.cleared
    FoundNothing settings s₁ (window w' settings).length (outcome w' settings s₁).1
      (outcome w' settings s₁).2 := by
  obtain ⟨⟨now, synced, lastStored, hstore⟩, hcommitted⟩ :=
    outcome_of_fetched hundisturbed hfetch hbatch
  have hcontent : (outcome w settings s).2.store.cleared.content =
      (s.asked.settleAll (selection w settings s)).content := by
    rw [hstore, Store.writeState?_eq]
    rfl
  have hcleared : (outcome w settings s).2.store.cleared.Undisturbed := fun _ h =>
    absurd h List.not_mem_nil
  have hnone := selection_eq_nil_of_saved hundisturbed hcleared hfetch hfetch' hclock hsource
    hbatch (fun c hc => hcommitted ▸ hsaved c hc) hcontent
  have hsourceId : ((outcome w settings s).2.store.cleared.stateOf settings.sourceId).sourceId =
      settings.sourceId := sourceId_stateOf_outcome hreachable hundisturbed hfetch hbatch
  exact (keeps_idle_cycle hfetch' hcleared rfl rfl hsourceId hnone).run fun _ => trivial

/-- A list with an old version, a new one and its repetition, synced twice over a store with an
older version still: the second cycle skips all three. -/
theorem second_cycle_skips_duplicates :
    let s := (Store.insert (.bare 1 .epoch []) {}).2
    let b := Article.bare 1 .sooner []
    let c := Article.bare 1 .later [⟨7, "rates"⟩]
    let w := Replies.listing [b, c, c]
    FoundNothing .daily (outcome w .daily s).2.store.cleared 3
      (outcome w .daily (outcome w .daily s).2.store.cleared).1
      (outcome w .daily (outcome w .daily s).2.store.cleared).2 := by
  intro s b c w
  have hreachable : s.Reachable :=
    ⟨_, .move (.insert (.bare 1 .epoch [])) (.start {}) (by decide)⟩
  have hsaved : ∀ a ∈ selection w .daily s, a ∈ (outcome w .daily s).2.committed := by
    decide +kernel
  have hwindow : window w .daily = [b, c, c] := rfl
  have hnothing := second_cycle_finds_nothing hreachable (by decide) rfl (rfl : w.fetch 1 = _)
    (by decide : w.clock 0 ≤ w.clock 0) (by decide) (by decide) hsaved
  rw [hwindow] at hnothing
  exact hnothing

end Cycle

end FeedSync
