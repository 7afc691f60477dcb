import FeedSync.Proofs.Cycle.Alone

/-!
# What a cycle stores

A cycle without other writers **merges** what the source delivers into the store: of each article
the latest version inside the window, if it is strictly later than the stored one and its save does
not fail. This module says so without mentioning the phases of the cycle.

## Main statements

* `rows_after_cycle` — the rows after a cycle are the merge of those before it with the window.
-/

namespace FeedSync

namespace Cycle

/-- The number of the existence query with which a cycle begins to save a selected article. -/
def queryOf (w : Replies) (settings : Settings) (s : Store) (c : Article) : Nat :=
  s.counts.queries + 2 + (selection w settings s).idxOf c

/-- **An article that a cycle merges into the store**: the latest version of its number inside the
window, strictly later than the stored one if there is one, whose save is not planned to fail. -/
structure Merged (w : Replies) (settings : Settings) (s : Store) (c : Article) : Prop where
  latest : IsLatest (window w settings) c
  news : ∀ row, s.row? c.key = some row → row.article.lastModified < c.lastModified
  spared : s.plan.spares (queryOf w settings s c) c = true

variable {w : Replies} {settings : Settings} {s : Store} {c : Article} {key : Article.Key}

/-- The window holds articles of the list that was fetched. -/
theorem mem_fetched_of_mem_window {fetched : List Article} {a : Article}
    (hfetch : w.fetch settings.maxPages = .ok fetched) (ha : a ∈ window w settings) :
    a ∈ fetched := by
  rw [window, hfetch] at ha
  exact (List.mem_filter.mp ha).1

/-- The articles inside the window are of the source that the list that was fetched is of. -/
theorem forall_window_sourceId {fetched : List Article}
    (hfetch : w.fetch settings.maxPages = .ok fetched)
    (hsource : ∀ a ∈ fetched, a.sourceId = settings.sourceId) :
    ∀ a ∈ window w settings, a.sourceId = settings.sourceId := fun a ha =>
  hsource a (mem_fetched_of_mem_window hfetch ha)

/-- What is selected is inside the window. -/
theorem mem_window_of_mem_selection {a : Article} (ha : a ∈ selection w settings s) :
    a ∈ window w settings := by
  rw [selection] at ha
  split at ha
  · exact absurd ha List.not_mem_nil
  · exact (mem_selectForSync.mp ha).1.mem

/-- What is selected, if the batch query is answered: the latest versions that are news. -/
theorem mem_selection (hundisturbed : s.Undisturbed)
    (hsource : ∀ a ∈ window w settings, a.sourceId = settings.sourceId)
    (hbatch : s.plan.refuses (s.counts.queries + 1) = false) :
    c ∈ selection w settings s ↔ IsLatest (window w settings) c ∧
      ∀ row, s.row? c.key = some row → row.article.lastModified < c.lastModified := by
  rw [selection_of_undisturbed hundisturbed, hbatch, if_neg Bool.false_ne_true, mem_selectForSync]
  refine and_congr_right fun hlatest => ?_
  rw [isNews_iff, Store.lastModified?, ← hsource c hlatest.mem]
  change (∀ t, (s.row? c.key).map _ = some t → _) ↔ _
  cases s.row? c.key with
  | none => simp
  | some row => simp

/-- The keys of selected articles are distinct. -/
theorem nodup_key_selection (w : Replies) (settings : Settings) (s : Store) :
    ((selection w settings s).map Article.key).Nodup := by
  refine List.Nodup.of_map Prod.snd ?_
  rw [List.map_map]
  change ((selection w settings s).map Article.externalId).Nodup
  rw [selection]
  split
  · exact List.nodup_nil
  · exact nodup_selectForSync _ _

/-- Where a selected article stands: no other one has its key, and its place tells the number of the
existence query with which its save begins. -/
theorem exists_split_selection (hc : c ∈ selection w settings s) :
    ∃ before after, selection w settings s = before ++ c :: after ∧
      (∀ b ∈ before, c.key ≠ b.key) ∧ (∀ b ∈ after, c.key ≠ b.key) ∧
      queryOf w settings s c = s.asked.counts.queries + before.length + 1 := by
  have hnodup := nodup_key_selection w settings s
  obtain ⟨before, after, hsplit⟩ := List.append_of_mem hc
  rw [hsplit, List.map_append, List.map_cons, List.nodup_append] at hnodup
  obtain ⟨-, hlast, hfirst⟩ := hnodup
  have hbefore : ∀ b ∈ before, c.key ≠ b.key := fun b hb =>
    (hfirst b.key (List.mem_map_of_mem hb) c.key List.mem_cons_self).symm
  have hafter : ∀ b ∈ after, c.key ≠ b.key := fun b hb hkey =>
    (List.nodup_cons.mp hlast).1 (hkey ▸ List.mem_map_of_mem hb)
  refine ⟨before, after, hsplit, hbefore, hafter, ?_⟩
  rw [queryOf, hsplit, List.idxOf_append, if_neg fun hmem => hbefore c hmem rfl,
    List.idxOf_cons_self]
  change _ = s.counts.queries + 1 + before.length + 1
  omega

/-- What the saves of all selected articles do to the row of one of them: if its own save does not
fail, its version is written, under the internal id that the row had if there was one. -/
theorem row?_settleAll_selection (hc : c ∈ selection w settings s) :
    ∃ id, (∀ row, s.row? c.key = some row → id = row.id) ∧
      (s.asked.settleAll (selection w settings s)).row? c.key =
        if s.plan.spares (queryOf w settings s c) c then
          some (StoredArticle.winner (s.row? c.key) id c)
        else s.row? c.key := by
  obtain ⟨before, after, hsplit, hbefore, hafter, hquery⟩ := exists_split_selection hc
  refine ⟨(s.asked.settleAll before).idOf c.key, fun row hr =>
    Store.idOf_of_row ((Store.row?_settleAll_of_forall_ne hbefore).trans hr), ?_⟩
  rw [hsplit, Store.row?_settleAll_of_mem hbefore hafter, hquery]
  rfl

/-- **A cycle leaves a sound store sound**, with room for the internal ids that its saves did not
need. -/
theorem sound_outcome {pending : Write → Prop} {fetched : List Article} {n : Nat}
    (hundisturbed : s.Undisturbed) (hfetch : w.fetch settings.maxPages = .ok fetched)
    (hbatch : s.plan.refuses (s.counts.queries + 1) = false) (hsound : s.Sound pending)
    (hroom : s.HasRoom ((selection w settings s).length + n)) :
    (outcome w settings s).2.store.Sound pending ∧ (outcome w settings s).2.store.HasRoom n := by
  obtain ⟨⟨now, synced, lastStored, hstore⟩, -⟩ := outcome_of_fetched hundisturbed hfetch hbatch
  have hroom' : s.asked.HasRoom ((selection w settings s).length + n) := hroom
  have hsettled := hsound.asked.settleAll (hroom'.mono (Nat.le_add_right _ _))
  rw [hstore]
  refine ⟨hsettled.writeState? _, ?_⟩
  rw [Store.writeState?_eq]
  exact hroom'.settleAll

/-- **What a cycle stores.** Whatever list is fetched, whatever failures are planned besides that of
the batch query and whatever the publisher replies: each merged article is stored, under the
internal id that its key had or under one that no other row has, and every other row is as it was.
(Only the last of these needs the counter of internal ids not to overflow.) -/
theorem rows_after_cycle {fetched : List Article} (hreachable : s.Reachable)
    (hundisturbed : s.Undisturbed) (hfetch : w.fetch settings.maxPages = .ok fetched)
    (hsource : ∀ a ∈ fetched, a.sourceId = settings.sourceId)
    (hbatch : s.plan.refuses (s.counts.queries + 1) = false) :
    let s' := (outcome w settings s).2.store
    (∀ c, Merged w settings s c → ∃ id, s'.row? c.key = some ⟨id, c⟩ ∧
      (∀ row, s.row? c.key = some row → id = row.id) ∧
      (s.HasRoom (selection w settings s).length →
        ∀ key row, key ≠ c.key → s'.row? key = some row → row.id ≠ id)) ∧
    ∀ key, (∀ c, Merged w settings s c → key ≠ c.key) → s'.row? key = s.row? key := by
  obtain ⟨⟨now, synced, lastStored, hstore⟩, -⟩ := outcome_of_fetched hundisturbed hfetch hbatch
  intro s'
  have hrow : ∀ key, s'.row? key = (s.asked.settleAll (selection w settings s)).row? key := by
    intro key
    simp only [s']
    rw [hstore, Store.writeState?_eq]
    rfl
  have hwindow : ∀ a ∈ window w settings, a.sourceId = settings.sourceId := fun a ha =>
    hsource a (mem_fetched_of_mem_window hfetch ha)
  refine ⟨fun c hc => ?_, fun key hkey => ?_⟩
  · have hmem := (mem_selection hundisturbed hwindow hbatch).mpr ⟨hc.latest, hc.news⟩
    obtain ⟨id, hid, hc'⟩ := row?_settleAll_selection hmem
    rw [if_pos hc.spared, StoredArticle.winner_of_news hid hc.news, ← hrow] at hc'
    refine ⟨id, hc', hid, fun hroom key row hne hr heq => hne ?_⟩
    obtain ⟨opened, hreachable⟩ := hreachable
    have hsound := (sound_outcome (n := 0) hundisturbed hfetch hbatch hreachable.sound hroom).1
    exact hsound.owner id key c.key (.inl ⟨row, hr, heq⟩) (.inl ⟨_, hc', rfl⟩)
  · by_cases hmem : ∃ c ∈ selection w settings s, key = c.key
    · obtain ⟨c, hc, rfl⟩ := hmem
      have hspared : ¬ s.plan.spares (queryOf w settings s c) c = true := fun h =>
        have ⟨hlatest, hnews⟩ := (mem_selection hundisturbed hwindow hbatch).mp hc
        hkey c ⟨hlatest, hnews, h⟩ rfl
      obtain ⟨id, -, hc'⟩ := row?_settleAll_selection hc
      rw [hrow, hc', if_neg hspared]
    · push Not at hmem
      rw [hrow, Store.row?_settleAll_of_forall_ne hmem]
      rfl

/-- Of two later versions of a stored article the second one is the latest; it is stored under the
internal id that the article has. -/
theorem row_after_cycle_of_later_version :
    let s := (Store.insert (.bare 1 .epoch []) {}).2
    let b := Article.bare 1 .sooner []
    let c := Article.bare 1 .later [⟨7, "rates"⟩]
    let w := Replies.listing [b, c]
    (outcome w .daily s).2.store.row? c.key = some ⟨1, c⟩ := by
  intro s b c w
  have hreachable : s.Reachable :=
    ⟨_, .move (.insert (.bare 1 .epoch [])) (.start {}) (by decide)⟩
  have hmerged : Merged w .daily s c := by
    refine ⟨⟨[b], [], rfl, by decide, by decide⟩, fun row hr => ?_, by decide⟩
    obtain rfl : _ = row := Option.some.inj hr
    decide
  obtain ⟨id, hrow, hid, -⟩ := (rows_after_cycle hreachable (by decide) rfl (by decide)
    (by decide)).1 c hmerged
  rw [hrow, hid _ rfl]
  rfl

end Cycle

end FeedSync
