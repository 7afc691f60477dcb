import FeedSync.Proofs.Store.Ids

/-!
# The links of a key

The links of an article hang on its internal id, not on its key. A save disturbs the links of no
other key as long as no two keys share an id, which is soundness. But a writer may have linked
**ahead**, under an id that was not given out yet, and an article that is stored for the first time
and has no tags takes over what is linked under the id that it gets. No save links ahead, so no save
makes an article one that may take over links.

## Main definitions

* `Store.linksOf` — the links of a key.
* `Store.MayTakeOver` — an article that may take over links.

## Main statements

* `MayTakeOver.of_settleAll` — the saves of any articles link nothing ahead.
* `linksOf_settle_of_ne`, `linksOf_settle` — what a save does to the links of each key.
* `linksOf_settleAll_of_forall_ne` — the links of a key of which no article is saved stay.
* `linksOf_settleAll_of_mem` — the links of an article depend on its own save only.
-/

namespace FeedSync

namespace Store

/-- The ids of the tags that the row of a key is linked to, if it ever was. -/
def linksOf (s : Store) (key : Article.Key) : Option (List Int64) :=
  (s.row? key).bind fun row => s.links.get? row.id

/-- **An article that may take over links** when it is saved: it has no tags to be linked to, its
key has no row, and something is linked ahead, that is under an internal id that was not given out
yet. -/
structure MayTakeOver (s : Store) (a : Article) : Prop where
  untagged : a.tags = []
  missing : s.row? a.key = none
  ahead : ∃ id, s.lastId < id ∧ s.links.get? id ≠ none

variable {s s' : Store} {pending : Write → Prop} {a b : Article} {k : Article.Key}

/-- The links of a key depend on nothing but the content. -/
theorem linksOf_of_content (h : s.content = s'.content) (k : Article.Key) :
    s.linksOf k = s'.linksOf k := by
  have hlinks : s.links = s'.links := congrArg Content.links h
  rw [linksOf, linksOf, row?_of_content h, hlinks]

/-- What a save does to the links under each internal id. -/
theorem get?_links_settle {id : Int64} : (s.settle a).links.get? id =
    if id = s.idOf a.key ∧ s.spares a = true ∧ a.tags ≠ [] then some (Tag.distinctIds a.tagIds)
    else s.links.get? id := by
  have hlinks : (s.settle a).links = _ := congrArg Content.links (content_settle s a)
  rw [hlinks]
  cases s.spares a with
  | false => exact (if_neg fun h => Bool.false_ne_true h.2.1).symm
  | true =>
      simp only [true_and]
      exact links_commit_writes

/-- An article is saved under the internal id that it gets. -/
theorem id_winner_idOf (s : Store) (a : Article) :
    (StoredArticle.winner (s.row? a.key) (s.idOf a.key) a).id = s.idOf a.key :=
  StoredArticle.id_winner fun _ hrow => idOf_of_row hrow

/-! ### Linking ahead -/

/-- Whether an article may take over links is told by the content and the counter of internal
ids. -/
theorem MayTakeOver.of_content (h : s'.MayTakeOver a) (hcontent : s'.content = s.content)
    (hlast : s.lastId ≤ s'.lastId) : s.MayTakeOver a where
  untagged := h.untagged
  missing := (row?_of_content hcontent _).symm.trans h.missing
  ahead := by
    have hlinks : s'.links = s.links := congrArg Content.links hcontent
    obtain ⟨id, hid, hahead⟩ := h.ahead
    exact ⟨id, Int64.lt_of_le_of_lt hlast hid, hlinks ▸ hahead⟩

/-- **No save links anything ahead**: after it no article may take over links that could not
before. -/
theorem MayTakeOver.of_settle (h : (s.settle b).MayTakeOver a) (hsound : s.Sound pending)
    (hroom : s.HasRoom 1) : s.MayTakeOver a where
  untagged := h.untagged
  missing := by
    cases hrow : s.row? a.key with
    | none => rfl
    | some row =>
        obtain ⟨row', hrow', -⟩ := Kept.settle s b a.key row hrow
        nomatch h.missing.symm.trans hrow'
  ahead := by
    obtain ⟨id, hid, hahead⟩ := h.ahead
    refine ⟨id, Int64.lt_of_le_of_lt (hroom.lastId_settle b).1 hid, ?_⟩
    rw [get?_links_settle, if_neg] at hahead
    · exact hahead
    · rintro ⟨rfl, hs, -⟩
      -- what the save links under was given out
      have hrow : (s.settle b).row? b.key = some _ := row?_settle.trans (if_pos ⟨rfl, hs⟩)
      have hgiven := (hsound.settle (a := b) hroom).issued _ _ (.inl ⟨_, hrow, id_winner_idOf s b⟩)
      exact Int64.not_le.mpr hid hgiven

/-- **The saves of any articles link nothing ahead.** -/
theorem MayTakeOver.of_settleAll {articles : List Article}
    (h : (s.settleAll articles).MayTakeOver a) (hsound : s.Sound pending)
    (hroom : s.HasRoom articles.length) : s.MayTakeOver a := by
  induction articles generalizing s with
  | nil => exact h
  | cons b rest ih =>
      obtain ⟨hone, hrest⟩ := hroom.settle b
      exact (ih h (hsound.settle hone) hrest).of_settle hsound hone

/-- The internal id that an article gets is the next one, if its key has no row. -/
theorem idOf_of_none (h : s.row? k = none) : s.idOf k = s.lastId + 1 := by
  rw [idOf, h]
  rfl

/-- **An article without tags gets an internal id with the links of its key**, unless it may take
over others. -/
theorem get?_links_idOf (h : ¬ s.MayTakeOver a) (htags : a.tags = []) (hroom : s.HasRoom 1) :
    s.links.get? (s.idOf a.key) = s.linksOf a.key := by
  rw [linksOf]
  cases hrow : s.row? a.key with
  | some row =>
      rw [idOf_of_row hrow]
      rfl
  | none =>
      have hnext : s.lastId < s.idOf a.key := by
        rw [idOf_of_none hrow, Int64.lt_iff_toInt_lt, hroom.toInt_succ]
        omega
      by_contra hahead
      exact h ⟨htags, hrow, _, hnext, hahead⟩

/-! ### Saves -/

/-- Where links are set only under the internal id of a key, a row of another key keeps them. -/
theorem Sound.linksOf_eq_of_ne {k' : Article.Key} (h : s.Sound pending) (hroom : s.HasRoom 1)
    (hne : k' ≠ k) (hrow : s'.row? k' = s.row? k')
    (hlinks : ∀ id, id ≠ s.idOf k → s'.links.get? id = s.links.get? id) :
    s'.linksOf k' = s.linksOf k' := by
  rw [linksOf, linksOf, hrow]
  cases hstored : s.row? k' with
  | none => rfl
  | some row =>
      refine hlinks row.id fun hid => hne ?_
      exact h.eq_of_owns_idOf (p := none) hroom nofun (.inl ⟨row, hstored, hid⟩)

/-- **A save leaves the links of the other keys alone.** -/
theorem linksOf_settle_of_ne (hsound : s.Sound pending) (hroom : s.HasRoom 1) (hne : k ≠ a.key) :
    (s.settle a).linksOf k = s.linksOf k := by
  refine hsound.linksOf_eq_of_ne hroom hne ?_ fun id hid => ?_
  · rw [row?_settle, if_neg fun h => hne h.1]
  · rw [get?_links_settle, if_neg fun h => hid h.1]

/-- **What a save does to the links of its article**: they become its tags, if it is saved and has
any. -/
theorem linksOf_settle (h : ¬ s.MayTakeOver a) (hroom : s.HasRoom 1) :
    (s.settle a).linksOf a.key =
      if s.spares a = true ∧ a.tags ≠ [] then some (Tag.distinctIds a.tagIds)
      else s.linksOf a.key := by
  cases hs : s.spares a with
  | false =>
      have hcontent := content_settle s a
      rw [hs, if_neg Bool.false_ne_true] at hcontent
      rw [linksOf_of_content hcontent, if_neg fun h => Bool.false_ne_true h.1]
  | true =>
      rw [linksOf, row?_settle, if_pos ⟨rfl, hs⟩, Option.bind_some, id_winner_idOf,
        get?_links_settle, hs]
      by_cases htags : a.tags = []
      · rw [if_neg fun h => h.2.2 htags, if_neg fun h => h.2 htags, get?_links_idOf h htags hroom]
      · rw [if_pos ⟨rfl, rfl, htags⟩, if_pos ⟨rfl, htags⟩]

/-- **The links of a key of which no article is saved stay.** -/
theorem linksOf_settleAll_of_forall_ne {articles : List Article} (hsound : s.Sound pending)
    (hroom : s.HasRoom articles.length) (hne : ∀ a ∈ articles, k ≠ a.key) :
    (s.settleAll articles).linksOf k = s.linksOf k := by
  induction articles generalizing s with
  | nil => rfl
  | cons a rest ih =>
      obtain ⟨hone, hrest⟩ := hroom.settle a
      rw [settleAll, List.foldl_cons, ← settleAll,
        ih (hsound.settle hone) hrest fun b hb => hne b (List.mem_cons_of_mem a hb),
        linksOf_settle_of_ne hsound hone (hne a List.mem_cons_self)]

/-- **The links of an article depend on its own save only**, if no other article with its key is
saved. -/
theorem linksOf_settleAll_of_mem {before after : List Article} (h : ¬ s.MayTakeOver a)
    (hsound : s.Sound pending) (hroom : s.HasRoom (before ++ a :: after).length)
    (hbefore : ∀ b ∈ before, a.key ≠ b.key) (hafter : ∀ b ∈ after, a.key ≠ b.key) :
    (s.settleAll (before ++ a :: after)).linksOf a.key =
      if s.plan.spares (s.counts.queries + before.length + 1) a = true ∧ a.tags ≠ [] then
        some (Tag.distinctIds a.tagIds)
      else s.linksOf a.key := by
  rw [List.length_append] at hroom
  have hfirst : s.HasRoom before.length := hroom.mono (Nat.le_add_right _ _)
  have hsettled := hsound.settleAll hfirst
  have hown : ¬ (s.settleAll before).MayTakeOver a := fun h' => h (h'.of_settleAll hsound hfirst)
  obtain ⟨hone, hrest⟩ := HasRoom.settle (n := after.length) hroom.settleAll a
  rw [settleAll_append, settleAll, List.foldl_cons, ← settleAll,
    linksOf_settleAll_of_forall_ne (hsettled.settle hone) hrest hafter,
    linksOf_settle hown hone, spares_settleAll,
    linksOf_settleAll_of_forall_ne hsound hfirst hbefore]

end Store

end FeedSync
