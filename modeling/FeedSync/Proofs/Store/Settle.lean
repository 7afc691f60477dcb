import FeedSync.Proofs.Store.Writes

/-!
# Saving articles, one after the other

What a save does to a store that no one else touches, all at once: `Store.settle` is the store after
the save of one article, whether it succeeds or fails, and `Store.settleAll` the store after the
saves of a whole list. `FaultPlan.spares` says which saves succeed; the others leave the content of
the store as it is.

## Main statements

* `content_settle` — a save that succeeds commits the whole unit of work, one that fails nothing.
* `row?_settleAll_of_mem` — the row of an article depends on its own save only.
* `row?_settleAll_of_forall_ne` — a row of which no article is saved stays.
* `Kept.settleAll` — no save removes a row, changes its internal id or moves it back.
-/

namespace FeedSync

/-! ### What the plan of failures says -/

namespace FaultPlan

/-- Whether the existence query with a number, counted from one, fails. -/
def refuses (plan : FaultPlan) (n : Nat) : Bool := plan.queries || n ∈ plan.queriesAt

/-- Whether the unit of work of an article succeeds: neither its upsert fails nor, if it has tags,
the step that links them. -/
def accepts (plan : FaultPlan) (a : Article) : Bool :=
  !decide (a.externalId ∈ plan.upserts) && (a.tags.isEmpty || !plan.links)

/-- Whether an article is saved, if the existence query of its save has the given number. -/
def spares (plan : FaultPlan) (n : Nat) (a : Article) : Bool := !plan.refuses n && plan.accepts a

/-- What it takes for the unit of work of an article to succeed. -/
theorem accepts_iff {plan : FaultPlan} {a : Article} : plan.accepts a = true ↔
    a.externalId ∉ plan.upserts ∧ (a.tags = [] ∨ plan.links = false) := by
  rw [accepts, Bool.and_eq_true, Bool.or_eq_true, List.isEmpty_iff, Bool.not_eq_true',
    Bool.not_eq_true', decide_eq_false_iff_not]

end FaultPlan

namespace Store

/-- No other writer is planned for the existence queries to come. -/
def Undisturbed (s : Store) : Prop :=
  ∀ intrusion ∈ s.plan.intrusions, intrusion.1 ≤ s.counts.queries

instance (s : Store) : Decidable s.Undisturbed :=
  inferInstanceAs (Decidable (∀ intrusion ∈ s.plan.intrusions, intrusion.1 ≤ s.counts.queries))

/-- The store with one more existence query counted. -/
def asked (s : Store) : Store := { s with counts.queries := s.counts.queries + 1 }

/-- The store after the next existence query, if it is answered: it is counted, and the writers that
are planned for it intrude. -/
def intruded (s : Store) : Store := s.asked.intrude (s.counts.queries + 1)

/-- Whether the next save saves an article. -/
def spares (s : Store) (a : Article) : Bool := s.plan.spares (s.counts.queries + 1) a

/-- The internal id that an article gets when it is written next. -/
def idOf (s : Store) (key : Article.Key) (pending : Option Int64 := none) : Int64 :=
  ((s.row? key).map StoredArticle.id <|> pending).getD (s.lastId + 1)

/-- **The store after the save of an article**, all at once. -/
def settle (s : Store) (a : Article) : Store :=
  if s.plan.refuses (s.counts.queries + 1) then s.asked
  else if s.plan.accepts a then (upsert [] a s.asked).2.commit (a.writes (s.idOf a.key))
  else (upsert [] a s.asked).2.rollback

/-- The store after the saves of some articles in order. -/
def settleAll (s : Store) (articles : List Article) : Store := articles.foldl settle s

/-- Those of some articles that are saved when all of them are to be, in order. -/
def saved (s : Store) : List Article → List Article
  | [] => []
  | a :: rest => if s.spares a then a :: saved (s.settle a) rest else saved (s.settle a) rest

variable {s : Store} {a : Article} {k : Article.Key}

/-! ### The calls of a save -/

/-- What an existence query answers, and what it does to the store. -/
theorem held_eq (sourceId : String) (ids : List Int64) (s : Store) :
    held sourceId ids s =
      if s.plan.refuses (s.counts.queries + 1) then
        (.error (.backend "既存記事の照会に失敗"), s.asked)
      else (.ok (s.intruded.heldOf sourceId ids), s.intruded) :=
  rfl

/-- Without another writer an existence query is only counted. -/
theorem Undisturbed.intruded_eq (h : s.Undisturbed) : s.intruded = s.asked := by
  have hnone : s.plan.intrusions.filter (·.1 = s.counts.queries + 1) = [] := by
    refine List.filter_eq_nil_iff.mpr fun intrusion hmem hn => ?_
    have hle := h intrusion hmem
    have heq : intrusion.1 = s.counts.queries + 1 := of_decide_eq_true hn
    omega
  change List.foldl _ s.asked (s.plan.intrusions.filter _) = s.asked
  rw [hnone]
  rfl

/-- Without another writer an existence query only reads. -/
theorem held_of_undisturbed (h : s.Undisturbed) (sourceId : String) (ids : List Int64) :
    held sourceId ids s =
      (if s.plan.refuses (s.counts.queries + 1) then .error (.backend "既存記事の照会に失敗")
        else .ok (s.heldOf sourceId ids), s.asked) := by
  rw [held_eq, h.intruded_eq]
  split <;> rfl

/-- What giving out an internal id does. -/
theorem idFor_eq (key : Article.Key) (pending : Option Int64) : idFor key pending s =
    (s.idOf key pending, { s with lastId := (idFor key pending s).2.lastId }) := by
  rw [idFor, idOf]
  split <;> next h => rw [h]; rfl

/-- What an upsert does to the store: it is counted, and an internal id may be used up. -/
theorem upsert_snd (tx : Transaction) (a : Article) (s : Store) :
    (upsert tx a s).2 = { s with
      lastId := (upsert tx a s).2.lastId
      counts.upserts := s.counts.upserts ++ [a.externalId] } := by
  rw [upsert]
  split
  · rfl
  · change (idFor a.key _ _).2 = _
    rw [idFor_eq]

/-- An upsert that is planned to fail leaves the transaction as it is. -/
theorem upsert_of_mem {tx : Transaction} (h : a.externalId ∈ s.plan.upserts) :
    ∃ e, (upsert tx a s).1 = (tx, .error e) := by
  rw [upsert, if_pos h]
  exact ⟨_, rfl⟩

/-- An upsert that succeeds answers with the internal id that the article gets. -/
theorem upsert_of_not_mem {tx : Transaction} (h : a.externalId ∉ s.plan.upserts) :
    (upsert tx a s).1 = (tx ++ [.article (s.idOf a.key (pendingId? tx a.key)) a],
      .ok (s.idOf a.key (pendingId? tx a.key))) := by
  rw [upsert, if_neg h]
  change ((_ ++ [Write.article (idFor a.key _ _).1 a], Except.ok (idFor a.key _ _).1)) = _
  rw [idFor_eq]
  rfl

/-- Tags that are upserted are all that is added to a transaction. -/
theorem mem_upsertTags {tx : Transaction} {tags : List Tag} {w : Write}
    (h : w ∈ (upsertTags tx tags).1) : w ∈ tx ∨ w = .tags tags := by
  rw [upsertTags] at h
  simp only at h
  split at h
  · exact .inl h
  · exact (List.mem_append.mp h).imp_right List.mem_singleton.mp

/-- Linking adds its links to a transaction at most. -/
theorem mem_link {tx : Transaction} {articleId : Int64} {tagIds : List Int64} {w : Write}
    (h : w ∈ (s.link tx articleId tagIds).1) : w ∈ tx ∨ w = .links articleId tagIds := by
  rw [link] at h
  split at h
  · exact .inl h
  · exact (List.mem_append.mp h).imp_right List.mem_singleton.mp

/-! ### One save -/

/-- A save whose query is refused does nothing else. -/
theorem settle_of_refused (h : s.plan.refuses (s.counts.queries + 1) = true) (a : Article) :
    s.spares a = false ∧ s.settle a = s.asked := by
  rw [spares, FaultPlan.spares, settle, h]
  exact ⟨rfl, rfl⟩

/-- A save whose query is answered ends as its unit of work does. -/
theorem settle_of_answered (h : s.plan.refuses (s.counts.queries + 1) = false) (a : Article) :
    s.spares a = s.plan.accepts a ∧ s.settle a =
      if s.plan.accepts a then (upsert [] a s.asked).2.commit (a.writes (s.idOf a.key))
      else (upsert [] a s.asked).2.rollback := by
  rw [spares, FaultPlan.spares, settle, h]
  exact ⟨rfl, rfl⟩

/-- **The three ways in which a save ends**: its query is refused, its unit of work is rolled back,
or it is committed. -/
theorem settle_cases (s : Store) (a : Article) :
    (s.spares a = false ∧ s.settle a = s.asked) ∨
    (s.spares a = false ∧ s.settle a = (upsert [] a s.asked).2.rollback) ∨
    (s.spares a = true ∧
      s.settle a = (upsert [] a s.asked).2.commit (a.writes (s.idOf a.key))) := by
  cases hrefuses : s.plan.refuses (s.counts.queries + 1) with
  | true => exact .inl (settle_of_refused hrefuses a)
  | false =>
      obtain ⟨hspares, hsettle⟩ := settle_of_answered hrefuses a
      rw [hspares, hsettle]
      cases s.plan.accepts a with
      | true => exact .inr (.inr ⟨rfl, rfl⟩)
      | false => exact .inr (.inl ⟨rfl, rfl⟩)

/-! ### What a save leaves alone -/

/-- What every save does besides writing: it is counted, and an internal id may be used up. -/
theorem settle_frame (s : Store) (a : Article) :
    (s.settle a).plan = s.plan ∧ (s.settle a).states = s.states ∧
      (s.settle a).counts.queries = s.counts.queries + 1 ∧
      (s.settle a).counts.stateUpdates = s.counts.stateUpdates := by
  rcases settle_cases s a with ⟨-, h⟩ | ⟨-, h⟩ | ⟨-, h⟩
  · rw [h]
    exact ⟨rfl, rfl, rfl, rfl⟩
  · rw [h, upsert_snd]
    exact ⟨rfl, rfl, rfl, rfl⟩
  · rw [h, commit_eq, upsert_snd]
    exact ⟨rfl, rfl, rfl, rfl⟩

@[simp]
theorem plan_settle : (s.settle a).plan = s.plan := (settle_frame s a).1

@[simp]
theorem states_settle : (s.settle a).states = s.states := (settle_frame s a).2.1

@[simp]
theorem queries_settle : (s.settle a).counts.queries = s.counts.queries + 1 :=
  (settle_frame s a).2.2.1

/-- After an existence query no other writer waits, if none did before. -/
theorem Undisturbed.asked (h : s.Undisturbed) : s.asked.Undisturbed :=
  fun intrusion hmem => Nat.le_succ_of_le (h intrusion hmem)

/-- After a save no other writer waits, if none did before. -/
theorem Undisturbed.settle (h : s.Undisturbed) : (s.settle a).Undisturbed := by
  rw [Undisturbed, plan_settle, queries_settle]
  exact fun intrusion hmem => Nat.le_succ_of_le (h intrusion hmem)

/-! ### What a save writes -/

/-- **A save commits the whole unit of work, or nothing.** -/
theorem content_settle (s : Store) (a : Article) : (s.settle a).content =
    if s.spares a then (s.commit (a.writes (s.idOf a.key))).content else s.content := by
  have hupsert : (upsert [] a s.asked).2.content = s.content := by rw [upsert_snd]; rfl
  rcases settle_cases s a with ⟨hs, h⟩ | ⟨hs, h⟩ | ⟨hs, h⟩
  · rw [h, hs]
    rfl
  · rw [h, hs]
    exact hupsert
  · rw [h, hs, if_pos rfl]
    exact content_commit_congr hupsert _

/-- **What a save does to the rows.** -/
theorem row?_settle : (s.settle a).row? k =
    if k = a.key ∧ s.spares a then some (StoredArticle.winner (s.row? a.key) (s.idOf a.key) a)
    else s.row? k := by
  have hcontent := content_settle s a
  cases hs : s.spares a with
  | false =>
      rw [hs, if_neg Bool.false_ne_true] at hcontent
      rw [row?_of_content hcontent, if_neg fun h => Bool.false_ne_true h.2]
  | true =>
      rw [hs, if_pos rfl] at hcontent
      rw [row?_of_content hcontent, row?_commit_writes]
      by_cases hk : k = a.key
      · rw [if_pos hk, if_pos ⟨hk, rfl⟩]
      · rw [if_neg hk, if_neg fun h => hk h.1]

/-- The internal id that an article gets is that of its row, if it has one. -/
theorem idOf_of_row {row : StoredArticle} {pending : Option Int64} (h : s.row? k = some row) :
    s.idOf k pending = row.id := by
  rw [idOf, h]
  rfl

/-! ### Many saves -/

/-- **What lasts of the rows**: each one is still there, under its internal id, in a version that is
as late. -/
def Kept (s s' : Store) : Prop :=
  ∀ k row, s.row? k = some row →
    ∃ row', s'.row? k = some row' ∧ row'.id = row.id ∧
      row.article.lastModified ≤ row'.article.lastModified

/-- Rows last as long as nothing happens. -/
theorem Kept.refl (s : Store) : Kept s s := fun _ row h => ⟨row, h, rfl, le_rfl⟩

/-- What lasts for a while and then for another while lasts. -/
theorem Kept.trans {s s' s'' : Store} (h : Kept s s') (h' : Kept s' s'') : Kept s s'' := by
  intro k row hrow
  obtain ⟨row', hrow', hid, hle⟩ := h k row hrow
  obtain ⟨row'', hrow'', hid', hle'⟩ := h' k row' hrow'
  exact ⟨row'', hrow'', hid'.trans hid, le_trans hle hle'⟩

/-- A save keeps every row. -/
theorem Kept.settle (s : Store) (a : Article) : Kept s (s.settle a) := by
  intro k row hrow
  rw [row?_settle]
  by_cases h : k = a.key ∧ s.spares a = true
  · obtain ⟨rfl, hs⟩ := h
    refine ⟨_, if_pos ⟨rfl, hs⟩, ?_, ?_⟩
    · rw [hrow, idOf_of_row hrow]
      exact StoredArticle.id_winner fun row' h => congrArg StoredArticle.id (Option.some.inj h)
    · rw [hrow]
      exact StoredArticle.lastModified_le_winner
  · exact ⟨row, (if_neg h).trans hrow, rfl, le_rfl⟩

/-- **No save removes a row, changes its internal id or moves it back.** -/
theorem Kept.settleAll (s : Store) (articles : List Article) : Kept s (s.settleAll articles) := by
  induction articles generalizing s with
  | nil => exact .refl s
  | cons a rest ih => exact (Kept.settle s a).trans (ih _)

@[simp]
theorem states_settleAll (s : Store) (articles : List Article) :
    (s.settleAll articles).states = s.states := by
  induction articles generalizing s with
  | nil => rfl
  | cons a rest ih => rw [settleAll, List.foldl_cons, ← settleAll, ih, states_settle]

/-- The number of the next existence query counts the saves. -/
theorem spares_settleAll (s : Store) (articles : List Article) (a : Article) :
    (s.settleAll articles).spares a =
      s.plan.spares (s.counts.queries + articles.length + 1) a := by
  induction articles generalizing s with
  | nil => rfl
  | cons b rest ih =>
      rw [settleAll, List.foldl_cons, ← settleAll, ih, plan_settle, queries_settle,
        List.length_cons]
      congr 1
      omega

/-- **A row of which no article is saved stays.** -/
theorem row?_settleAll_of_forall_ne {articles : List Article} (h : ∀ a ∈ articles, k ≠ a.key) :
    (s.settleAll articles).row? k = s.row? k := by
  induction articles generalizing s with
  | nil => rfl
  | cons a rest ih =>
      rw [settleAll, List.foldl_cons, ← settleAll, ih fun b hb => h b (List.mem_cons_of_mem a hb),
        row?_settle, if_neg fun hk => h a List.mem_cons_self hk.1]

/-- Saves in a row. -/
theorem settleAll_append (s : Store) (before after : List Article) :
    s.settleAll (before ++ after) = (s.settleAll before).settleAll after :=
  List.foldl_append

/-- **The row of an article depends on its own save only**, if no other article with its key is
saved. -/
theorem row?_settleAll_of_mem {before after : List Article} {a : Article}
    (hbefore : ∀ b ∈ before, a.key ≠ b.key) (hafter : ∀ b ∈ after, a.key ≠ b.key) :
    (s.settleAll (before ++ a :: after)).row? a.key =
      if s.plan.spares (s.counts.queries + before.length + 1) a then
        some (StoredArticle.winner (s.row? a.key) ((s.settleAll before).idOf a.key) a)
      else s.row? a.key := by
  rw [settleAll_append, settleAll, List.foldl_cons, ← settleAll,
    row?_settleAll_of_forall_ne hafter, row?_settle, spares_settleAll,
    row?_settleAll_of_forall_ne hbefore]
  simp only [true_and]

/-- One more article at the end is one more that may be saved. -/
theorem saved_concat (s : Store) (articles : List Article) (a : Article) :
    s.saved (articles ++ [a]) =
      s.saved articles ++ if (s.settleAll articles).spares a then [a] else [] := by
  induction articles generalizing s with
  | nil => rfl
  | cons b rest ih =>
      rw [List.cons_append, saved, saved, ih]
      change (if s.spares b then _ else _) =
        _ ++ if (settleAll (s.settle b) rest).spares a then _ else _
      split <;> rfl

/-- Only articles that were to be saved are saved, in order. -/
theorem saved_sublist (s : Store) (articles : List Article) :
    (s.saved articles).Sublist articles := by
  induction articles generalizing s with
  | nil => exact List.Sublist.refl []
  | cons a rest ih =>
      rw [saved]
      split
      · exact (ih _).cons_cons a
      · exact (ih _).cons a

/-- **Which articles are saved**: each one whose save, the one with its number in the order, is not
planned to fail. -/
theorem saved_eq_filter {articles : List Article} (hnodup : articles.Nodup) :
    s.saved articles = articles.filter fun a =>
      s.plan.spares (s.counts.queries + articles.idxOf a + 1) a := by
  induction articles using List.reverseRecOn with
  | nil => rfl
  | append_singleton articles a ih =>
      obtain ⟨hrest, -, hnotMem⟩ := List.nodup_append.mp hnodup
      have ha : a ∉ articles := fun h => hnotMem a h a (List.mem_singleton_self a) rfl
      rw [saved_concat, ih hrest, List.filter_append]
      congr 1
      · refine List.filter_congr fun b hb => ?_
        rw [List.idxOf_append_of_mem hb]
      · rw [spares_settleAll, List.filter_singleton, List.idxOf_append_of_notMem ha,
          List.idxOf_cons_self, Bool.cond_eq_ite]
        rfl

/-- What is saved is stored afterwards in a version that is as late. -/
theorem exists_row_of_mem_saved {articles : List Article} {a : Article}
    (h : a ∈ s.saved articles) : ∃ row, (s.settleAll articles).row? a.key = some row ∧
      a.lastModified ≤ row.article.lastModified := by
  induction articles generalizing s with
  | nil => exact absurd h List.not_mem_nil
  | cons b rest ih =>
      rw [saved] at h
      by_cases hs : s.spares b = true
      · rw [if_pos hs] at h
        rcases List.mem_cons.mp h with rfl | h
        · have hrow : (s.settle a).row? a.key =
              some (StoredArticle.winner (s.row? a.key) (s.idOf a.key) a) := by
            rw [row?_settle, if_pos ⟨rfl, hs⟩]
          obtain ⟨row, hrow, -, hle⟩ := Kept.settleAll (s.settle a) rest a.key _ hrow
          exact ⟨row, hrow, le_trans StoredArticle.le_lastModified_winner hle⟩
        · exact ih h
      · rw [if_neg hs] at h
        exact ih h

end Store

end FeedSync
