import FeedSync.Proofs.Selection
import FeedSync.Store.Memory

/-!
# What writes do to a store

A store is read by its rows and its links; this module says what each write makes of them. An
article is written by the **conditional rule**: its row becomes the later of the stored version and
the written one, and of two versions that are as late the stored one stays (`StoredArticle.winner`).
All other rows stay, whatever is written.

## Main statements

* `get?_heldOf` — an existence query answers with the rows of the numbers asked for.
* `row?_commit_writes`, `links_commit_writes` — the unit of work of one article, all at once.
* `le_lastModified_winner` — the conditional rule never moves a row back.
-/

namespace FeedSync

/-! ### Tables of looked up values -/

namespace Table

variable {κ ν : Type} [DecidableEq κ]

/-- One more entry at the end is one more value to set. -/
theorem ofEntries_concat (entries : List (κ × ν)) (entry : κ × ν) :
    ofEntries (entries ++ [entry]) = (ofEntries entries).set entry.1 entry.2 := by
  rw [ofEntries, List.foldl_append]
  rfl

/-- A table of the values that some keys have: it has the values of these keys, and no others. -/
theorem get?_ofEntries_filterMap (f : κ → Option ν) (keys : List κ) (k : κ) :
    (ofEntries (keys.filterMap fun x => (f x).map fun v => (x, v))).get? k =
      if k ∈ keys then f k else none := by
  induction keys using List.reverseRecOn with
  | nil => rfl
  | append_singleton keys last ih =>
      rw [List.filterMap_append, List.filterMap_cons, List.filterMap_nil]
      have hmem : k ∈ keys ++ [last] ↔ k ∈ keys ∨ k = last := by
        rw [List.mem_append, List.mem_singleton]
      cases hlast : f last with
      | none =>
          rw [Option.map_none, List.append_nil, ih]
          by_cases hk : k ∈ keys
          · rw [if_pos hk, if_pos (hmem.mpr (.inl hk))]
          · by_cases heq : k = last
            · rw [if_neg hk, if_pos (hmem.mpr (.inr heq)), heq, hlast]
            · rw [if_neg hk, if_neg fun h => (hmem.mp h).elim hk heq]
      | some v =>
          rw [Option.map_some, ofEntries_concat, get?_set, ih]
          by_cases heq : k = last
          · rw [if_pos heq, if_pos (hmem.mpr (.inr heq)), heq, hlast]
          · rw [if_neg heq]
            by_cases hk : k ∈ keys
            · rw [if_pos hk, if_pos (hmem.mpr (.inl hk))]
            · rw [if_neg hk, if_neg fun h => (hmem.mp h).elim hk heq]

end Table

/-! ### The conditional rule -/

namespace StoredArticle

/-- What a row becomes when a version of its article is written: the stored version stays unless
the written one is strictly later; without a row the written version gets the given internal id. -/
def winner (stored : Option StoredArticle) (id : Int64) (a : Article) : StoredArticle :=
  match stored with
  | some row => if a.lastModified ≤ row.article.lastModified then row else { row with article := a }
  | none => ⟨id, a⟩

variable {stored : Option StoredArticle} {row : StoredArticle} {id : Int64} {a : Article}

/-- A row keeps its internal id, whatever version is written. -/
theorem id_winner (h : ∀ row, stored = some row → id = row.id) : (winner stored id a).id = id := by
  cases stored with
  | none => rfl
  | some row =>
      rw [winner, h row rfl]
      split <;> rfl

/-- **A version that loses changes nothing of the row.** -/
theorem winner_of_le (h : a.lastModified ≤ row.article.lastModified) :
    winner (some row) id a = row :=
  if_pos h

/-- **A version that is news becomes the content of the row**, which keeps its internal id. -/
theorem winner_of_news (hid : ∀ row, stored = some row → id = row.id)
    (hnews : ∀ row, stored = some row → row.article.lastModified < a.lastModified) :
    winner stored id a = ⟨id, a⟩ := by
  cases stored with
  | none => rfl
  | some row => rw [winner, if_neg (not_le_of_gt (hnews row rfl)), hid row rfl]

/-- What is written is no later than the row afterwards. -/
theorem le_lastModified_winner :
    a.lastModified ≤ (winner stored id a).article.lastModified := by
  cases stored with
  | none => exact le_rfl
  | some row =>
      rw [winner]
      split
      · assumption
      · exact le_rfl

/-- **The conditional rule never moves a row back.** -/
theorem lastModified_le_winner :
    row.article.lastModified ≤ (winner (some row) id a).article.lastModified := by
  rw [winner]
  split
  · exact le_rfl
  · next h => exact le_of_lt (not_le.mp h)

end StoredArticle

/-! ### What a store is read by -/

/-- What the writes of a store change: its rows, its vocabulary and its links. -/
structure Content where
  articles : Table Article.Key StoredArticle
  tags : Table Int64 String
  links : Table Int64 (List Int64)

namespace Store

/-- The content of a store. -/
def content (s : Store) : Content := ⟨s.articles, s.tags, s.links⟩

/-- When the stored version of an article was modified. -/
def lastModified? (s : Store) (sourceId : String) (externalId : Int64) : Option Instant :=
  (s.row? (sourceId, externalId)).map (·.article.lastModified)

/-- **An existence query answers with the rows of the numbers asked for.** -/
theorem get?_heldOf (s : Store) (sourceId : String) (ids : List Int64) (e : Int64) :
    (s.heldOf sourceId ids).get? e = if e ∈ ids then s.lastModified? sourceId e else none := by
  rw [lastModified?, ← Table.get?_ofEntries_filterMap
    (fun e => (s.row? (sourceId, e)).map (·.article.lastModified)), heldOf]
  refine congrArg (fun entries => Table.get? (.ofEntries entries) e) ?_
  refine List.filterMap_congr fun id _ => ?_
  rw [Option.map_map]
  rfl

/-- Stores with the same content have the same rows. -/
theorem row?_of_content {s s' : Store} (h : s.content = s'.content) (k : Article.Key) :
    s.row? k = s'.row? k :=
  congrArg (fun c => c.articles.get? k) h

variable {s : Store} {a : Article} {id : Int64} {k : Article.Key}

/-! ### Single writes -/

/-- What writing an article does to the rows. -/
theorem row?_apply_article :
    (s.apply (.article id a)).row? k =
      if k = a.key then some (StoredArticle.winner (s.row? a.key) id a) else s.row? k := by
  rw [apply]
  cases hrow : s.row? a.key with
  | none =>
      rw [row?, Table.get?_set]
      rfl
  | some row =>
      rw [StoredArticle.winner]
      by_cases hle : a.lastModified ≤ row.article.lastModified
      · simp only [if_pos hle]
        by_cases hk : k = a.key
        · rw [if_pos hk, hk, hrow]
        · rw [if_neg hk]
      · simp only [if_neg hle]
        rw [row?, Table.get?_set]
        rfl

/-- Writing an article changes nothing but the rows. -/
theorem apply_article_eq :
    s.apply (.article id a) = { s with articles := (s.apply (.article id a)).articles } := by
  rw [apply]
  cases s.row? a.key with
  | none => rfl
  | some row =>
      simp only
      split <;> rfl

/-- Whatever is written, only the content changes. -/
theorem apply_eq (s : Store) (w : Write) :
    s.apply w = { s with
      articles := (s.apply w).articles, tags := (s.apply w).tags, links := (s.apply w).links } := by
  cases w with
  | article id a => rw [apply_article_eq]
  | tags tags => rfl
  | links j ids => rfl

/-- What a write makes of the content depends on nothing but the content. -/
theorem content_apply_congr {s s' : Store} (h : s.content = s'.content) (w : Write) :
    (s.apply w).content = (s'.apply w).content := by
  obtain ⟨articles, _, tags, links, _, _, _⟩ := s
  obtain ⟨articles', _, tags', links', _, _, _⟩ := s'
  obtain ⟨rfl, rfl, rfl⟩ := Content.mk.inj h
  cases w with
  | article id a =>
      rw [apply, apply, row?, row?]
      cases articles.get? a.key with
      | none => rfl
      | some row =>
          simp only
          split <;> rfl
  | tags tags => rfl
  | links j ids => rfl

/-! ### Whole units of work -/

end Store

/-- The writes of the unit of work of an article that has the given internal id. -/
def Article.writes (a : Article) (id : Int64) : List Write :=
  if a.tags.isEmpty then [.article id a] else [.article id a, .tags a.tags, .links id a.tagIds]

/-- An article without tags is all that its unit of work writes. -/
theorem Article.writes_of_untagged {a : Article} (h : a.tags.isEmpty = true) (id : Int64) :
    a.writes id = [.article id a] := by
  rw [writes, h]
  rfl

/-- An article with tags is written together with them and its links to them. -/
theorem Article.writes_of_tagged {a : Article} (h : a.tags.isEmpty = false) (id : Int64) :
    a.writes id = [.article id a, .tags a.tags, .links id a.tagIds] := by
  rw [writes, h]
  rfl

/-- The one article among the writes of its unit of work. -/
theorem Article.mem_writes {a b : Article} {id j : Int64} :
    Write.article j b ∈ a.writes id ↔ j = id ∧ b = a := by
  rw [writes]
  split <;> simp

namespace Store

variable {s : Store} {a : Article} {id : Int64} {k : Article.Key}

/-- Tags are added to a transaction if there are any. -/
theorem upsertTags_of_tagged {tags : List Tag} (h : tags.isEmpty = false) (tx : Transaction) :
    upsertTags tx tags = (tx ++ [.tags tags], .ok ()) := by
  rw [upsertTags, h]
  rfl

/-- **What the unit of work of an article does to the rows**: its own row follows the conditional
rule, and every other row stays. -/
theorem row?_commit_writes :
    (s.commit (a.writes id)).row? k =
      if k = a.key then some (StoredArticle.winner (s.row? a.key) id a) else s.row? k := by
  rw [Article.writes]
  split
  · exact row?_apply_article
  · exact row?_apply_article

/-- **What the unit of work of an article does to the links**: those of its internal id become the
article's tags, if it has any. This happens whether or not its version wins. -/
theorem links_commit_writes {j : Int64} :
    (s.commit (a.writes id)).links.get? j =
      if j = id ∧ a.tags ≠ [] then some (Tag.distinctIds a.tagIds) else s.links.get? j := by
  have harticle : (s.apply (.article id a)).links = s.links := by rw [apply_article_eq]
  rw [Article.writes]
  by_cases htags : a.tags = []
  · rw [htags, if_pos List.isEmpty_nil, if_neg fun h => h.2 rfl]
    exact congrArg (Table.get? · j) harticle
  · rw [if_neg (by simpa using htags)]
    change ((s.apply (.article id a)).links.set id (Tag.distinctIds a.tagIds)).get? j = _
    rw [Table.get?_set, harticle]
    by_cases hj : j = id
    · rw [if_pos hj, if_pos ⟨hj, htags⟩]
    · rw [if_neg hj, if_neg fun h => hj h.1]

/-- What a commit makes of the content depends on nothing but the content. -/
theorem content_commit_congr {s s' : Store} (h : s.content = s'.content) (tx : Transaction) :
    (s.commit tx).content = (s'.commit tx).content := by
  change (tx.foldl apply s).content = (tx.foldl apply s').content
  induction tx generalizing s s' with
  | nil => exact h
  | cons w tx ih => exact ih (content_apply_congr h w)

/-- A commit changes only the content and the count of commits. -/
theorem commit_eq (s : Store) (tx : Transaction) :
    s.commit tx = { s with
      articles := (s.commit tx).articles, tags := (s.commit tx).tags, links := (s.commit tx).links
      counts.commits := s.counts.commits + 1 } := by
  have hfold : ∀ s : Store, tx.foldl apply s = { s with
      articles := (tx.foldl apply s).articles, tags := (tx.foldl apply s).tags
      links := (tx.foldl apply s).links } := by
    induction tx with
    | nil => exact fun s => rfl
    | cons w tx ih =>
        intro s
        rw [List.foldl_cons, ih, apply_eq]
  rw [commit, hfold]

end Store

end FeedSync
