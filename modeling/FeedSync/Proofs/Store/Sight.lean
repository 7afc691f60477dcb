import FeedSync.Proofs.Store.Links
import FeedSync.Proofs.Store.Merging

/-!
# What a source sees of a store

All sources share one store: their articles may have the same numbers, and their rows take their
internal ids from one counter. What a cycle of a source finds out about the store is nevertheless
only the articles and the sync state of that source, besides what is planned to fail and how often
the store was called. `Store.AlikeFor` relates the stores that agree on this, and each operation
that a cycle asks for keeps them alike and answers them alike, up to internal ids.

Conversely, an article that is written disturbs no row of another key, nor the links that hang on
it; `Store.Untouched` says so about stretches of operations.

## Main definitions

* `Write.nameless` — a write without its internal id.
* `Store.AlikeFor` — stores that look alike to a source.
* `Store.Untouched` — the rows of some keys and their links are left alone.

## Main statements

* `AlikeFor.held`, `AlikeFor.upsert`, `AlikeFor.commit`, `AlikeFor.writeState` — the operations of a
  cycle on two stores that look alike.
* `Sound.untouched_insert`, `Sound.untouched_commit` — what is written leaves other keys alone.
-/

namespace FeedSync

/-- A write without its internal id. -/
def Write.nameless : Write → Write
  | .article _ a => .article 0 a
  | .tags words => .tags words
  | .links _ tagIds => .links 0 tagIds

namespace Store

variable {s s' : Store} {a : Article} {key : Article.Key} {sourceId : String}

/-! ### The article of a key -/

/-- An insertion sets the article of its own key. -/
theorem articleOf_insert (a : Article) (s : Store) (key : Article.Key) :
    (insert a s).2.articleOf key = if key = a.key then some a else s.articleOf key := by
  rw [insert_snd, articleOf, row?, Table.get?_set]
  split <;> rfl

/-- What a write makes of the article of a key depends on nothing but this article. -/
theorem articleOf_apply_congr {w w' : Write} (h : s.articleOf key = s'.articleOf key)
    (hw : w.nameless = w'.nameless) : (s.apply w).articleOf key = (s'.apply w').articleOf key := by
  cases w with
  | article id a =>
      cases w' with
      | article id' a' =>
          obtain ⟨-, rfl⟩ := Write.article.inj hw
          rw [articleOf, articleOf, row?_apply_article, row?_apply_article]
          by_cases hkey : key = a.key
          · subst hkey
            rw [if_pos rfl, if_pos rfl, Option.map_some, Option.map_some,
              StoredArticle.article_winner, StoredArticle.article_winner]
            exact congrArg (fun stored => some (merge stored a)) h
          · rw [if_neg hkey, if_neg hkey]
            exact h
      | tags words => cases hw
      | links id' tagIds => cases hw
  | tags words =>
      cases w' with
      | tags words' => exact h
      | article id' a' => cases hw
      | links id' tagIds => cases hw
  | links id tagIds =>
      cases w' with
      | links id' tagIds' => exact h
      | article id' a' => cases hw
      | tags words => cases hw

/-- What a commit makes of the article of a key depends on nothing but this article. -/
theorem articleOf_commit_congr {tx tx' : Transaction} (h : s.articleOf key = s'.articleOf key)
    (htx : tx.map Write.nameless = tx'.map Write.nameless) :
    (s.commit tx).articleOf key = (s'.commit tx').articleOf key := by
  change (tx.foldl apply s).articleOf key = (tx'.foldl apply s').articleOf key
  induction tx generalizing tx' s s' with
  | nil =>
      obtain rfl := List.map_eq_nil_iff.mp htx.symm
      exact h
  | cons w tx ih =>
      obtain ⟨w', tx', rfl, hw, htx⟩ := List.map_eq_cons_iff.mp htx.symm
      rw [List.foldl_cons, List.foldl_cons]
      exact ih (articleOf_apply_congr h hw.symm) htx.symm

/-! ### Stores that look alike -/

/-- **Replies about transactions that are alike**: the transactions hold the same writes up to
internal ids, and the last one succeeded or failed in both. -/
def SameWrites {α : Type} (r r' : Transaction × Except InfraError α) : Prop :=
  r.1.map Write.nameless = r'.1.map Write.nameless ∧ r.2.isOk = r'.2.isOk

/-- Failures that add nothing are alike. -/
theorem sameWrites_error {α : Type} {tx tx' : Transaction} {e e' : InfraError}
    (htx : tx.map Write.nameless = tx'.map Write.nameless) :
    SameWrites (α := α) (tx, .error e) (tx', .error e') :=
  ⟨htx, rfl⟩

/-- Writes that are alike, one more in both transactions. -/
theorem sameWrites_append {α : Type} {tx tx' : Transaction} {write write' : Write}
    {reply reply' : Except InfraError α} (htx : tx.map Write.nameless = tx'.map Write.nameless)
    (hwrite : write.nameless = write'.nameless) (hreply : reply.isOk = reply'.isOk) :
    SameWrites (tx ++ [write], reply) (tx' ++ [write'], reply') := by
  refine ⟨?_, hreply⟩
  rw [List.map_append, List.map_append, htx, List.map_singleton, List.map_singleton, hwrite]

/-- Tags are written alike. -/
theorem sameWrites_upsertTags {tx tx' : Transaction}
    (htx : tx.map Write.nameless = tx'.map Write.nameless) (words : List Tag) :
    SameWrites (upsertTags tx words) (upsertTags tx' words) := by
  rw [upsertTags, upsertTags]
  split
  · exact ⟨htx, rfl⟩
  · exact sameWrites_append htx rfl rfl

/-- **Stores that look alike to a source**: they hold the same articles and the same sync state of
it, they are planned to fail alike, and they were called as often. -/
structure AlikeFor (sourceId : String) (s s' : Store) : Prop where
  articles : ∀ externalId, s.articleOf (sourceId, externalId) = s'.articleOf (sourceId, externalId)
  state : s.states.get? sourceId = s'.states.get? sourceId
  plan : s.plan = s'.plan
  counts : s.counts = s'.counts

namespace AlikeFor

/-- The sync states look alike. -/
theorem stateOf (h : AlikeFor sourceId s s') : s.stateOf sourceId = s'.stateOf sourceId := by
  rw [Store.stateOf, Store.stateOf, h.state]

/-- An existence query is answered alike. -/
theorem heldOf (h : AlikeFor sourceId s s') (ids : List Int64) :
    s.heldOf sourceId ids = s'.heldOf sourceId ids := by
  rw [Store.heldOf, Store.heldOf]
  refine congrArg Table.ofEntries (List.filterMap_congr fun id _ => ?_)
  have harticle := congrArg (Option.map fun a : Article => (id, a.lastModified)) (h.articles id)
  rwa [articleOf, articleOf, Option.map_map, Option.map_map] at harticle

/-- Stores still look alike when an article is inserted into both. -/
theorem insert (h : AlikeFor sourceId s s') (a : Article) :
    AlikeFor sourceId (insert a s).2 (Store.insert a s').2 where
  articles externalId := by
    rw [articleOf_insert, articleOf_insert, h.articles]
  state := by rw [insert_snd, insert_snd]; exact h.state
  plan := by rw [insert_snd, insert_snd]; exact h.plan
  counts := by rw [insert_snd, insert_snd]; exact h.counts

/-- **An article of another source changes nothing that a source sees.** -/
theorem insert_right (h : AlikeFor sourceId s s') (ha : a.sourceId ≠ sourceId) :
    AlikeFor sourceId s (Store.insert a s').2 where
  articles externalId := by
    rw [articleOf_insert, if_neg fun hkey => ha (congrArg Prod.fst hkey).symm]
    exact h.articles externalId
  state := by rw [insert_snd]; exact h.state
  plan := by rw [insert_snd]; exact h.plan
  counts := by rw [insert_snd]; exact h.counts

/-- Stores still look alike when articles are inserted into both in a row. -/
theorem foldl_insert (h : AlikeFor sourceId s s') (l : List (Nat × Article)) :
    AlikeFor sourceId (l.foldl (fun s intrusion => (Store.insert intrusion.2 s).2) s)
      (l.foldl (fun s intrusion => (Store.insert intrusion.2 s).2) s') := by
  induction l generalizing s s' with
  | nil => exact h
  | cons intrusion l ih => exact ih (h.insert intrusion.2)

/-- **An existence query** about the source is answered alike, also where other writers intrude. -/
theorem held (h : AlikeFor sourceId s s') (ids : List Int64) :
    (held sourceId ids s).1 = (Store.held sourceId ids s').1 ∧
      AlikeFor sourceId (Store.held sourceId ids s).2 (Store.held sourceId ids s').2 := by
  have hasked : AlikeFor sourceId s.asked s'.asked :=
    ⟨h.articles, h.state, h.plan, by rw [asked, asked, h.counts]⟩
  have hintruded : AlikeFor sourceId s.intruded s'.intruded := by
    rw [intruded, intruded, intrude, intrude, hasked.plan, h.counts]
    exact hasked.foldl_insert _
  rw [held_eq, held_eq, h.plan, h.counts]
  split
  · exact ⟨rfl, hasked⟩
  · exact ⟨congrArg Except.ok (hintruded.heldOf ids), hintruded⟩

/-- **An upsert** is answered alike. -/
theorem upsert (h : AlikeFor sourceId s s') {tx tx' : Transaction}
    (htx : tx.map Write.nameless = tx'.map Write.nameless) (a : Article) :
    SameWrites (upsert tx a s).1 (Store.upsert tx' a s').1 ∧
      AlikeFor sourceId (Store.upsert tx a s).2 (Store.upsert tx' a s').2 := by
  constructor
  · by_cases hmem : a.externalId ∈ s.plan.upserts
    · obtain ⟨e, he⟩ : ∃ e, (Store.upsert tx a s).1 = (tx, .error e) := upsert_of_mem hmem
      obtain ⟨e', he'⟩ : ∃ e, (Store.upsert tx' a s').1 = (tx', .error e) :=
        upsert_of_mem (h.plan ▸ hmem)
      rw [he, he']
      exact sameWrites_error htx
    · rw [upsert_of_not_mem hmem, upsert_of_not_mem (s := s') (h.plan ▸ hmem)]
      exact sameWrites_append htx rfl rfl
  · rw [upsert_snd tx a s, upsert_snd tx' a s']
    exact ⟨h.articles, h.state, h.plan, by rw [h.counts]⟩

/-- **Links** are written alike, under any internal ids. -/
theorem link (h : AlikeFor sourceId s s') {tx tx' : Transaction}
    (htx : tx.map Write.nameless = tx'.map Write.nameless) (id id' : Int64) (tagIds : List Int64) :
    SameWrites (s.link tx id tagIds) (s'.link tx' id' tagIds) := by
  rw [Store.link, Store.link, h.plan]
  split
  · exact sameWrites_error htx
  · exact sameWrites_append htx rfl rfl

/-- **A commit** of the same writes, up to internal ids. -/
theorem commit (h : AlikeFor sourceId s s') {tx tx' : Transaction}
    (htx : tx.map Write.nameless = tx'.map Write.nameless) :
    AlikeFor sourceId (s.commit tx) (s'.commit tx') where
  articles externalId := articleOf_commit_congr (h.articles externalId) htx
  state := by rw [commit_eq s, commit_eq s']; exact h.state
  plan := by rw [commit_eq s, commit_eq s']; exact h.plan
  counts := by rw [commit_eq s, commit_eq s', h.counts]

/-- A rollback is counted. -/
theorem rollback (h : AlikeFor sourceId s s') : AlikeFor sourceId s.rollback s'.rollback :=
  ⟨h.articles, h.state, h.plan, by rw [Store.rollback, Store.rollback, h.counts]⟩

/-- **A sync state** is written to both stores, or to none. -/
theorem writeState (h : AlikeFor sourceId s s') (state : SyncState) :
    (writeState state s).1 = (Store.writeState state s').1 ∧
      AlikeFor sourceId (Store.writeState state s).2 (Store.writeState state s').2 := by
  rw [Store.writeState, Store.writeState]
  simp only [h.plan]
  split
  · exact ⟨rfl, h.articles, h.state, rfl, by rw [h.counts]⟩
  · refine ⟨rfl, h.articles, ?_, rfl, by rw [h.counts]⟩
    rw [Table.get?_set, Table.get?_set, h.state]

end AlikeFor

/-! ### What is left alone -/

/-- **The rows of some keys and their links are left alone.** -/
structure Untouched (keys : Article.Key → Prop) (s s' : Store) : Prop where
  rows : ∀ key, keys key → s'.row? key = s.row? key
  links : ∀ key, keys key → s'.linksOf key = s.linksOf key

variable {keys : Article.Key → Prop} {pending : Write → Prop}

/-- Nothing is touched where the content stays. -/
theorem untouched_of_content (h : s'.content = s.content) : Untouched keys s s' :=
  ⟨fun key _ => row?_of_content h key, fun key _ => linksOf_of_content h key⟩

/-- What is left alone twice is left alone. -/
theorem Untouched.trans {s'' : Store} (h : Untouched keys s s') (h' : Untouched keys s' s'') :
    Untouched keys s s'' :=
  ⟨fun key hkey => (h'.rows key hkey).trans (h.rows key hkey),
    fun key hkey => (h'.links key hkey).trans (h.links key hkey)⟩

/-- **An insertion leaves the other keys alone.** -/
theorem Sound.untouched_insert (h : s.Sound pending) (hroom : s.HasRoom 1)
    (hne : ∀ key, keys key → key ≠ a.key) : Untouched keys s (Store.insert a s).2 := by
  have hrow : ∀ key, keys key → (Store.insert a s).2.row? key = s.row? key := fun key hkey => by
    rw [insert_snd, row?, Table.get?_set, if_neg (hne key hkey)]
    rfl
  refine ⟨hrow, fun key hkey => h.linksOf_eq_of_ne hroom (hne key hkey) (hrow key hkey) ?_⟩
  intro id hid
  rw [insert_snd]
  exact (Table.get?_set _ _ _ _).trans (if_neg hid)

/-- **The unit of work of an article leaves the other keys alone**, although its links are written
under an internal id. -/
theorem Sound.untouched_commit (h : s.Sound pending) (hroom : s.HasRoom 1)
    (hne : ∀ key, keys key → key ≠ a.key) :
    Untouched keys s (s.commit (a.writes (s.idOf a.key))) := by
  have hrow : ∀ key, keys key → (s.commit (a.writes (s.idOf a.key))).row? key = s.row? key :=
    fun key hkey => by rw [row?_commit_writes, if_neg (hne key hkey)]
  refine ⟨hrow, fun key hkey => h.linksOf_eq_of_ne hroom (hne key hkey) (hrow key hkey) ?_⟩
  intro id hid
  rw [links_commit_writes, if_neg fun h => hid h.1]

/-- **Insertions in a row leave the other keys alone.** -/
theorem Sound.untouched_foldl_insert (h : s.Sound pending) (l : List (Nat × Article))
    (hroom : s.HasRoom l.length)
    (hne : ∀ key, keys key → ∀ intrusion ∈ l, key ≠ intrusion.2.key) :
    Untouched keys s (l.foldl (fun s intrusion => (Store.insert intrusion.2 s).2) s) := by
  induction l generalizing s with
  | nil => exact untouched_of_content rfl
  | cons intrusion l ih =>
      obtain ⟨hone, hrest⟩ := hroom.insert intrusion.2
      have hfirst : Untouched keys s (Store.insert intrusion.2 s).2 :=
        h.untouched_insert hone fun key hkey => hne key hkey _ List.mem_cons_self
      exact hfirst.trans (ih (h.insert hone) hrest fun key hkey x hx =>
        hne key hkey x (List.mem_cons_of_mem _ hx))

/-! ### Room for what is to come -/

/-- How many of the planned intrusions are still to come. -/
def awaited (s : Store) : Nat :=
  s.plan.intrusions.countP fun intrusion => s.counts.queries < intrusion.1

/-- **A sound store with room** for the intrusions that are still to come, and for so many saves. -/
structure Ready (pending : Write → Prop) (n : Nat) (s : Store) : Prop where
  sound : s.Sound pending
  room : s.HasRoom (s.awaited + n)

variable {n m : Nat}

/-- Room for many saves is room for fewer. -/
theorem Ready.mono (h : s.Ready pending m) (hle : n ≤ m) : s.Ready pending n :=
  ⟨h.sound, h.room.mono (Nat.add_le_add_left hle _)⟩

/-- Those that are still to come before an existence query intrude into it, or come later. -/
theorem awaited_eq (s : Store) : s.awaited =
    (s.plan.intrusions.filter (·.1 = s.counts.queries + 1)).length + s.intruded.awaited := by
  rw [awaited, awaited, plan_intruded, counts_intruded, ← List.countP_eq_length_filter]
  change _ = _ + s.plan.intrusions.countP fun intrusion => s.counts.queries + 1 < intrusion.1
  induction s.plan.intrusions with
  | nil => rfl
  | cons intrusion l ih =>
      rw [List.countP_cons, List.countP_cons, List.countP_cons, ih]
      rcases Nat.lt_trichotomy intrusion.1 (s.counts.queries + 1) with h | h | h
      · simp [h.ne, Nat.not_lt.mpr h.le, Nat.not_lt.mpr (Nat.le_of_lt_succ h)]
      · simp [h]
        omega
      · simp [h.ne', h, Nat.lt_of_succ_lt h]
        omega

/-- **An existence query leaves a store ready**, and the keys alone that no planned writer
writes. -/
theorem Ready.held (h : s.Ready pending n) (sourceId : String) (ids : List Int64)
    (keys : Article.Key → Prop)
    (hne : ∀ key, keys key → ∀ intrusion ∈ s.plan.intrusions, key ≠ intrusion.2.key) :
    (Store.held sourceId ids s).2.Ready pending n ∧
      Untouched keys s (Store.held sourceId ids s).2 ∧
      (Store.held sourceId ids s).2.plan = s.plan := by
  rw [held_eq]
  split
  · have hle : s.asked.awaited ≤ s.awaited := List.countP_mono_left fun intrusion _ hlt =>
      decide_eq_true (Nat.lt_of_succ_lt (of_decide_eq_true hlt))
    have hroom : s.asked.HasRoom (s.asked.awaited + n) := h.room.mono (Nat.add_le_add_right hle n)
    exact ⟨⟨h.sound.asked, hroom⟩, untouched_of_content rfl, rfl⟩
  · let l := s.plan.intrusions.filter (·.1 = s.counts.queries + 1)
    have hroom : s.asked.HasRoom (l.length + (s.intruded.awaited + n)) := by
      have hroom := h.room
      rw [awaited_eq, Nat.add_assoc] at hroom
      exact hroom
    have hroom' : s.asked.HasRoom l.length := hroom.mono (Nat.le_add_right _ _)
    obtain ⟨hsound, hlast⟩ := h.sound.asked.foldl_insert l hroom'
    have huntouched : Untouched keys s.asked s.intruded :=
      h.sound.asked.untouched_foldl_insert l hroom' fun key hkey x hx =>
        hne key hkey x (List.mem_of_mem_filter hx)
    have hcounted : Untouched keys s s.asked := untouched_of_content rfl
    exact ⟨⟨hsound, hroom.rest hlast⟩, hcounted.trans huntouched, plan_intruded s⟩

/-- An upsert that is not committed leaves the content. -/
theorem content_upsert (tx : Transaction) (a : Article) (s : Store) :
    (Store.upsert tx a s).2.content = s.content := by
  rw [upsert_snd]
  rfl

/-- **The unit of work of an article leaves a store ready**, and the other keys alone. -/
theorem Ready.unitOfWork (h : s.Ready pending (n + 1))
    (hends : s' = (Store.upsert [] a s).2.rollback ∨ a.externalId ∉ s.plan.upserts ∧
      s' = (Store.upsert [] a s).2.commit (a.writes (s.idOf a.key)))
    (hne : ∀ key, keys key → key ≠ a.key) :
    s'.Ready pending n ∧ Untouched keys s s' ∧ s'.plan = s.plan := by
  have hone : s.HasRoom 1 := h.room.mono (by omega)
  have hroom : s.HasRoom (1 + (s.awaited + n)) := h.room.mono (by omega)
  have hrest : (Store.upsert [] a s).2.HasRoom (s.awaited + n) :=
    hroom.rest (hone.lastId_upsert [] a).2
  have hupsert := Store.upsert_snd [] a s
  rcases hends with rfl | ⟨hmem, rfl⟩
  · have hawaited : (Store.upsert [] a s).2.rollback.awaited = s.awaited := by
      rw [hupsert]
      rfl
    refine ⟨⟨h.sound.upsert_rollback hone, ?_⟩, untouched_of_content (content_upsert [] a s), ?_⟩
    · rw [hawaited]
      exact hrest
    · rw [hupsert]
      rfl
  · have hcommit := commit_eq (Store.upsert [] a s).2 (a.writes (s.idOf a.key))
    have hawaited : ((Store.upsert [] a s).2.commit (a.writes (s.idOf a.key))).awaited =
        s.awaited := by
      rw [hcommit, hupsert]
      rfl
    have hcontent : ((Store.upsert [] a s).2.commit (a.writes (s.idOf a.key))).content =
        (s.commit (a.writes (s.idOf a.key))).content :=
      content_commit_congr (content_upsert [] a s) _
    refine ⟨⟨h.sound.upsert_commit hone hmem, ?_⟩,
      (h.sound.untouched_commit hone hne).trans (untouched_of_content hcontent), ?_⟩
    · rw [hawaited, hcommit]
      exact hrest
    · rw [hcommit, hupsert]

end Store

end FeedSync
