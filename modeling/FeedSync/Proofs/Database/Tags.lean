import FeedSync.Cycle.Save
import FeedSync.Proofs.Article.Tags
import FeedSync.Proofs.Cycle.Scene
import FeedSync.Proofs.Database.Meaning

/-!
# Tags in the database and in memory

The store in memory writes tags one after the other. The database gets them as the rows of one
statement, and a statement that inserts or updates rows must not affect a row twice: the
documentation says that it fails as a whole. So the tags are made distinct first. This module gives
the statement with many rows its documented meaning, and shows that the database takes distinct tags
and that both stores end with the same vocabulary.

## Main definitions

* `Insert.proposals`, `Insert.putAll` — what a statement with many rows does.
* `KeepsTags` — a server that keeps tags.
* `SameLabels` — a table and a vocabulary hold the same labels.
* `writeTags` — the writing of tags in a unit of work of its own.

## Main statements

* `Insert.putAll_eq_some_iff` — a statement is carried out if its rows have distinct keys.
* `run_writeTags` — what the writing of tags does in the database.
* `distinct_tags_lose_nothing` — distinct tags are written once each, and nothing is lost.
-/

namespace FeedSync.Database

open Program

/-! ### Statements with many rows -/

namespace Insert

variable {i : Insert} {now : Timestamp} {affected : List (List Value)} {news : List Record}
  {new : Record} {table content : Keyed}

/-- The rows that a statement proposes, in order, given the defaults of the columns. -/
def proposals (i : Insert) (defaults : Record) : List Record :=
  i.rows.map fun values column => ((i.columns.zip values).lookup column).getD (defaults column)

/-- **What a table holds after a statement with many rows**, where the statement has inserted or
updated the rows with the keys in `affected` already. It fails as a whole if it would affect one of
them again. -/
def putAll (i : Insert) (now : Timestamp) :
    (affected : List (List Value)) → List Record → Keyed → Option Keyed
  | _, [], table => some table
  | affected, new :: news, table =>
    if i.keyOf new ∈ affected then none
    else
      let affected := if (i.written now new table).isSome then i.keyOf new :: affected else affected
      i.putAll now affected news (i.put now new table)

/-- A statement without a condition writes every row. -/
theorem isSome_written (h : i.rising = none) : (i.written now new table).isSome = true := by
  rw [written]
  split
  · rw [updates, h, if_pos rfl]
    rfl
  · rfl

/-- **A statement without a condition is carried out if its rows have distinct keys**, none of which
was affected before, and then it puts the rows one after the other. -/
theorem putAll_eq_some_iff (h : i.rising = none) : i.putAll now affected news table = some content ↔
    (news.map i.keyOf).Nodup ∧ (news.map i.keyOf).Disjoint affected ∧
      news.foldl (fun table new => i.put now new table) table = content := by
  induction news generalizing affected table with
  | nil => simp [putAll]
  | cons new news ih =>
      rw [putAll, List.map_cons, List.nodup_cons, List.disjoint_cons_left, List.foldl_cons]
      by_cases hkey : i.keyOf new ∈ affected
      · rw [if_pos hkey]
        exact ⟨nofun, fun hnews => absurd hkey hnews.2.1.1⟩
      · rw [if_neg hkey, isSome_written h, if_pos rfl, ih, List.disjoint_cons_right]
        constructor
        · rintro ⟨hnodup, ⟨hnew, haffected⟩, hcontent⟩
          exact ⟨⟨hnew, hnodup⟩, ⟨hkey, haffected⟩, hcontent⟩
        · rintro ⟨⟨hnew, hnodup⟩, ⟨-, haffected⟩, hcontent⟩
          exact ⟨hnodup, ⟨hnew, haffected⟩, hcontent⟩

end Insert

variable {Tx σ : Type}

/-- **A server that keeps tags**, where `table` tells the rows that it has in a state: it begins and
commits transactions, and the statement that writes tags has its documented meaning. -/
structure KeepsTags (server : (q : Request Tx) → StateM σ q.Reply) (table : σ → Keyed) : Prop where
  begin (t : σ) : ∃ tx t', server .begin t = (.ok tx, t') ∧ table t' = table t
  commit (tx : Tx) (t : σ) : ∃ t', server (.commit tx) t = (.ok (), t') ∧ table t' = table t
  upsertTags (tx : Tx) {tags : List Tag} (h : tags ≠ []) (t : σ) :
    ∃ (now : Timestamp) (defaults : Record) (t' : σ),
      let i := Statement.tagInsert tags
      match i.putAll now [] (i.proposals defaults) (table t) with
      | some content =>
        server (.run (some tx) (.upsertTags tags)) t = (.ok [], t') ∧ table t' = content
      | none => ∃ fault, server (.run (some tx) (.upsertTags tags)) t = (.error fault, t')

/-! ### A server -/

/-- A database with nothing but tags, for one program at a time. -/
structure TagTable where
  rows : Keyed := fun _ => none
  /-- The rows when the transaction was begun. -/
  saved : Keyed := fun _ => none

/-- Answers a request at some time. -/
def TagTable.answer (now : Timestamp) : (q : Request Unit) → StateM TagTable q.Reply
  | .begin => fun t => (.ok (), { t with saved := t.rows })
  | .commit _ => fun t => (.ok (), t)
  | .rollback _ => fun t => (.ok (), { t with rows := t.saved })
  | .run _ (.upsertTags tags) => fun t =>
    let i := Statement.tagInsert tags
    match i.putAll now [] (i.proposals fun _ => .null) t.rows with
    | some rows => (.ok [], { t with rows })
    | none =>
      (.error (.server "ON CONFLICT DO UPDATE command cannot affect row a second time"), t)
  | .run _ _ => fun t => (.error (.server "relation does not exist"), t)
  | .ledger => fun t => (.ok {}, t)
  | .record _ _ => fun t => (.ok (), t)

/-- The database with nothing but tags keeps them. -/
theorem keepsTags_tagTable (now : Timestamp) : KeepsTags (TagTable.answer now) TagTable.rows where
  begin _ := ⟨(), _, rfl, rfl⟩
  commit _ _ := ⟨_, rfl, rfl⟩
  upsertTags tx tags _ t := by
    refine ⟨now, fun _ => .null, (TagTable.answer now (.run (some tx) (.upsertTags tags)) t).2, ?_⟩
    simp only [TagTable.answer]
    split
    · exact ⟨rfl, rfl⟩
    · exact ⟨_, rfl⟩

/-! ### Labels in the table -/

open Statement (tagInsert)

/-- What a table of tags holds as the label of an id. -/
def labelIn (table : Keyed) (id : Int64) : Option Value := (table [.ofInt64 id]).map (· "label")

/-- **A table and a vocabulary hold the same labels.** -/
def SameLabels (table : Keyed) (vocabulary : Table Int64 String) : Prop :=
  ∀ id, labelIn table id = (vocabulary.get? id).map Value.text

variable {now : Timestamp} {defaults : Record} {content : Keyed} {tags all : List Tag}
  {vocabulary : Table Int64 String}

/-- The row that is proposed for a tag. -/
def tagRecord (defaults : Record) (tag : Tag) : Record := fun column =>
  ((["id", "label"].zip [.ofInt64 tag.id, .text tag.label]).lookup column).getD (defaults column)

/-- The rows that the statement about some tags proposes. -/
theorem proposals_tagInsert (tags : List Tag) (defaults : Record) :
    (tagInsert tags).proposals defaults = tags.map (tagRecord defaults) :=
  List.map_map

/-- The row of a tag is found under its id. -/
theorem keyOf_tagRecord (tag : Tag) : (tagInsert all).keyOf (tagRecord defaults tag) =
    [.ofInt64 tag.id] :=
  rfl

/-- The values by which the row of an id is found tell the id. -/
theorem singleton_ofInt64_injective :
    Function.Injective fun id : Int64 => ([.ofInt64 id] : List Value) := fun _ _ h =>
  Int64.toInt_inj.mp (Value.integer.inj (List.singleton_inj.mp h))

/-- **The statement about some tags is carried out if their ids are distinct.** -/
theorem putAll_tagInsert_eq_some_iff (now : Timestamp) (defaults : Record) (before : Keyed) :
    (tagInsert tags).putAll now [] ((tagInsert tags).proposals defaults) before = some content ↔
      (tags.map Tag.id).Nodup ∧ (tags.map (tagRecord defaults)).foldl
        (fun table new => (tagInsert tags).put now new table) before = content := by
  have hkeys : (tags.map (tagRecord defaults)).map (tagInsert tags).keyOf =
      (tags.map Tag.id).map fun id => [.ofInt64 id] := by
    rw [List.map_map, List.map_map]
    rfl
  rw [Insert.putAll_eq_some_iff rfl, proposals_tagInsert, hkeys,
    List.nodup_map_iff singleton_ofInt64_injective]
  simp

/-- **Putting the row of a tag gives its id its label**, whether a row was there or not. -/
theorem labelIn_put (tag : Tag) (id : Int64) :
    labelIn ((tagInsert all).put now (tagRecord defaults tag) content) id =
      if id = tag.id then some (.text tag.label) else labelIn content id := by
  simp only [labelIn, Insert.put, keyOf_tagRecord, singleton_ofInt64_injective.eq_iff]
  by_cases hid : id = tag.id
  · rw [if_pos hid, if_pos hid, Insert.written, keyOf_tagRecord]
    cases content [.ofInt64 tag.id] with
    | none => rfl
    | some old => rfl
  · rw [if_neg hid, if_neg hid]

/-- **Putting the rows of tags is writing the tags one after the other.** -/
theorem SameLabels.foldl (h : SameLabels content vocabulary) (tags : List Tag) :
    SameLabels ((tags.map (tagRecord defaults)).foldl
        (fun table new => (tagInsert all).put now new table) content)
      (tags.foldl (fun t tag => t.set tag.id tag.label) vocabulary) := by
  induction tags generalizing content vocabulary with
  | nil => exact h
  | cons tag tags ih =>
      refine ih fun id => ?_
      rw [labelIn_put, Table.get?_set, h id]
      split <;> rfl

/-! ### Writing tags -/

variable {server : (q : Request Tx) → StateM σ q.Reply} {table : σ → Keyed} {t : σ} {s : Store}

/-- Writes tags in a unit of work of its own. -/
def writeTags (tags : List Tag) : Calls Tx (Except InfraError Unit) :=
  unitOfWork fun tx => call (.upsertTags tx tags)

/-- **An upsert of tags in the database succeeds**, and leaves the labels that writing all of them
one after the other would leave. -/
theorem run_upsertTags (hserver : KeepsTags server table) (tx : Tx)
    (h : SameLabels (table t) vocabulary) (tags : List Tag) :
    ∃ t', run server (upsertTags tx tags) t = (.ok (), t') ∧
      SameLabels (table t') (tags.foldl (fun t tag => t.set tag.id tag.label) vocabulary) := by
  by_cases hnil : tags = []
  · subst hnil
    exact ⟨t, rfl, h⟩
  · have hdistinct : Tag.distinct tags ≠ [] := mt Tag.distinct_eq_nil_iff.mp hnil
    obtain ⟨now, defaults, t', hreply⟩ := hserver.upsertTags tx hdistinct t
    -- the ids are distinct, so that no row is affected twice
    have hput := (putAll_tagInsert_eq_some_iff now defaults (table t)).mpr
      ⟨Tag.nodup_map_id_distinct tags, rfl⟩
    simp only [hput] at hreply
    obtain ⟨hanswer, htable⟩ := hreply
    refine ⟨t', ?_, fun id => ?_⟩
    · have hrun : run server (ask (.run (some tx) (.upsertTags (Tag.distinct tags)))) t =
          (.ok [], t') := hanswer
      rw [upsertTags, if_neg (by simpa using hnil), execute, run_bind_of_run hrun]
      rfl
    · rw [htable, h.foldl (Tag.distinct tags) id, Tag.get?_foldl_set_distinct]

/-- **Tags are written to the database.** -/
theorem run_writeTags (hserver : KeepsTags server table)
    (others : (c : External) → StateM σ c.Reply) (h : SameLabels (table t) vocabulary)
    (tags : List Tag) : ∃ t', run (answer server others) (writeTags tags) t = (.ok (), t') ∧
      SameLabels (table t') (tags.foldl (fun t tag => t.set tag.id tag.label) vocabulary) := by
  obtain ⟨tx, t₁, hbegin, htable₁⟩ := hserver.begin t
  rw [← htable₁] at h
  obtain ⟨t₂, hupsert, hlabels⟩ := run_upsertTags hserver tx h tags
  obtain ⟨t₃, hcommit, htable₃⟩ := hserver.commit tx t₂
  refine ⟨t₃, ?_, htable₃ ▸ hlabels⟩
  have hwritten : run (answer server others) (call (.upsertTags tx tags)) t₁ =
      ((tx, .ok ()), t₂) := by
    change ((tx, (run server (upsertTags tx tags) t₁).1),
      (run server (upsertTags tx tags) t₁).2) = _
    rw [hupsert]
  exact run_unitOfWork hbegin hwritten hcommit

/-- **Tags are written to a store in memory**, one after the other. -/
theorem run_writeTags_memory (external : (c : External) → c.Reply) (tags : List Tag) :
    ∃ s', run (Store.answer external) (writeTags tags) s = (.ok (), s') ∧
      s'.tags = tags.foldl (fun t tag => t.set tag.id tag.label) s.tags := by
  cases tags with
  | nil => exact ⟨s.commit [], rfl, rfl⟩
  | cons tag tags => exact ⟨s.commit [.tags (tag :: tags)], rfl, rfl⟩

/-- **Making tags distinct loses nothing.** Of any tags, a pass finds every label that it looks up
and keeps each id once, in the order in which the ids came first, with the tag that came last; tags
that are distinct stay as they are. So the database, which gets distinct tags in one statement and
would refuse one that affects a row twice, takes them, and where a database and a store in memory
hold the same labels, they hold the same labels after the tags were written to both: those of the
tags written one after the other. -/
theorem distinct_tags_lose_nothing (hserver : KeepsTags server table)
    (others : (c : External) → StateM σ c.Reply) (external : (c : External) → c.Reply)
    (hagree : SameLabels (table t) s.tags) (tags : List Tag) :
    let kept := Tag.distinct tags
    let r := run (answer server others) (writeTags tags) t
    let r' := run (Store.answer external) (writeTags tags) s
    Tag.distinctInOnePass tags = some kept ∧
      (kept.map Tag.id).Nodup ∧
      (∀ id, id ∈ kept.map Tag.id ↔ id ∈ tags.map Tag.id) ∧
      (kept.Pairwise fun a b => (tags.map Tag.id).idxOf a.id < (tags.map Tag.id).idxOf b.id) ∧
      (∀ tag, tag ∈ kept ↔ Tag.IsLast tags tag) ∧
      Tag.distinct kept = kept ∧
      r.1 = .ok () ∧ r'.1 = .ok () ∧ SameLabels (table r.2) r'.2.tags ∧
      r'.2.tags = tags.foldl (fun t tag => t.set tag.id tag.label) s.tags := by
  intro kept r r'
  have hids : kept.map Tag.id = Tag.distinctIds (tags.map Tag.id) := Tag.map_id_distinct tags
  have hmem : ∀ id, id ∈ kept.map Tag.id ↔ id ∈ tags.map Tag.id := fun id => by
    rw [hids, Tag.mem_distinctIds]
  have horder : kept.Pairwise fun a b =>
      (tags.map Tag.id).idxOf a.id < (tags.map Tag.id).idxOf b.id := by
    have h := Tag.pairwise_distinctIds (tags.map Tag.id)
    rw [← hids, List.pairwise_map] at h
    exact h
  obtain ⟨t', hrun, hlabels⟩ := run_writeTags hserver others hagree tags
  obtain ⟨s', hrun', htags⟩ := run_writeTags_memory (s := s) external tags
  have hr : r = (.ok (), t') := hrun
  have hr' : r' = (.ok (), s') := hrun'
  rw [hr, hr']
  exact ⟨Tag.distinctInOnePass_eq tags, Tag.nodup_map_id_distinct tags, hmem, horder,
    fun tag => Tag.mem_distinct, Tag.distinct_distinct tags, rfl, rfl, htags ▸ hlabels, htags⟩

/-- A tag comes again with another label, over a vocabulary that knows a third one: the statement
about all of the tags is refused, and the one about the distinct ones leaves the last label. -/
theorem distinct_tags_replace_label :
    let tags : List Tag := [⟨2, "old"⟩, ⟨1, "a"⟩, ⟨2, "new"⟩]
    let known := tagRecord (fun _ => .null) ⟨2, "older"⟩
    let t : TagTable := { rows := fun key => if key = [.ofInt64 2] then some known else none }
    let s : Store := { tags := .ofEntries [(2, "older")] }
    let external := (Replies.listing []).external []
    let server := TagTable.answer (.ofInstant .later)
    let r := run (answer server fun c => return external c) (writeTags tags) t
    SameLabels t.rows s.tags ∧
      (server (.run none (.upsertTags tags)) t).1.isOk = false ∧
      Tag.distinct tags = [⟨2, "new"⟩, ⟨1, "a"⟩] ∧
      r.1 = .ok () ∧ labelIn r.2.rows 2 = some (.text "new") := by
  intro tags known t s external server r
  have hagree : SameLabels t.rows s.tags := fun id => by
    change ((if [Value.ofInt64 id] = [.ofInt64 2] then some known else none).map (· "label")) =
      ((Table.empty.set 2 "older").get? id).map Value.text
    simp only [singleton_ofInt64_injective.eq_iff, Table.get?_set]
    split <;> rfl
  obtain ⟨-, -, -, -, -, -, hreply, -, hlabels, htags⟩ :=
    distinct_tags_lose_nothing (keepsTags_tagTable _) (fun c => return external c) external
      hagree tags
  refine ⟨hagree, by decide +kernel, by decide, hreply, ?_⟩
  rw [hlabels 2, htags]
  decide

end FeedSync.Database
