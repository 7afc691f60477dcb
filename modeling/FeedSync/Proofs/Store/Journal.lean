import FeedSync.Proofs.Article.Tags
import FeedSync.Proofs.Cycle.Scene

/-!
# The journal of a store

A store keeps of its tags what was written last: a label for each id, and for each internal id the
ids that it was linked to. The **journal** of a store has an entry for every write that a
transaction has committed and for every article that was inserted at once, so that it tells of each
tag how it was labelled last, and of each internal id what it was linked to last. This module keeps
such a journal over steps of any kind, whole cycles included, and reads the tags of an article off
it.

An article that is inserted at once is linked to its tags as they come, once for each time. All
other links are made distinct.

## Main definitions

* `Store.Entry` — what was written, by a transaction or at once.
* `Store.lastLinking?`, `Store.linkedIds` — what an internal id was linked to last.
* `Store.Step` — a step of those who use a store.
* `Store.Accounts` — entries that account for what changed between two states of a store.

## Main statements

* `accounts_journal` — the journal of some steps accounts for what they changed, if each of them
  does.
* `accounts_perform` — the entries of a step account for what it changes.
* `tag_reads_follow_journal` — what is read of the tags of an article.
-/

namespace FeedSync

namespace Store

/-- An entry of a journal. -/
inductive Entry where
  /-- A write of a transaction that was committed. -/
  | committed (write : Write)
  /-- An article that was stored at once, with its internal id. -/
  | inserted (id : Int64) (article : Article)
  deriving DecidableEq, Repr

namespace Entry

/-- The words of the vocabulary that are written. -/
def words : Entry → List Tag
  | committed (.tags tags) => tags
  | committed _ => []
  | inserted _ a => a.tags

/-- The internal id that is linked. -/
def linked? : Entry → Option Int64
  | committed (.links id _) => some id
  | committed _ => none
  | inserted id _ => some id

/-- The ids of the tags that it is linked to. -/
def tagIds : Entry → List Int64
  | committed (.links _ tagIds) => tagIds
  | committed _ => []
  | inserted _ a => a.tagIds

/-- The links as they are kept. -/
def keptIds : Entry → List Int64
  | inserted _ a => a.tagIds
  | entry => Tag.distinctIds entry.tagIds

variable {entry : Entry}

/-- The links that are kept are those that are made. -/
theorem mem_keptIds {id : Int64} : id ∈ entry.keptIds ↔ id ∈ entry.tagIds := by
  cases entry with
  | committed w => exact Tag.mem_distinctIds
  | inserted i a => exact Iff.rfl

/-- **Links are kept once each, unless an article was inserted** that has a tag twice. -/
theorem nodup_keptIds_iff :
    entry.keptIds.Nodup ↔ ∀ id a, entry = inserted id a → a.tagIds.Nodup := by
  cases entry with
  | committed w => exact iff_of_true (Tag.nodup_distinctIds _) fun _ _ h => nomatch h
  | inserted i a =>
      constructor
      · rintro h _ _ ⟨⟩
        exact h
      · exact fun h => h i a rfl

/-- The links of a store with those of an entry. -/
def link (links : Table Int64 (List Int64)) (entry : Entry) : Table Int64 (List Int64) :=
  match entry.linked? with
  | some id => links.set id entry.keptIds
  | none => links

/-- What an entry makes of the links of an internal id. -/
theorem get?_link (links : Table Int64 (List Int64)) (entry : Entry) (id : Int64) :
    (entry.link links).get? id =
      if entry.linked? = some id then some entry.keptIds else links.get? id := by
  rw [link]
  cases entry.linked? with
  | none => rfl
  | some i =>
      simp only [Table.get?_set, Option.some.injEq]
      by_cases h : id = i
      · rw [if_pos h, if_pos h.symm]
      · rw [if_neg h, if_neg fun h' => h h'.symm]

end Entry

/-! ### What was linked last -/

/-- The last entry of a journal that links an internal id. -/
def lastLinking? (journal : List Entry) (id : Int64) : Option Entry :=
  journal.reverse.find? fun entry => entry.linked? = some id

/-- The ids of tags that an internal id was linked to last. -/
def linkedIds (journal : List Entry) (id : Int64) : List Int64 :=
  ((lastLinking? journal id).map Entry.tagIds).getD []

/-- One more entry is the last one that links its internal id. -/
theorem lastLinking?_concat (journal : List Entry) (entry : Entry) (id : Int64) :
    lastLinking? (journal ++ [entry]) id =
      if entry.linked? = some id then some entry else lastLinking? journal id := by
  rw [lastLinking?, List.reverse_append, List.reverse_singleton, List.singleton_append,
    List.find?_cons]
  by_cases h : entry.linked? = some id
  · rw [if_pos h, decide_eq_true h]
  · rw [if_neg h, decide_eq_false h]
    rfl

/-- **The links of an internal id are those that were made last.** -/
theorem get?_foldl_link (journal : List Entry) (links : Table Int64 (List Int64)) (id : Int64) :
    (journal.foldl Entry.link links).get? id =
      ((lastLinking? journal id).map Entry.keptIds).or (links.get? id) := by
  induction journal using List.reverseRecOn with
  | nil => rfl
  | append_singleton journal entry ih =>
      rw [List.foldl_append, List.foldl_cons, List.foldl_nil, Entry.get?_link, ih,
        lastLinking?_concat]
      by_cases h : entry.linked? = some id
      · rw [if_pos h, if_pos h]
        rfl
      · rw [if_neg h, if_neg h]

/-- A tag with which an article was inserted is one of the words of the journal. -/
theorem exists_last?_of_inserted {journal : List Entry} {id i tagId : Int64} {a : Article}
    (h : lastLinking? journal id = some (.inserted i a)) (htag : tagId ∈ a.tagIds) :
    ∃ tag, Tag.last? (journal.flatMap Entry.words) tagId = some tag := by
  have hentry : Entry.inserted i a ∈ journal := List.mem_reverse.mp (List.mem_of_find?_eq_some h)
  obtain ⟨tag, hmem, rfl⟩ := List.mem_map.mp htag
  exact Tag.exists_last? (List.mem_map_of_mem (List.mem_flatMap.mpr ⟨_, hentry, hmem⟩))

/-! ### Entries that account for changes -/

/-- **Entries account for what changed** between two states of a store: the vocabulary has got their
words, and the links are those that they keep. -/
structure Accounts (made : List Entry) (s s' : Store) : Prop where
  tags : s'.tags = (made.flatMap Entry.words).foldl (fun t tag => t.set tag.id tag.label) s.tags
  links : s'.links = made.foldl Entry.link s.links

variable {s s' s'' : Store} {made made' : List Entry}

/-- No entries account for no change. -/
theorem Accounts.of_eq (htags : s'.tags = s.tags) (hlinks : s'.links = s.links) :
    Accounts [] s s' :=
  ⟨htags, hlinks⟩

/-- Entries account for changes one after the other. -/
theorem Accounts.trans (h : Accounts made s s') (h' : Accounts made' s' s'') :
    Accounts (made ++ made') s s'' where
  tags := by rw [h'.tags, h.tags, List.flatMap_append, List.foldl_append]
  links := by rw [h'.links, h.links, List.foldl_append]

/-- The journal of some steps, each of which makes some entries. -/
def journal {α : Type} (perform : Store → α → Store) (entries : Store → α → List Entry) :
    List α → Store → List Entry
  | [], _ => []
  | a :: rest, s => entries s a ++ journal perform entries rest (perform s a)

/-- **The journal of some steps accounts for what they changed**, if each of them accounts for what
it changes. -/
theorem accounts_journal {α : Type} {perform : Store → α → Store}
    {entries : Store → α → List Entry} (h : ∀ s a, Accounts (entries s a) s (perform s a))
    (steps : List α) (s : Store) :
    Accounts (journal perform entries steps s) s (steps.foldl perform s) := by
  induction steps generalizing s with
  | nil => exact .of_eq rfl rfl
  | cons a rest ih => exact (h s a).trans (ih _)

/-! ### Single steps -/

/-- An article that is inserted accounts for what changes. -/
theorem accounts_insert (a : Article) (s : Store) :
    Accounts [.inserted (s.idOf a.key) a] s (insert a s).2 := by
  rw [insert_snd]
  refine ⟨?_, rfl⟩
  rw [List.flatMap_singleton]
  rfl

/-- A write that is committed accounts for what changes. -/
theorem accounts_apply (w : Write) (s : Store) : Accounts [.committed w] s (s.apply w) := by
  cases w with
  | article id a =>
      rw [apply_article_eq]
      exact ⟨rfl, rfl⟩
  | tags tags =>
      refine ⟨?_, rfl⟩
      rw [List.flatMap_singleton]
      rfl
  | links id tagIds => exact ⟨rfl, rfl⟩

/-- The writes of a transaction account for what its commit changes. -/
theorem accounts_commit (tx : Transaction) (s : Store) :
    Accounts (tx.map .committed) s (s.commit tx) := by
  have hfold : ∀ (tx : Transaction) (s : Store),
      Accounts (tx.map .committed) s (tx.foldl apply s) := by
    intro tx
    induction tx with
    | nil => exact fun s => .of_eq rfl rfl
    | cons w tx ih => exact fun s => (accounts_apply w s).trans (ih (s.apply w))
  exact ⟨(hfold tx s).tags, (hfold tx s).links⟩

/-- What a writer enters who intrudes into an existence query. -/
def intrusionEntries (s : Store) (intrusion : Nat × Article) : List Entry :=
  [.inserted (s.idOf intrusion.2.key) intrusion.2]

end Store

namespace Call

/-- What a call leaves of a store. -/
def leave (s : Store) : Call Transaction → Store
  | .held sourceId ids => (Store.held sourceId ids s).2
  | .upsert tx a => (Store.upsert tx a s).2
  | .commit tx => s.commit tx
  | .rollback _ => s.rollback
  | .writeState state => (Store.writeState state s).2
  | _ => s

/-- What a call enters into the journal of a store: what other writers insert before an existence
query that is answered, and the writes that are committed. -/
def entries (s : Store) : Call Transaction → List Store.Entry
  | .held _ _ =>
    if s.plan.refuses (s.counts.queries + 1) then []
    else
      Store.journal (fun s intrusion => (Store.insert intrusion.2 s).2) Store.intrusionEntries
        (s.plan.intrusions.filter (·.1 = s.counts.queries + 1)) s.asked
  | .commit tx => tx.map .committed
  | _ => []

/-- **The entries of a call account for what it changes.** -/
theorem accounts_leave (s : Store) (c : Call Transaction) :
    Store.Accounts (c.entries s) s (c.leave s) := by
  cases c with
  | held sourceId ids =>
      rw [entries, leave, Store.held_eq]
      split
      · exact .of_eq rfl rfl
      · have h := Store.accounts_journal (fun s intrusion => Store.accounts_insert intrusion.2 s)
          (s.plan.intrusions.filter (·.1 = s.counts.queries + 1)) s.asked
        exact ⟨h.tags, h.links⟩
  | upsert tx a =>
      rw [leave, Store.upsert_snd]
      exact .of_eq rfl rfl
  | commit tx => exact Store.accounts_commit tx s
  | writeState state =>
      rw [leave, Store.writeState]
      split <;> exact .of_eq rfl rfl
  | begin => exact .of_eq rfl rfl
  | upsertTags tx tags => exact .of_eq rfl rfl
  | link tx id tagIds => exact .of_eq rfl rfl
  | rollback tx => exact .of_eq rfl rfl
  | readState sourceId => exact .of_eq rfl rfl
  | external c => exact .of_eq rfl rfl

end Call

/-- What a store is left as that has answered a call. -/
theorem Store.answer_snd (external : (c : External) → c.Reply) (s : Store) (c : Call Transaction) :
    (s.answer external c).2 = c.leave s := by
  cases c <;> rfl

/-- **A program that no one disturbs leaves what its calls leave**, which are written down. -/
theorem Scene.run_alone {α : Type} (w : Replies) (p : Calls Transaction α) (sc : Scene) :
    ∃ calls, (Program.run (answer w alone) p sc).2.calls = sc.calls ++ calls ∧
      (Program.run (answer w alone) p sc).2.store = calls.foldl Call.leave sc.store := by
  induction p generalizing sc with
  | done a => exact ⟨[], (List.append_nil _).symm, rfl⟩
  | ask c next ih =>
      obtain ⟨calls, hcalls, hstore⟩ := ih (answer w alone c sc).1 (answer w alone c sc).2
      refine ⟨c :: calls, hcalls.trans (List.append_assoc ..), hstore.trans ?_⟩
      rw [List.foldl_cons, ← Store.answer_snd (w.external sc.calls)]
      rfl

namespace Store

/-! ### Steps of those who use a store -/

/-- **A step of those who use a store**: a call with any transaction, an article that is inserted at
once, a change of what is planned to fail or to intrude, or a whole cycle. -/
inductive Step where
  | call (c : Call Transaction)
  | insert (article : Article)
  | replan (plan : FaultPlan)
  | cycle (w : Replies) (settings : Cycle.Settings)

namespace Step

/-- What a step leaves of a store. -/
def perform (s : Store) : Step → Store
  | .call c => c.leave s
  | .insert a => (Store.insert a s).2
  | .replan plan => { s with plan }
  | .cycle w settings => (Cycle.outcome w settings s).2.store

/-- What a step enters into the journal of a store. A cycle enters what its calls do. -/
def entries (s : Store) : Step → List Entry
  | .call c => c.entries s
  | .insert a => [.inserted (s.idOf a.key) a]
  | .replan _ => []
  | .cycle w settings => journal Call.leave Call.entries (Cycle.outcome w settings s).2.calls s

/-- **The entries of a step account for what it changes.** -/
theorem accounts_perform (s : Store) (step : Step) :
    Accounts (step.entries s) s (step.perform s) := by
  cases step with
  | call c => exact c.accounts_leave s
  | insert a => exact accounts_insert a s
  | replan plan => exact .of_eq rfl rfl
  | cycle w settings =>
      obtain ⟨calls, hcalls, hstore⟩ := Scene.run_alone w (FeedSync.cycle settings) (.start s)
      have hjournal : entries s (.cycle w settings) = journal Call.leave Call.entries calls s :=
        congrArg (journal Call.leave Call.entries · s) hcalls
      have hperform : perform s (.cycle w settings) = calls.foldl Call.leave s := hstore
      rw [hjournal, hperform]
      exact accounts_journal Call.accounts_leave calls s

end Step

/-! ### Reading the tags of an article -/

variable {s : Store} {articleId : Int64} {tag : Tag}

/-- **The tags that are read** are those that the article is linked to and the vocabulary knows. -/
theorem mem_tagsFor : tag ∈ s.tagsFor articleId ↔
    tag.id ∈ (s.links.get? articleId).getD [] ∧ s.tags.get? tag.id = some tag.label := by
  rw [tagsFor, List.mem_mergeSort, List.mem_filterMap]
  constructor
  · rintro ⟨id, hid, hknown⟩
    obtain ⟨label, hlabel, rfl⟩ := Option.map_eq_some_iff.mp hknown
    exact ⟨hid, hlabel⟩
  · rintro ⟨hid, hlabel⟩
    exact ⟨tag.id, hid, by rw [hlabel]; rfl⟩

/-- **Tags are read in the order of their ids.** -/
theorem pairwise_tagsFor (s : Store) (articleId : Int64) :
    (s.tagsFor articleId).Pairwise fun a b => a.id ≤ b.id := by
  rw [tagsFor]
  refine (List.pairwise_mergeSort (fun a b c hab hbc => ?_) (fun a b => ?_) _).imp
    of_decide_eq_true
  · exact decide_eq_true (Int64.le_trans (of_decide_eq_true hab) (of_decide_eq_true hbc))
  · simpa using Int64.le_total a.id b.id

/-- The ids of the tags that are read, up to their order: as often as they are linked. -/
theorem map_id_tagsFor_perm (s : Store) (articleId : Int64) :
    ((s.tagsFor articleId).map Tag.id).Perm
      (((s.links.get? articleId).getD []).filter fun id => (s.tags.get? id).isSome) := by
  refine ((List.mergeSort_perm _ _).map Tag.id).trans (.of_eq ?_)
  rw [List.map_filterMap, ← List.filterMap_eq_filter]
  refine List.filterMap_congr fun id _ => ?_
  rw [Option.guard]
  cases s.tags.get? id <;> rfl

/-- **No tag is read twice if no tag that the vocabulary knows is linked twice.** -/
theorem pairwise_lt_tagsFor_iff : ((s.tagsFor articleId).Pairwise fun a b => a.id < b.id) ↔
    (((s.links.get? articleId).getD []).filter fun id => (s.tags.get? id).isSome).Nodup := by
  rw [← (map_id_tagsFor_perm s articleId).nodup_iff, List.Nodup, List.pairwise_map]
  have hsorted := pairwise_tagsFor s articleId
  constructor
  · exact fun h => h.imp fun hlt => (Int64.lt_iff_le_and_ne.mp hlt).2
  · exact fun h => (hsorted.and h).imp fun ⟨hle, hne⟩ => Int64.lt_of_le_of_ne hle hne

/-- **What is read of the tags of an article.** After any steps of those who use a store that was
empty, the tags of an internal id are read in the order of their ids, and they are the tags that it
was linked to last of those that were written, each as it was written last. No tag is read twice,
unless what linked the internal id last is an article that was inserted at once and has a tag
twice. -/
theorem tag_reads_follow_journal (steps : List Step) (articleId : Int64) :
    let s := steps.foldl Step.perform {}
    let made := journal Step.perform Step.entries steps {}
    let read := s.tagsFor articleId
    (read.Pairwise fun a b => a.id ≤ b.id) ∧
      (∀ tag, tag ∈ read ↔
        tag.id ∈ linkedIds made articleId ∧ Tag.IsLast (made.flatMap Entry.words) tag) ∧
      ((read.Pairwise fun a b => a.id < b.id) ↔
        ∀ id a, lastLinking? made articleId = some (.inserted id a) → a.tagIds.Nodup) := by
  intro s made read
  have haccounts : Accounts made {} s := accounts_journal Step.accounts_perform steps {}
  have hlabel : ∀ id, s.tags.get? id =
      (Tag.last? (made.flatMap Entry.words) id).map Tag.label := fun id => by
    rw [haccounts.tags, Tag.get?_foldl_set]
    exact Option.or_none
  have hlinks : s.links.get? articleId = (lastLinking? made articleId).map Entry.keptIds := by
    rw [haccounts.links, get?_foldl_link]
    exact Option.or_none
  refine ⟨pairwise_tagsFor s articleId, fun tag => ?_, ?_⟩
  · rw [mem_tagsFor, hlabel, Tag.label_last?_eq_some_iff, hlinks, linkedIds]
    cases lastLinking? made articleId with
    | none => exact Iff.rfl
    | some entry => exact and_congr_left' Entry.mem_keptIds
  · rw [pairwise_lt_tagsFor_iff, hlinks]
    cases hlast : lastLinking? made articleId with
    | none => exact iff_of_true List.nodup_nil fun _ _ h => nomatch h
    | some entry =>
        simp only [Option.map_some, Option.getD_some, Option.some.injEq]
        rw [← Entry.nodup_keptIds_iff]
        cases entry with
        | committed w =>
            exact iff_of_true ((Tag.nodup_distinctIds _).filter _) (Tag.nodup_distinctIds _)
        | inserted id a =>
            -- the vocabulary knows the tags of an article from when it was inserted
            have hknown : ∀ tagId ∈ a.tagIds, (s.tags.get? tagId).isSome = true :=
              fun tagId htag => by
                obtain ⟨tag, htag⟩ := exists_last?_of_inserted hlast htag
                rw [hlabel, htag]
                rfl
            rw [Entry.keptIds, List.filter_eq_self.mpr hknown]

/-- An article is inserted with the same tag under two labels, and its tags are read. -/
example :
    let s := Step.perform {} (.insert (.bare 1 .sooner [⟨7, "a"⟩, ⟨7, "b"⟩]))
    s.tagsFor 1 = [⟨7, "b"⟩, ⟨7, "b"⟩] := by
  cbv

end Store

end FeedSync
