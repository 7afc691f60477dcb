import Mathlib.Data.List.Induction
import Mathlib.Data.List.Dedup
import Mathlib.Tactic.Common
import FeedSync.Article.OnePass

/-!
# Distinct tags

Making tags distinct keeps of each id the place where it came first and the label that it came with
last. This module tells both apart: the places are those of `distinctIds`, the labels those of
`last?`, and what depends on labels only, like a vocabulary to which the tags are written, cannot
see which tags were left out.

## Main definitions

* `last?` — the last of some tags that has an id.
* `IsLast` — none of the tags after a tag has its id.

## Main statements

* `pairwise_distinctIds` — distinct ids stand in the order in which they came first.
* `mem_distinct` — distinct tags are those that are the last ones with their ids.
* `distinct_distinct` — distinct tags stay as they are.
* `distinctInOnePass_eq` — one pass finds every label that it looks up, and the same tags.
* `get?_foldl_set_distinct` — writing distinct tags leaves the same labels as writing all of them.
-/

namespace FeedSync

namespace Tag

variable {ids : List Int64} {id : Int64} {tags : List Tag} {tag : Tag}

/-! ### Distinct ids -/

/-- One more id at the end is kept if it is new. -/
theorem distinctIds_concat (ids : List Int64) (id : Int64) : distinctIds (ids ++ [id]) =
    if id ∈ distinctIds ids then distinctIds ids else distinctIds ids ++ [id] :=
  List.foldl_append

/-- Keeping first occurrences is keeping last ones from the other end. -/
theorem distinctIds_eq_dedup (ids : List Int64) : distinctIds ids = ids.reverse.dedup.reverse := by
  induction ids using List.reverseRecOn with
  | nil => rfl
  | append_singleton ids last ih =>
      rw [distinctIds_concat, ih, List.reverse_append, List.reverse_singleton,
        List.singleton_append]
      by_cases hlast : last ∈ ids
      · rw [if_pos (by simpa using hlast), List.dedup_cons_of_mem (List.mem_reverse.mpr hlast)]
      · rw [if_neg (by simpa using hlast), List.dedup_cons_of_notMem (by simpa using hlast),
          List.reverse_cons]

/-- Distinct ids are those that they come from. -/
@[simp]
theorem mem_distinctIds : id ∈ distinctIds ids ↔ id ∈ ids := by
  rw [distinctIds_eq_dedup, List.mem_reverse, List.mem_dedup, List.mem_reverse]

/-- Distinct ids are distinct. -/
theorem nodup_distinctIds (ids : List Int64) : (distinctIds ids).Nodup := by
  rw [distinctIds_eq_dedup, List.nodup_reverse]
  exact List.nodup_dedup _

/-- Ids that are distinct stay as they are. -/
theorem distinctIds_of_nodup (h : ids.Nodup) : distinctIds ids = ids := by
  rw [distinctIds_eq_dedup, (List.nodup_reverse.mpr h).dedup, List.reverse_reverse]

/-- **Distinct ids stand in the order in which they came first.** -/
theorem pairwise_distinctIds (ids : List Int64) :
    (distinctIds ids).Pairwise fun a b => ids.idxOf a < ids.idxOf b := by
  induction ids using List.reverseRecOn with
  | nil => exact .nil
  | append_singleton ids last ih =>
      -- one more id does not move the first occurrence of another one
      have hstay : (distinctIds ids).Pairwise fun a b =>
          (ids ++ [last]).idxOf a < (ids ++ [last]).idxOf b := by
        refine ih.imp_of_mem fun {a b} ha hb hlt => ?_
        rwa [List.idxOf_append_of_mem (mem_distinctIds.mp ha),
          List.idxOf_append_of_mem (mem_distinctIds.mp hb)]
      rw [distinctIds_concat]
      split
      · exact hstay
      · next hlast =>
          have hnew : last ∉ ids := mt mem_distinctIds.mpr hlast
          refine List.pairwise_append.mpr ⟨hstay, List.pairwise_singleton _ _, fun a ha b hb => ?_⟩
          obtain rfl := List.mem_singleton.mp hb
          have ha : a ∈ ids := mem_distinctIds.mp ha
          rw [List.idxOf_append_of_mem ha, List.idxOf_append_of_notMem hnew]
          exact Nat.lt_add_right _ (List.idxOf_lt_length_of_mem ha)

/-! ### The last tag with an id -/

/-- The last of some tags that has an id. -/
def last? (tags : List Tag) (id : Int64) : Option Tag := tags.reverse.find? (·.id = id)

/-- **The last tag with its id** among some tags. -/
def IsLast (tags : List Tag) (tag : Tag) : Prop :=
  ∃ before after, tags = before ++ tag :: after ∧ ∀ t ∈ after, t.id ≠ tag.id

/-- One more tag at the end is the last one with its id. -/
theorem last?_concat (tags : List Tag) (tag : Tag) (id : Int64) :
    last? (tags ++ [tag]) id = if tag.id = id then some tag else last? tags id := by
  rw [last?, List.reverse_append, List.reverse_singleton, List.singleton_append, List.find?_cons]
  by_cases h : tag.id = id
  · rw [if_pos h, decide_eq_true h]
  · rw [if_neg h, decide_eq_false h]
    rfl

/-- The last tag with an id has it. -/
theorem id_of_last? (h : last? tags id = some tag) : tag.id = id := by
  have hfound := List.find?_some h
  exact of_decide_eq_true hfound

/-- There is no last tag with an id that none of the tags has. -/
theorem last?_eq_none_iff : last? tags id = none ↔ id ∉ tags.map Tag.id := by
  rw [last?, List.find?_eq_none]
  simp

/-- There is a last tag with each id of some tags. -/
theorem exists_last? (h : id ∈ tags.map Tag.id) : ∃ tag, last? tags id = some tag :=
  Option.ne_none_iff_exists'.mp fun hnone => last?_eq_none_iff.mp hnone h

/-- What is found as the last tag with an id is the last one with its id. -/
theorem isLast_iff : IsLast tags tag ↔ last? tags tag.id = some tag := by
  rw [last?, List.find?_eq_some_iff_append, IsLast]
  constructor
  · rintro ⟨before, after, rfl, hafter⟩
    refine ⟨decide_eq_true rfl, after.reverse, before.reverse, by simp, fun t ht => ?_⟩
    simpa using hafter t (List.mem_reverse.mp ht)
  · rintro ⟨-, after, before, hreverse, hafter⟩
    refine ⟨before.reverse, after.reverse, ?_, fun t ht => ?_⟩
    · rw [← List.reverse_reverse tags, hreverse]
      simp
    · simpa using hafter t (List.mem_reverse.mp ht)

/-- The label that came last with the id of a tag is that of the tag if the tag is the last one. -/
theorem label_last?_eq_some_iff :
    (last? tags tag.id).map label = some tag.label ↔ IsLast tags tag := by
  rw [isLast_iff, Option.map_eq_some_iff]
  constructor
  · rintro ⟨last, hlast, hlabel⟩
    have hsame : last = tag := by
      cases last
      cases tag
      exact congrArg₂ Tag.mk (id_of_last? hlast) hlabel
    rw [hlast, hsame]
  · exact fun hlast => ⟨tag, hlast, rfl⟩

/-- Among tags with distinct ids each one is the last one with its id. -/
theorem last?_eq_some_iff_of_nodup (h : (tags.map Tag.id).Nodup) :
    last? tags id = some tag ↔ tag ∈ tags ∧ tag.id = id := by
  constructor
  · intro hlast
    exact ⟨List.mem_reverse.mp (List.mem_of_find?_eq_some hlast), id_of_last? hlast⟩
  · rintro ⟨htag, rfl⟩
    obtain ⟨before, after, rfl⟩ := List.append_of_mem htag
    refine isLast_iff.mp ⟨before, after, rfl, fun t ht heq => ?_⟩
    rw [List.map_append, List.map_cons, List.nodup_append] at h
    exact (List.nodup_cons.mp h.2.1).1 (heq ▸ List.mem_map_of_mem ht)

/-! ### Distinct tags -/

/-- Distinct tags have distinct ids, which are those of all tags. -/
theorem map_id_distinct (tags : List Tag) :
    (distinct tags).map Tag.id = distinctIds (tags.map Tag.id) := by
  have hfound : ∀ id ∈ distinctIds (tags.map Tag.id), (last? tags id).map Tag.id = some id := by
    intro id hid
    obtain ⟨tag, htag⟩ := exists_last? (mem_distinctIds.mp hid)
    rw [htag, Option.map_some, id_of_last? htag]
  change ((distinctIds (tags.map Tag.id)).filterMap (last? tags)).map Tag.id = _
  rw [List.map_filterMap, List.filterMap_congr hfound, List.filterMap_some]

/-- Distinct tags have distinct ids. -/
theorem nodup_map_id_distinct (tags : List Tag) : ((distinct tags).map Tag.id).Nodup :=
  map_id_distinct tags ▸ nodup_distinctIds _

/-- **Distinct tags are those that are the last ones with their ids.** -/
theorem mem_distinct : tag ∈ distinct tags ↔ IsLast tags tag := by
  change tag ∈ (distinctIds (tags.map Tag.id)).filterMap (last? tags) ↔ _
  rw [List.mem_filterMap, isLast_iff]
  constructor
  · rintro ⟨id, -, hlast⟩
    rwa [id_of_last? hlast]
  · intro hlast
    have htag : tag ∈ tags := List.mem_reverse.mp (List.mem_of_find?_eq_some hlast)
    exact ⟨tag.id, mem_distinctIds.mpr (List.mem_map_of_mem htag), hlast⟩

/-- Only no tags leave no distinct ones. -/
theorem distinct_eq_nil_iff : distinct tags = [] ↔ tags = [] := by
  constructor
  · intro h
    have hids : distinctIds (tags.map Tag.id) = [] := by rw [← map_id_distinct, h, List.map_nil]
    refine List.eq_nil_iff_forall_not_mem.mpr fun tag htag => ?_
    have hid := mem_distinctIds.mpr (List.mem_map_of_mem (f := Tag.id) htag)
    rw [hids] at hid
    nomatch hid
  · rintro rfl
    rfl

/-- **Of an id distinct tags have the same last tag** as all of them. -/
theorem last?_distinct (tags : List Tag) (id : Int64) :
    last? (distinct tags) id = last? tags id := by
  refine Option.ext fun tag => ?_
  rw [last?_eq_some_iff_of_nodup (nodup_map_id_distinct tags), mem_distinct, isLast_iff]
  constructor
  · rintro ⟨hlast, rfl⟩
    exact hlast
  · intro hlast
    obtain rfl := id_of_last? hlast
    exact ⟨hlast, rfl⟩

/-- Tags with distinct ids stay as they are. -/
theorem distinct_of_nodup (h : (tags.map Tag.id).Nodup) : distinct tags = tags := by
  change (distinctIds (tags.map Tag.id)).filterMap (last? tags) = tags
  rw [distinctIds_of_nodup h, List.filterMap_map]
  have hlast : ∀ tag ∈ tags, (last? tags ∘ Tag.id) tag = some tag := fun tag htag =>
    (last?_eq_some_iff_of_nodup h).mpr ⟨htag, rfl⟩
  rw [List.filterMap_congr hlast, List.filterMap_some]

/-- **Distinct tags stay as they are.** -/
theorem distinct_distinct (tags : List Tag) : distinct (distinct tags) = distinct tags :=
  distinct_of_nodup (nodup_map_id_distinct tags)

/-! ### Vocabularies -/

/-- A vocabulary has the labels of the last tags that were written, and else those that it had. -/
theorem get?_foldl_set (tags : List Tag) (vocabulary : Table Int64 String) (id : Int64) :
    (tags.foldl (fun t tag => t.set tag.id tag.label) vocabulary).get? id =
      ((last? tags id).map Tag.label).or (vocabulary.get? id) := by
  induction tags using List.reverseRecOn with
  | nil => rfl
  | append_singleton tags tag ih =>
      rw [List.foldl_append, List.foldl_cons, List.foldl_nil, Table.get?_set, ih, last?_concat]
      by_cases h : tag.id = id
      · rw [if_pos h, if_pos h.symm]
        rfl
      · rw [if_neg h, if_neg fun h' => h h'.symm]

/-- **Writing distinct tags leaves the same labels** as writing all of them. -/
theorem get?_foldl_set_distinct (tags : List Tag) (vocabulary : Table Int64 String) (id : Int64) :
    ((distinct tags).foldl (fun t tag => t.set tag.id tag.label) vocabulary).get? id =
      (tags.foldl (fun t tag => t.set tag.id tag.label) vocabulary).get? id := by
  rw [get?_foldl_set, get?_foldl_set, last?_distinct]

/-! ### One pass -/

/-- **What a pass has noted**: the distinct ids, and of each id the last tag. -/
theorem Notes.foldl_add (tags : List Tag) :
    (tags.foldl add {}).order = distinctIds (tags.map Tag.id) ∧
      ∀ id, (tags.foldl add {}).tag? id = last? tags id := by
  induction tags using List.reverseRecOn with
  | nil => exact ⟨rfl, fun id => rfl⟩
  | append_singleton tags tag ih =>
      obtain ⟨horder, htag⟩ := ih
      rw [List.foldl_append, List.foldl_cons, List.foldl_nil, List.map_append, List.map_singleton,
        distinctIds_concat]
      generalize tags.foldl add {} = notes at horder htag
      have hnew : (notes.labels.get? tag.id).isNone = true ↔
          tag.id ∉ distinctIds (tags.map Tag.id) := by
        rw [mem_distinctIds, ← last?_eq_none_iff, ← htag, tag?, Option.map_eq_none_iff,
          Option.isNone_iff_eq_none]
      refine ⟨?_, fun id => ?_⟩
      · rw [add, horder]
        by_cases hseen : tag.id ∈ distinctIds (tags.map Tag.id)
        · rw [if_neg fun h => hnew.mp h hseen, if_pos hseen]
        · rw [if_pos (hnew.mpr hseen), if_neg hseen]
      · rw [last?_concat, ← htag, tag?, add, Table.get?_set]
        by_cases hid : tag.id = id
        · subst hid
          rw [if_pos rfl, if_pos rfl]
          rfl
        · rw [if_neg hid, if_neg fun h => hid h.symm]
          rfl

/-- Lookups that all find something find what a filter keeps. -/
theorem mapM_eq_some_filterMap {α β : Type} {f : α → Option β} {l : List α}
    (h : ∀ a ∈ l, ∃ b, f a = some b) : l.mapM f = some (l.filterMap f) := by
  induction l with
  | nil => rfl
  | cons a l ih =>
      obtain ⟨⟨b, hb⟩, hl⟩ := List.forall_mem_cons.mp h
      rw [List.mapM_cons, hb, ih hl, List.filterMap_cons_some hb]
      rfl

/-- **One pass finds every label that it looks up**, and ends with the distinct tags. -/
theorem distinctInOnePass_eq (tags : List Tag) : distinctInOnePass tags = some (distinct tags) := by
  obtain ⟨horder, htag⟩ := Notes.foldl_add tags
  rw [distinctInOnePass, horder, funext htag]
  exact mapM_eq_some_filterMap fun id hid => exists_last? (mem_distinctIds.mp hid)

end Tag

end FeedSync
