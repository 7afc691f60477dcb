import Mathlib.Order.Bounds.Basic
import FeedSync.Proofs.Article.Tags
import FeedSync.Proofs.Selection
import FeedSync.Sync.OnePass

/-!
# The selection in one pass

The pass keeps a list and a table of positions, which have to stay **in step** while entries of the
list are replaced: the position of a number is the index of the entry that has it. As long as they
are, every position lies inside the list, and the pass keeps the same articles as `latestVersions`.
Where an article stands among them depends on numbers only, so the order of the selection can be
told without the versions.

## Main definitions

* `Pass.InStep` — the table tells where each number stands in the list.

## Main statements

* `Pass.InStep.step` — a step of the pass has a result and keeps list and table in step.
* `pairwise_latestVersions` — the latest versions stand in the order in which their numbers came.
* `one_pass_selects_latest_news` — what the pass selects.
-/

namespace FeedSync

/-! ### Where an article is kept -/

/-- An article meets the first one with its number, and what stands around it stays. -/
theorem keepLatest_append {before after : List Article} {k a : Article}
    (hbefore : ∀ b ∈ before, b.externalId ≠ a.externalId) (hk : k.externalId = a.externalId) :
    keepLatest (before ++ k :: after) a =
      before ++ (if k.lastModified < a.lastModified then a else k) :: after := by
  induction before with
  | nil =>
      rw [List.nil_append, List.nil_append, keepLatest, if_pos hk]
      split <;> rfl
  | cons b before ih =>
      obtain ⟨hb, hbefore⟩ := List.forall_mem_cons.mp hbefore
      rw [List.cons_append, keepLatest, if_neg hb, ih hbefore, List.cons_append]

/-- An article with a new number is kept at the end. -/
theorem keepLatest_of_not_mem {kept : List Article} {a : Article}
    (h : a.externalId ∉ kept.map Article.externalId) : keepLatest kept a = kept ++ [a] := by
  induction kept with
  | nil => rfl
  | cons k kept ih =>
      rw [List.map_cons, List.mem_cons, not_or] at h
      rw [keepLatest, if_neg (Ne.symm h.1), ih h.2, List.cons_append]

/-! ### List and table -/

namespace Pass

variable {p : Pass} {a : Article}

/-- **List and table are in step**: the position of a number is the index of the entry that has it.
So no other entry has it. -/
def InStep (p : Pass) : Prop :=
  ∀ e i, p.positions.get? e = some i ↔ (p.kept.map Article.externalId)[i]? = some e

theorem inStep_start : InStep {} := by
  intro e i
  simp

/-- A step that meets the number again replaces the entry at its position. -/
theorem InStep.step_of_position (h : p.InStep) {i : Nat}
    (hi : p.positions.get? a.externalId = some i) :
    ∃ p', p.step a = some p' ∧ p'.InStep ∧ p'.kept = keepLatest p.kept a := by
  have hid : (p.kept.map Article.externalId)[i]? = some a.externalId := (h _ _).mp hi
  obtain ⟨k, hk, hka⟩ : ∃ k, p.kept[i]? = some k ∧ k.externalId = a.externalId := by
    rwa [List.getElem?_map, Option.map_eq_some_iff] at hid
  obtain ⟨hlt, rfl⟩ := List.getElem?_eq_some_iff.mp hk
  -- the position is the only one of its number
  have hbefore : ∀ b ∈ p.kept.take i, b.externalId ≠ a.externalId := by
    intro b hb hba
    obtain ⟨j, hj, rfl⟩ := List.mem_take_iff_getElem.mp hb
    have hat : (p.kept.map Article.externalId)[j]? = some a.externalId := by
      rw [List.getElem?_map, List.getElem?_eq_getElem (by omega), Option.map_some, hba]
    have heq : some j = some i := ((h _ _).mpr hat).symm.trans hi
    have hji : j = i := Option.some.inj heq
    omega
  have hkept : keepLatest p.kept a =
      if p.kept[i].lastModified < a.lastModified then p.kept.set i a else p.kept := by
    conv_lhs => rw [← List.take_append_drop i p.kept, List.drop_eq_getElem_cons hlt]
    rw [keepLatest_append hbefore hka]
    split
    · rw [List.set_eq_take_append_cons_drop, if_pos hlt]
    · rw [← List.drop_eq_getElem_cons hlt, List.take_append_drop]
  have hids : (p.kept.set i a).map Article.externalId = p.kept.map Article.externalId := by
    have hself := List.set_getElem_self (List.getElem?_eq_some_iff.mp hid).1
    rwa [List.getElem_map, hka, ← List.map_set] at hself
  rw [Pass.step, hi]
  simp only [hk]
  refine ⟨_, rfl, ?_, ?_⟩
  · split
    · intro e j
      rw [hids]
      exact h e j
    · exact h
  · rw [hkept]
    split <;> rfl

/-- A step that meets a new number gives it the next position. -/
theorem InStep.step_of_new (h : p.InStep) (hnew : p.positions.get? a.externalId = none) :
    ∃ p', p.step a = some p' ∧ p'.InStep ∧ p'.kept = keepLatest p.kept a := by
  have hnot : a.externalId ∉ p.kept.map Article.externalId := by
    intro hmem
    obtain ⟨i, hi⟩ := List.getElem?_of_mem hmem
    cases hnew.symm.trans ((h _ _).mpr hi)
  rw [keepLatest_of_not_mem hnot, Pass.step, hnew]
  refine ⟨_, rfl, fun e i => ?_, rfl⟩
  rw [Table.get?_set, List.map_append, List.map_singleton]
  have hlength : (p.kept.map Article.externalId).length = p.kept.length := List.length_map _
  by_cases he : e = a.externalId
  · rw [if_pos he, he]
    constructor
    · rintro ⟨⟩
      rw [List.getElem?_append_right hlength.le, hlength, Nat.sub_self]
      rfl
    · intro hi
      by_cases hlt : i < p.kept.length
      · rw [List.getElem?_append_left (by rwa [hlength])] at hi
        exact absurd (List.mem_of_getElem? hi) hnot
      · have := (List.getElem?_eq_some_iff.mp hi).1
        rw [List.length_append, hlength, List.length_singleton] at this
        exact congrArg some (by omega)
  · rw [if_neg he, h]
    by_cases hlt : i < p.kept.length
    · rw [List.getElem?_append_left (by rwa [hlength])]
    · rw [List.getElem?_append_right (by rw [hlength]; omega), List.getElem?_eq_none (by omega),
        List.getElem?_singleton]
      simp [Ne.symm he]

/-- **A step of the pass** has a result, and keeps list and table in step. -/
theorem InStep.step (h : p.InStep) (a : Article) :
    ∃ p', p.step a = some p' ∧ p'.InStep ∧ p'.kept = keepLatest p.kept a := by
  cases hposition : p.positions.get? a.externalId with
  | some i => exact h.step_of_position hposition
  | none => exact h.step_of_new hposition

/-- **The pass never looks outside its list**, and keeps what the selection keeps. -/
theorem InStep.steps (h : p.InStep) (articles : List Article) :
    ∃ p', p.steps articles = some p' ∧ p'.InStep ∧ p'.kept = articles.foldl keepLatest p.kept := by
  induction articles generalizing p with
  | nil => exact ⟨p, rfl, h, rfl⟩
  | cons a articles ih =>
      obtain ⟨p₁, hstep, h₁, hkept₁⟩ := h.step a
      obtain ⟨p₂, hsteps, h₂, hkept₂⟩ := ih h₁
      refine ⟨p₂, ?_, h₂, ?_⟩
      · rw [Pass.steps, List.foldlM_cons, hstep]
        exact hsteps
      · rw [hkept₂, hkept₁, List.foldl_cons]

end Pass

/-! ### The order of the selection -/

/-- The latest versions have the numbers of all articles, each once. -/
theorem map_externalId_latestVersions (articles : List Article) :
    (latestVersions articles).map Article.externalId =
      Tag.distinctIds (articles.map Article.externalId) := by
  induction articles using List.reverseRecOn with
  | nil => rfl
  | append_singleton articles a ih =>
      rw [latestVersions_concat, map_externalId_keepLatest, ih, List.map_append,
        List.map_singleton, Tag.distinctIds_concat]

/-- **The latest versions stand in the order in which their numbers came**, wherever the versions
themselves stood. -/
theorem pairwise_latestVersions (articles : List Article) :
    (latestVersions articles).Pairwise fun a b =>
      (articles.map Article.externalId).idxOf a.externalId <
        (articles.map Article.externalId).idxOf b.externalId := by
  have h := Tag.pairwise_distinctIds (articles.map Article.externalId)
  rw [← map_externalId_latestVersions, List.pairwise_map] at h
  exact h

/-- The times of the last modifications of a number are led by that of its latest version. -/
theorem IsLatest.isGreatest {articles : List Article} {c : Article} (h : IsLatest articles c) :
    IsGreatest { t | ∃ a ∈ articles, a.externalId = c.externalId ∧ a.lastModified = t }
      c.lastModified := by
  refine ⟨⟨c, h.mem, rfl, rfl⟩, ?_⟩
  rintro t ⟨a, ha, hid, rfl⟩
  exact h.le ha hid

/-- **What is selected in one pass**: the pass never looks outside its list; no number is selected
twice; the selected articles are the latest versions, the first ones of equally late ones, of those
numbers whose greatest time is later than the stored one or that are not stored; and they stand in
the order in which their numbers came first. -/
theorem one_pass_selects_latest_news (articles : List Article) (stored : Int64 → Option Instant) :
    ∃ selected, selectInOnePass articles stored = some selected ∧
      selectForSync articles stored = selected ∧
      (selected.map Article.externalId).Nodup ∧
      (∀ c, c ∈ selected ↔
        IsLatest articles c ∧ ∀ t, stored c.externalId = some t → t < c.lastModified) ∧
      (∀ e, e ∈ selected.map Article.externalId ↔ ∃ greatest,
        IsGreatest { t | ∃ a ∈ articles, a.externalId = e ∧ a.lastModified = t } greatest ∧
          ∀ t, stored e = some t → t < greatest) ∧
      selected.Pairwise fun a b =>
        (articles.map Article.externalId).idxOf a.externalId <
          (articles.map Article.externalId).idxOf b.externalId := by
  obtain ⟨p, hsteps, -, hkept⟩ := Pass.inStep_start.steps articles
  have hpass : selectInOnePass articles stored = some (selectForSync articles stored) := by
    rw [selectInOnePass, hsteps, Option.map_some, hkept]
    rfl
  have hmem : ∀ c, c ∈ selectForSync articles stored ↔
      IsLatest articles c ∧ ∀ t, stored c.externalId = some t → t < c.lastModified := fun c => by
    rw [mem_selectForSync, isNews_iff]
  refine ⟨_, hpass, rfl, nodup_selectForSync _ _, hmem, fun e => ?_,
    (pairwise_latestVersions articles).filter _⟩
  rw [List.mem_map]
  constructor
  · rintro ⟨c, hc, rfl⟩
    obtain ⟨hlatest, hnews⟩ := (hmem c).mp hc
    exact ⟨c.lastModified, hlatest.isGreatest, hnews⟩
  · rintro ⟨greatest, hgreatest, hnews⟩
    obtain ⟨a, ha, rfl, -⟩ := hgreatest.1
    obtain ⟨c, hc, hca⟩ := exists_isLatest ha
    have hmax := hc.isGreatest
    rw [hca] at hmax
    obtain rfl := hmax.unique hgreatest
    exact ⟨c, (hmem c).mpr ⟨hc, hca ▸ hnews⟩, hca⟩

/-- The later version of the first article stands last, and is selected first. -/
example :
    let a := Article.mk "s" 7 "" none none none none "" none .epoch .epoch 0 []
    let b := { a with externalId := 8 }
    let a' := { a with lastModified := ⟨1, 0, by decide, by decide, by decide⟩ }
    selectInOnePass [a, b, a'] (fun _ => none) = some [a', b] := by
  decide

end FeedSync
