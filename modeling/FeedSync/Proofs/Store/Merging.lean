import FeedSync.Proofs.Store.Renaming

/-!
# Merging versions of an article

Whoever writes versions of an article one after the other leaves what is left of them by one rule:
a version stays unless a strictly later one is written. What is left is the newest of all, and where
no two versions are equally late it depends on nothing but which versions were written.

## Main definitions

* `mergeAll` — the versions of an article written one after the other.
* `IsNewest` — what is left of them.

## Main statements

* `article_winner` — the conditional rule of a store merges.
* `mergeAll_congr` — a merge depends only on which versions are merged.
-/

namespace FeedSync

/-- **What is stored of an article when a version of it is written**: the stored version stays
unless the written one is strictly later. -/
def merge (stored : Option Article) (a : Article) : Article :=
  match stored with
  | some b => if a.lastModified ≤ b.lastModified then b else a
  | none => a

/-- What is stored of an article when versions of it are written one after the other. -/
def mergeAll (stored : Option Article) (versions : List Article) : Option Article :=
  versions.foldl (fun stored a => some (merge stored a)) stored

variable {stored : Option Article} {versions versions' : List Article} {b c : Article}

theorem mergeAll_append (stored : Option Article) (versions versions' : List Article) :
    mergeAll stored (versions ++ versions') = mergeAll (mergeAll stored versions) versions' :=
  List.foldl_append

theorem mergeAll_concat (stored : Option Article) (versions : List Article) (a : Article) :
    mergeAll stored (versions ++ [a]) = some (merge (mergeAll stored versions) a) :=
  mergeAll_append stored versions [a]

/-- A merge forgets nothing. -/
theorem mergeAll_eq_none_iff : mergeAll stored versions = none ↔ stored = none ∧ versions = [] := by
  cases versions using List.reverseRecOn with
  | nil => simp [mergeAll]
  | append_singleton versions a => simp [mergeAll_concat]

/-- A version that is news wins. -/
theorem merge_of_news (h : ∀ b, stored = some b → b.lastModified < c.lastModified) :
    merge stored c = c := by
  cases stored with
  | none => rfl
  | some b => exact if_neg (not_le_of_gt (h b rfl))

/-- Versions that are no later change nothing. -/
theorem mergeAll_of_forall_le (h : ∀ a ∈ versions, a.lastModified ≤ b.lastModified) :
    mergeAll (some b) versions = some b := by
  induction versions with
  | nil => rfl
  | cons a versions ih =>
      obtain ⟨ha, hrest⟩ := List.forall_mem_cons.mp h
      have hstays : merge (some b) a = b := if_pos ha
      rw [mergeAll, List.foldl_cons, hstays]
      exact ih hrest

/-- **The newest of some versions** of an article, of which one may be stored: no version is later,
and it is the stored one unless that one is earlier. -/
structure IsNewest (stored : Option Article) (versions : List Article) (c : Article) : Prop where
  origin : stored = some c ∨
    c ∈ versions ∧ ∀ b, stored = some b → b.lastModified < c.lastModified
  le : ∀ a ∈ versions, a.lastModified ≤ c.lastModified

/-- **A merge leaves the newest version.** -/
theorem isNewest_of_mergeAll (h : mergeAll stored versions = some c) :
    IsNewest stored versions c := by
  induction versions using List.reverseRecOn generalizing c with
  | nil => exact ⟨.inl h, fun _ ha => absurd ha List.not_mem_nil⟩
  | append_singleton versions a ih =>
      rw [mergeAll_concat, Option.some_inj] at h
      cases hmerged : mergeAll stored versions with
      | none =>
          -- nothing was stored, and this is the first version
          obtain ⟨rfl, rfl⟩ := mergeAll_eq_none_iff.mp hmerged
          obtain rfl : a = c := h
          exact ⟨.inr ⟨List.mem_singleton_self a, fun _ h => nomatch h⟩,
            List.forall_mem_singleton.mpr le_rfl⟩
      | some d =>
          obtain ⟨horigin, hle⟩ := ih hmerged
          rw [hmerged, merge] at h
          split at h
          · next had =>
              subst h
              refine ⟨horigin.imp_right fun ⟨hd, hlt⟩ => ⟨List.mem_append_left _ hd, hlt⟩, ?_⟩
              exact List.forall_mem_append.mpr ⟨hle, List.forall_mem_singleton.mpr had⟩
          · next had =>
              subst h
              have hlt := not_le.mp had
              refine ⟨.inr ⟨List.mem_append_right _ (List.mem_singleton_self _), ?_⟩, ?_⟩
              · rintro b rfl
                rcases horigin with hd | ⟨-, hb⟩
                · obtain rfl := Option.some.inj hd
                  exact hlt
                · exact lt_trans (hb b rfl) hlt
              · exact List.forall_mem_append.mpr
                  ⟨fun b hb => le_of_lt (lt_of_le_of_lt (hle b hb) hlt),
                    List.forall_mem_singleton.mpr le_rfl⟩

/-- There is one newest version, if no two different ones are equally late. -/
theorem IsNewest.unique (h : IsNewest stored versions b) (h' : IsNewest stored versions' c)
    (hsame : ∀ a, a ∈ versions ↔ a ∈ versions')
    (hties : ∀ a ∈ versions, ∀ a' ∈ versions, a.lastModified = a'.lastModified → a = a') :
    b = c := by
  rcases h.origin with hb | ⟨hb, hbnews⟩
  · rcases h'.origin with hc | ⟨hc, hcnews⟩
    · exact Option.some.inj (hb.symm.trans hc)
    · exact absurd (h.le c ((hsame c).mpr hc)) (not_le_of_gt (hcnews b hb))
  · rcases h'.origin with hc | ⟨hc, hcnews⟩
    · exact absurd (h'.le b ((hsame b).mp hb)) (not_le_of_gt (hbnews c hc))
    · exact hties b hb c ((hsame c).mpr hc)
        (le_antisymm (h'.le b ((hsame b).mp hb)) (h.le c ((hsame c).mpr hc)))

/-- **A merge depends only on which versions are merged**, not on their order or repetitions, if no
two different ones are equally late. -/
theorem mergeAll_congr (hsame : ∀ a, a ∈ versions ↔ a ∈ versions')
    (hties : ∀ a ∈ versions, ∀ a' ∈ versions, a.lastModified = a'.lastModified → a = a') :
    mergeAll stored versions = mergeAll stored versions' := by
  have hnil : versions = [] ↔ versions' = [] := by
    rw [List.eq_nil_iff_forall_not_mem, List.eq_nil_iff_forall_not_mem]
    exact forall_congr' fun a => not_congr (hsame a)
  cases hb : mergeAll stored versions with
  | none =>
      obtain ⟨hstored, hversions⟩ := mergeAll_eq_none_iff.mp hb
      exact (mergeAll_eq_none_iff.mpr ⟨hstored, hnil.mp hversions⟩).symm
  | some b =>
      cases hc : mergeAll stored versions' with
      | none =>
          obtain ⟨hstored, hversions⟩ := mergeAll_eq_none_iff.mp hc
          rw [mergeAll_eq_none_iff.mpr ⟨hstored, hnil.mpr hversions⟩] at hb
          nomatch hb
      | some c =>
          exact congrArg some
            ((isNewest_of_mergeAll hb).unique (isNewest_of_mergeAll hc) hsame hties)

/-! ### Versions in a list -/

variable {articles : List Article} {key : Article.Key}

/-- The versions of an article in a list. -/
def versionsOf (key : Article.Key) (articles : List Article) : List Article :=
  articles.filter fun a => a.key = key

theorem mem_versionsOf {a : Article} :
    a ∈ versionsOf key articles ↔ a ∈ articles ∧ a.key = key := by
  rw [versionsOf, List.mem_filter, decide_eq_true_iff]

/-! ### Stores -/

/-- **The conditional rule merges**: a row holds what a merge leaves of its article. -/
theorem StoredArticle.article_winner (stored : Option StoredArticle) (id : Int64) (a : Article) :
    (winner stored id a).article = merge (stored.map StoredArticle.article) a := by
  cases stored with
  | none => rfl
  | some row =>
      rw [winner, Option.map_some, merge]
      split <;> rfl

end FeedSync
