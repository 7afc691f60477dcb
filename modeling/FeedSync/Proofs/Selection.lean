import FeedSync.Proofs.Time.Line
import FeedSync.Sync.Selection
import Mathlib.Data.List.Induction
import Mathlib.Data.List.Nodup
import Mathlib.Data.List.Perm.Subperm

/-!
# What the selection selects

`selectForSync` folds a list of articles into the latest version of each. This module says what
comes out without the fold: `IsLatest articles c` holds of the **first** article of the list that
attains the **greatest** `lastModified` of its number, and the selection consists of just those
latest versions that are news.

## Main statements

* `mem_latestVersions` — the fold keeps exactly the latest versions.
* `mem_selectForSync` — the selection keeps exactly the latest versions that are news.
* `nodup_selectForSync` — no number is selected twice.
* `historyCutoff_mono` — a later clock moves the cutoff later, never earlier.
-/

namespace FeedSync

/-! ### The latest version of an article -/

/-- An article is the **latest version** of its number in a list: those before it are strictly
earlier, and those after it no later. -/
def IsLatest (articles : List Article) (c : Article) : Prop :=
  ∃ before after, articles = before ++ c :: after ∧
    (∀ a ∈ before, a.externalId = c.externalId → a.lastModified < c.lastModified) ∧
    (∀ a ∈ after, a.externalId = c.externalId → a.lastModified ≤ c.lastModified)

/-- A latest version is one of the articles. -/
theorem IsLatest.mem {articles : List Article} {c : Article} (h : IsLatest articles c) :
    c ∈ articles := by
  obtain ⟨before, after, rfl, -, -⟩ := h
  exact List.mem_append_right before List.mem_cons_self

/-- No article of a number is later than its latest version. -/
theorem IsLatest.le {articles : List Article} {a c : Article} (h : IsLatest articles c)
    (ha : a ∈ articles) (hid : a.externalId = c.externalId) : a.lastModified ≤ c.lastModified := by
  obtain ⟨before, after, rfl, hbefore, hafter⟩ := h
  rcases List.mem_append.mp ha with hmem | hmem
  · exact le_of_lt (hbefore a hmem hid)
  · rcases List.mem_cons.mp hmem with rfl | hmem
    · exact le_rfl
    · exact hafter a hmem hid

/-- One more article at the end: what was the latest version stays it unless the new one is strictly
later, and the new one becomes it if it is strictly later than all of its number. -/
theorem isLatest_concat {articles : List Article} {a c : Article} :
    IsLatest (articles ++ [a]) c ↔
      (IsLatest articles c ∧ (a.externalId = c.externalId → a.lastModified ≤ c.lastModified)) ∨
      (c = a ∧ ∀ b ∈ articles, b.externalId = a.externalId → b.lastModified < a.lastModified) := by
  constructor
  · rintro ⟨before, after, heq, hbefore, hafter⟩
    rcases after.eq_nil_or_concat with rfl | ⟨init, last, rfl⟩
    · obtain ⟨rfl, hca⟩ := List.append_inj' heq rfl
      obtain rfl : a = c := by simpa using hca
      exact .inr ⟨rfl, hbefore⟩
    · have heq' : articles ++ [a] = (before ++ c :: init) ++ [last] := by simpa using heq
      obtain ⟨rfl, hlast⟩ := List.append_inj' heq' rfl
      obtain rfl : a = last := by simpa using hlast
      refine .inl ⟨⟨before, init, rfl, hbefore, fun b hb => hafter b ?_⟩, hafter a ?_⟩
      · simp [hb]
      · simp
  · rintro (⟨⟨before, after, rfl, hbefore, hafter⟩, ha⟩ | ⟨rfl, hall⟩)
    · refine ⟨before, after ++ [a], by simp, hbefore, fun b hb hid => ?_⟩
      rcases List.mem_append.mp hb with hb | hb
      · exact hafter b hb hid
      · obtain rfl : b = a := by simpa using hb
        exact ha hid
    · exact ⟨articles, [], rfl, hall, by simp⟩

/-- Every number of a list has a latest version. -/
theorem exists_isLatest {articles : List Article} {a : Article} (ha : a ∈ articles) :
    ∃ c, IsLatest articles c ∧ c.externalId = a.externalId := by
  induction articles using List.reverseRecOn generalizing a with
  | nil => exact absurd ha List.not_mem_nil
  | append_singleton articles last ih =>
      by_cases hseen : ∃ b ∈ articles, b.externalId = a.externalId
      · obtain ⟨b, hb, hba⟩ := hseen
        obtain ⟨c, hc, hcb⟩ := ih hb
        by_cases hlast : last.externalId = c.externalId → last.lastModified ≤ c.lastModified
        · exact ⟨c, isLatest_concat.mpr (.inl ⟨hc, hlast⟩), hcb.trans hba⟩
        · -- the new article beats the latest version so far, and with it all others
          push Not at hlast
          obtain ⟨hid, hlt⟩ := hlast
          refine ⟨last, isLatest_concat.mpr (.inr ⟨rfl, fun d hd hdid => ?_⟩),
            hid.trans (hcb.trans hba)⟩
          exact lt_of_le_of_lt (hc.le hd (hdid.trans hid)) hlt
      · push Not at hseen
        obtain rfl : a = last := by
          rcases List.mem_append.mp ha with h | h
          · exact absurd rfl (hseen a h)
          · exact List.mem_singleton.mp h
        exact ⟨a, isLatest_concat.mpr (.inr ⟨rfl, fun b hb hid => absurd hid (hseen b hb)⟩), rfl⟩

/-! ### The fold -/

/-- Keeping an article adds its number at the end, unless it is there already. -/
theorem map_externalId_keepLatest (kept : List Article) (a : Article) :
    (keepLatest kept a).map Article.externalId =
      if a.externalId ∈ kept.map Article.externalId then kept.map Article.externalId
      else kept.map Article.externalId ++ [a.externalId] := by
  induction kept with
  | nil => rfl
  | cons k kept ih =>
      by_cases hid : k.externalId = a.externalId
      · have hmem : a.externalId ∈ (k :: kept).map Article.externalId := by simp [hid]
        rw [if_pos hmem, keepLatest, if_pos hid]
        by_cases hlt : k.lastModified < a.lastModified
        · rw [if_pos hlt, List.map_cons, List.map_cons, hid]
        · rw [if_neg hlt]
      · have hcons : a.externalId ∈ (k :: kept).map Article.externalId ↔
            a.externalId ∈ kept.map Article.externalId := by simp [Ne.symm hid]
        rw [keepLatest, if_neg hid, List.map_cons, ih]
        by_cases hmem : a.externalId ∈ kept.map Article.externalId
        · rw [if_pos hmem, if_pos (hcons.mpr hmem), List.map_cons]
        · rw [if_neg hmem, if_neg (mt hcons.mp hmem), List.map_cons, List.cons_append]

/-- The numbers stay distinct when an article is kept. -/
theorem nodup_keepLatest {kept : List Article} (a : Article)
    (h : (kept.map Article.externalId).Nodup) :
    ((keepLatest kept a).map Article.externalId).Nodup := by
  rw [map_externalId_keepLatest]
  by_cases hmem : a.externalId ∈ kept.map Article.externalId
  · rwa [if_pos hmem]
  · rw [if_neg hmem]
    exact List.Nodup.append h (List.nodup_singleton _) (List.disjoint_singleton.mpr hmem)

/-- What is kept when an article comes: what it does not beat, and the article itself if it beats
all of its number. -/
theorem mem_keepLatest {kept : List Article} {a c : Article}
    (h : (kept.map Article.externalId).Nodup) :
    c ∈ keepLatest kept a ↔
      (c ∈ kept ∧ (a.externalId = c.externalId → a.lastModified ≤ c.lastModified)) ∨
      (c = a ∧ ∀ b ∈ kept, b.externalId = a.externalId → b.lastModified < a.lastModified) := by
  induction kept with
  | nil => simp [keepLatest]
  | cons k kept ih =>
      rw [List.map_cons, List.nodup_cons] at h
      obtain ⟨hk, hnodup⟩ := h
      have hother : ∀ b ∈ kept, b.externalId ≠ k.externalId := fun b hb hid =>
        hk (hid ▸ List.mem_map_of_mem hb)
      by_cases hid : k.externalId = a.externalId
      · -- the article meets its number here, and nowhere else
        have hrest : ∀ b ∈ kept, a.externalId ≠ b.externalId := fun b hb hab =>
          hother b hb (hab.symm.trans hid.symm)
        by_cases hlt : k.lastModified < a.lastModified
        · rw [keepLatest, if_pos hid, if_pos hlt, List.mem_cons]
          constructor
          · rintro (rfl | hc)
            · refine .inr ⟨rfl, fun b hb hba => ?_⟩
              rcases List.mem_cons.mp hb with rfl | hb
              · exact hlt
              · exact absurd hba.symm (hrest b hb)
            · exact .inl ⟨List.mem_cons_of_mem k hc, fun hac => absurd hac (hrest c hc)⟩
          · rintro (⟨hc, hle⟩ | ⟨rfl, -⟩)
            · rcases List.mem_cons.mp hc with rfl | hc
              · exact absurd hlt (not_lt_of_ge (hle hid.symm))
              · exact .inr hc
            · exact .inl rfl
        · rw [keepLatest, if_pos hid, if_neg hlt]
          constructor
          · intro hc
            refine .inl ⟨hc, fun hac => ?_⟩
            rcases List.mem_cons.mp hc with rfl | hc
            · exact not_lt.mp hlt
            · exact absurd hac (hrest c hc)
          · rintro (⟨hc, -⟩ | ⟨rfl, hall⟩)
            · exact hc
            · exact absurd (hall k List.mem_cons_self hid) hlt
      · rw [keepLatest, if_neg hid, List.mem_cons, ih hnodup]
        constructor
        · rintro (rfl | ⟨hc, hle⟩ | ⟨rfl, hall⟩)
          · exact .inl ⟨List.mem_cons_self, fun hac => absurd hac.symm hid⟩
          · exact .inl ⟨List.mem_cons_of_mem k hc, hle⟩
          · refine .inr ⟨rfl, fun b hb hba => ?_⟩
            rcases List.mem_cons.mp hb with rfl | hb
            · exact absurd hba hid
            · exact hall b hb hba
        · rintro (⟨hc, hle⟩ | ⟨rfl, hall⟩)
          · rcases List.mem_cons.mp hc with rfl | hc
            · exact .inl rfl
            · exact .inr (.inl ⟨hc, hle⟩)
          · exact .inr (.inr ⟨rfl, fun b hb => hall b (List.mem_cons_of_mem k hb)⟩)

/-- One more article at the end of the list is one more to keep. -/
theorem latestVersions_concat (articles : List Article) (a : Article) :
    latestVersions (articles ++ [a]) = keepLatest (latestVersions articles) a := by
  rw [latestVersions, List.foldl_append]
  rfl

/-- Each number is kept once. -/
theorem nodup_latestVersions (articles : List Article) :
    ((latestVersions articles).map Article.externalId).Nodup := by
  induction articles using List.reverseRecOn with
  | nil => exact List.nodup_nil
  | append_singleton articles a ih =>
      rw [latestVersions_concat]
      exact nodup_keepLatest a ih

/-- **The fold keeps exactly the latest versions.** -/
theorem mem_latestVersions {articles : List Article} {c : Article} :
    c ∈ latestVersions articles ↔ IsLatest articles c := by
  induction articles using List.reverseRecOn generalizing c with
  | nil =>
      constructor
      · exact fun h => absurd h List.not_mem_nil
      · exact fun h => absurd h.mem List.not_mem_nil
  | append_singleton articles a ih =>
      rw [latestVersions_concat, mem_keepLatest (nodup_latestVersions articles), isLatest_concat,
        ih]
      -- beating the versions that were kept is beating all articles
      have hbeats : (∀ b ∈ latestVersions articles, b.externalId = a.externalId →
            b.lastModified < a.lastModified) ↔
          ∀ b ∈ articles, b.externalId = a.externalId → b.lastModified < a.lastModified := by
        constructor
        · intro h b hb hba
          obtain ⟨d, hd, hdb⟩ := exists_isLatest hb
          exact lt_of_le_of_lt (hd.le hb hdb.symm) (h d (ih.mpr hd) (hdb.trans hba))
        · exact fun h b hb => h b (ih.mp hb).mem
      rw [hbeats]

/-! ### The selection -/

variable {articles : List Article} {stored stored' : Int64 → Option Instant}

/-- An article is news if it is strictly later than what is stored, if anything is. -/
theorem isNews_iff {a : Article} :
    isNews stored a = true ↔ ∀ t, stored a.externalId = some t → t < a.lastModified := by
  rw [isNews]
  cases stored a.externalId with
  | none => simp
  | some t => simp

/-- **The selection keeps exactly the latest versions that are news.** -/
theorem mem_selectForSync {c : Article} :
    c ∈ selectForSync articles stored ↔ IsLatest articles c ∧ isNews stored c = true := by
  rw [selectForSync, List.mem_filter, mem_latestVersions]

/-- **No number is selected twice.** -/
theorem nodup_selectForSync (articles : List Article) (stored : Int64 → Option Instant) :
    ((selectForSync articles stored).map Article.externalId).Nodup :=
  (nodup_latestVersions articles).sublist (List.filter_sublist.map _)

/-- A selection is no longer than the list that it is made from. -/
theorem length_selectForSync_le (articles : List Article) (stored : Int64 → Option Instant) :
    (selectForSync articles stored).length ≤ articles.length := by
  have hnodup : (selectForSync articles stored).Nodup :=
    (nodup_selectForSync articles stored).of_map Article.externalId
  exact (hnodup.subperm fun c hc => (mem_selectForSync.mp hc).1.mem).length_le

/-- The selection looks up only the numbers of its articles. -/
theorem selectForSync_congr
    (h : ∀ a ∈ articles, stored a.externalId = stored' a.externalId) :
    selectForSync articles stored = selectForSync articles stored' := by
  refine List.filter_congr fun c hc => ?_
  rw [isNews, isNews, h c (mem_latestVersions.mp hc).mem]

/-- Nothing is selected from articles that are all stored in a version as late. -/
theorem selectForSync_eq_nil (h : ∀ a ∈ articles, isNews stored a = false) :
    selectForSync articles stored = [] := by
  refine List.filter_eq_nil_iff.mpr fun c hc => ?_
  rw [h c (mem_latestVersions.mp hc).mem]
  exact Bool.false_ne_true

/-! ### The window -/

/-- A later cutoff keeps no more. -/
theorem insideWindow_subset {cutoff cutoff' : Instant} (h : cutoff ≤ cutoff')
    (articles : List Article) : insideWindow cutoff' articles ⊆ insideWindow cutoff articles := by
  intro a ha
  rw [insideWindow, List.mem_filter, decide_eq_true_iff] at ha ⊢
  exact ⟨ha.1, lt_of_le_of_lt h ha.2⟩

/-- Going back from a later instant leads to a later instant, unless the earlier one lies in a leap
second: what is left of one then counts as the second after it. -/
theorem Instant.minusDays?_mono {s t u : Instant} {days : Nat} (h : s ≤ t)
    (hs : s.nanos < nanosPerSecond) (hu : s.minusDays? days = some u) :
    ∃ v, t.minusDays? days = some v ∧ u ≤ v := by
  rw [minusDays?] at hu ⊢
  by_cases hd : days = 0
  · rw [if_pos hd] at hu ⊢
    obtain rfl := Option.some.inj hu
    exact ⟨t, rfl, h⟩
  · rw [if_neg hd, if_pos hs, mk?_eq_some_iff] at hu
    obtain ⟨husec, hunan⟩ := hu
    rw [le_def, lt_def] at h
    have hfirst := u.first_le
    have hlast := t.le_last
    have hleap := t.leap
    rw [if_neg hd]
    rw [nanosPerSecond] at *
    rw [secondsPerDay] at *
    by_cases ht : t.nanos < 1000000000
    · refine ⟨⟨t.seconds - days * 86400, t.nanos, by omega, by omega, .inl ht⟩, ?_, ?_⟩
      · rw [if_pos ht, mk?_eq_some_iff]
        exact ⟨rfl, rfl⟩
      · rw [le_def, lt_def]
        simp only
        omega
    · refine ⟨⟨t.seconds + 1 - days * 86400, t.nanos - 1000000000, by omega, by omega,
        .inl (by omega)⟩, ?_, ?_⟩
      · rw [if_neg ht, mk?_eq_some_iff]
        exact ⟨rfl, rfl⟩
      · rw [le_def, lt_def]
        simp only
        omega

/-- **A later clock moves the cutoff later, never earlier**, unless the earlier reading lies in a
leap second. -/
theorem historyCutoff_mono {s t : Instant} (h : s ≤ t) (hs : s.nanos < nanosPerSecond)
    (days : UInt32) : historyCutoff s days ≤ historyCutoff t days := by
  rw [historyCutoff, historyCutoff]
  cases hu : s.minusDays? days.toNat with
  | none =>
      rw [Option.getD_none]
      exact Instant.first_le_all _
  | some u =>
      obtain ⟨v, hv, huv⟩ := Instant.minusDays?_mono h hs hu
      rw [hv, Option.getD_some, Option.getD_some]
      exact huv

end FeedSync
