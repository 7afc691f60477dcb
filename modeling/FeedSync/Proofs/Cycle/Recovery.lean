import FeedSync.Proofs.Cycle.Counts
import FeedSync.Proofs.Cycle.Idempotence
import FeedSync.Proofs.Store.Links
import FeedSync.Proofs.Store.Renaming

/-!
# Recovering from failed saves

An article whose save fails is selected again by the next cycle, and one whose save succeeds is not.
So a cycle in which some saves fail and a cycle after it without failures do together what a single
cycle without failures does. What can be seen of a key, up to its internal id, is its article and
its links; a cycle lays the articles that it saves **over** what was seen before, and the two layers
of the two cycles are together the one of the single cycle.

The links have one exception. Where a writer has linked ahead, a new article without tags takes over
what is linked under the internal id that it gets, and which id that is depends on the saves that
fail. For the keys of such articles the two cycles and the single one may differ.

## Main definitions

* `overlay` — what is seen of each key when articles were laid over it.
* `Rerun` — a cycle, a second one that makes up for it, and a single one to compare them with.

## Main statements

* `articleOf_outcome`, `linksOf_outcome` — what a cycle lays over the store.
* `mayTakeOver_of_outcome` — a cycle links nothing ahead.
* `selection_after_failures` — the second cycle selects what the first one failed to save.
* `recovery_by_rerun` — the two cycles against the single one.
* `links_ahead_go_to_first_stored` — the exception.
-/

namespace FeedSync

namespace Cycle

/-! ### Overlays -/

variable {β : Type} {put : Article → β → β} {articles : List Article} {seen : Article.Key → β}
  {c : Article}

/-- **What is seen of each key** when articles of some keys were laid over it. -/
def overlay (put : Article → β → β) (articles : List Article) (seen : Article.Key → β)
    (key : Article.Key) : β :=
  match articles.find? fun c => c.key = key with
  | some c => put c (seen key)
  | none => seen key

/-- Where no article is laid nothing changes. -/
theorem overlay_of_forall_ne {key : Article.Key} (h : ∀ c ∈ articles, key ≠ c.key) :
    overlay put articles seen key = seen key := by
  have hnone : articles.find? (fun c => c.key = key) = none :=
    List.find?_eq_none.mpr fun c hc hkey => h c hc (of_decide_eq_true hkey).symm
  rw [overlay, hnone]

/-- What an article is laid over, if no other one has its key. -/
theorem overlay_of_mem (hnodup : (articles.map Article.key).Nodup) (hc : c ∈ articles) :
    overlay put articles seen c.key = put c (seen c.key) := by
  obtain ⟨b, hfind⟩ : ∃ b, articles.find? (fun b => b.key = c.key) = some b :=
    Option.isSome_iff_exists.mp (List.find?_isSome.mpr ⟨c, hc, decide_eq_true rfl⟩)
  have hkey : b.key = c.key := by simpa using List.find?_some hfind
  obtain rfl : b = c := List.inj_on_of_nodup_map hnodup (List.mem_of_find?_eq_some hfind) hc hkey
  rw [overlay, hfind]

/-- What an article is laid over, if it is one of those chosen. -/
theorem overlay_filter_of_mem (hnodup : (articles.map Article.key).Nodup) (p : Article → Bool)
    (hc : c ∈ articles) : overlay put (articles.filter p) seen c.key =
      if p c then put c (seen c.key) else seen c.key := by
  cases hp : p c with
  | true =>
      rw [if_pos rfl]
      exact overlay_of_mem (hnodup.sublist (List.filter_sublist.map _))
        (List.mem_filter.mpr ⟨hc, hp⟩)
  | false =>
      rw [if_neg Bool.false_ne_true]
      refine overlay_of_forall_ne fun b hb hkey => ?_
      obtain ⟨hb, hpb⟩ := List.mem_filter.mp hb
      obtain rfl : c = b := List.inj_on_of_nodup_map hnodup hc hb hkey
      rw [hp] at hpb
      nomatch hpb

/-- What is seen of a key under some articles depends on nothing but what was seen of it before. -/
theorem overlay_congr {seen' : Article.Key → β} {key : Article.Key} (h : seen key = seen' key) :
    overlay put articles seen key = overlay put articles seen' key := by
  rw [overlay, overlay, h]

/-- What is seen of a key is what the chosen articles are laid over, if that is so where the key is
that of an article, and nothing changes where it is not. -/
theorem eq_overlay_filter {x : β} {key : Article.Key} (hnodup : (articles.map Article.key).Nodup)
    (p : Article → Bool)
    (hin : ∀ c ∈ articles, key = c.key → x = if p c then put c (seen c.key) else seen c.key)
    (hout : (∀ c ∈ articles, key ≠ c.key) → x = seen key) :
    x = overlay put (articles.filter p) seen key := by
  by_cases hmem : ∃ c ∈ articles, key = c.key
  · obtain ⟨c, hc, rfl⟩ := hmem
    rw [hin c hc rfl, overlay_filter_of_mem hnodup p hc]
  · push Not at hmem
    rw [hout hmem, overlay_of_forall_ne fun b hb => hmem b (List.mem_of_mem_filter hb)]

/-- **Two layers that share out some articles are one layer of all of them.** -/
theorem overlay_overlay_filter (hnodup : (articles.map Article.key).Nodup) (p : Article → Bool) :
    overlay put (articles.filter fun c => !p c) (overlay put (articles.filter p) seen) =
      overlay put articles seen := by
  funext key
  by_cases hmem : ∃ c ∈ articles, key = c.key
  · obtain ⟨c, hc, rfl⟩ := hmem
    rw [overlay_filter_of_mem hnodup _ hc, overlay_filter_of_mem hnodup _ hc,
      overlay_of_mem hnodup hc]
    cases p c <;> rfl
  · push Not at hmem
    have hfilter : ∀ q : Article → Bool, ∀ b ∈ articles.filter q, key ≠ b.key := fun q b hb =>
      hmem b (List.mem_of_mem_filter hb)
    rw [overlay_of_forall_ne hmem, overlay_of_forall_ne (hfilter _),
      overlay_of_forall_ne (hfilter _)]

/-! ### What a cycle lays over a store -/

variable {w w₁ w₂ : Replies} {settings : Settings} {s s₁ : Store} {fetched : List Article}

/-- Whether the save of a selected article is not planned to fail. -/
def isSpared (w : Replies) (settings : Settings) (s : Store) (c : Article) : Bool :=
  s.plan.spares (queryOf w settings s c) c

/-- The selected articles that are saved are those whose save is not planned to fail. -/
theorem saved_selection (w : Replies) (settings : Settings) (s : Store) :
    s.asked.saved (selection w settings s) =
      (selection w settings s).filter (isSpared w settings s) := by
  rw [Store.saved_eq_filter (nodup_key_selection w settings s).of_map]
  refine List.filter_congr fun c _ => ?_
  have hquery : queryOf w settings s c =
      s.asked.counts.queries + (selection w settings s).idxOf c + 1 := by
    rw [queryOf]
    change _ = s.counts.queries + 1 + _ + 1
    omega
  rw [isSpared, hquery]
  rfl

/-- **The articles after a cycle**: those that it has saved, over those before. -/
theorem articleOf_outcome (hundisturbed : s.Undisturbed)
    (hfetch : w.fetch settings.maxPages = .ok fetched)
    (hsource : ∀ a ∈ fetched, a.sourceId = settings.sourceId)
    (hbatch : s.plan.refuses (s.counts.queries + 1) = false) :
    (outcome w settings s).2.store.articleOf =
      overlay (fun c _ => some c) (s.asked.saved (selection w settings s)) s.articleOf := by
  have hrow : ∀ key, (outcome w settings s).2.store.row? key =
      (s.asked.settleAll (selection w settings s)).row? key :=
    Store.row?_of_content (content_outcome hundisturbed hfetch hbatch)
  have hwindow := forall_window_sourceId hfetch hsource
  rw [saved_selection]
  funext key
  refine eq_overlay_filter (nodup_key_selection w settings s) _ (fun c hc hkey => ?_) fun hne => ?_
  · obtain ⟨id, hid, hc'⟩ := row?_settleAll_selection hc
    have hnews := ((mem_selection hundisturbed hwindow hbatch).mp hc).2
    rw [hkey, Store.articleOf, hrow, hc', StoredArticle.winner_of_news hid hnews, isSpared]
    split <;> rfl
  · rw [Store.articleOf, hrow, Store.row?_settleAll_of_forall_ne hne]
    rfl

/-- The links of an article that is saved: its tags if it has any, and those that it had else. -/
def relink (c : Article) (old : Option (List Int64)) : Option (List Int64) :=
  if c.tags = [] then old else some (Tag.distinctIds c.tagIds)

/-- **The links after a cycle**: those of the articles that it has saved, over those before, for
every key but those of articles that may take over links. -/
theorem linksOf_outcome {pending : Write → Prop} {key : Article.Key}
    (hundisturbed : s.Undisturbed) (hfetch : w.fetch settings.maxPages = .ok fetched)
    (hbatch : s.plan.refuses (s.counts.queries + 1) = false) (hsound : s.Sound pending)
    (hroom : s.HasRoom (selection w settings s).length)
    (hkey : ∀ a ∈ selection w settings s, s.MayTakeOver a → key ≠ a.key) :
    (outcome w settings s).2.store.linksOf key =
      overlay relink (s.asked.saved (selection w settings s)) s.linksOf key := by
  have hroom : s.asked.HasRoom (selection w settings s).length := hroom
  rw [Store.linksOf_of_content (content_outcome hundisturbed hfetch hbatch), saved_selection]
  refine eq_overlay_filter (nodup_key_selection w settings s) _ (fun c hc heq => ?_) fun hne => ?_
  · obtain ⟨before, after, hsplit, hbefore, hafter, hquery⟩ := exists_split_selection hc
    have hown : ¬ s.asked.MayTakeOver c := fun h =>
      hkey c hc (h.of_content rfl (Int64.le_refl _)) heq
    rw [hsplit] at hroom
    rw [heq, hsplit, Store.linksOf_settleAll_of_mem hown hsound.asked hroom hbefore hafter,
      isSpared, hquery, relink]
    change (if s.plan.spares _ c = true ∧ c.tags ≠ [] then _ else s.linksOf c.key) = _
    by_cases htags : c.tags = []
    · rw [if_neg fun h => h.2 htags, if_pos htags, ite_self]
    · rw [if_neg htags]
      simp only [ne_eq, htags, not_false_eq_true, and_true]
  · rw [Store.linksOf_settleAll_of_forall_ne hsound.asked hroom hne]
    rfl

/-- **A cycle links nothing ahead**: after it no article may take over links that could not
before. -/
theorem mayTakeOver_of_outcome {pending : Write → Prop} {a : Article}
    (hundisturbed : s.Undisturbed) (hfetch : w.fetch settings.maxPages = .ok fetched)
    (hbatch : s.plan.refuses (s.counts.queries + 1) = false) (hsound : s.Sound pending)
    (hroom : s.HasRoom (selection w settings s).length)
    (h : (outcome w settings s).2.store.MayTakeOver a) : s.MayTakeOver a := by
  obtain ⟨⟨now, synced, lastStored, hstore⟩, -⟩ := outcome_of_fetched hundisturbed hfetch hbatch
  rw [hstore, Store.writeState?_eq] at h
  have hsettled : (s.asked.settleAll (selection w settings s)).MayTakeOver a :=
    h.of_content rfl (Int64.le_refl _)
  exact (hsettled.of_settleAll hsound.asked hroom).of_content rfl (Int64.le_refl _)

/-! ### What the cycles select -/

/-- No other writer is planned for a store without planned failures. -/
theorem undisturbed_cleared (s : Store) : s.cleared.Undisturbed :=
  fun _ h => absurd h List.not_mem_nil

/-- A store without planned failures saves all that it selects. -/
theorem saved_of_cleared (w : Replies) (settings : Settings) (s : Store) :
    s.cleared.asked.saved (selection w settings s.cleared) = selection w settings s.cleared := by
  rw [saved_selection]
  refine List.filter_eq_self.mpr fun c _ => ?_
  simp [isSpared, Store.cleared, FaultPlan.spares, FaultPlan.refuses, FaultPlan.accepts]

/-- Two stores that hold the same articles of a source select the same. -/
theorem selection_congr (hundisturbed : s.Undisturbed) (hundisturbed₁ : s₁.Undisturbed)
    (hbatch : s.plan.refuses (s.counts.queries + 1) = false)
    (hbatch₁ : s₁.plan.refuses (s₁.counts.queries + 1) = false)
    (hwindow : window w₁ settings = window w settings)
    (hrows : s₁.lastModified? settings.sourceId = s.lastModified? settings.sourceId) :
    selection w₁ settings s₁ = selection w settings s := by
  rw [selection_of_undisturbed hundisturbed, selection_of_undisturbed hundisturbed₁, hbatch,
    hbatch₁, hwindow, hrows]

/-- Whether an article is news is told by the article of its key. -/
theorem isNews_eq (hsource : c.sourceId = settings.sourceId) :
    isNews (s.lastModified? settings.sourceId) c =
      (s.articleOf c.key).all fun a => a.lastModified < c.lastModified := by
  rw [isNews, Store.lastModified?, Store.articleOf, ← hsource]
  change _ = ((s.row? (c.sourceId, c.externalId)).map _).all _
  cases s.row? (c.sourceId, c.externalId) <;> rfl

/-- **The second cycle selects what the first one failed to save.** -/
theorem selection_after_failures {p : Article → Bool} (hundisturbed : s.Undisturbed)
    (hundisturbed₁ : s₁.Undisturbed) (hbatch : s.plan.refuses (s.counts.queries + 1) = false)
    (hbatch₁ : s₁.plan.refuses (s₁.counts.queries + 1) = false)
    (hwindow : window w₁ settings = window w settings)
    (hsource : ∀ a ∈ window w settings, a.sourceId = settings.sourceId)
    (harticles : s₁.articleOf =
      overlay (fun c _ => some c) ((selection w settings s).filter p) s.articleOf) :
    selection w₁ settings s₁ = (selection w settings s).filter fun c => !p c := by
  have hnodup := nodup_key_selection w settings s
  have hselection := selection_of_undisturbed hundisturbed w settings
  rw [hbatch, if_neg Bool.false_ne_true, selectForSync] at hselection
  rw [selection_of_undisturbed hundisturbed₁, hbatch₁, if_neg Bool.false_ne_true, hwindow,
    selectForSync, hselection, List.filter_filter]
  refine List.filter_congr fun c hc => ?_
  have hcsource := hsource c (mem_latestVersions.mp hc).mem
  rw [isNews_eq hcsource, harticles]
  cases hnews : isNews (s.lastModified? settings.sourceId) c with
  | true =>
      have hmem : c ∈ selection w settings s := hselection ▸ List.mem_filter.mpr ⟨hc, hnews⟩
      rw [overlay_filter_of_mem hnodup p hmem, Bool.and_true]
      cases p c with
      | true =>
          rw [if_pos rfl]
          simp
      | false =>
          rw [if_neg Bool.false_ne_true, ← isNews_eq hcsource, hnews]
          rfl
  | false =>
      -- no other latest version has the key of this one
      have hother : ∀ b ∈ (selection w settings s).filter p, c.key ≠ b.key := by
        intro b hb hkey
        rw [hselection] at hb
        obtain ⟨hb, hbnews⟩ := List.mem_filter.mp (List.mem_of_mem_filter hb)
        obtain rfl : c = b := List.inj_on_of_nodup_map (nodup_latestVersions _) hc hb
          (congrArg Prod.snd hkey)
        exact absurd (hnews.symm.trans hbnews) Bool.false_ne_true
      rw [overlay_of_forall_ne hother, ← isNews_eq hcsource, hnews, Bool.and_false]

/-! ### Twice against once -/

/-- Whether a store lacks an article is told by the article of its key. -/
theorem lacks_eq (s : Store) (c : Article) : s.lacks c = (s.articleOf c.key).isNone := by
  rw [Store.lacks, Store.articleOf, Option.isNone_map]

/-- **Cycles over one list**: a first one on a store, whatever saves are planned to fail, a second
one on what it leaves, and a single one on the same store as the first. All see the same articles
inside the window. -/
structure Rerun (settings : Settings) (fetched : List Article) (s : Store) (w₁ w₂ w : Replies) :
    Prop where
  undisturbed : s.Undisturbed
  batch : s.plan.refuses (s.counts.queries + 1) = false
  fetch₁ : w₁.fetch settings.maxPages = .ok fetched
  fetch₂ : w₂.fetch settings.maxPages = .ok fetched
  fetch : w.fetch settings.maxPages = .ok fetched
  window₁ : window w₁ settings = window w settings
  window₂ : window w₂ settings = window w settings
  source : ∀ a ∈ fetched, a.sourceId = settings.sourceId

namespace Rerun

variable (h : Rerun settings fetched s w₁ w₂ w)
include h

/-- The articles after the first cycle: those that it has saved, over those before. -/
theorem articleOf_first : (outcome w₁ settings s).2.store.cleared.articleOf =
    overlay (fun c _ => some c) ((selection w₁ settings s).filter (isSpared w₁ settings s))
      s.articleOf := by
  have hfirst := articleOf_outcome h.undisturbed h.fetch₁ h.source h.batch
  rw [saved_selection] at hfirst
  exact hfirst

/-- The second cycle saves what the first one failed to save. -/
theorem saved_second :
    let s₁ := (outcome w₁ settings s).2.store.cleared
    s₁.asked.saved (selection w₂ settings s₁) =
      (selection w₁ settings s).filter fun c => !isSpared w₁ settings s c := by
  intro s₁
  have hsource := forall_window_sourceId h.fetch₁ h.source
  exact (saved_of_cleared w₂ settings _).trans
    (selection_after_failures h.undisturbed (undisturbed_cleared _) h.batch rfl
      (h.window₂.trans h.window₁.symm) hsource h.articleOf_first)

/-- The single cycle saves all that the first one selects. -/
theorem saved_single :
    s.cleared.asked.saved (selection w settings s.cleared) = selection w₁ settings s :=
  (saved_of_cleared w settings s).trans
    (selection_congr h.undisturbed (undisturbed_cleared s) h.batch rfl h.window₁.symm rfl)

/-- Each key ends up with the same article. -/
theorem articleOf_eq :
    let s₁ := (outcome w₁ settings s).2.store.cleared
    (outcome w₂ settings s₁).2.store.articleOf =
      (outcome w settings s.cleared).2.store.articleOf := by
  intro s₁
  have hsecond := articleOf_outcome (s := s₁) (undisturbed_cleared _) h.fetch₂ h.source rfl
  have hsingle := articleOf_outcome (undisturbed_cleared s) h.fetch h.source rfl
  rw [h.saved_second, h.articleOf_first,
    overlay_overlay_filter (nodup_key_selection w₁ settings s)] at hsecond
  rw [h.saved_single] at hsingle
  exact hsecond.trans hsingle.symm

/-- Each key ends up with the same links, unless its article may take over links. -/
theorem linksOf_eq {pending : Write → Prop} {key : Article.Key} (hsound : s.Sound pending)
    (hroom : s.HasRoom (2 * (selection w₁ settings s).length))
    (hkey : ∀ a ∈ selection w₁ settings s, s.MayTakeOver a → key ≠ a.key) :
    let s₁ := (outcome w₁ settings s).2.store.cleared
    (outcome w₂ settings s₁).2.store.linksOf key =
      (outcome w settings s.cleared).2.store.linksOf key := by
  intro s₁
  rw [Nat.two_mul] at hroom
  have hone := hroom.mono (Nat.le_add_left _ _)
  obtain ⟨hsound₁, hroom₁⟩ := sound_outcome h.undisturbed h.fetch₁ h.batch hsound hroom
  have hselection₂ : selection w₂ settings s₁ = _ :=
    (saved_of_cleared w₂ settings _).symm.trans h.saved_second
  have hselection := (saved_of_cleared w settings s).symm.trans h.saved_single
  -- an article that may take over links from the second cycle on could before the first one
  have hkey₂ : ∀ a ∈ selection w₂ settings s₁, s₁.MayTakeOver a → key ≠ a.key := by
    intro a ha htake
    have hfirst := mayTakeOver_of_outcome h.undisturbed h.fetch₁ h.batch hsound hone
      (htake.of_content rfl (Int64.le_refl _))
    rw [hselection₂] at ha
    exact hkey a (List.mem_of_mem_filter ha) hfirst
  have hkey' : ∀ a ∈ selection w settings s.cleared, s.cleared.MayTakeOver a → key ≠ a.key :=
    fun a ha htake => hkey a (hselection ▸ ha) (htake.of_content rfl (Int64.le_refl _))
  have hroom₂ : s₁.HasRoom (selection w₂ settings s₁).length :=
    Store.HasRoom.mono hroom₁ (hselection₂ ▸ List.length_filter_le _ _)
  have hfirst : s₁.linksOf key = _ :=
    linksOf_outcome h.undisturbed h.fetch₁ h.batch hsound hone hkey
  have hsecond := linksOf_outcome (undisturbed_cleared _) h.fetch₂ rfl (hsound₁.replan {}) hroom₂
    hkey₂
  have hsingle := linksOf_outcome (undisturbed_cleared s) h.fetch rfl (hsound.replan {})
    (hselection ▸ hone) hkey'
  rw [saved_selection] at hfirst
  rw [h.saved_second, overlay_congr hfirst,
    overlay_overlay_filter (nodup_key_selection w₁ settings s)] at hsecond
  rw [h.saved_single] at hsingle
  exact hsecond.trans hsingle.symm

/-- An article that the first cycle failed to save is as new to the second one as to the first. -/
theorem lacks_second {c : Article}
    (hc : c ∈ (selection w₁ settings s).filter fun c => !isSpared w₁ settings s c) :
    (outcome w₁ settings s).2.store.cleared.lacks c = s.lacks c := by
  obtain ⟨hc, hspared⟩ := List.mem_filter.mp hc
  rw [lacks_eq, lacks_eq, h.articleOf_first,
    overlay_filter_of_mem (nodup_key_selection w₁ settings s) _ hc, if_neg (by simpa using hspared)]

/-- The numbers of new articles add up, and so do the numbers of updates. -/
theorem counts_eq :
    let s₁ := (outcome w₁ settings s).2.store.cleared
    ∃ stats₁ stats₂ stats, counted? (outcome w₁ settings s).1 = some stats₁ ∧
      counted? (outcome w₂ settings s₁).1 = some stats₂ ∧
      counted? (outcome w settings s.cleared).1 = some stats ∧
      stats₁.new + stats₂.new = stats.new ∧ stats₁.updated + stats₂.updated = stats.updated := by
  intro s₁
  obtain ⟨stats₁, hstats₁, hnew₁, hupdated₁⟩ :=
    counts_outcome h.undisturbed h.fetch₁ h.source h.batch
  obtain ⟨stats₂, hstats₂, hnew₂, hupdated₂⟩ :=
    counts_outcome (s := s₁) (undisturbed_cleared _) h.fetch₂ h.source rfl
  obtain ⟨stats, hstats, hnew, hupdated⟩ :=
    counts_outcome (undisturbed_cleared s) h.fetch h.source rfl
  rw [saved_selection] at hnew₁ hupdated₁
  rw [h.saved_second] at hnew₂ hupdated₂
  rw [h.saved_single] at hnew hupdated
  refine ⟨stats₁, stats₂, stats, hstats₁, hstats₂, hstats, ?_, ?_⟩
  · rw [hnew₁, hnew₂, hnew,
      List.countP_eq_countP_filter_add _ s.cleared.lacks (isSpared w₁ settings s)]
    exact congrArg _ (List.countP_congr fun c hc => by rw [h.lacks_second hc]; rfl)
  · rw [hupdated₁, hupdated₂, hupdated,
      List.countP_eq_countP_filter_add _ (fun c => !s.cleared.lacks c) (isSpared w₁ settings s)]
    exact congrArg _ (List.countP_congr fun c hc => by rw [h.lacks_second hc]; rfl)

end Rerun

/-- **Recovery by running again.** Whatever saves fail in a first cycle whose list is fetched and
whose batch query is answered, a second cycle without failures over the same list leaves each key
with the same article as a single cycle without failures would have, and with the same links unless
its article may take over some; and the two count together as many articles as new, and as many as
updates, as the single one. (Only the links need that the counter of internal ids does not
overflow.) -/
theorem recovery_by_rerun (hundisturbed : s.Undisturbed)
    (hfetch : w.fetch settings.maxPages = .ok fetched)
    (hfetch₁ : w₁.fetch settings.maxPages = .ok fetched)
    (hfetch₂ : w₂.fetch settings.maxPages = .ok fetched)
    (hwindow₁ : window w₁ settings = window w settings)
    (hwindow₂ : window w₂ settings = window w settings)
    (hsource : ∀ a ∈ fetched, a.sourceId = settings.sourceId)
    (hbatch : s.plan.refuses (s.counts.queries + 1) = false) :
    let s₁ := (outcome w₁ settings s).2.store.cleared
    let s₂ := (outcome w₂ settings s₁).2.store
    let s' := (outcome w settings s.cleared).2.store
    (∀ key, s₂.articleOf key = s'.articleOf key) ∧
    (s.Reachable → s.HasRoom (2 * (selection w₁ settings s).length) →
      ∀ key, (∀ a ∈ selection w₁ settings s, s.MayTakeOver a → key ≠ a.key) →
        s₂.linksOf key = s'.linksOf key) ∧
    ∃ stats₁ stats₂ stats, counted? (outcome w₁ settings s).1 = some stats₁ ∧
      counted? (outcome w₂ settings s₁).1 = some stats₂ ∧
      counted? (outcome w settings s.cleared).1 = some stats ∧
      stats₁.new + stats₂.new = stats.new ∧ stats₁.updated + stats₂.updated = stats.updated := by
  intro s₁ s₂ s'
  have hrerun : Rerun settings fetched s w₁ w₂ w :=
    ⟨hundisturbed, hbatch, hfetch₁, hfetch₂, hfetch, hwindow₁, hwindow₂, hsource⟩
  refine ⟨congrFun hrerun.articleOf_eq, fun hreachable hroom key hkey => ?_, hrerun.counts_eq⟩
  obtain ⟨opened, hreachable⟩ := hreachable
  exact hrerun.linksOf_eq hreachable.sound hroom hkey

/-- In a first cycle one of three articles cannot be upserted and one cannot be linked to its tags;
a second cycle makes up for it. -/
theorem recovery_of_failed_upsert_and_link :
    let a := Article.bare 1 .sooner []
    let b := Article.bare 2 .sooner [⟨8, "rates"⟩]
    let c := Article.bare 3 .sooner []
    let s : Store := { (Store.insert (.bare 2 .epoch [⟨5, "news"⟩]) {}).2 with
      plan := { upserts := [1], links := true } }
    let w := Replies.listing [a, b, c]
    (outcome w .daily s).2.committed = [c] ∧
      (outcome w .daily (outcome w .daily s).2.store.cleared).2.store.articleOf a.key = some a ∧
      (outcome w .daily (outcome w .daily s).2.store.cleared).2.store.linksOf b.key = some [8] := by
  intro a b c s w
  have hreachable : s.Reachable :=
    ⟨_, .replan _ (.move (.insert (.bare 2 .epoch [⟨5, "news"⟩])) (.start {}) (by decide))⟩
  have hkey : ∀ x ∈ selection w .daily s, s.MayTakeOver x → b.key ≠ x.key := by
    intro x hx htake hkey
    have htags : ∀ x ∈ selection w .daily s, b.key = x.key → x.tags ≠ [] := by decide +kernel
    exact htags x hx hkey htake.untagged
  have hfetch : w.fetch Settings.daily.maxPages = .ok [a, b, c] := rfl
  have hwindow : window w .daily = window w .daily := rfl
  obtain ⟨harticles, hlinks, -⟩ := recovery_by_rerun (by decide : s.Undisturbed) hfetch hfetch
    hfetch hwindow hwindow (by decide) (by decide)
  refine ⟨by decide +kernel, ?_, ?_⟩
  · rw [harticles]
    decide +kernel
  · rw [hlinks hreachable (by decide +kernel) b.key hkey]
    decide +kernel

/-- Links that were set ahead go to the article that is stored first. Of two new articles without
tags that is the first one, but if its query fails in a first cycle it is the second one. -/
theorem links_ahead_go_to_first_stored :
    let a := Article.bare 1 .sooner []
    let b := Article.bare 2 .sooner []
    let d := Desk.performAll { store := {} }
      [.upsertTags 0 [⟨9, "news"⟩], .link 0 1 [9], .commit 0]
    let s : Store := { d.store with plan := { queriesAt := [2] } }
    let w := Replies.listing [a, b]
    let s₂ := (outcome w .daily (outcome w .daily s).2.store.cleared).2.store
    let s' := (outcome w .daily s.cleared).2.store
    s.Reachable ∧ s.Undisturbed ∧ w.fetch Settings.daily.maxPages = .ok [a, b] ∧
      (∀ x ∈ [a, b], x.sourceId = Settings.daily.sourceId) ∧
      s.plan.refuses (s.counts.queries + 1) = false ∧
      s.HasRoom (2 * (selection w .daily s).length) ∧
      (s₂.linksOf a.key = none ∧ s₂.linksOf b.key = some [9]) ∧
      (s'.linksOf a.key = some [9] ∧ s'.linksOf b.key = none) := by
  intro a b d s w s₂ s'
  have hreachable : s.Reachable :=
    ⟨d.opened, .replan _ (.move (.commit 0) (.move (.link 0 1 [9])
      (.move (.upsertTags 0 [⟨9, "news"⟩]) (.start {}) (by decide)) (by decide)) (by decide))⟩
  refine ⟨hreachable, by decide, rfl, by decide, by decide, ?_⟩
  decide +kernel

end Cycle

end FeedSync
