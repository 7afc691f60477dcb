import FeedSync.Proofs.Cycle.History
import FeedSync.Proofs.Cycle.Recovery
import FeedSync.Proofs.Store.Merging

/-!
# The order of deliveries does not matter

A cycle applies the rule "the strictly later version wins, and of equally late ones the one that was
there" in three places: when it keeps the latest version of each article, when it looks for news,
and when a save is committed. Together they are one **merge**: what a cycle leaves of an article is
what is left when the versions inside the window are written one after the other, in the order of
the list. So any cycles leave what their lists, one after the other, make of the store; and where no
two versions of an article are equally late, what a list makes of it depends on nothing but which
versions are in it.

## Main definitions

* `Delivers` — cycles of a source that deliver articles, without failed saves.

## Main statements

* `articleOf_outcome_eq_mergeAll` — the three places together, in one cycle.
* `articleOf_afterTurns` — any number of cycles, by induction on them.
* `deliveries_confluent` — any two ways of delivering the same articles.
-/

namespace FeedSync

namespace Cycle

/-! ### The merge of one cycle -/

variable {w : Replies} {settings : Settings} {s : Store} {fetched articles : List Article}
  {stored : Option Article} {c : Article}

/-- **The latest version in a list wins a merge**, if it is news. -/
theorem mergeAll_of_isLatest (hlatest : IsLatest articles c)
    (hnews : ∀ b, stored = some b → b.lastModified < c.lastModified) :
    mergeAll stored (versionsOf c.key articles) = some c := by
  obtain ⟨before, after, rfl, hbefore, hafter⟩ := hlatest
  have hid : ∀ {a : Article}, a.key = c.key → a.externalId = c.externalId :=
    fun h => congrArg Prod.snd h
  have hsplit : versionsOf c.key (before ++ c :: after) =
      versionsOf c.key before ++ ([c] ++ versionsOf c.key after) := by
    have hpos : decide (c.key = c.key) = true := decide_eq_true rfl
    rw [versionsOf, List.filter_append, List.filter_cons, if_pos hpos]
    rfl
  have hwins : merge (mergeAll stored (versionsOf c.key before)) c = c := by
    refine merge_of_news fun b hb => ?_
    rcases (isNewest_of_mergeAll hb).origin with hstored | ⟨hmem, -⟩
    · exact hnews b hstored
    · obtain ⟨hmem, hkey⟩ := mem_versionsOf.mp hmem
      exact hbefore b hmem (hid hkey)
  rw [hsplit, mergeAll_append, mergeAll_append]
  change mergeAll (some (merge (mergeAll stored (versionsOf c.key before)) c)) _ = _
  rw [hwins]
  refine mergeAll_of_forall_le fun a ha => ?_
  obtain ⟨hmem, hkey⟩ := mem_versionsOf.mp ha
  exact hafter a hmem (hid hkey)

/-- Versions of which the latest is no news change nothing when they are merged. -/
theorem mergeAll_of_no_news {articles : List Article} {sourceId : String}
    (hsource : ∀ a ∈ articles, a.sourceId = sourceId) (key : Article.Key)
    (hnews : ∀ c, IsLatest articles c → c.key = key →
      ∃ b, stored = some b ∧ c.lastModified ≤ b.lastModified) :
    mergeAll stored (versionsOf key articles) = stored := by
  by_cases hversions : versionsOf key articles = []
  · rw [hversions]
    rfl
  · obtain ⟨a, hversion⟩ := List.exists_mem_of_ne_nil _ hversions
    obtain ⟨ha, rfl⟩ := mem_versionsOf.mp hversion
    obtain ⟨c, hlatest, hid⟩ := exists_isLatest ha
    have hkey : c.key = a.key :=
      Prod.ext ((hsource c hlatest.mem).trans (hsource a ha).symm) hid
    obtain ⟨b, rfl, hle⟩ := hnews c hlatest hkey
    refine mergeAll_of_forall_le fun a' hversion' => ?_
    obtain ⟨ha', hkey'⟩ := mem_versionsOf.mp hversion'
    exact le_trans (hlatest.le ha' (congrArg Prod.snd (hkey'.trans hkey.symm))) hle

/-- **A cycle merges its list into the store**, if all that it selects is saved. -/
theorem articleOf_outcome_eq_mergeAll (hundisturbed : s.Undisturbed)
    (hfetch : w.fetch settings.maxPages = .ok fetched)
    (hsource : ∀ a ∈ fetched, a.sourceId = settings.sourceId)
    (hbatch : s.plan.refuses (s.counts.queries + 1) = false)
    (hsaved : ∀ c ∈ selection w settings s, c ∈ (outcome w settings s).2.committed)
    (key : Article.Key) : (outcome w settings s).2.store.articleOf key =
      mergeAll (s.articleOf key) (versionsOf key (window w settings)) := by
  have hwindow := forall_window_sourceId hfetch hsource
  have hselected : ∀ {c}, c ∈ selection w settings s ↔ IsLatest (window w settings) c ∧
      ∀ b, s.articleOf c.key = some b → b.lastModified < c.lastModified := by
    intro c
    rw [mem_selection hundisturbed hwindow hbatch, Store.articleOf]
    simp
  rw [(outcome_of_fetched hundisturbed hfetch hbatch).2] at hsaved
  have hsublist := s.asked.saved_sublist (selection w settings s)
  rw [articleOf_outcome hundisturbed hfetch hsource hbatch]
  by_cases hmem : ∃ c ∈ selection w settings s, key = c.key
  · obtain ⟨c, hc, rfl⟩ := hmem
    obtain ⟨hlatest, hnews⟩ := hselected.mp hc
    rw [overlay_of_mem ((nodup_key_selection w settings s).sublist (hsublist.map _)) (hsaved c hc),
      mergeAll_of_isLatest hlatest hnews]
  · push Not at hmem
    rw [overlay_of_forall_ne fun c hc => hmem c (hsublist.mem hc)]
    refine (mergeAll_of_no_news hwindow key fun c hlatest hkey => ?_).symm
    -- a latest version that is news would have been selected
    have hold : ¬ ∀ b, s.articleOf c.key = some b → b.lastModified < c.lastModified :=
      fun hnews => hmem c (hselected.mpr ⟨hlatest, hnews⟩) hkey.symm
    push Not at hold
    obtain ⟨b, hb, hle⟩ := hold
    exact ⟨b, hkey ▸ hb, hle⟩

/-! ### Many cycles -/

/-- **Cycles of a source in a row that deliver articles**: each of them fetches its list, which lies
inside its window, and saves all that it selects. The articles are those of all lists together, as
often and in the order as they come. -/
inductive Delivers (sourceId : String) : Store → List Turn → List Article → Prop
  | nil {s : Store} : Delivers sourceId s [] []
  | cons {s : Store} {turn : Turn} {turns : List Turn} {fetched articles : List Article}
      (hsource : turn.settings.sourceId = sourceId)
      (hfetch : turn.replies.fetch turn.settings.maxPages = .ok fetched)
      (hwindow : window turn.replies turn.settings = fetched)
      (hundisturbed : Store.Undisturbed { s with plan := turn.plan })
      (hbatch : turn.plan.refuses (s.counts.queries + 1) = false)
      (hsaved : ∀ c ∈ selection turn.replies turn.settings { s with plan := turn.plan },
        c ∈ (turn.outcome s).2.committed)
      (h : Delivers sourceId (turn.after s) turns articles) :
      Delivers sourceId s (turn :: turns) (fetched ++ articles)

variable {sourceId : String} {turns turns₁ turns₂ : List Turn} {articles₁ articles₂ : List Article}

/-- **Cycles in a row merge all their lists into the store**, one after the other. -/
theorem articleOf_afterTurns (h : Delivers sourceId s turns articles)
    (hsource : ∀ a ∈ articles, a.sourceId = sourceId) (key : Article.Key) :
    (afterTurns s turns).articleOf key =
      mergeAll (s.articleOf key) (versionsOf key articles) := by
  induction h with
  | nil => rfl
  | @cons s turn turns fetched articles hturn hfetch hwindow hundisturbed hbatch hsaved h ih =>
      obtain ⟨hfirst, hrest⟩ := List.forall_mem_append.mp hsource
      have hcycle : (turn.after s).articleOf key =
          mergeAll (s.articleOf key) (versionsOf key (window turn.replies turn.settings)) :=
        articleOf_outcome_eq_mergeAll hundisturbed hfetch
          (fun a ha => (hfirst a ha).trans hturn.symm) hbatch hsaved key
      have hsplit : versionsOf key (fetched ++ articles) =
          versionsOf key fetched ++ versionsOf key articles := List.filter_append _ _
      rw [hwindow] at hcycle
      rw [hsplit, mergeAll_append, ← hcycle]
      exact ih hrest

/-- No more is selected than lies inside the window. -/
theorem length_selection_le (w : Replies) (settings : Settings) (s : Store) :
    (selection w settings s).length ≤ (window w settings).length := by
  rw [selection]
  split
  · exact Nat.zero_le _
  · exact length_selectForSync_le _ _

/-- Cycles that deliver articles leave a sound store sound. -/
theorem sound_afterTurns {pending : Write → Prop} (h : Delivers sourceId s turns articles)
    (hsound : s.Sound pending) (hroom : s.HasRoom articles.length) :
    (afterTurns s turns).Sound pending := by
  induction h with
  | nil => exact hsound
  | @cons s turn turns fetched articles hturn hfetch hwindow hundisturbed hbatch hsaved h ih =>
      have hle : (selection turn.replies turn.settings { s with plan := turn.plan }).length ≤
          fetched.length := hwindow ▸ length_selection_le _ _ _
      rw [List.length_append] at hroom
      have hroom' : Store.HasRoom { s with plan := turn.plan } (_ + articles.length) :=
        Store.HasRoom.mono hroom (Nat.add_le_add_right hle articles.length)
      obtain ⟨hsound', hrest⟩ :=
        sound_outcome hundisturbed hfetch hbatch (hsound.replan turn.plan) hroom'
      exact ih hsound' hrest

/-- **Confluence of deliveries.** However some articles of a source are shared out among cycles
without failed saves, in whatever order and with whatever repetitions, the store ends up with the
same article for each key, as long as no two different ones agree on both their number and their
last modification. (That the rows then differ in nothing but their internal ids needs that the
counter of internal ids does not overflow.) -/
theorem deliveries_confluent (h₁ : Delivers sourceId s turns₁ articles₁)
    (h₂ : Delivers sourceId s turns₂ articles₂) (hsame : ∀ a, a ∈ articles₁ ↔ a ∈ articles₂)
    (hsource : ∀ a ∈ articles₁, a.sourceId = sourceId)
    (hties : ∀ a ∈ articles₁, ∀ b ∈ articles₁, a.externalId = b.externalId →
      a.lastModified = b.lastModified → a = b) :
    (∀ key, (afterTurns s turns₁).articleOf key = (afterTurns s turns₂).articleOf key) ∧
      (s.Reachable → s.HasRoom articles₁.length → s.HasRoom articles₂.length →
        Store.SameRows (fun _ => True) (afterTurns s turns₁) (afterTurns s turns₂)) := by
  have harticles : ∀ key, (afterTurns s turns₁).articleOf key =
      (afterTurns s turns₂).articleOf key := by
    intro key
    rw [articleOf_afterTurns h₁ hsource,
      articleOf_afterTurns h₂ fun a ha => hsource a ((hsame a).mpr ha)]
    refine mergeAll_congr (fun a => ?_) fun a ha b hb hlast => ?_
    · rw [mem_versionsOf, mem_versionsOf, hsame]
    · obtain ⟨ha, hakey⟩ := mem_versionsOf.mp ha
      obtain ⟨hb, hbkey⟩ := mem_versionsOf.mp hb
      exact hties a ha b hb (congrArg Prod.snd (hakey.trans hbkey.symm)) hlast
  refine ⟨harticles, fun ⟨opened, hreachable⟩ hroom₁ hroom₂ => ?_⟩
  exact Store.sameRows_of_articleOf (sound_afterTurns h₁ hreachable.sound hroom₁)
    (sound_afterTurns h₂ hreachable.sound hroom₂) fun key _ => harticles key

/-- Two versions of an article and another article, once delivered in one cycle, the later version
first, and once in two cycles, with a repetition: both ways leave the later version. -/
theorem confluence_of_three_articles :
    let a := Article.bare 1 .sooner []
    let b := Article.bare 1 .later [⟨7, "rates"⟩]
    let c := Article.bare 2 .sooner []
    let turns₁ : List Turn := [⟨.daily, .listing [b, c, a], {}⟩]
    let turns₂ : List Turn := [⟨.daily, .listing [a, a], {}⟩, ⟨.daily, .listing [c, b], {}⟩]
    (afterTurns {} turns₁).articleOf a.key = some b ∧
      (afterTurns {} turns₂).articleOf a.key = some b := by
  intro a b c turns₁ turns₂
  have h₁ : Delivers "ecb" {} turns₁ ([b, c, a] ++ []) :=
    .cons rfl rfl (by decide +kernel) (by decide) (by decide) (by decide +kernel) .nil
  have h₂ : Delivers "ecb" {} turns₂ ([a, a] ++ ([c, b] ++ [])) :=
    .cons rfl rfl (by decide +kernel) (by decide) (by decide) (by decide +kernel)
      (.cons rfl rfl (by decide +kernel) (by decide +kernel) (by decide +kernel)
        (by decide +kernel) .nil)
  have hsame : ∀ x, x ∈ [b, c, a] ++ [] ↔ x ∈ [a, a] ++ ([c, b] ++ []) := fun x => by
    simp only [List.append_nil, List.cons_append, List.nil_append, List.mem_cons,
      List.not_mem_nil, or_false]
    grind
  obtain ⟨harticles, -⟩ := deliveries_confluent h₁ h₂ hsame (by decide) (by decide)
  have hfirst : (afterTurns {} turns₁).articleOf a.key = some b := by decide +kernel
  exact ⟨hfirst, (harticles a.key).symm.trans hfirst⟩

end Cycle

end FeedSync
