import FeedSync.Proofs.Cycle.Balance
import FeedSync.Proofs.Cycle.Merge
import FeedSync.Proofs.Cycle.Served

/-!
# What a cycle counts

A cycle without other writers counts an article that it saves as **new** if the store lacked its key
when the cycle began, and as an update otherwise: the saves before it are of other articles, so they
do not change the answer. The count is made along the loop, and carried over to the statistics of
the whole cycle by the trace, which tells where the loop stands in it.

## Main statements

* `run_handleAll` — what the loop counts.
* `exists_course` — the course of a cycle that has fetched its list and whose batch query was
  answered: it selects what `selection` says.
* `counts_outcome` — what the whole cycle counts.
-/

namespace FeedSync

open Program

/-- Whether a store has no version of an article. -/
def Store.lacks (s : Store) (a : Article) : Bool := (s.row? a.key).isNone

namespace Cycle

variable {w : Replies} {settings : Settings} {s : Store} {sc : Scene}

/-! ### The loop -/

/-- An article is new to a store that lacks it. -/
theorem isNone_lastModified? {a : Article} (hsource : a.sourceId = settings.sourceId) :
    (s.lastModified? settings.sourceId a.externalId).isNone = s.lacks a := by
  rw [Store.lacks, Store.lastModified?, Option.isNone_map, ← hsource]
  rfl

/-- Publishing an article changes nothing about how many are new and how many are updates. -/
theorem run_publish (w : Replies) (settings : Settings) (a : Article) (isNew : Bool) (stats : Stats)
    (sc : Scene) :
    let stats' := (run (Scene.answer w alone) (publish settings a isNew stats) sc).1
    stats'.new = stats.new ∧ stats'.updated = stats.updated := by
  rcases published_of_yields (yields_trace _ _).1 with ⟨-, -, h⟩ | ⟨-, reply, -, h⟩
  · rw [h]
    exact ⟨rfl, rfl⟩
  · rw [h]
    cases reply <;> exact ⟨rfl, rfl⟩

/-- **What is counted for one article**: it is new or an update if it is saved. -/
theorem run_handleArticle {a : Article} (hundisturbed : sc.store.Undisturbed)
    (hsource : a.sourceId = settings.sourceId) (progress : Progress) :
    let r := run (Scene.answer w alone) (handleArticle settings progress a) sc
    r.2.store = sc.store.settle a ∧
      r.1.stats.new = progress.stats.new +
        (if sc.store.spares a && sc.store.lacks a then 1 else 0) ∧
      r.1.stats.updated = progress.stats.updated +
        (if sc.store.spares a && !sc.store.lacks a then 1 else 0) := by
  have hhandle : Keeps w (fun _ => True) (handleArticle settings progress a)
      (fun _ sc' => sc'.store = sc.store.settle a ∧ _) sc :=
    keeps_handleArticle hundisturbed rfl trivial trivial trivial
  have hsave : Keeps w (fun _ => True) (save settings.sourceId a) (fun reply sc' => _ ∧ _ ∧
      if sc.store.spares a then
        reply = .ok (sc.store.lastModified? settings.sourceId a.externalId).isNone
      else ∃ e, reply = .error e) sc :=
    keeps_save hundisturbed rfl trivial trivial
  obtain ⟨-, -, hreply⟩ := hsave.run fun _ => trivial
  rw [isNone_lastModified? hsource] at hreply
  obtain ⟨⟨reply, sc₁⟩, hrun⟩ : ∃ x, run (Scene.answer w alone) (save settings.sourceId a) sc = x :=
    ⟨_, rfl⟩
  refine ⟨(hhandle.run fun _ => trivial).1, ?_⟩
  rw [hrun] at hreply
  rw [handleArticle, run_bind_of_run hrun]
  cases hspares : sc.store.spares a with
  | false =>
      rw [hspares, if_neg Bool.false_ne_true] at hreply
      obtain ⟨e, rfl⟩ := hreply
      exact ⟨rfl, rfl⟩
  | true =>
      rw [hspares, if_pos rfl] at hreply
      obtain rfl : reply = .ok (sc.store.lacks a) := hreply
      have hcounts := run_publish w settings a (sc.store.lacks a)
        (countStored progress.stats (sc.store.lacks a)) sc₁
      obtain ⟨⟨stats, sc₂⟩, hpublish⟩ : ∃ x, run (Scene.answer w alone) (publish settings a
          (sc.store.lacks a) (countStored progress.stats (sc.store.lacks a))) sc₁ = x := ⟨_, rfl⟩
      rw [hpublish] at hcounts
      obtain ⟨hnew, hupdated⟩ := hcounts
      simp only
      rw [run_bind_of_run hpublish]
      change stats.new = _ ∧ stats.updated = _
      rw [hnew, hupdated]
      cases sc.store.lacks a <;> exact ⟨rfl, rfl⟩

/-- Handling articles does not change whether the store lacks one with another key. -/
theorem lacks_settle {a b : Article} (hkey : b.key ≠ a.key) : (s.settle a).lacks b = s.lacks b := by
  rw [Store.lacks, Store.lacks, Store.row?_settle, if_neg fun h => hkey h.1]

/-- **What the loop counts**: of the articles that are saved, those that the store lacked at its
start are new, and all others updates. -/
theorem run_handleAll {articles : List Article} (hundisturbed : sc.store.Undisturbed)
    (hsource : ∀ a ∈ articles, a.sourceId = settings.sourceId)
    (hnodup : (articles.map Article.key).Nodup) (progress : Progress) :
    let r := run (Scene.answer w alone) (handleAll settings progress articles) sc
    let saved := sc.store.saved articles
    r.1.stats.new = progress.stats.new + saved.countP sc.store.lacks ∧
      r.1.stats.updated = progress.stats.updated + saved.countP fun a => !sc.store.lacks a := by
  induction articles generalizing sc progress with
  | nil => exact ⟨rfl, rfl⟩
  | cons a rest ih =>
      obtain ⟨hfirst, hrest⟩ := List.nodup_cons.mp hnodup
      obtain ⟨ha, hsource⟩ := List.forall_mem_cons.mp hsource
      obtain ⟨⟨progress', sc'⟩, hrun⟩ : ∃ x,
          run (Scene.answer w alone) (handleArticle settings progress a) sc = x := ⟨_, rfl⟩
      have harticle := run_handleArticle (w := w) hundisturbed ha progress
      rw [hrun] at harticle
      obtain ⟨hstore, hnew, hupdated⟩ := harticle
      have hundisturbed' : sc'.store.Undisturbed := hstore ▸ hundisturbed.settle
      obtain ⟨ihnew, ihupdated⟩ := ih hundisturbed' hsource hrest progress'
      have hlacks : ∀ b ∈ (sc.store.settle a).saved rest,
          (sc.store.settle a).lacks b = sc.store.lacks b := by
        intro b hb
        refine lacks_settle fun hkey => hfirst (hkey ▸ List.mem_map_of_mem ?_)
        exact (Store.saved_sublist _ _).mem hb
      have hold : ((sc.store.settle a).saved rest).countP (sc.store.settle a).lacks =
          ((sc.store.settle a).saved rest).countP sc.store.lacks :=
        List.countP_congr fun b hb => by rw [hlacks b hb]
      have hold' : (((sc.store.settle a).saved rest).countP fun b => !(sc.store.settle a).lacks b) =
          ((sc.store.settle a).saved rest).countP fun b => !sc.store.lacks b :=
        List.countP_congr fun b hb => by rw [hlacks b hb]
      rw [hstore, hnew, hold] at ihnew
      rw [hstore, hupdated, hold'] at ihupdated
      rw [handleAll, run_bind_of_run hrun, Store.saved]
      simp only
      rw [ihnew, ihupdated]
      cases sc.store.spares a with
      | false => exact ⟨rfl, rfl⟩
      | true =>
          rw [if_pos rfl, List.countP_cons, List.countP_cons, Bool.true_and, Bool.true_and]
          exact ⟨by omega, by omega⟩

/-! ### The whole cycle -/

/-- **The course of a cycle** that has fetched its list and whose batch query was answered: it
selects what `selection` says, and its loop begins where the batch query has left the store. -/
theorem exists_course {fetched : List Article} (hundisturbed : s.Undisturbed)
    (hfetch : w.fetch settings.maxPages = .ok fetched)
    (hbatch : s.plan.refuses (s.counts.queries + 1) = false) :
    ∃ (c : Course settings (trace (Scene.answer w alone) (cycle settings) (Scene.start s))
        (outcome w settings s).1) (sc sc' : Scene),
      c.fetched = fetched ∧ c.articles = window w settings ∧
        c.held = s.heldOf settings.sourceId (c.articles.map Article.externalId) ∧
        c.selected = selection w settings s ∧ sc.store = s.asked ∧
        Answered (Scene.answer w alone) (Scene.start s) c.opening sc ∧
        Answered (Scene.answer w alone) sc c.handling sc' := by
  have hheld := Store.held_of_undisturbed hundisturbed settings.sourceId
  simp only [hbatch, if_neg Bool.false_ne_true] at hheld
  let t := trace (Scene.answer w alone) (cycle settings) (Scene.start s)
  obtain ⟨hyields, hanswered⟩ : Yields (cycle settings) t (outcome w settings s).1 ∧
      Answered (Scene.answer w alone) (Scene.start s) t (outcome w settings s).2 :=
    yields_trace _ _
  have hserves : s.Serves w (calls t) _ := (Store.serves_of_answered hanswered).1
  rcases yields_cycle hyields with ⟨e, hcalls, -⟩ | ⟨fetched', now, e, hcalls, -, -⟩ | ⟨⟨c⟩⟩
  · rw [hcalls] at hserves
    obtain ⟨_, hreply, -⟩ := hserves
    nomatch hreply.trans hfetch
  · rw [hcalls] at hserves
    obtain ⟨_, -, _, hreply, -⟩ := hserves
    nomatch hreply.trans (congrArg Prod.fst (hheld _))
  · rw [c.trace_eq] at hanswered
    obtain ⟨sc₁, hopening, hanswered⟩ := answered_append.mp hanswered
    obtain ⟨sc₂, hhandling, -⟩ := answered_append.mp hanswered
    have hserves₁ := (Store.serves_of_answered hopening).1
    rw [c.opening_eq] at hserves₁
    obtain ⟨_, hfetched, _, hanswer, hstore⟩ := hserves₁
    have hfetched : c.fetched = fetched := Except.ok.inj (hfetched.trans hfetch)
    have hnow : c.now = w.clock 0 := reading_of_answered hopening c.reading_eq
    have hanswer : c.held = s.heldOf settings.sourceId (c.articles.map Article.externalId) :=
      Except.ok.inj (hanswer.trans (congrArg Prod.fst (hheld _)))
    have hstore : sc₁.store = s.asked := hstore.trans (congrArg Prod.snd (hheld _))
    have harticles : c.articles = window w settings := by
      rw [Course.articles, hfetched, hnow, window, hfetch]
      rfl
    refine ⟨c, sc₁, sc₂, hfetched, harticles, hanswer, ?_, hstore, hopening, hhandling⟩
    rw [selection_of_undisturbed hundisturbed, hbatch, if_neg Bool.false_ne_true,
      Course.selected, hanswer, ← harticles]
    refine selectForSync_congr fun a ha => ?_
    rw [Store.get?_heldOf, if_pos (List.mem_map_of_mem ha)]

/-- **What a cycle counts**: of the articles that it saves, those that the store lacked are new, and
all others updates. -/
theorem counts_outcome {fetched : List Article} (hundisturbed : s.Undisturbed)
    (hfetch : w.fetch settings.maxPages = .ok fetched)
    (hsource : ∀ a ∈ fetched, a.sourceId = settings.sourceId)
    (hbatch : s.plan.refuses (s.counts.queries + 1) = false) :
    ∃ stats, counted? (outcome w settings s).1 = some stats ∧
      stats.new = (s.asked.saved (selection w settings s)).countP s.lacks ∧
      stats.updated = (s.asked.saved (selection w settings s)).countP fun a => !s.lacks a := by
  obtain ⟨c, sc, sc', -, -, -, hselected, hstore, -, hanswered⟩ :=
    exists_course hundisturbed hfetch hbatch
  have hrun : (run (Scene.answer w alone) (handleAll settings
      { stats := statsBefore settings c.articles c.selected } c.selected) sc).1 = c.progress :=
    congrArg Prod.fst (run_eq_of_answered c.handled hanswered)
  have hsource : ∀ a ∈ selection w settings s, a.sourceId = settings.sourceId := fun a ha =>
    forall_window_sourceId hfetch hsource a (mem_window_of_mem_selection ha)
  have hcounts := run_handleAll (w := w) (hstore ▸ hundisturbed.asked) hsource
    (nodup_key_selection w settings s) { stats := statsBefore settings c.articles c.selected }
  simp only at hcounts
  rw [← hselected, hrun, hstore] at hcounts
  refine ⟨c.stats, c.counted?_eq, ?_⟩
  rw [← hselected]
  exact ⟨hcounts.1.trans (Nat.zero_add _), hcounts.2.trans (Nat.zero_add _)⟩

end Cycle

end FeedSync
