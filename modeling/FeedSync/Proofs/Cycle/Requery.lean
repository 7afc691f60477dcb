import FeedSync.Proofs.Cycle.Counts

/-!
# The second existence query

A cycle asks twice whether the store holds an article: once for all articles inside the window, and
once more for each selected article right before its unit of work. Without other writers the second
query answers what the first one did. Between the two only the cycle itself has written, and no save
touches the row of another key; the selection has each key once. So the rows of the articles that
are still to be saved are a **frame** that the loop carries along.

The same frame shows that the rule by which a commit keeps a stored version that is as late never
applies in such a cycle: a selected article is later than the row that the first query has told, and
this row is the one that its commit finds.

## Main definitions

* `requeries` — what the queries for single articles asked and answered.
* `CommitsNews` — a commit finds no version that is as late as the one it writes.

## Main statements

* `requeries_handleAll` — the queries of the loop, each answered as if it were asked at its start.
* `finds_handleAll` — the commits of the loop write news.
* `second_query_changes_nothing` — both for a whole cycle, with what it counts.
-/

namespace FeedSync

open Program

variable {Tx : Type}

/-! ### Queries for single articles -/

/-- The query for a single article that an exchange is: its number, and the time that is stored of
it, if the query is not refused. -/
def Exchange.requery? :
    Exchange (Collaborators Tx) → Option (Int64 × Except InfraError (Option Instant))
  | ⟨.held _ [externalId], reply⟩ => some (externalId, reply.map fun held => held.get? externalId)
  | _ => none

/-- Whether a call is a commit. -/
def Call.isCommit : Call Tx → Bool
  | .commit _ => true
  | _ => false

namespace Cycle

/-- The queries for single articles, in order, each with its answer. -/
def requeries (t : Trace (Collaborators Tx)) : List (Int64 × Except InfraError (Option Instant)) :=
  t.filterMap Exchange.requery?

section Protocol

variable {settings : Settings} {a : Article} {t : Trace (Collaborators Transaction)} {fate : Fate}
  {w : Replies} {s s' : Store}

theorem requeries_append (t t' : Trace (Collaborators Tx)) :
    requeries (t ++ t') = requeries t ++ requeries t' :=
  List.filterMap_append

/-- The numbers that are asked for one by one are those of the queries. -/
theorem map_fst_requeries (t : Trace (Collaborators Tx)) :
    (requeries t).map Prod.fst = asked t := by
  rw [requeries, asked, List.map_filterMap]
  refine List.filterMap_congr fun x _ => ?_
  obtain ⟨c, reply⟩ := x
  cases c with
  | held sourceId ids => rcases ids with _ | ⟨e, _ | ⟨e', ids⟩⟩ <;> rfl
  | _ => rfl

/-- A trace that asks for no single article has no queries for one. -/
theorem requeries_eq_nil {t : Trace (Collaborators Tx)} (h : asked t = []) : requeries t = [] :=
  List.map_eq_nil_iff.mp ((map_fst_requeries t).trans h)

/-- **The query of a save** is answered by the store that the save begins with. -/
theorem Saves.requeries_eq {sourceId : String} {reply : Except InfraError Bool}
    (h : Saves sourceId a t reply) (hserves : s.Serves w t s') :
    requeries t = [(a.externalId,
      (Store.held sourceId [a.externalId] s).1.map fun held => held.get? a.externalId)] := by
  cases h with
  | unasked =>
      obtain ⟨calls, hreply, -⟩ := hserves
      exact congrArg (fun reply => [(a.externalId, Except.map _ reply)]) hreply
  | failed h | stored h =>
      obtain ⟨calls, hreply, -⟩ := hserves
      change (a.externalId, Except.map _ (.ok _)) :: requeries _ = _
      rw [requeries_eq_nil h.once.1]
      exact congrArg (fun reply => [(a.externalId, Except.map _ reply)]) hreply

/-- The query for an article is answered by the store that its calls begin with. -/
theorem Handles.requeries_eq (h : Handles settings a t fate) (hserves : s.Serves w t s') :
    requeries t = [(a.externalId, (Store.held settings.sourceId [a.externalId] s).1.map
      fun held => held.get? a.externalId)] := by
  cases h with
  | failed h => exact h.requeries_eq hserves
  | unpublished _ h => exact h.requeries_eq hserves
  | published _ h =>
      obtain ⟨m, hserves, -⟩ := Store.serves_append.mp hserves
      rw [requeries_append, h.requeries_eq hserves]
      rfl

/-- The end of a cycle asks for no single article. -/
theorem Closes.requeries_eq {synced : Nat} {lastStored : Option Int64}
    {reply : Option (Except InfraError Unit)} (h : Closes settings synced lastStored t reply) :
    requeries t = [] := by
  cases h <;> rfl

end Protocol

/-! ### The queries of the loop -/

variable {w : Replies} {settings : Settings} {s : Store} {sc : Scene} {a : Article}

/-- The answer to a query for a single article: the stored time, if there is one, or a refusal. -/
def answerTo (refused : Bool) (known : Option Instant) : Except InfraError (Option Instant) :=
  if refused then .error (.backend "既存記事の照会に失敗") else .ok known

/-- What a store answers when it is asked for a single article. -/
theorem map_held_of_undisturbed (hundisturbed : s.Undisturbed) (sourceId : String) (e : Int64) :
    (Store.held sourceId [e] s).1.map (fun held => held.get? e) =
      answerTo (s.plan.refuses (s.counts.queries + 1)) (s.lastModified? sourceId e) := by
  rw [Store.held_of_undisturbed hundisturbed, answerTo]
  cases s.plan.refuses (s.counts.queries + 1) with
  | true => rfl
  | false =>
      change Except.ok ((s.heldOf sourceId [e]).get? e) = _
      rw [Store.get?_heldOf, if_pos (List.mem_singleton_self e)]
      rfl

/-- The query for one article. -/
theorem requeries_handleArticle (hundisturbed : sc.store.Undisturbed) (progress : Progress) :
    requeries (calls (trace (Scene.answer w alone) (handleArticle settings progress a) sc)) =
      [(a.externalId, answerTo (sc.store.plan.refuses (sc.store.counts.queries + 1))
        (sc.store.lastModified? settings.sourceId a.externalId))] := by
  obtain ⟨hyields, hanswered⟩ : Yields (handleArticle settings progress a) _ _ ∧
      Answered (Scene.answer w alone) sc _ _ := yields_trace _ _
  obtain ⟨fate, hhandles, -⟩ := handles_of_yields hyields
  rw [hhandles.requeries_eq (Store.serves_of_answered hanswered).1,
    map_held_of_undisturbed hundisturbed]

/-- A save does not change what is stored of an article with another key. -/
theorem lastModified?_settle {b : Article} (hsource : b.sourceId = settings.sourceId)
    (hkey : b.key ≠ a.key) : (s.settle a).lastModified? settings.sourceId b.externalId =
      s.lastModified? settings.sourceId b.externalId := by
  rw [Store.lastModified?, Store.lastModified?, ← hsource]
  change ((s.settle a).row? b.key).map _ = (s.row? b.key).map _
  rw [Store.row?_settle, if_neg fun h => hkey h.1]

/-- **The queries of the loop**: each selected article is asked for once, in order, and the answer
is what was known of it at the start, unless this query is refused. -/
theorem requeries_handleAll {articles : List Article} {known : Int64 → Option Instant}
    (hundisturbed : sc.store.Undisturbed) (hsource : ∀ a ∈ articles, a.sourceId = settings.sourceId)
    (hnodup : (articles.map Article.key).Nodup)
    (hknown : ∀ a ∈ articles,
      sc.store.lastModified? settings.sourceId a.externalId = known a.externalId)
    (progress : Progress) :
    requeries (calls (trace (Scene.answer w alone) (handleAll settings progress articles) sc)) =
      articles.mapIdx fun i a => (a.externalId,
        answerTo (sc.store.plan.refuses (sc.store.counts.queries + 1 + i))
          (known a.externalId)) := by
  induction articles generalizing sc progress with
  | nil => rfl
  | cons a rest ih =>
      obtain ⟨hfirst, hrest⟩ := List.nodup_cons.mp hnodup
      obtain ⟨ha, hsource⟩ := List.forall_mem_cons.mp hsource
      obtain ⟨hknown₁, hknown⟩ := List.forall_mem_cons.mp hknown
      obtain ⟨⟨progress', sc'⟩, hrun⟩ : ∃ x,
          run (Scene.answer w alone) (handleArticle settings progress a) sc = x := ⟨_, rfl⟩
      have hstore : sc'.store = sc.store.settle a := by
        have harticle := run_handleArticle (w := w) hundisturbed ha progress
        rw [hrun] at harticle
        exact harticle.1
      have hundisturbed' : sc'.store.Undisturbed := hstore ▸ hundisturbed.settle
      -- what is known of the other articles is what is stored of them after this save
      have hknown' : ∀ b ∈ rest,
          sc'.store.lastModified? settings.sourceId b.externalId = known b.externalId := by
        intro b hb
        have hkey : b.key ≠ a.key := fun hkey => hfirst (hkey ▸ List.mem_map_of_mem hb)
        rw [hstore, lastModified?_settle (hsource b hb) hkey, hknown b hb]
      rw [handleAll, trace_bind_of_run hrun, calls_append, requeries_append,
        requeries_handleArticle hundisturbed, hknown₁, ih hundisturbed' hsource hrest hknown',
        hstore, Store.plan_settle, Store.queries_settle, List.mapIdx_cons, List.singleton_append]
      refine congrArg₂ _ rfl (congrArg (fun f => rest.mapIdx f) (funext₂ fun i b => ?_))
      rw [Nat.add_right_comm _ 1 i, Nat.add_assoc _ i 1]

/-! ### What commits find -/

/-- **A commit writes news**: it writes one of some articles, and the stored version of this
article, if there is one, is strictly earlier. -/
def CommitsNews (articles : List Article) (sc : Scene) (c : Call Transaction) : Prop :=
  ∀ tx, c = .commit tx → ∃ a ∈ articles, ∃ id, tx = a.writes id ∧
    ∀ row, sc.store.row? a.key = some row → row.article.lastModified < a.lastModified

variable {articles : List Article}

theorem commitsNews_of_isCommit {c : Call Transaction} (h : c.isCommit = false) :
    CommitsNews articles sc c := by
  rintro tx rfl
  cases h

/-- Calls without a commit among them. -/
theorem finds_of_calls {t : Trace (Collaborators Transaction)}
    (h : ∀ x ∈ calls t, x.request.isCommit = false) :
    Finds (Scene.answer w alone) (CommitsNews articles) sc t := by
  refine finds_of_forall fun x hx sc => ?_
  rintro tx hcommit
  have hcall : x ∈ calls t := List.mem_filter.mpr ⟨hx, by rw [hcommit]; rfl⟩
  have hnot := h x hcall
  rw [hcommit] at hnot
  cases hnot

/-- The writes of an article commit nothing. -/
theorem Writes.isCommit_eq {t : Trace (Collaborators Transaction)} {tx tx' : Transaction}
    {reply : Except InfraError Unit} (h : Writes a tx t tx' reply) :
    ∀ x ∈ t, x.request.isCommit = false := by
  cases h <;> simp [Call.isCommit]

/-- **A unit of work commits the writes of its article**, and finds what was stored of it before. -/
theorem finds_unitOfWork (ha : a ∈ articles)
    (hlater : ∀ row, sc.store.row? a.key = some row →
      row.article.lastModified < a.lastModified) :
    Finds (Scene.answer w alone) (CommitsNews articles) sc
      (trace (Scene.answer w alone) (unitOfWork (persist a)) sc) := by
  rw [unitOfWork]
  refine finds_trace_request_bind.mpr ⟨commitsNews_of_isCommit rfl, finds_trace_bind.mpr ⟨?_, ?_⟩⟩
  · exact finds_of_calls (writes_of_yields (yields_trace _ _).1).isCommit_eq
  have hpersist : Keeps w (fun _ => True) (persist a []) _ (sc.called .begin sc.store) :=
    keeps_persist rfl trivial
  obtain ⟨hview, -, hreply⟩ := hpersist.run fun _ => trivial
  obtain ⟨⟨reply, sc'⟩, hrun⟩ : ∃ x,
      run (Scene.answer w alone) (persist a []) (sc.called .begin sc.store) = x := ⟨_, rfl⟩
  rw [hrun] at hview hreply
  have hanswer : Scene.answer w alone .begin sc = (.ok [], sc.called .begin sc.store) := rfl
  rw [hanswer]
  simp only [hrun]
  split at hreply
  · obtain rfl := hreply
    refine finds_trace_request_bind.mpr ⟨?_, trivial⟩
    rintro tx ⟨⟩
    refine ⟨a, ha, _, rfl, fun row hrow => hlater row ?_⟩
    exact (Store.row?_of_content (congrArg View.content hview) _).symm.trans hrow
  · obtain ⟨tx, e, rfl⟩ := hreply
    exact finds_trace_request_bind.mpr ⟨commitsNews_of_isCommit rfl, trivial⟩

/-- **The save of an article** commits it as news: its query changes no row. -/
theorem finds_save {sourceId : String} (ha : a ∈ articles) (hundisturbed : sc.store.Undisturbed)
    (hlater : ∀ row, sc.store.row? a.key = some row →
      row.article.lastModified < a.lastModified) :
    Finds (Scene.answer w alone) (CommitsNews articles) sc
      (trace (Scene.answer w alone) (save sourceId a) sc) := by
  rw [save]
  refine finds_trace_request_bind.mpr ⟨commitsNews_of_isCommit rfl, ?_⟩
  have hasked :
      (Scene.answer w alone (.held sourceId [a.externalId]) sc).2.store = sc.store.asked :=
    congrArg Prod.snd (Store.held_of_undisturbed hundisturbed sourceId [a.externalId])
  obtain ⟨⟨reply, sc'⟩, hanswer⟩ : ∃ x,
      Scene.answer w alone (.held sourceId [a.externalId]) sc = x := ⟨_, rfl⟩
  rw [hanswer] at hasked ⊢
  cases reply with
  | error e => trivial
  | ok held =>
      refine finds_trace_bind.mpr ⟨finds_unitOfWork ha fun row hrow => hlater row ?_, ?_⟩
      · rw [hasked] at hrow
        exact hrow
      · cases (run (Scene.answer w alone) (unitOfWork (persist a)) sc').1 <;> trivial

/-- The calls for one article commit it as news. -/
theorem finds_handleArticle (ha : a ∈ articles) (hundisturbed : sc.store.Undisturbed)
    (hlater : ∀ row, sc.store.row? a.key = some row → row.article.lastModified < a.lastModified)
    (progress : Progress) :
    Finds (Scene.answer w alone) (CommitsNews articles) sc
      (trace (Scene.answer w alone) (handleArticle settings progress a) sc) := by
  rw [handleArticle]
  refine finds_trace_bind.mpr ⟨finds_save ha hundisturbed hlater, ?_⟩
  cases (run (Scene.answer w alone) (save settings.sourceId a) sc).1 with
  | error e => exact finds_trace_request_bind.mpr ⟨commitsNews_of_isCommit rfl, trivial⟩
  | ok isNew =>
      refine finds_trace_bind.mpr ⟨finds_of_calls ?_, trivial⟩
      rcases published_of_yields (yields_trace _ _).1 with ⟨-, hcalls, -⟩ | ⟨-, reply, hcalls, -⟩
      · rw [hcalls]
        exact fun x hx => absurd hx List.not_mem_nil
      · rw [hcalls]
        exact List.forall_mem_singleton.mpr rfl

/-- **The commits of the loop write news**: no article is stored as late when its turn comes,
because the saves before it do not touch its row. -/
theorem finds_handleAll {selected : List Article} (hundisturbed : sc.store.Undisturbed)
    (hsource : ∀ a ∈ selected, a.sourceId = settings.sourceId)
    (hnodup : (selected.map Article.key).Nodup)
    (hlater : ∀ a ∈ selected, ∀ row, sc.store.row? a.key = some row →
      row.article.lastModified < a.lastModified)
    (hsubset : ∀ a ∈ selected, a ∈ articles) (progress : Progress) :
    Finds (Scene.answer w alone) (CommitsNews articles) sc
      (trace (Scene.answer w alone) (handleAll settings progress selected) sc) := by
  induction selected generalizing sc progress with
  | nil => trivial
  | cons a rest ih =>
      obtain ⟨hfirst, hrest⟩ := List.nodup_cons.mp hnodup
      obtain ⟨ha, hsource⟩ := List.forall_mem_cons.mp hsource
      obtain ⟨hlater₁, hlater⟩ := List.forall_mem_cons.mp hlater
      obtain ⟨hmem, hsubset⟩ := List.forall_mem_cons.mp hsubset
      obtain ⟨hstore, -⟩ := run_handleArticle (w := w) hundisturbed ha progress
      rw [handleAll]
      refine finds_trace_bind.mpr ⟨finds_handleArticle hmem hundisturbed hlater₁ progress,
        ih (hstore ▸ hundisturbed.settle) hsource hrest (fun b hb row hrow => ?_) hsubset _⟩
      have hkey : b.key ≠ a.key := fun hkey => hfirst (hkey ▸ List.mem_map_of_mem hb)
      rw [hstore, Store.row?_settle, if_neg fun h => hkey h.1] at hrow
      exact hlater b hb row hrow

/-! ### The whole cycle -/

/-- The end of a cycle commits nothing. -/
theorem Closes.isCommit_eq {t : Trace (Collaborators Transaction)} {synced : Nat}
    {lastStored : Option Int64} {reply : Option (Except InfraError Unit)}
    (h : Closes settings synced lastStored t reply) : ∀ x ∈ t, x.request.isCommit = false := by
  cases h <;> simp [Call.isCommit]

/-- **The commits of a cycle write news.** -/
theorem finds_cycle {fetched : List Article} (hundisturbed : s.Undisturbed)
    (hfetch : w.fetch settings.maxPages = .ok fetched)
    (hsource : ∀ a ∈ fetched, a.sourceId = settings.sourceId)
    (hbatch : s.plan.refuses (s.counts.queries + 1) = false) :
    Finds (Scene.answer w alone) (CommitsNews (selection w settings s)) (Scene.start s)
      (trace (Scene.answer w alone) (cycle settings) (Scene.start s)) := by
  obtain ⟨c, sc, sc', -, -, -, hselected, hstore, hopening, hhandling⟩ :=
    exists_course hundisturbed hfetch hbatch
  have hwindow := forall_window_sourceId hfetch hsource
  have hfound : Finds (Scene.answer w alone) (CommitsNews (selection w settings s)) sc
      c.handling := by
    rw [← trace_eq_of_answered c.handled hhandling]
    change Finds _ _ sc (trace _ (handleAll settings _ c.selected) sc)
    rw [hselected]
    refine finds_handleAll (hstore ▸ hundisturbed.asked)
      (fun a ha => hwindow a (mem_window_of_mem_selection ha)) (nodup_key_selection w settings s)
      (fun a ha row hrow => ?_) (fun a ha => ha) _
    rw [hstore] at hrow
    exact ((mem_selection hundisturbed hwindow hbatch).mp ha).2 row hrow
  rw [c.trace_eq, finds_append hopening, finds_append hhandling]
  refine ⟨finds_of_calls ?_, hfound, finds_of_calls c.closed.isCommit_eq⟩
  rw [c.opening_eq]
  simp [Call.isCommit]

/-- What the fates of the articles say is stored is what the store was made to save. -/
theorem stored_eq_saved {fetched : List Article} {sc sc' : Scene} {fates : Fates}
    {c : Course settings (trace (Scene.answer w alone) (cycle settings) (Scene.start s))
      (outcome w settings s).1} (hundisturbed : s.Undisturbed)
    (hfetch : w.fetch settings.maxPages = .ok fetched)
    (hbatch : s.plan.refuses (s.counts.queries + 1) = false)
    (hhandles : HandlesAll settings (calls c.handling) fates)
    (hhandling : Answered (Scene.answer w alone) sc c.handling sc') :
    fates.stored = s.asked.saved (selection w settings s) := by
  let t := trace (Scene.answer w alone) (cycle settings) (Scene.start s)
  have hanswered : Answered (Scene.answer w alone) (Scene.start s) t (outcome w settings s).2 :=
    (yields_trace _ _).2
  have hcommitted := committed_of_answered hanswered
  rw [c.calls_eq] at hcommitted
  change _ = committedIn (calls c.handling ++ calls c.closing) at hcommitted
  rw [committedIn_append, c.closed.committed_eq, List.append_nil,
    (hhandles.committed_eq (Store.serves_of_answered hhandling).1.served).2] at hcommitted
  exact hcommitted.symm.trans (outcome_of_fetched hundisturbed hfetch hbatch).2

/-- **Without other writers the second existence query changes nothing.** It answers for each
selected article what the batch query did, unless it is refused itself; so an article that is saved
is counted as new if the batch query did not have it, and as an update if it did; and no commit of
the cycle finds a version that is as late as the one that it writes. -/
theorem second_query_changes_nothing {fetched : List Article} (hundisturbed : s.Undisturbed)
    (hfetch : w.fetch settings.maxPages = .ok fetched)
    (hsource : ∀ a ∈ fetched, a.sourceId = settings.sourceId)
    (hbatch : s.plan.refuses (s.counts.queries + 1) = false) :
    ∃ (held : Held) (fates : Fates) (handling closing : Trace (Collaborators Transaction))
      (stats : Stats),
      let articles := window w settings
      let selected := selectForSync articles held.get?
      calls (trace (Scene.answer w alone) (cycle settings) (Scene.start s)) =
        ⟨.external (.fetch settings.maxPages), .ok fetched⟩ ::
          ⟨.held settings.sourceId (articles.map Article.externalId), .ok held⟩ ::
            (handling ++ closing) ∧
      fates.articles = selected ∧ HandlesAll settings handling fates ∧
      requeries (handling ++ closing) = selected.mapIdx (fun i a => (a.externalId,
        answerTo (s.plan.refuses (s.counts.queries + 2 + i)) (held.get? a.externalId))) ∧
      counted? (outcome w settings s).1 = some stats ∧
      stats.new = fates.stored.countP (fun a => (held.get? a.externalId).isNone) ∧
      stats.updated = fates.stored.countP (fun a => (held.get? a.externalId).isSome) ∧
      ∀ n tx next sc, after (Scene.answer w alone) n (cycle settings) (Scene.start s) =
          (.ask (.commit tx) next, sc) →
        ∃ a ∈ selected, ∃ id, tx = a.writes id ∧ ∀ row, sc.store.row? a.key = some row →
          row.article.lastModified < a.lastModified := by
  obtain ⟨c, sc, sc', hfetched, harticles, hheld, hselected, hstore, -, hhandling⟩ :=
    exists_course hundisturbed hfetch hbatch
  obtain ⟨fates, hfates, hhandles, -⟩ := c.exists_fates
  obtain ⟨stats, hreported, hnew, hupdated⟩ :=
    counts_outcome hundisturbed hfetch hsource hbatch
  have hwindow : ∀ a ∈ window w settings, a.sourceId = settings.sourceId := fun a ha =>
    hsource a (mem_fetched_of_mem_window hfetch ha)
  have hmem : ∀ a ∈ selection w settings s, a ∈ window w settings := fun a ha =>
    mem_window_of_mem_selection ha
  -- the batch query has told what the store held at the start
  have hknown : ∀ a ∈ selection w settings s, c.held.get? a.externalId =
      s.lastModified? settings.sourceId a.externalId := by
    intro a ha
    rw [hheld, harticles, Store.get?_heldOf, if_pos (List.mem_map_of_mem (hmem a ha))]
  have hlacks : ∀ a ∈ s.asked.saved (selection w settings s),
      (c.held.get? a.externalId).isNone = s.lacks a := by
    intro a ha
    have hsel := (Store.saved_sublist _ _).mem ha
    rw [hknown a hsel, isNone_lastModified? (hwindow a (hmem a hsel))]
  have hstored := stored_eq_saved hundisturbed hfetch hbatch hhandles hhandling
  have hseleq : selectForSync (window w settings) c.held.get? = selection w settings s := by
    rw [← harticles]
    exact hselected
  refine ⟨c.held, fates, calls c.handling, calls c.closing, stats, ?_, ?_, hhandles, ?_, hreported,
    ?_, ?_, ?_⟩
  · rw [c.calls_eq, hfetched, harticles]
  · rw [hfates, ← harticles]
    rfl
  · have hstart : ∀ a ∈ selection w settings s,
        sc.store.lastModified? settings.sourceId a.externalId = c.held.get? a.externalId := by
      intro a ha
      rw [hstore, hknown a ha]
      rfl
    have hrequeries := requeries_handleAll (w := w) (hstore ▸ hundisturbed.asked)
      (fun a ha => hwindow a (hmem a ha)) (nodup_key_selection w settings s) hstart
    rw [hstore] at hrequeries
    rw [hseleq, requeries_append, c.closed.requeries_eq, List.append_nil,
      ← trace_eq_of_answered c.handled hhandling]
    change requeries (calls (trace _ (handleAll settings _ c.selected) sc)) = _
    rw [hselected]
    exact hrequeries _
  · rw [hnew, hstored]
    exact List.countP_congr fun a ha => by rw [hlacks a ha]
  · rw [hupdated, hstored]
    exact List.countP_congr fun a ha => by rw [← hlacks a ha, Option.not_isNone]
  · intro n tx next sc hafter
    rw [hseleq]
    exact (finds_cycle hundisturbed hfetch hsource hbatch).after hafter tx rfl

/-- Of four articles the first one is stored in an earlier version, the upsert of the second one and
the links of the third one fail, and the last one is new. Both queries tell the same of each, and
the cycle counts one update and one new article. -/
theorem second_query_amid_failing_saves :
    let s := { (Store.insert (.bare 1 .epoch []) {}).2 with
      plan := { upserts := [2], links := true } }
    let articles := [.bare 1 .sooner [], .bare 2 .sooner [], .bare 3 .sooner [⟨7, "rates"⟩],
      .bare 4 .sooner []]
    let w := Replies.listing articles
    requeries (calls (trace (Scene.answer w alone) (cycle .daily) (Scene.start s))) =
      [(1, .ok (some .epoch)), (2, .ok none), (3, .ok none), (4, .ok none)] ∧
    ∃ (held : Held) (fates : Fates) (stats : Stats),
      fates.articles = selectForSync articles held.get? ∧
      counted? (outcome w .daily s).1 = some stats ∧ stats.new = 1 ∧ stats.updated = 1 ∧
      fates.stored.countP (fun a => (held.get? a.externalId).isNone) = 1 ∧
      fates.stored.countP (fun a => (held.get? a.externalId).isSome) = 1 := by
  intro s articles w
  have hsource : ∀ a ∈ articles, a.sourceId = Settings.daily.sourceId := by decide
  obtain ⟨held, fates, -, -, stats, -, hfates, -, -, hreported, hnew, hupdated, -⟩ :=
    second_query_changes_nothing (w := w) (s := s) (by decide) rfl hsource rfl
  have hcounts : (counted? (outcome w .daily s).1).map (fun stats => (stats.new, stats.updated)) =
      some (1, 1) := by
    decide +kernel
  rw [hreported] at hcounts
  obtain ⟨hone, hone'⟩ := Prod.mk.inj (Option.some.inj hcounts)
  exact ⟨by decide +kernel, held, fates, stats, hfates, hreported, hone, hone',
    hnew.symm.trans hone, hupdated.symm.trans hone'⟩

end Cycle

end FeedSync
