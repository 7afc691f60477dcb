import FeedSync.Proofs.Cycle.Scene

/-!
# A cycle without other writers

What a cycle does to a store that no one else touches, at its end and at every point on the way. All
that anyone can see of a scene is its `View`. The calls of one save leave the view as it is up to
the commit, which makes all writes of the article permanent at once; so the loop over the selected
articles is always at some number of whole saves.

## Main statements

* `keeps_save` — the save of one article does what `Store.settle` says, and at every point before
  its end nothing of it or all of it can be seen.
* `keeps_handleAll` — the loop over the selected articles, one save after the other.
* `keeps_cycle` — a whole cycle, at each of its points and at its end.
-/

namespace FeedSync

open Program

/-! ### Views -/

/-- What can be seen of a scene. -/
structure View where
  content : Content
  states : Table String SyncState
  /-- The articles whose units of work were committed. -/
  committed : List Article
  published : List Article
  /-- The sync states that were written. -/
  written : List SyncState

namespace Scene

/-- What can be seen of a scene. -/
def view (sc : Scene) : View where
  content := sc.store.content
  states := sc.store.states
  committed := sc.committed
  published := sc.published
  written := sc.writtenStates

variable {sc : Scene} {store : Store} {v : View}

/-- What can be seen after a call. -/
theorem view_called (sc : Scene) (c : Call Transaction) (store : Store) : (sc.called c store).view =
    { content := store.content
      states := store.states
      committed := sc.committed ++ c.committed?.toList
      published := sc.published ++ c.published?.toList
      written := sc.writtenStates ++ c.writtenState?.toList } := by
  have hone : ∀ {α : Type} (f : Call Transaction → Option α),
      [c].filterMap f = (f c).toList := fun f => by
    rw [List.filterMap_cons, List.filterMap_nil]
    cases f c <;> rfl
  rw [view, committed, published, writtenStates, called, List.filterMap_append,
    List.filterMap_append, List.filterMap_append, hone, hone, hone]
  rfl

/-- How often the clock was read after a call. -/
theorem readings_called (sc : Scene) (c : Call Transaction) (store : Store) :
    (sc.called c store).readings = sc.readings + if c.isReading then 1 else 0 := by
  rw [readings, readings, called, List.countP_append, List.countP_singleton]

/-- A call that neither commits nor publishes nor writes a sync state cannot be seen, if it leaves
the content and the sync states as they are. -/
theorem view_called_of_calm {c : Call Transaction} (hv : sc.view = v)
    (hcontent : store.content = sc.store.content) (hstates : store.states = sc.store.states)
    (hcommitted : c.committed? = none) (hpublished : c.published? = none)
    (hwritten : c.writtenState? = none) : (sc.called c store).view = v := by
  rw [view_called, hcontent, hstates, hcommitted, hpublished, hwritten, ← hv]
  simp only [Option.toList_none, List.append_nil]
  rfl

end Scene

/-! ### The logic -/

variable {α β : Type} {w : Replies} {I : View → Prop} {sc : Scene} {v : View} {a : Article}

/-- **A computation keeps what can be seen within bounds** until it ends, without other writers. -/
def Keeps (w : Replies) (I : View → Prop) (p : Calls Transaction α) (post : α → Scene → Prop)
    (sc : Scene) : Prop :=
  Upholds (Scene.answer w alone) (fun _ => True) (fun sc => I sc.view) p post sc

/-- The rule for a call and what follows it. -/
theorem Keeps.call {c : Call Transaction} {f : c.Reply → Calls Transaction α}
    {post : α → Scene → Prop} (hI : I sc.view)
    (h : Keeps w I (f (sc.store.answer (w.external sc.calls) c).1) post
      (sc.called c (sc.store.answer (w.external sc.calls) c).2)) :
    Keeps w I (FeedSync.call c >>= f) post sc :=
  fun _ => ⟨hI, h⟩

/-- The rule for the end. -/
theorem Keeps.pure {x : α} {post : α → Scene → Prop} (hI : I sc.view) (h : post x sc) :
    Keeps w I (pure x) post sc :=
  fun _ => ⟨hI, h⟩

/-- The rule for one computation after another. -/
theorem Keeps.bind {p : Calls Transaction α} {f : α → Calls Transaction β}
    {mid : α → Scene → Prop} {post : β → Scene → Prop} (h : Keeps w I p mid sc)
    (hf : ∀ x sc', mid x sc' → Keeps w I (f x) post sc') : Keeps w I (p >>= f) post sc :=
  Upholds.bind (h.weaken hf)

/-- The rule for a report, which cannot be seen. -/
theorem Keeps.report {part : Part} {level : Level} {message : String}
    {fields : List (String × Datum)} {f : Unit → Calls Transaction α} {post : α → Scene → Prop}
    (hv : sc.view = v) (hI : I v)
    (h : ∀ sc', sc'.view = v → sc'.store = sc.store → sc'.readings = sc.readings →
      Keeps w I (f ()) post sc') :
    Keeps w I (FeedSync.report part level message fields >>= f) post sc :=
  .call (hv ▸ hI) <| h _ (Scene.view_called_of_calm hv rfl rfl rfl rfl rfl) rfl <|
    Scene.readings_called sc _ _

/-! ### One save -/

/-- The links of an article that has tags: nothing can be seen of them before the commit. -/
theorem keeps_links {id : Int64} {tx : Transaction} (hv : sc.view = v) (hI : I v)
    (htags : a.tags.isEmpty = false) :
    Keeps w I (do
        match ← call (.upsertTags tx a.tags) with
        | (tx, .error e) => return (tx, .error e)
        | (tx, .ok ()) => call (.link tx id a.tagIds))
      (fun reply sc' => sc'.view = v ∧ sc'.store = sc.store ∧
        if sc.store.plan.links then ∃ tx' e, reply = (tx', .error e)
        else reply = (tx ++ [.tags a.tags, .links id a.tagIds], .ok ())) sc := by
  have hview : (sc.called (.upsertTags tx a.tags) sc.store).view = v :=
    Scene.view_called_of_calm hv rfl rfl rfl rfl rfl
  have hview' : (Scene.called _ (.link (tx ++ [.tags a.tags]) id a.tagIds) sc.store).view = v :=
    Scene.view_called_of_calm hview rfl rfl rfl rfl rfl
  have hanswer : sc.store.answer (w.external sc.calls) (.upsertTags tx a.tags) =
      ((tx ++ [.tags a.tags], .ok ()), sc.store) :=
    congrArg (·, sc.store) (Store.upsertTags_of_tagged htags tx)
  refine .call (hv ▸ hI) ?_
  rw [hanswer]
  refine .call (hview ▸ hI) (.pure (hview' ▸ hI) ⟨hview', rfl, ?_⟩)
  change if sc.store.plan.links then
      ∃ tx' e, sc.store.link (tx ++ [.tags a.tags]) id a.tagIds = (tx', .error e)
    else sc.store.link (tx ++ [.tags a.tags]) id a.tagIds = _
  rw [Store.link]
  cases sc.store.plan.links with
  | true => exact ⟨_, _, rfl⟩
  | false => simp

/-- **Nothing can be seen of the writes of an article before the commit.** -/
theorem keeps_persist (hv : sc.view = v) (hI : I v) :
    Keeps w I (persist a []) (fun reply sc' => sc'.view = v ∧
      sc'.store = (Store.upsert [] a sc.store).2 ∧
      if sc.store.plan.accepts a then reply = (a.writes (sc.store.idOf a.key), .ok ())
      else ∃ tx e, reply = (tx, .error e)) sc := by
  let id := sc.store.idOf a.key
  let store := (Store.upsert [] a sc.store).2
  have hplan : store.plan = sc.store.plan := by simp only [store]; rw [Store.upsert_snd]
  have hview : (sc.called (.upsert [] a) store).view = v :=
    Scene.view_called_of_calm hv (by simp only [store]; rw [Store.upsert_snd]; rfl)
      (by simp only [store]; rw [Store.upsert_snd]) rfl rfl rfl
  rw [persist]
  refine .call (hv ▸ hI) ?_
  by_cases hmem : a.externalId ∈ sc.store.plan.upserts
  · obtain ⟨e, he⟩ : ∃ e, (sc.store.answer (w.external sc.calls) (.upsert [] a)).1 =
        ([], .error e) := Store.upsert_of_mem hmem
    have haccepts : ¬ sc.store.plan.accepts a = true := fun h =>
      (FaultPlan.accepts_iff.mp h).1 hmem
    rw [he]
    exact .pure (hview ▸ hI) ⟨hview, rfl, (if_neg haccepts).mpr ⟨[], e, rfl⟩⟩
  · have hreply : (sc.store.answer (w.external sc.calls) (.upsert [] a)).1 =
        ([.article id a], .ok id) := Store.upsert_of_not_mem hmem
    rw [hreply]
    simp only
    cases htags : a.tags.isEmpty with
    | true =>
        have haccepts : sc.store.plan.accepts a = true :=
          FaultPlan.accepts_iff.mpr ⟨hmem, .inl (List.isEmpty_iff.mp htags)⟩
        rw [if_pos rfl]
        refine .pure (hview ▸ hI) ⟨hview, rfl, (if_pos haccepts).mpr ?_⟩
        rw [Article.writes_of_untagged htags]
    | false =>
        rw [if_neg Bool.false_ne_true]
        refine Upholds.weaken (keeps_links hview hI htags) fun reply sc' h => ?_
        obtain ⟨hview', hstore, hreply⟩ := h
        refine ⟨hview', hstore, ?_⟩
        change if store.plan.links then _ else _ at hreply
        rw [hplan] at hreply
        rw [FaultPlan.accepts, htags, decide_eq_false hmem]
        cases hlinks : sc.store.plan.links with
        | true =>
            rw [hlinks, if_pos rfl] at hreply
            exact hreply
        | false =>
            rw [hlinks, if_neg Bool.false_ne_true] at hreply
            refine (if_pos rfl).mpr (hreply.trans ?_)
            rw [Article.writes_of_tagged htags]
            rfl

/-- What can be seen after the commit of an article's writes. -/
theorem view_called_commit {s : Store} {i : Int64} (hv : sc.view = v)
    (hcontent : sc.store.content = s.content) :
    (sc.called (.commit (a.writes i)) (sc.store.commit (a.writes i))).view =
      { v with
        content := (s.commit (a.writes i)).content
        committed := v.committed ++ [a] } := by
  have hcommitted : (Call.commit (a.writes i)).committed? = some a := by
    rw [Article.writes]
    split <;> rfl
  have hstates : (sc.store.commit (a.writes i)).states = sc.store.states := by rw [Store.commit_eq]
  rw [Scene.view_called, Store.content_commit_congr hcontent, hcommitted, hstates, ← hv]
  simp only [Call.published?, Call.writtenState?, Option.toList_none, Option.toList_some,
    List.append_nil]
  rfl

/-- **A unit of work commits all writes of its article at once**, or none of them. -/
theorem keeps_unitOfWork (hv : sc.view = v) (hI : I v)
    (hI' : sc.store.plan.accepts a = true → I { v with
      content := (sc.store.commit (a.writes (sc.store.idOf a.key))).content
      committed := v.committed ++ [a] }) :
    Keeps w I (unitOfWork (persist a)) (fun reply sc' =>
      if sc.store.plan.accepts a then reply = .ok () ∧
        sc'.store = (Store.upsert [] a sc.store).2.commit (a.writes (sc.store.idOf a.key)) ∧
        sc'.view = { v with
          content := (sc.store.commit (a.writes (sc.store.idOf a.key))).content
          committed := v.committed ++ [a] }
      else (∃ e, reply = .error e) ∧ sc'.store = (Store.upsert [] a sc.store).2.rollback ∧
        sc'.view = v) sc := by
  let id := sc.store.idOf a.key
  have hbegin : (sc.called .begin sc.store).view = v :=
    Scene.view_called_of_calm hv rfl rfl rfl rfl rfl
  have hupsert : (Store.upsert [] a sc.store).2.content = sc.store.content := by
    rw [Store.upsert_snd]
    rfl
  rw [unitOfWork]
  refine .call (hv ▸ hI) (.bind (keeps_persist hbegin hI) ?_)
  rintro reply sc' ⟨hview, hstore, hreply⟩
  change sc'.store = (Store.upsert [] a sc.store).2 at hstore
  change if sc.store.plan.accepts a then reply = (a.writes id, .ok ()) else _ at hreply
  cases haccepts : sc.store.plan.accepts a with
  | true =>
      rw [haccepts, if_pos rfl] at hreply
      rw [hreply]
      have hcommit := view_called_commit (a := a) (i := id) hview (hstore ▸ hupsert)
      refine .call (hview ▸ hI) (.pure (hcommit ▸ hI' haccepts) ?_)
      rw [if_pos rfl, ← hstore]
      exact ⟨rfl, rfl, hcommit⟩
  | false =>
      rw [haccepts, if_neg Bool.false_ne_true] at hreply
      obtain ⟨tx, e, rfl⟩ := hreply
      have hrollback : (sc'.called (.rollback tx) sc'.store.rollback).view = v :=
        Scene.view_called_of_calm hview rfl rfl rfl rfl rfl
      refine .call (hview ▸ hI) (.pure (hrollback ▸ hI) ?_)
      rw [if_neg Bool.false_ne_true, ← hstore]
      exact ⟨⟨e, rfl⟩, rfl, hrollback⟩

/-- What can be seen after the save of an article. -/
def View.save (v : View) (s : Store) (a : Article) : View :=
  { v with
    content := (s.settle a).content
    committed := v.committed ++ if s.spares a then [a] else [] }

/-- What can be seen after a save that succeeds. -/
theorem View.save_of_spares {s : Store} (h : s.spares a = true) : v.save s a =
    { v with
      content := (s.commit (a.writes (s.idOf a.key))).content
      committed := v.committed ++ [a] } := by
  rw [save, Store.content_settle, h, if_pos rfl, if_pos rfl]

/-- Nothing can be seen of a save that fails. -/
theorem View.save_of_not_spares {s : Store} (h : s.spares a = false)
    (hv : v.content = s.content) : v.save s a = v := by
  rw [save, Store.content_settle, h, if_neg Bool.false_ne_true, if_neg Bool.false_ne_true,
    List.append_nil, ← hv]

/-- **The save of an article**: before its end nothing of it or all of it can be seen. -/
theorem keeps_save {sourceId : String} (hundisturbed : sc.store.Undisturbed) (hv : sc.view = v)
    (hI : I v) (hI' : I (v.save sc.store a)) :
    Keeps w I (save sourceId a) (fun reply sc' =>
      sc'.store = sc.store.settle a ∧ sc'.view = v.save sc.store a ∧
        if sc.store.spares a then
          reply = .ok (sc.store.lastModified? sourceId a.externalId).isNone
        else ∃ e, reply = .error e) sc := by
  have hanswer : sc.store.answer (w.external sc.calls) (.held sourceId [a.externalId]) = _ :=
    Store.held_of_undisturbed hundisturbed sourceId [a.externalId]
  have hasked : (sc.called (.held sourceId [a.externalId]) sc.store.asked).view = v :=
    Scene.view_called_of_calm hv rfl rfl rfl rfl rfl
  rw [save]
  refine .call (hv ▸ hI) ?_
  rw [hanswer]
  have hcontent : v.content = sc.store.content := hv ▸ rfl
  cases hrefuses : sc.store.plan.refuses (sc.store.counts.queries + 1) with
  | true =>
      obtain ⟨hspares, hsettle⟩ := Store.settle_of_refused hrefuses a
      rw [if_pos rfl, hspares, hsettle, View.save_of_not_spares hspares hcontent]
      exact .pure (hasked ▸ hI) ⟨rfl, hasked, _, rfl⟩
  | false =>
      obtain ⟨hspares, hsettle⟩ := Store.settle_of_answered hrefuses a
      have hsame : sc.store.asked.content = sc.store.content := rfl
      have hcommit := Store.content_commit_congr hsame (a.writes (sc.store.idOf a.key))
      rw [if_neg Bool.false_ne_true]
      refine .bind (keeps_unitOfWork hasked hI fun haccepts => ?_) ?_
      · rw [View.save_of_spares (hspares.trans haccepts), ← hcommit] at hI'
        exact hI'
      · intro reply sc' h
        change if sc.store.plan.accepts a then _ else _ at h
        rw [hsettle, hspares]
        cases haccepts : sc.store.plan.accepts a with
        | true =>
            rw [haccepts, if_pos rfl] at h
            obtain ⟨rfl, hstore, hview⟩ := h
            rw [View.save_of_spares (hspares.trans haccepts), ← hcommit] at hI' ⊢
            refine .pure (hview ▸ hI') ⟨hstore, hview, ?_⟩
            rw [if_pos rfl, Store.get?_heldOf, if_pos (List.mem_singleton_self _)]
        | false =>
            rw [haccepts, if_neg Bool.false_ne_true] at h
            obtain ⟨⟨e, rfl⟩, hstore, hview⟩ := h
            rw [View.save_of_not_spares (hspares.trans haccepts) hcontent]
            exact .pure (hview ▸ hI) ⟨hstore, hview, e, rfl⟩

/-! ### The loop -/

open Cycle

variable {settings : Settings}

/-- What can be seen after an article was handled: it is published if it was saved. -/
def View.handle (v : View) (settings : Settings) (s : Store) (a : Article) : View :=
  { v.save s a with
    published := v.published ++ if s.spares a && settings.publishes then [a] else [] }

/-- Publishing an article can be seen, and changes nothing else. -/
theorem keeps_publish {isNew : Bool} {stats : Stats} (hv : sc.view = v) (hI : I v)
    (hI' : I { v with published := v.published ++ if settings.publishes then [a] else [] }) :
    Keeps w I (publish settings a isNew stats) (fun _ sc' => sc'.store = sc.store ∧
      sc'.view = { v with
        published := v.published ++ if settings.publishes then [a] else [] }) sc := by
  rw [publish]
  cases hpub : settings.publishes with
  | false =>
      rw [if_neg Bool.false_ne_true, if_neg Bool.false_ne_true, List.append_nil]
      exact .pure (hv ▸ hI) ⟨rfl, hv⟩
  | true =>
      have hview : (sc.called (.external (.publish a isNew)) sc.store).view =
          { v with published := v.published ++ [a] } := by
        rw [Scene.view_called, ← hv]
        simp only [Call.committed?, Call.published?, Call.writtenState?, Option.toList_none,
          Option.toList_some, List.append_nil]
        rfl
      rw [hpub, if_pos rfl] at hI'
      rw [if_pos rfl, if_pos rfl]
      refine .call (hv ▸ hI) ?_
      have hanswer : sc.store.answer (w.external sc.calls) (.external (.publish a isNew)) =
          (w.publish sc.calls.length a isNew, sc.store) := rfl
      rw [hanswer]
      cases w.publish sc.calls.length a isNew with
      | ok u => exact .pure (hview ▸ hI') ⟨rfl, hview⟩
      | error e =>
          exact .report hview hI' fun sc' hsc' hstore _ => .pure (hsc' ▸ hI') ⟨hstore, hsc'⟩

/-- **Handling one article**: it is saved and, if that succeeds, published. -/
theorem keeps_handleArticle {progress : Progress} (hundisturbed : sc.store.Undisturbed)
    (hv : sc.view = v) (hI : I v) (hI' : I (v.save sc.store a))
    (hI'' : I (v.handle settings sc.store a)) :
    Keeps w I (handleArticle settings progress a) (fun _ sc' =>
      sc'.store = sc.store.settle a ∧ sc'.view = v.handle settings sc.store a) sc := by
  rw [handleArticle]
  refine .bind (keeps_save hundisturbed hv hI hI') ?_
  rintro reply sc' ⟨hstore, hview, hreply⟩
  rw [View.handle] at *
  cases hspares : sc.store.spares a with
  | true =>
      rw [hspares, if_pos rfl] at hreply
      rw [hspares, Bool.true_and] at hI''
      rw [hreply, Bool.true_and]
      refine .bind (keeps_publish hview hI' hI'') fun stats sc'' h => ?_
      exact .pure (h.2 ▸ hI'') ⟨h.1.trans hstore, h.2⟩
  | false =>
      rw [hspares, if_neg Bool.false_ne_true] at hreply
      obtain ⟨e, rfl⟩ := hreply
      rw [Bool.false_and, if_neg Bool.false_ne_true, List.append_nil]
      refine .report hview hI' fun sc'' hsc'' hstore' _ => ?_
      exact .pure (hsc'' ▸ hI') ⟨hstore'.trans hstore, hsc''⟩

/-- What can be seen after some articles were handled. -/
def View.handleAll (v : View) (settings : Settings) (s : Store) (articles : List Article) : View :=
  { v with
    content := (s.settleAll articles).content
    committed := v.committed ++ s.saved articles
    published := v.published ++ if settings.publishes then s.saved articles else [] }

/-- Handling nothing cannot be seen. -/
theorem View.handleAll_nil {s : Store} (hv : v.content = s.content) (settings : Settings) :
    v.handleAll settings s [] = v := by
  rw [handleAll, Store.saved, ite_self, List.append_nil, List.append_nil]
  change { v with content := s.content } = v
  rw [← hv]

/-- Handling one article and then the others. -/
theorem View.handleAll_cons {s : Store} (settings : Settings) (rest : List Article) :
    (v.handle settings s a).handleAll settings (s.settle a) rest =
      v.handleAll settings s (a :: rest) := by
  rw [handleAll, handleAll, handle, save, Store.saved, Store.settleAll, Store.settleAll,
    List.foldl_cons]
  cases s.spares a <;> cases settings.publishes <;> simp

/-- **The loop over the selected articles**: whole saves, one after the other. -/
theorem keeps_handleAll {articles : List Article} {progress : Progress}
    (hundisturbed : sc.store.Undisturbed) (hv : sc.view = v)
    (hI : ∀ done rest, articles = done ++ rest → I (v.handleAll settings sc.store done))
    (hI' : ∀ done a rest, articles = done ++ a :: rest →
      I ((v.handleAll settings sc.store done).save (sc.store.settleAll done) a)) :
    Keeps w I (handleAll settings progress articles) (fun _ sc' =>
      sc'.store = sc.store.settleAll articles ∧
        sc'.view = v.handleAll settings sc.store articles) sc := by
  induction articles generalizing sc v progress with
  | nil =>
      have hnil := View.handleAll_nil (v := v) (s := sc.store) (hv ▸ rfl) settings
      rw [handleAll, hnil]
      exact .pure (hv ▸ hnil ▸ hI [] [] rfl) ⟨rfl, hv⟩
  | cons a rest ih =>
      have hcons := View.handleAll_cons (v := v) (s := sc.store) (a := a) settings
      have hnil := View.handleAll_nil (v := v) (s := sc.store) (hv ▸ rfl) settings
      have hnil' := View.handleAll_nil (v := v.handle settings sc.store a)
        (s := sc.store.settle a) rfl settings
      rw [handleAll]
      refine .bind (keeps_handleArticle hundisturbed hv (hnil ▸ hI [] _ rfl)
        (hnil ▸ hI' [] a rest rfl) (hnil' ▸ hcons [] ▸ hI [a] rest rfl)) ?_
      rintro progress' sc' ⟨hstore, hview⟩
      have hundisturbed' : sc'.store.Undisturbed := hstore ▸ hundisturbed.settle
      refine Upholds.weaken (ih hundisturbed' hview ?_ ?_) ?_
      · intro done rest' heq
        rw [hstore, hcons]
        exact hI (a :: done) rest' (congrArg (a :: ·) heq)
      · intro done b rest' heq
        rw [hstore, hcons]
        exact hI' (a :: done) b rest' (congrArg (a :: ·) heq)
      · rintro progress'' sc'' ⟨hstore', hview'⟩
        rw [hstore, hcons] at hview'
        rw [hstore] at hstore'
        exact ⟨hstore', hview'⟩

/-! ### The whole cycle -/

/-- What writing a sync state leaves alone. -/
theorem writeState_snd (state : SyncState) (s : Store) : (Store.writeState state s).2 =
    { s with
      states := (Store.writeState state s).2.states
      counts.stateUpdates := s.counts.stateUpdates + 1 } := by
  rw [Store.writeState]
  split <;> rfl

/-- What can be seen after a sync state was written. -/
theorem view_called_writeState (hv : sc.view = v) (state : SyncState) :
    (sc.called (.writeState state) (Store.writeState state sc.store).2).view =
      { v with
        states := (Store.writeState state sc.store).2.states
        written := v.written ++ [state] } := by
  have hcontent : (Store.writeState state sc.store).2.content = sc.store.content := by
    rw [writeState_snd]
    rfl
  rw [Scene.view_called, hcontent, ← hv]
  simp only [Call.committed?, Call.published?, Call.writtenState?, Option.toList_none,
    Option.toList_some, List.append_nil]
  rfl

/-- The store after the end of a cycle, which writes a sync state if there is one to go on with. -/
def Store.writeState? (state? : Option SyncState) (s : Store) : Store :=
  state?.elim s fun state => (Store.writeState state s).2

/-- The end of a cycle leaves alone what no sync state is about. -/
theorem Store.writeState?_eq (state? : Option SyncState) (s : Store) : s.writeState? state? =
    { s with
      states := (s.writeState? state?).states
      counts.stateUpdates := (s.writeState? state?).counts.stateUpdates } := by
  cases state? with
  | none => rfl
  | some state =>
      change (Store.writeState state s).2 = { s with
        states := (Store.writeState state s).2.states
        counts.stateUpdates := (Store.writeState state s).2.counts.stateUpdates }
      rw [writeState_snd]

/-- A store stays sound at the end of a cycle. -/
theorem Store.Sound.writeState? {s : Store} {pending : Write → Prop} (h : s.Sound pending)
    (state? : Option SyncState) : (s.writeState? state?).Sound pending := by
  cases state? with
  | none => exact h
  | some state => exact h.writeState state

/-- The sync state of a source is still that of this source at the end of a cycle. -/
theorem Store.sourceId_stateOf_writeState? {s : Store} {sourceId : String}
    (h : (s.stateOf sourceId).sourceId = sourceId) (state? : Option SyncState) :
    ((s.writeState? state?).stateOf sourceId).sourceId = sourceId := by
  cases state? with
  | none => exact h
  | some state =>
      change ((Store.writeState state s).2.stateOf sourceId).sourceId = sourceId
      rw [Store.writeState]
      split
      · exact h
      · rw [Store.stateOf, Table.get?_set]
        split
        · next heq => exact heq.symm
        · exact h

/-- What can be seen at the end of a cycle, which writes a sync state if there is one to go on
with. -/
def View.close (v : View) (s : Store) (state? : Option SyncState) : View :=
  { v with states := (s.writeState? state?).states, written := v.written ++ state?.toList }

/-- Nothing more can be seen where no sync state is written. -/
theorem View.close_none {s : Store} (hstates : s.states = v.states) : v.close s none = v := by
  rw [View.close, Option.toList_none, List.append_nil]
  change { v with states := s.states } = v
  rw [hstates]

/-- The end of a cycle writes the sync state of its source brought up to date, if there is one to go
on with. -/
theorem keeps_updateState {progress : Progress} (hv : sc.view = v) (hI : I v)
    (hI' : ∀ states state, I { v with states, written := v.written ++ [state] }) :
    Keeps w I (updateState settings progress) (fun _ sc' => ∃ now,
      let state? := advance? (sc.store.stateOf settings.sourceId) now progress.stats.synced
        progress.lastStored
      sc'.store = sc.store.writeState? state? ∧ sc'.view = v.close sc.store state?) sc := by
  have hread : (sc.called (.readState settings.sourceId) sc.store).view = v :=
    Scene.view_called_of_calm hv rfl rfl rfl rfl rfl
  have hnow : (Scene.called _ (.external .now) sc.store).view = v :=
    Scene.view_called_of_calm hread rfl rfl rfl rfl rfl
  have hanswer : sc.store.answer (w.external sc.calls) (.readState settings.sourceId) =
      (.ok (sc.store.stateOf settings.sourceId), sc.store) := rfl
  rw [updateState]
  refine .call (hv ▸ hI) ?_
  rw [hanswer]
  refine .call (hread ▸ hI) ?_
  generalize (Store.answer (w.external _) (.external .now) _).1 = now
  refine Upholds.weaken (?_ : Keeps w I _ _ _) fun _ _ h => ⟨now, h⟩
  cases hadvance : advance? (sc.store.stateOf settings.sourceId) now progress.stats.synced
      progress.lastStored with
  | none =>
      have hclose := View.close_none (congrArg View.states hv)
      exact .pure (hnow ▸ hI) ⟨rfl, hnow.trans hclose.symm⟩
  | some state =>
      have hwrite := view_called_writeState hnow state
      exact .call (hnow ▸ hI) (.pure (hwrite ▸ hI' _ _) ⟨rfl, hwrite⟩)

/-- **The end of a cycle** leaves the sync state of its source brought up to date, if there is one
to go on with and it could be written, and changes nothing else. -/
theorem keeps_conclude {started : Nat} {progress : Progress} (hv : sc.view = v) (hI : I v)
    (hI' : ∀ states state, I { v with states, written := v.written ++ [state] }) :
    Keeps w I (conclude settings started progress) (fun _ sc' => ∃ now,
        let state? := advance? (sc.store.stateOf settings.sourceId) now progress.stats.synced
          progress.lastStored
        sc'.store = sc.store.writeState? state? ∧ sc'.view = v.close sc.store state?) sc := by
  have hclose : ∀ state?, I (v.close sc.store state?) := fun state? => by
    cases state? with
    | none => exact (View.close_none (congrArg View.states hv)).symm ▸ hI
    | some state => exact hI' _ _
  refine .bind (keeps_updateState hv hI hI') ?_
  rintro updated sc₁ ⟨now, hstore₁, hsc₁⟩
  cases updated with
  | none => exact .pure (hsc₁ ▸ hclose _) ⟨now, hstore₁, hsc₁⟩
  | some updated =>
      have hend : (sc₁.called (.external .stopwatch) sc₁.store).view = _ :=
        Scene.view_called_of_calm hsc₁ rfl rfl rfl rfl rfl
      refine .call (hsc₁ ▸ hclose _) ?_
      cases updated with
      | error e => exact .pure (hend ▸ hclose _) ⟨now, hstore₁, hend⟩
      | ok u =>
          refine .report hend (hclose _) fun sc₂ hsc₂ hstore₂ _ => ?_
          exact .pure (hsc₂ ▸ hclose _) ⟨now, hstore₂.trans hstore₁, hsc₂⟩

/-- **What a cycle does with the articles inside the window**: it selects, handles and ends. -/
theorem keeps_store {started : Nat} {articles selected : List Article}
    (hundisturbed : sc.store.Undisturbed) (hv : sc.view = v)
    (hselected : selected = if sc.store.plan.refuses (sc.store.counts.queries + 1) then []
      else selectForSync articles (sc.store.lastModified? settings.sourceId))
    (hI : ∀ done rest, selected = done ++ rest → I (v.handleAll settings sc.store.asked done))
    (hI' : ∀ done a rest, selected = done ++ a :: rest →
      I ((v.handleAll settings sc.store.asked done).save (sc.store.asked.settleAll done) a))
    (hI'' : ∀ states state, I { v.handleAll settings sc.store.asked selected with
      states, written := v.written ++ [state] }) :
    Keeps w I (Cycle.store settings started articles) (fun _ sc' =>
      sc.store.plan.refuses (sc.store.counts.queries + 1) = false →
        ∃ now synced lastStored,
          let settled := sc.store.asked.settleAll selected
          let state? := advance? (sc.store.stateOf settings.sourceId) now synced lastStored
          sc'.store = settled.writeState? state? ∧
            sc'.view = (v.handleAll settings sc.store.asked selected).close settled state?) sc := by
  have hIv : I v := by
    have hnil := hI [] selected rfl
    rwa [View.handleAll_nil (hv ▸ rfl)] at hnil
  have hanswer : sc.store.answer (w.external sc.calls)
      (.held settings.sourceId (articles.map Article.externalId)) = _ :=
    Store.held_of_undisturbed hundisturbed _ _
  have hasked : (sc.called (.held settings.sourceId (articles.map Article.externalId))
      sc.store.asked).view = v := Scene.view_called_of_calm hv rfl rfl rfl rfl rfl
  rw [Cycle.store]
  refine .call (hv ▸ hIv) ?_
  rw [hanswer]
  cases hrefuses : sc.store.plan.refuses (sc.store.counts.queries + 1) with
  | true =>
      rw [if_pos rfl]
      exact .pure (hasked ▸ hIv) fun h => nomatch h
  | false =>
      have hsel : selectForSync articles (sc.store.heldOf settings.sourceId
          (articles.map Article.externalId)).get? = selected := by
        rw [hselected, hrefuses, if_neg Bool.false_ne_true]
        refine selectForSync_congr fun a ha => ?_
        rw [Store.get?_heldOf, if_pos (List.mem_map_of_mem ha)]
      rw [if_neg Bool.false_ne_true]
      simp only
      rw [hsel]
      refine .report hasked hIv fun sc₁ hsc₁ hstore₁ _ => ?_
      change sc₁.store = sc.store.asked at hstore₁
      refine .bind (keeps_handleAll (hstore₁ ▸ hundisturbed.asked) hsc₁ (hstore₁ ▸ hI)
        (hstore₁ ▸ hI')) ?_
      rintro progress sc₂ ⟨hstore₂, hsc₂⟩
      rw [hstore₁] at hstore₂ hsc₂
      refine Upholds.weaken (keeps_conclude hsc₂ (hI selected [] (List.append_nil _).symm) hI'') ?_
      rintro result sc₃ ⟨now, hstore₃, hsc₃⟩ -
      have hstate : sc₂.store.stateOf settings.sourceId =
          sc.store.stateOf settings.sourceId := by
        rw [Store.stateOf, hstore₂, Store.states_settleAll]
        rfl
      rw [hstate, hstore₂] at hstore₃ hsc₃
      exact ⟨now, _, _, hstore₃, hsc₃⟩

/-- **A whole cycle**: what can be seen of it stays within bounds at each of its points, and at its
end every selected article was handled and the sync state of the source was brought up to date, if
there was one to go on with. -/
theorem keeps_cycle (w : Replies) (settings : Settings) {s : Store} (hundisturbed : s.Undisturbed)
    (hI : ∀ done rest, selection w settings s = done ++ rest →
      I ((Scene.start s).view.handleAll settings s.asked done))
    (hI' : ∀ done a rest, selection w settings s = done ++ a :: rest →
      I (((Scene.start s).view.handleAll settings s.asked done).save
        (s.asked.settleAll done) a))
    (hI'' : ∀ states state, I { (Scene.start s).view.handleAll settings s.asked
      (selection w settings s) with states, written := [state] }) :
    Keeps w I (cycle settings) (fun _ sc' =>
      ∀ fetched, w.fetch settings.maxPages = .ok fetched →
        s.plan.refuses (s.counts.queries + 1) = false →
        ∃ now synced lastStored,
          let settled := s.asked.settleAll (selection w settings s)
          let state? := advance? (s.stateOf settings.sourceId) now synced lastStored
          sc'.store = settled.writeState? state? ∧
            sc'.view = ((Scene.start s).view.handleAll settings s.asked
              (selection w settings s)).close settled state?)
      (Scene.start s) := by
  let v := (Scene.start s).view
  have hv : I v := by
    have hnil := hI [] _ rfl
    rwa [View.handleAll_nil rfl] at hnil
  have hstopwatch : ((Scene.start s).called (.external .stopwatch) s).view = v :=
    Scene.view_called_of_calm rfl rfl rfl rfl rfl rfl
  rw [cycle]
  refine .call hv (.report hstopwatch hv fun sc hsc hstore hreadings => ?_)
  change sc.store = s at hstore
  change sc.readings = 0 at hreadings
  have hfetch : sc.store.answer (w.external sc.calls) (.external (.fetch settings.maxPages)) =
      (w.fetch settings.maxPages, sc.store) := rfl
  have hfetched : (sc.called (.external (.fetch settings.maxPages)) sc.store).view = v :=
    Scene.view_called_of_calm hsc rfl rfl rfl rfl rfl
  refine .call (hsc ▸ hv) ?_
  rw [hfetch]
  cases hreply : w.fetch settings.maxPages with
  | error e => exact .pure (hfetched ▸ hv) fun _ h => nomatch h
  | ok fetched =>
      let sc₁ := sc.called (.external (.fetch settings.maxPages)) sc.store
      have hclock : sc₁.store.answer (w.external sc₁.calls) (.external .now) =
          (w.clock 0, sc.store) := by
        have hzero : sc₁.calls.countP Call.isReading = 0 := by
          rw [← hreadings]
          exact Scene.readings_called sc _ _
        change (w.clock (sc₁.calls.countP Call.isReading), sc.store) = _
        rw [hzero]
      have hnow : (sc₁.called (.external .now) sc.store).view = v :=
        Scene.view_called_of_calm hfetched rfl rfl rfl rfl rfl
      have hselected : selection w settings s = if s.plan.refuses (s.counts.queries + 1) then []
          else selectForSync (insideWindow (historyCutoff (w.clock 0) settings.historyDays) fetched)
            (s.lastModified? settings.sourceId) := by
        rw [selection_of_undisturbed hundisturbed, window, hreply]
      refine .call (hfetched ▸ hv) ?_
      rw [hclock]
      refine .report hnow hv fun sc₂ hsc₂ hstore₂ _ => ?_
      refine .report hsc₂ hv fun sc₃ hsc₃ hstore₃ _ => ?_
      have hs : sc₃.store = s := (hstore₃.trans hstore₂).trans hstore
      refine Upholds.weaken (keeps_store (hs ▸ hundisturbed) hsc₃ (hs ▸ hselected) (hs ▸ hI)
        (hs ▸ hI') (hs ▸ hI'')) fun _ sc' h _ _ => ?_
      rw [hs] at h
      exact h

/-- **The end of a cycle** that has fetched its list and whose batch query was answered: the store
is the one after the saves of all selected articles, with one sync state written if there is one to
go on with, and the articles that were saved are those committed. -/
theorem outcome_of_fetched {s : Store} {fetched : List Article} (hundisturbed : s.Undisturbed)
    (hfetch : w.fetch settings.maxPages = .ok fetched)
    (hbatch : s.plan.refuses (s.counts.queries + 1) = false) :
    (∃ now synced lastStored, (outcome w settings s).2.store =
      (s.asked.settleAll (selection w settings s)).writeState?
        (advance? (s.stateOf settings.sourceId) now synced lastStored)) ∧
    (outcome w settings s).2.committed = s.asked.saved (selection w settings s) := by
  have hend := (keeps_cycle (I := fun _ => True) w settings hundisturbed (fun _ _ _ => trivial)
    (fun _ _ _ _ => trivial) fun _ _ => trivial).run fun _ => trivial
  obtain ⟨now, synced, lastStored, hstore, hview⟩ := hend fetched hfetch hbatch
  exact ⟨⟨now, synced, lastStored, hstore⟩, congrArg View.committed hview⟩

/-- Such a cycle ends with the content that the saves of all selected articles leave. -/
theorem content_outcome {s : Store} {fetched : List Article} (hundisturbed : s.Undisturbed)
    (hfetch : w.fetch settings.maxPages = .ok fetched)
    (hbatch : s.plan.refuses (s.counts.queries + 1) = false) :
    (outcome w settings s).2.store.content =
      (s.asked.settleAll (selection w settings s)).content := by
  obtain ⟨⟨now, synced, lastStored, hstore⟩, -⟩ := outcome_of_fetched hundisturbed hfetch hbatch
  rw [hstore, Store.writeState?_eq]
  rfl

end FeedSync
