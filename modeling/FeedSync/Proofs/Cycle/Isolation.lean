import FeedSync.Proofs.Agreement
import FeedSync.Proofs.Cycle.Served
import FeedSync.Proofs.Store.Sight

/-!
# Sources do not disturb each other

All sources share a store, and their articles may have the same numbers. That this does not matter
to a cycle is shown from both sides. Two runs of a cycle are compared whose stores look alike to its
source and may differ in everything else: each call of the one has its counterpart in the other,
which differs from it in internal ids at most, and is answered alike. And in a single run the calls
of the cycle are followed one stretch after the other: each of them leaves the rows of other sources
alone, and the links that hang on their internal ids.

## Main definitions

* `Call.nameless`, `Scene.AlikeFor` — calls and scenes up to what a source does not see.
* `Agrees` — programs that go alike in such scenes.
* `Foreign`, `LeavesOthers` — what is none of a source's business, and stays.

## Main statements

* `agrees_cycle` — cycles of a source go alike in all scenes that look alike to it.
* `untouched_outcome`, `states_outcome_of_ne` — what a cycle leaves alone.
* `sources_isolated` — both together.
-/

namespace FeedSync

open Program

/-- A call without the internal ids in it, and a report without its details, which may tell one. -/
def Call.nameless : Call Transaction → Call Transaction
  | .upsert tx a => .upsert (tx.map Write.nameless) a
  | .upsertTags tx words => .upsertTags (tx.map Write.nameless) words
  | .link tx _ tagIds => .link (tx.map Write.nameless) 0 tagIds
  | .commit tx => .commit (tx.map Write.nameless)
  | .rollback tx => .rollback (tx.map Write.nameless)
  | .external (.log event) => .external (.log { event with fields := [] })
  | c => c

/-- **Scenes that look alike to a source**: their stores do, and the same calls were made, up to
internal ids. -/
structure Scene.AlikeFor (sourceId : String) (sc sc' : Scene) : Prop where
  store : sc.store.AlikeFor sourceId sc'.store
  calls : sc.calls.map Call.nameless = sc'.calls.map Call.nameless

namespace Cycle

variable {w : Replies} {settings : Settings} {s s' : Store} {a : Article} {sourceId : String}

/-! ### Calls that agree -/

/-- Leaving internal ids out of a call does not change whether it reads the clock. -/
theorem isReading_nameless (c : Call Transaction) : c.nameless.isReading = c.isReading := by
  cases c with
  | external c => cases c <;> rfl
  | _ => rfl

/-- The collaborators that are no stores reply alike after calls that are alike. -/
theorem external_congr {calls calls' : List (Call Transaction)}
    (h : calls.map Call.nameless = calls'.map Call.nameless) :
    w.external calls = w.external calls' := by
  have hlength : calls.length = calls'.length := by
    rw [← List.length_map Call.nameless, h, List.length_map]
  have hreadings : ∀ calls : List (Call Transaction),
      (calls.map Call.nameless).countP Call.isReading = calls.countP Call.isReading := by
    intro calls
    rw [List.countP_map]
    exact List.countP_congr fun c _ => by rw [Function.comp_apply, isReading_nameless]
  funext c
  cases c with
  | fetch maxPages => rfl
  | now => exact congrArg w.clock (by rw [← hreadings, h, hreadings])
  | stopwatch => exact congrArg w.stopwatch hlength
  | publish a isNew => exact congrArg (w.publish · a isNew) hlength
  | log event => rfl

/-- Programs that agree when they run in scenes that look alike to a source. -/
abbrev Agrees (w : Replies) (sourceId : String) {α α' : Type} (p : Calls Transaction α)
    (p' : Calls Transaction α') (post : α → α' → Prop) : Prop :=
  Agree (Scene.answer w alone) (Scene.AlikeFor sourceId) p p' post

variable {α β : Type}

/-- **Calls agree** if the stores answer them alike. -/
theorem Agrees.call {c c' : Call Transaction} {post : c.Reply → c'.Reply → Prop}
    (hc : c.nameless = c'.nameless)
    (h : ∀ (s s' : Store) (external : (c : External) → c.Reply), s.AlikeFor sourceId s' →
      post (s.answer external c).1 (s'.answer external c').1 ∧
        (s.answer external c).2.AlikeFor sourceId (s'.answer external c').2) :
    Agrees w sourceId (FeedSync.call c) (FeedSync.call c') post := by
  refine Agree.request fun sc sc' hsc => ?_
  obtain ⟨hpost, hstore⟩ := h sc.store sc'.store (w.external sc.calls) hsc.store
  rw [external_congr hsc.calls] at hpost hstore
  change post (sc.store.answer (w.external sc.calls) c).1 _ ∧ Scene.AlikeFor sourceId
    { sc with store := (sc.store.answer (w.external sc.calls) c).2, calls := sc.calls ++ [c] } _
  rw [external_congr hsc.calls]
  refine ⟨hpost, hstore, ?_⟩
  rw [List.map_append, hsc.calls]
  change _ ++ [c.nameless] = (sc'.calls ++ [c']).map Call.nameless
  rw [List.map_append, hc]
  rfl

/-- A call that is not about the store is answered alike. -/
theorem Agrees.external (c : External) :
    Agrees w sourceId (external c) (FeedSync.external c) Eq :=
  .call rfl fun _ _ _ h => ⟨rfl, h⟩

/-- Reports agree, whatever details they tell. -/
theorem Agrees.report {part : Part} {level : Level} {message : String}
    {fields fields' : List (String × Datum)} :
    Agrees w sourceId (report part level message fields) (report part level message fields') Eq :=
  .call rfl fun _ _ _ h => ⟨rfl, h⟩

/-! ### Cycles that agree -/

/-- **The writes of an article** add the same to two transactions, up to internal ids, and succeed
or fail in both. -/
theorem agrees_persist (a : Article) {tx tx' : Transaction}
    (htx : tx.map Write.nameless = tx'.map Write.nameless) :
    Agrees w sourceId (persist a tx) (persist a tx') Store.SameWrites := by
  rw [persist, persist]
  refine Agree.bind Store.SameWrites (Agrees.call (congrArg (Call.upsert · a) htx)
    fun s s' external h => h.upsert htx a) ?_
  rintro ⟨tx, e | id⟩ ⟨tx', e' | id'⟩ ⟨htx, hresult⟩
  · exact .pure ⟨htx, rfl⟩
  · cases hresult
  · cases hresult
  · simp only
    split
    · exact .pure ⟨htx, rfl⟩
    · refine Agree.bind Store.SameWrites (Agrees.call
        (congrArg (Call.upsertTags · a.tags) htx)
        fun s s' external h => ⟨Store.sameWrites_upsertTags htx a.tags, h⟩) ?_
      rintro ⟨tx, e | u⟩ ⟨tx', e' | u'⟩ ⟨htx, hresult⟩
      · exact .pure ⟨htx, rfl⟩
      · cases hresult
      · cases hresult
      · exact Agrees.call (congrArg (Call.link · 0 a.tagIds) htx) fun s s' external h =>
          ⟨h.link htx id id' a.tagIds, h⟩

/-- **The unit of work of an article** succeeds or fails in both runs. -/
theorem agrees_unitOfWork (a : Article) :
    Agrees w sourceId (unitOfWork (persist a)) (unitOfWork (persist a)) fun r r' =>
      r.isOk = r'.isOk := by
  rw [unitOfWork]
  refine Agree.bind Eq (Agrees.call rfl fun s s' external h => ⟨rfl, h⟩) ?_
  rintro (e | tx) _ rfl
  · exact .pure rfl
  · refine Agree.bind _ (agrees_persist a rfl) ?_
    rintro ⟨tx, e | u⟩ ⟨tx', e' | u'⟩ ⟨htx, hresult⟩
    · refine Agree.bind Eq (Agrees.call (congrArg Call.rollback htx)
        fun s s' external h => ⟨rfl, h.rollback⟩) ?_
      rintro (refusal | u) _ rfl
      · exact Agree.bind _ Agrees.report fun _ _ _ => .pure rfl
      · exact .pure rfl
    · cases hresult
    · cases hresult
    · refine Agree.bind Eq (Agrees.call (congrArg Call.commit htx)
        fun s s' external h => ⟨rfl, h.commit htx⟩) ?_
      rintro (e | u) _ rfl
      · exact .pure rfl
      · exact .pure rfl

/-- An existence query about the source is answered alike. -/
theorem agrees_held (ids : List Int64) :
    Agrees w sourceId (call (.held sourceId ids)) (call (.held sourceId ids)) Eq :=
  .call rfl fun _ _ _ h => h.held ids

/-- **A save** fails in both runs, or finds its article new in both or known in both. -/
theorem agrees_save (a : Article) : Agrees w sourceId (save sourceId a) (save sourceId a)
    fun r r' => r.toOption = r'.toOption := by
  rw [save]
  refine Agree.bind _ (agrees_held [a.externalId]) ?_
  rintro (e | held) _ rfl
  · exact .pure rfl
  · refine Agree.bind _ (agrees_unitOfWork a) ?_
    rintro (e | u) (e' | u') hresult
    · exact .pure rfl
    · cases hresult
    · cases hresult
    · exact .pure rfl

/-- An article is published alike. -/
theorem agrees_publish (settings : Settings) (a : Article) (isNew : Bool) (stats : Stats) :
    Agrees w sourceId (publish settings a isNew stats) (publish settings a isNew stats) Eq := by
  rw [publish]
  split
  · refine Agree.bind _ (Agrees.external _) ?_
    rintro (e | u) _ rfl
    · exact Agree.bind _ Agrees.report fun _ _ _ => .pure rfl
    · exact .pure rfl
  · exact .pure rfl

/-- **An article is handled alike**, and counted alike. -/
theorem agrees_handleArticle (settings : Settings) (progress : Progress) (a : Article) :
    Agrees w settings.sourceId (handleArticle settings progress a)
      (handleArticle settings progress a) Eq := by
  rw [handleArticle]
  refine Agree.bind _ (agrees_save a) ?_
  rintro (e | isNew) (e' | isNew') hresult
  · exact Agree.bind _ Agrees.report fun _ _ _ => .pure rfl
  · cases hresult
  · cases hresult
  · obtain rfl : isNew = isNew' := Option.some.inj hresult
    refine Agree.bind _ (agrees_publish settings a isNew _) ?_
    rintro stats _ rfl
    exact .pure rfl

/-- **Articles in a row are handled alike.** -/
theorem agrees_handleAll (settings : Settings) (progress : Progress) (articles : List Article) :
    Agrees w settings.sourceId (handleAll settings progress articles)
      (handleAll settings progress articles) Eq := by
  induction articles generalizing progress with
  | nil => exact .pure rfl
  | cons a rest ih =>
      rw [handleAll]
      refine Agree.bind _ (agrees_handleArticle settings progress a) ?_
      rintro progress' _ rfl
      exact ih progress'

/-- The sync state of the source is brought up to date alike. -/
theorem agrees_updateState (settings : Settings) (progress : Progress) :
    Agrees w settings.sourceId (updateState settings progress) (updateState settings progress)
      Eq := by
  rw [updateState]
  refine Agree.bind Eq (Agrees.call rfl fun s s' external h =>
    ⟨congrArg Except.ok h.stateOf, h⟩) ?_
  rintro (e | state) _ rfl
  · exact .pure rfl
  · refine Agree.bind _ (Agrees.external .now) ?_
    rintro now _ rfl
    cases advance? state now progress.stats.synced progress.lastStored with
    | none => exact .pure rfl
    | some state' =>
        refine Agree.bind Eq (Agrees.call rfl fun s s' external h => h.writeState _) ?_
        rintro reply _ rfl
        exact .pure rfl

/-- **A cycle ends alike.** -/
theorem agrees_conclude (settings : Settings) (started : Nat) (progress : Progress) :
    Agrees w settings.sourceId (conclude settings started progress)
      (conclude settings started progress) Eq := by
  refine Agree.bind _ (agrees_updateState settings progress) ?_
  rintro (_ | updated) _ rfl
  · exact .pure rfl
  · refine Agree.bind _ (Agrees.external .stopwatch) ?_
    rintro stopped _ rfl
    cases updated with
    | error e => exact .pure rfl
    | ok u => exact Agree.bind _ Agrees.report fun _ _ _ => .pure rfl

/-- **A cycle goes alike** over the articles inside the window. -/
theorem agrees_store (settings : Settings) (started : Nat) (articles : List Article) :
    Agrees w settings.sourceId (Cycle.store settings started articles)
      (Cycle.store settings started articles) Eq := by
  rw [Cycle.store]
  refine Agree.bind _ (agrees_held _) ?_
  rintro (e | held) _ rfl
  · exact .pure rfl
  · refine Agree.bind _ Agrees.report fun _ _ _ => ?_
    refine Agree.bind _ (agrees_handleAll settings _ _) ?_
    rintro progress _ rfl
    exact agrees_conclude settings started progress

/-- **Cycles of a source agree** in all scenes that look alike to it. -/
theorem agrees_cycle (settings : Settings) :
    Agrees w settings.sourceId (cycle settings) (cycle settings) Eq := by
  rw [cycle]
  refine Agree.bind _ (Agrees.external .stopwatch) ?_
  rintro started _ rfl
  refine Agree.bind _ Agrees.report fun _ _ _ => ?_
  refine Agree.bind _ (Agrees.external (.fetch settings.maxPages)) ?_
  rintro (e | fetched) _ rfl
  · exact .pure rfl
  · refine Agree.bind _ (Agrees.external .now) ?_
    rintro now _ rfl
    refine Agree.bind _ Agrees.report fun _ _ _ => ?_
    refine Agree.bind _ Agrees.report fun _ _ _ => ?_
    exact agrees_store settings started _

/-! ### What a cycle leaves alone -/

variable {t : Trace (Collaborators Transaction)} {keys : Article.Key → Prop}
  {pending : Write → Prop} {n : Nat}

/-- An upsert that succeeds is the first write of its transaction, under the id of its key. -/
theorem eq_of_upsert_eq_ok {tx : Transaction} {id : Int64}
    (h : (tx, .ok id) = (Store.upsert [] a s).1) :
    a.externalId ∉ s.plan.upserts ∧ id = s.idOf a.key ∧ tx = [.article (s.idOf a.key) a] := by
  by_cases hmem : a.externalId ∈ s.plan.upserts
  · obtain ⟨e, he⟩ : ∃ e, (Store.upsert [] a s).1 = ([], .error e) := Store.upsert_of_mem hmem
    nomatch (Prod.mk.inj (h.trans he)).2
  · rw [Store.upsert_of_not_mem hmem] at h
    obtain ⟨htx, hid⟩ := Prod.mk.inj h
    exact ⟨hmem, Except.ok.inj hid, htx⟩

/-- What the writes of an article do when a store serves them: they upsert it, and if they succeed
the transaction holds them all. -/
theorem Writes.served_eq {tx' : Transaction} {reply : Except InfraError Unit}
    (h : Writes a [] t tx' reply) (hserves : s.Serves w t s') :
    s' = (Store.upsert [] a s).2 ∧
      (reply = .ok () → a.externalId ∉ s.plan.upserts ∧ tx' = a.writes (s.idOf a.key)) := by
  cases h with
  | refused =>
      obtain ⟨_, -, rfl⟩ := hserves
      exact ⟨rfl, nofun⟩
  | untagged htags =>
      obtain ⟨_, hupsert, rfl⟩ := hserves
      obtain ⟨hmem, -, rfl⟩ := eq_of_upsert_eq_ok hupsert
      exact ⟨rfl, fun _ => ⟨hmem, (Article.writes_of_untagged (List.isEmpty_iff.mpr htags) _).symm⟩⟩
  | tagsRefused htags =>
      obtain ⟨_, -, _, -, rfl⟩ := hserves
      exact ⟨rfl, nofun⟩
  | linked htags =>
      obtain ⟨_, hupsert, _, htagged, _, hlinked, rfl⟩ := hserves
      obtain ⟨hmem, rfl, rfl⟩ := eq_of_upsert_eq_ok hupsert
      have htags : a.tags.isEmpty = false := by simpa using htags
      refine ⟨rfl, fun hreply => ⟨hmem, ?_⟩⟩
      have htagged := htagged.trans (Store.upsertTags_of_tagged htags _)
      obtain ⟨rfl, -⟩ := Prod.mk.inj htagged
      change (tx', reply) = Store.link _ _ _ _ at hlinked
      rw [Store.link] at hlinked
      split at hlinked
      · have hrefused := hreply.symm.trans (Prod.mk.inj hlinked).2
        cases hrefused
      · rw [(Prod.mk.inj hlinked).1, Article.writes_of_tagged htags]
        rfl

/-- **How the unit of work of an article ends** when a store serves it: with a rollback, or with the
commit of all its writes. -/
theorem Works.served_eq {reply : Except InfraError Unit} (h : Works a t reply)
    (hserves : s.Serves w t s') :
    s' = (Store.upsert [] a s).2.rollback ∨ a.externalId ∉ s.plan.upserts ∧
      s' = (Store.upsert [] a s).2.commit (a.writes (s.idOf a.key)) := by
  cases h with
  | unbegun =>
      obtain ⟨_, hreply, -⟩ := hserves
      nomatch hreply
  | committed h =>
      obtain ⟨_, hbegin, hserves⟩ := hserves
      obtain rfl := Except.ok.inj hbegin
      obtain ⟨m, hwrites, _, -, rfl⟩ := Store.serves_append.mp hserves
      obtain ⟨rfl, hdone⟩ := h.served_eq hwrites
      obtain ⟨hmem, rfl⟩ := hdone rfl
      exact .inr ⟨hmem, rfl⟩
  | rolledBack h =>
      obtain ⟨_, hbegin, hserves⟩ := hserves
      obtain rfl := Except.ok.inj hbegin
      obtain ⟨m, hwrites, _, -, rfl⟩ := Store.serves_append.mp hserves
      obtain ⟨rfl, -⟩ := h.served_eq hwrites
      exact .inl rfl

/-- The keys of other sources that no planned writer writes. -/
def Foreign (sourceId : String) (plan : FaultPlan) (key : Article.Key) : Prop :=
  key.1 ≠ sourceId ∧ ∀ intrusion ∈ plan.intrusions, key ≠ intrusion.2.key

/-- **A save leaves other sources alone.** -/
theorem Saves.untouched {reply : Except InfraError Bool} (h : Saves sourceId a t reply)
    (hserves : s.Serves w t s') (hready : s.Ready pending (n + 1)) (ha : a.sourceId = sourceId) :
    s'.Ready pending n ∧ Store.Untouched (Foreign sourceId s.plan) s s' ∧ s'.plan = s.plan := by
  have hheld := hready.held sourceId [a.externalId] (Foreign sourceId s.plan)
    fun key hkey => hkey.2
  have hworks : ∀ {t : Trace (Collaborators Transaction)} {reply : Except InfraError Unit},
      Works a t reply → (Store.held sourceId [a.externalId] s).2.Serves w t s' →
      s'.Ready pending n ∧ Store.Untouched (Foreign sourceId s.plan) s s' ∧ s'.plan = s.plan := by
    intro t reply h hserves
    obtain ⟨hasked, huntouched, hplan⟩ := hheld
    have hne : ∀ key, Foreign sourceId s.plan key → key ≠ a.key := fun key hkey heq =>
      hkey.1 ((congrArg Prod.fst heq).trans ha)
    obtain ⟨hdone, huntouched', hplan'⟩ := hasked.unitOfWork (h.served_eq hserves) hne
    exact ⟨hdone, huntouched.trans huntouched', hplan'.trans hplan⟩
  cases h with
  | unasked =>
      obtain ⟨_, -, rfl⟩ := hserves
      exact ⟨hheld.1.mono (Nat.le_succ n), hheld.2⟩
  | failed h =>
      obtain ⟨_, -, hserves⟩ := hserves
      exact hworks h hserves
  | stored h =>
      obtain ⟨_, -, hserves⟩ := hserves
      exact hworks h hserves

/-- The calls for an article leave other sources alone. -/
theorem Handles.untouched {fate : Fate} (h : Handles settings a t fate) (hserves : s.Serves w t s')
    (hready : s.Ready pending (n + 1)) (ha : a.sourceId = settings.sourceId) :
    s'.Ready pending n ∧ Store.Untouched (Foreign settings.sourceId s.plan) s s' ∧
      s'.plan = s.plan := by
  cases h with
  | failed h => exact h.untouched hserves hready ha
  | unpublished _ h => exact h.untouched hserves hready ha
  | published _ h =>
      obtain ⟨m, hsave, _, -, rfl⟩ := Store.serves_append.mp hserves
      exact h.untouched hsave hready ha

/-- **The calls for all articles leave other sources alone.** -/
theorem HandlesAll.untouched {fates : Fates} (h : HandlesAll settings t fates)
    (hserves : s.Serves w t s') (hready : s.Ready pending (fates.articles.length + n))
    (hsource : ∀ a ∈ fates.articles, a.sourceId = settings.sourceId) :
    s'.Ready pending n ∧ Store.Untouched (Foreign settings.sourceId s.plan) s s' := by
  induction h generalizing s with
  | nil =>
      obtain rfl : s' = s := hserves
      exact ⟨hready.mono (Nat.le_add_left _ _), Store.untouched_of_content rfl⟩
  | @cons a fate fates t t' h _ ih =>
      obtain ⟨m, hfirst, hrest⟩ := Store.serves_append.mp hserves
      obtain ⟨ha, hsource⟩ := List.forall_mem_cons.mp hsource
      have hlength : (Fates.articles ((a, fate) :: fates)).length + n =
          (fates.articles.length + n) + 1 := Nat.add_right_comm _ _ _
      obtain ⟨hready', huntouched, hplan⟩ := h.untouched hfirst (hlength ▸ hready) ha
      obtain ⟨hdone, huntouched'⟩ := ih hrest hready' hsource
      exact ⟨hdone, huntouched.trans (hplan ▸ huntouched')⟩

/-- The end of a cycle leaves the content of the store, and a sound store sound. -/
theorem Closes.untouched {synced : Nat} {lastStored : Option Int64}
    {reply : Option (Except InfraError Unit)} (h : Closes settings synced lastStored t reply)
    (hserves : s.Serves w t s') (hsound : s.Sound pending) :
    s'.Sound pending ∧ s'.content = s.content := by
  cases h with
  | unread =>
      obtain ⟨_, -, rfl⟩ := hserves
      exact ⟨hsound, rfl⟩
  | overflown =>
      obtain ⟨_, -, rfl⟩ := hserves
      exact ⟨hsound, rfl⟩
  | written =>
      obtain ⟨_, -, _, -, rfl⟩ := hserves
      refine ⟨hsound.writeState _, ?_⟩
      change (Store.writeState _ s).2.content = s.content
      rw [writeState_snd]
      rfl

/-- **A cycle leaves the rows of other sources and their links alone**, and its store sound. -/
theorem untouched_outcome {fetched : List Article} (hsound : s.Sound pending)
    (hfetch : w.fetch settings.maxPages = .ok fetched)
    (hsource : ∀ a ∈ fetched, a.sourceId = settings.sourceId)
    (hroom : s.HasRoom (s.plan.intrusions.length + fetched.length)) :
    (outcome w settings s).2.store.Sound pending ∧
      Store.Untouched (Foreign settings.sourceId s.plan) s (outcome w settings s).2.store := by
  have hready : s.Ready pending fetched.length :=
    ⟨hsound, hroom.mono (Nat.add_le_add_right List.countP_le_length _)⟩
  obtain ⟨t, hyields, hserves, -⟩ := serves_outcome w settings s
  generalize (outcome w settings s).2.store = s' at hserves ⊢
  rcases yields_cycle hyields with ⟨e, hcalls, -⟩ | ⟨_, _, e, hcalls, -⟩ | ⟨⟨c⟩⟩
  · rw [hcalls] at hserves
    obtain ⟨_, -, rfl⟩ := hserves
    exact ⟨hsound, Store.untouched_of_content rfl⟩
  · rw [hcalls] at hserves
    obtain ⟨_, -, _, -, rfl⟩ := hserves
    obtain ⟨hasked, huntouched, -⟩ := hready.held settings.sourceId _
      (Foreign settings.sourceId s.plan) fun key hkey => hkey.2
    exact ⟨hasked.sound, huntouched⟩
  · rw [c.calls_eq] at hserves
    obtain ⟨_, hfetched, _, -, hserves⟩ := hserves
    obtain ⟨s₁, hhandling, hclosing⟩ := Store.serves_append.mp hserves
    obtain ⟨hasked, huntouched, hplan⟩ := hready.held settings.sourceId
      (c.articles.map Article.externalId) (Foreign settings.sourceId s.plan)
      fun key hkey => hkey.2
    obtain ⟨fates, hselected, hhandles, -⟩ := c.exists_fates
    have hlisted : c.fetched = fetched := Except.ok.inj (hfetched.trans hfetch)
    have hsublist : ∀ a ∈ fates.articles, a ∈ fetched := fun a ha => by
      rw [hselected] at ha
      exact hlisted ▸ List.mem_of_mem_filter (mem_selectForSync.mp ha).1.mem
    have hlength : fates.articles.length ≤ fetched.length := by
      rw [hselected, ← hlisted]
      exact (length_selectForSync_le _ _).trans (List.length_filter_le _ _)
    have hready' : Store.Ready pending (fates.articles.length + (fetched.length -
        fates.articles.length)) (Store.held settings.sourceId _ s).2 :=
      (Nat.add_sub_cancel' hlength).symm ▸ hasked
    obtain ⟨hdone, huntouched'⟩ := hhandles.untouched hhandling hready' fun a ha =>
      hsource a (hsublist a ha)
    obtain ⟨hsound', hcontent⟩ := c.closed.untouched hclosing hdone.sound
    exact ⟨hsound', (huntouched.trans (hplan ▸ huntouched')).trans
      (Store.untouched_of_content hcontent)⟩

/-- **A cycle leaves the sync states of other sources alone.** -/
theorem states_outcome_of_ne (hsound : s.Sound pending) (hne : sourceId ≠ settings.sourceId) :
    (outcome w settings s).2.store.states.get? sourceId = s.states.get? sourceId := by
  rcases states_outcome w settings s with
    ⟨e, -, hstates⟩ | ⟨stats, now, state, -, hadvanced, hstates⟩
  · rw [hstates]
  · rw [hstates, Table.get?_set, hadvanced.sourceId, if_neg]
    exact fun h => hne (h.trans (hsound.sourceId_stateOf settings.sourceId))

/-- A cycle leaves all other sources alone: their rows and the links of these, as far as no other
writer writes them, and their sync states. -/
def LeavesOthers (w : Replies) (settings : Settings) (s : Store) : Prop :=
  Store.Untouched (Foreign settings.sourceId s.plan) s (outcome w settings s).2.store ∧
    ∀ sourceId, sourceId ≠ settings.sourceId →
      (outcome w settings s).2.store.states.get? sourceId = s.states.get? sourceId

/-- **Sources are isolated from each other.** Two stores may hold whatever they like of other
sources: where they look alike to a source, a cycle of it has the same result in both, makes the
same calls, up to internal ids, and leaves stores that look alike to it again, with the same rows up
to internal ids. And in each of them it leaves all other sources alone. (That internal ids tell the
sources apart needs that their counter does not overflow.) -/
theorem sources_isolated {fetched : List Article}
    (hfetch : w.fetch settings.maxPages = .ok fetched)
    (hsource : ∀ a ∈ fetched, a.sourceId = settings.sourceId)
    (hreachable : s.Reachable) (hreachable' : s'.Reachable)
    (halike : s.AlikeFor settings.sourceId s') :
    (outcome w settings s).1 = (outcome w settings s').1 ∧
      (outcome w settings s).2.AlikeFor settings.sourceId (outcome w settings s').2 ∧
      (s.HasRoom (s.plan.intrusions.length + fetched.length) →
        s'.HasRoom (s'.plan.intrusions.length + fetched.length) →
        Store.SameRows (fun key => key.1 = settings.sourceId) (outcome w settings s).2.store
            (outcome w settings s').2.store ∧
          LeavesOthers w settings s ∧ LeavesOthers w settings s') := by
  have hstart : Scene.AlikeFor settings.sourceId (Scene.start s) (Scene.start s') := ⟨halike, rfl⟩
  obtain ⟨hresult, hends⟩ := agrees_cycle (w := w) settings _ _ hstart
  refine ⟨hresult, hends, fun hroom hroom' => ?_⟩
  obtain ⟨_, hreachable⟩ := hreachable
  obtain ⟨_, hreachable'⟩ := hreachable'
  obtain ⟨hsound, huntouched⟩ := untouched_outcome hreachable.sound hfetch hsource hroom
  obtain ⟨hsound', huntouched'⟩ := untouched_outcome hreachable'.sound hfetch hsource hroom'
  refine ⟨Store.sameRows_of_articleOf hsound hsound' ?_,
    ⟨huntouched, fun _ => states_outcome_of_ne hreachable.sound⟩,
    huntouched', fun _ => states_outcome_of_ne hreachable'.sound⟩
  rintro ⟨sourceId, externalId⟩ rfl
  exact hends.store.articles externalId

/-- Another source has an article with the same number, stored before: the cycle goes as if it were
not there, and leaves its row and its links. -/
theorem isolation_from_same_number :
    let b : Article := { Article.bare 1 .later [⟨9, "stocks"⟩] with sourceId := "fed" }
    let fetched := [Article.bare 1 .later [⟨7, "rates"⟩], Article.bare 2 .sooner []]
    let w := Replies.listing fetched
    let s := (Store.insert (Article.bare 1 .sooner []) {}).2
    let s' := (Store.insert (Article.bare 1 .sooner []) (Store.insert b {}).2).2
    (outcome w .daily s).1 = (outcome w .daily s').1 ∧
      (outcome w .daily s').2.store.row? b.key = some ⟨1, b⟩ ∧
      (outcome w .daily s').2.store.linksOf b.key = some [9] := by
  intro b fetched w s s'
  have hreachable : s.Reachable :=
    ⟨fun _ => [], (Desk.Reachable.start {}).move (.insert (.bare 1 .sooner [])) (by decide)⟩
  have hreachable' : s'.Reachable :=
    ⟨fun _ => [], ((Desk.Reachable.start {}).move (.insert b) (by decide)).move
      (.insert (.bare 1 .sooner [])) (by decide)⟩
  have hempty : Store.AlikeFor "ecb" {} {} := ⟨fun _ => rfl, rfl, rfl, rfl⟩
  have halike : s.AlikeFor "ecb" s' := (hempty.insert_right (by decide)).insert _
  have hfetch : w.fetch Settings.daily.maxPages = .ok fetched := rfl
  obtain ⟨hresult, -, hrest⟩ :=
    sources_isolated hfetch (by decide) hreachable hreachable' halike
  obtain ⟨-, -, hothers, -⟩ := hrest (by decide) (by decide)
  have hforeign : Foreign "ecb" s'.plan b.key := ⟨by decide, by decide +kernel⟩
  exact ⟨hresult, (hothers.rows b.key hforeign).trans (by decide +kernel),
    (hothers.links b.key hforeign).trans (by decide +kernel)⟩

end Cycle

end FeedSync
