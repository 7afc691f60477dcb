import Mathlib.Data.List.TakeWhile
import FeedSync.Proofs.Cycle.Alone

/-!
# A save that loses a race

Between its batch query and the save of an article a cycle is not alone: another writer can store a
version of the article that is as late as the one that the cycle is going to save. The conditional
rule then keeps the row of the other writer. It does not keep its **links**: they are writes of
their own, for the internal id that the upsert has answered, and they are committed whether the row
was written or not. So the winning version ends up with the tags of the version that lost.

## Main definitions

* `Race` — an article, what others do meanwhile, and what they leave of it.
* `Race.Outrun` — the others win the race.

## Main statements

* `stake_commit_of_lost` — what the commit of a version that has lost does to the row and its links.
* `runs_save`, `runs_handleAll`, `runs_cycle` — the race along a save, the loop and a cycle.
* `row_and_links_after_lost_save` — the end of a race that a cycle has lost.
-/

namespace FeedSync

open Cycle Program

/-! ### Races -/

/-- Whether a call asks for one article of a source. -/
def Call.asksFor (sourceId : String) (externalId : Int64) : Call Transaction → Bool
  | .held sourceId' externalIds => sourceId' = sourceId && externalIds = [externalId]
  | _ => false

/-- A race for an article, between a cycle and other writers. -/
structure Race where
  settings : Settings
  /-- The version that the cycle is going to save. -/
  article : Article
  /-- What the others do, by the number of calls since the batch query. -/
  moves : Nat → List Move
  /-- The row that the others leave. -/
  row : StoredArticle
  /-- The links that the others leave to that row. -/
  links : Option (List Int64)

namespace Race

/-- Whether the cycle has asked for the article again since its batch query. -/
def hasAsked (x : Race) (sc : Scene) : Bool :=
  (sinceBatch sc.calls).tail.any (Call.asksFor x.settings.sourceId x.article.externalId)

/-- Whether that was its last call. -/
def justAsked (x : Race) (sc : Scene) : Bool :=
  x.hasAsked sc && sc.calls.getLast?.any (Call.asksFor x.settings.sourceId x.article.externalId)

/-- What is at stake: the row of the article, and the links of the internal id that it has. -/
def stake (x : Race) (s : Store) : Option StoredArticle × Option (List Int64) :=
  (s.row? x.article.key, s.links.get? x.row.id)

/-- **The others win the race**, as far as one point of a cycle goes. -/
structure Outrun (x : Race) (sc : Scene) : Prop where
  /-- The counter of internal ids does not overflow before the next point. -/
  room : sc.store.HasRoom (Move.demands sc.store.plan (due x.moves sc.calls) +
    (sc.store.plan.intrusions.length + 1))
  /-- When the cycle has asked for the article again, their row and its links are there. -/
  stored : x.justAsked sc → x.stake sc.store = (some x.row, x.links)
  /-- From then on they leave both alone, -/
  quiet : x.hasAsked sc → x.stake (sc.met (amid x.moves)).store = x.stake sc.store
  /-- and so do the writers that are planned for existence queries. -/
  quiet' : x.hasAsked sc → x.stake (sc.met (amid x.moves)).store.intruded = x.stake sc.store

instance (x : Race) (sc : Scene) : Decidable (x.Outrun sc) :=
  decidable_of_iff (_ ∧ _ ∧ _ ∧ _)
    ⟨fun ⟨h₁, h₂, h₃, h₄⟩ => ⟨h₁, h₂, h₃, h₄⟩, fun h => ⟨h.room, h.stored, h.quiet, h.quiet'⟩⟩

/-- The links that are left when some articles were committed: those of the cycle's version if it
was among them and has tags, else those of the others. -/
def linksLeft (x : Race) (committed : List Article) : Option (List Int64) :=
  if x.article ∈ committed ∧ x.article.tags ≠ [] then some (Tag.distinctIds x.article.tagIds)
  else x.links

/-- **The invariant of a race** that the others win, after the batch query: with some writes waiting
in the transaction of the cycle, before and after the cycle has asked for the article again. -/
structure Racing (x : Race) (own : Write → Prop) (asked : Prop) (sc : Scene) : Prop where
  sound : sc.store.Sound fun w => sc.Pending w ∨ own w
  /-- The batch query was made. -/
  begun : sinceBatch sc.calls ≠ []
  /-- The article is not committed before it is asked for. -/
  first : ¬ asked → x.article ∉ sc.committed
  /-- From then on the row is that of the others, and its links depend on the commit. -/
  kept : asked → x.hasAsked sc ∧ x.stake sc.store = (some x.row, x.linksLeft sc.committed)

/-- A race at the point where the others have made their moves before a call. -/
structure Met (x : Race) (own : Write → Prop) (asked : Prop) (sc : Scene) : Prop extends
    x.Racing own asked sc where
  room : sc.store.HasRoom (sc.store.plan.intrusions.length + 1)
  kept' : asked → x.stake sc.store.intruded = (some x.row, x.linksLeft sc.committed)

variable {w : Replies} {x : Race} {own own' : Write → Prop} {asked asked' : Prop} {sc : Scene}

/-! ### Steps of the invariant -/

/-- Only the articles among the waiting writes matter. -/
theorem Racing.weaken (h : x.Racing own asked sc)
    (hown : ∀ id b, own' (.article id b) → own (.article id b)) : x.Racing own' asked sc :=
  { h with sound := h.sound.weaken fun id b hb => hb.imp_right (hown id b) }

/-- **The moves of the others** keep the invariant. -/
theorem Racing.met (h : x.Racing own asked sc) (hsc : x.Outrun sc) :
    x.Met own asked (sc.met (amid x.moves)) := by
  obtain ⟨hsound, hroom, hplan⟩ := Desk.sound_performAll h.sound hsc.room
  refine { sound := hsound, begun := h.begun, first := h.first, kept := fun hasked => ?_
           room := hplan ▸ hroom, kept' := fun hasked => ?_ }
  · obtain ⟨hhas, hstake⟩ := h.kept hasked
    exact ⟨hhas, (hsc.quiet hhas).trans hstake⟩
  · obtain ⟨hhas, hstake⟩ := h.kept hasked
    exact (hsc.quiet' hhas).trans hstake

/-- One more call since the batch query. -/
theorem sinceBatch_concat {calls : List (Call Transaction)} (h : sinceBatch calls ≠ [])
    (c : Call Transaction) : sinceBatch (calls ++ [c]) = sinceBatch calls ++ [c] := by
  rw [sinceBatch, List.dropWhile_append, if_neg]
  · rfl
  · rwa [List.isEmpty_iff]

/-- The articles that are committed after a call. -/
theorem committed_called (sc : Scene) (c : Call Transaction) (store : Store) :
    (sc.called c store).committed = sc.committed ++ c.committed?.toList :=
  congrArg View.committed (Scene.view_called sc c store)

/-- After the batch query there are always calls since it. -/
theorem begun_called (h : sinceBatch sc.calls ≠ []) (c : Call Transaction) (store : Store) :
    sinceBatch (sc.called c store).calls ≠ [] := by
  rw [Scene.called, sinceBatch_concat h]
  exact List.append_ne_nil_of_left_ne_nil h _

/-- What was asked stays asked. -/
theorem hasAsked_called (hbegun : sinceBatch sc.calls ≠ []) (c : Call Transaction) (store : Store) :
    x.hasAsked (sc.called c store) =
      (x.hasAsked sc || c.asksFor x.settings.sourceId x.article.externalId) := by
  rw [hasAsked, Scene.called, sinceBatch_concat hbegun, List.tail_append_of_ne_nil hbegun,
    List.any_append, List.any_cons, List.any_nil, Bool.or_false]
  rfl

/-- A call that commits nothing keeps the invariant, if it leaves what is at stake. -/
theorem Racing.called {c : Call Transaction} {store : Store} (h : x.Racing own asked sc)
    (hsound : store.Sound fun w => sc.Pending w ∨ own' w)
    (hstake : asked → x.stake store = (some x.row, x.linksLeft sc.committed))
    (hc : c.committed? = none) : x.Racing own' asked (sc.called c store) := by
  have hcommitted : (sc.called c store).committed = sc.committed := by
    rw [committed_called, hc, Option.toList_none, List.append_nil]
  refine ⟨hsound, begun_called h.begun c store, hcommitted ▸ h.first,
    fun hasked => ⟨?_, hcommitted ▸ hstake hasked⟩⟩
  rw [hasAsked_called h.begun, (h.kept hasked).1, Bool.true_or]

/-- The articles of the cycle's transaction are no longer waiting after its end. -/
theorem Racing.ended (h : x.Racing own asked sc) : x.Racing (fun _ => False) asked sc :=
  h.weaken fun _ _ => False.elim

/-- The commit of another article leaves what is at stake. -/
theorem stake_commit_of_ne {s : Store} {b : Article} {id : Int64} (hkey : x.article.key ≠ b.key)
    (hid : x.row.id ≠ id) : x.stake (s.commit (b.writes id)) = x.stake s := by
  rw [stake, stake, Store.row?_commit_writes, Store.links_commit_writes, if_neg hkey,
    if_neg fun h => hid h.1]

/-- **The commit of a version that has lost** leaves the row, and replaces the links by its own if
it has tags. -/
theorem stake_commit_of_lost {s : Store} {committed : List Article}
    (hlate : x.article.lastModified ≤ x.row.article.lastModified)
    (hstake : x.stake s = (some x.row, x.linksLeft committed)) :
    x.stake (s.commit (x.article.writes x.row.id)) =
      (some x.row, x.linksLeft (committed ++ [x.article])) := by
  obtain ⟨hrow, hlinks⟩ := Prod.mk.inj hstake
  rw [stake, Store.row?_commit_writes, Store.links_commit_writes, if_pos rfl, hrow, hlinks,
    StoredArticle.winner_of_le hlate, linksLeft, linksLeft]
  by_cases htags : x.article.tags = []
  · rw [if_neg fun h => h.2 htags, if_neg fun h => h.2 htags, if_neg fun h => h.2 htags]
  · rw [if_pos ⟨rfl, htags⟩, if_pos ⟨List.mem_append_right _ List.mem_cons_self, htags⟩]

/-- **The commit of a save** keeps the invariant, be it that of the article or of another one. -/
theorem Racing.commit {b : Article} {id : Int64} (h : x.Racing (· ∈ b.writes id) asked sc)
    (hlate : x.article.lastModified ≤ x.row.article.lastModified)
    (hkey : b.key = x.article.key → b = x.article) (hasked : b = x.article → asked)
    (hid : b = x.article → id = x.row.id) :
    x.Racing (fun _ => False) asked
      (sc.called (.commit (b.writes id)) (sc.store.commit (b.writes id))) := by
  have hcommitted : (sc.called (.commit (b.writes id)) (sc.store.commit (b.writes id))).committed =
      sc.committed ++ [b] := by
    rw [committed_called, Article.writes]
    split <;> rfl
  refine ⟨?_, begun_called h.begun _ _, fun hnot => ?_, fun h' => ⟨?_, ?_⟩⟩
  · exact (h.sound.commit fun w hw => .inr hw).weaken fun _ _ hw => hw.elim .inl False.elim
  · rw [hcommitted, List.mem_append, List.mem_singleton]
    exact fun hmem => hmem.elim (h.first hnot) fun heq => hnot (hasked heq.symm)
  · rw [hasAsked_called h.begun, (h.kept h').1, Bool.true_or]
  · obtain ⟨-, hstake⟩ := h.kept h'
    rw [hcommitted]
    change x.stake (sc.store.commit (b.writes id)) = _
    by_cases hb : b = x.article
    · rw [hid hb, hb]
      exact stake_commit_of_lost hlate hstake
    · have hne : x.article.key ≠ b.key := fun heq => hb (hkey heq.symm)
      -- the cycle's id for another key is not that of the row, whoever gave it out
      have hid' : x.row.id ≠ id := fun heq => hne <|
        h.sound.owner id x.article.key b.key (.inl ⟨x.row, (Prod.mk.inj hstake).1, heq⟩)
          (.inr ⟨b, .inr (Article.mem_writes.mpr ⟨rfl, rfl⟩), rfl⟩)
      rw [stake_commit_of_ne hne hid', hstake, linksLeft, linksLeft]
      simp only [List.mem_append, List.mem_singleton, Ne.symm hb, or_false]

/-! ### The logic -/

/-- **A computation of a cycle in a race** that the others win: what holds when it ends. -/
def Runs {α : Type} (w : Replies) (x : Race) (p : Calls Transaction α) (post : α → Scene → Prop)
    (sc : Scene) : Prop :=
  Upholds (Scene.answer w (amid x.moves)) x.Outrun (fun _ => True) p post sc

variable {α β : Type} {post : α → Scene → Prop}

/-- The rule for a call: the others make their moves, then it is answered. -/
theorem Runs.call {c : Call Transaction} {f : c.Reply → Calls Transaction α}
    (h : x.Racing own asked sc)
    (hnext : ∀ sc', x.Met own asked sc' →
      Runs w x (f (sc'.store.answer (w.external sc'.calls) c).1) post
        (sc'.called c (sc'.store.answer (w.external sc'.calls) c).2)) :
    Runs w x (FeedSync.call c >>= f) post sc :=
  fun hsc => ⟨trivial, hnext _ (h.met hsc)⟩

/-- The rule for the end. -/
theorem Runs.pure {r : α} (h : post r sc) : Runs w x (pure r) post sc := fun _ => ⟨trivial, h⟩

/-- The rule for one computation after another. -/
theorem Runs.bind {p : Calls Transaction β} {f : β → Calls Transaction α} {mid : β → Scene → Prop}
    (h : Runs w x p mid sc) (hf : ∀ r sc', mid r sc' → Runs w x (f r) post sc') :
    Runs w x (p >>= f) post sc :=
  Upholds.bind (h.weaken hf)

/-- The rule for a call that leaves the store as it is and commits nothing. -/
theorem Runs.idle {c : Call Transaction} {f : c.Reply → Calls Transaction α}
    (h : x.Racing own asked sc)
    (hc : c.committed? = none)
    (hstore : ∀ (s : Store) (calls : List (Call Transaction)),
      (s.answer (w.external calls) c).2 = s)
    (hnext : ∀ (s : Store) (calls : List (Call Transaction)) sc', x.Racing own asked sc' →
      Runs w x (f (s.answer (w.external calls) c).1) post sc') :
    Runs w x (FeedSync.call c >>= f) post sc := by
  refine .call h fun sc' hsc' => hnext _ _ _ ?_
  rw [hstore]
  exact hsc'.called hsc'.sound (fun hasked => (hsc'.kept hasked).2) hc

/-- The rule for an existence query: if it asks for the article, that is done from then on. -/
theorem Runs.query {sourceId : String} {ids : List Int64}
    {f : Except InfraError Held → Calls Transaction α} (h : x.Racing own asked sc)
    (hasked : asked' → asked ∨ sourceId = x.settings.sourceId ∧ ids = [x.article.externalId])
    (hasked' : asked → asked')
    (hnext : ∀ reply sc', x.Racing own asked' sc' → Runs w x (f reply) post sc') :
    Runs w x (FeedSync.call (.held sourceId ids) >>= f) post sc := by
  refine .call h fun sc' hsc' => ?_
  let store := (sc'.store.answer (w.external sc'.calls) (.held sourceId ids)).2
  have hsame : asked → x.stake store = (some x.row, x.linksLeft sc'.committed) := by
    intro h'
    change x.stake (Store.held sourceId ids sc'.store).2 = _
    rw [Store.held_eq]
    split
    · exact (hsc'.kept h').2
    · exact hsc'.kept' h'
  have hsound := (hsc'.sound.held (hsc'.room.mono (Nat.le_succ _)) sourceId ids).1
  have hcalled : x.Racing own asked (sc'.called (.held sourceId ids) store) :=
    hsc'.called hsound hsame rfl
  -- what the others have stored is there as soon as the article was asked for
  refine Upholds.of_assumed fun hout => hnext _ _ { hcalled with first := ?_, kept := ?_ }
  · exact fun hnot => hcalled.first fun h' => hnot (hasked' h')
  · intro h'
    by_cases hbefore : asked
    · exact hcalled.kept hbefore
    · obtain ⟨rfl, rfl⟩ := (hasked h').resolve_left hbefore
      have hasks : Call.asksFor x.settings.sourceId x.article.externalId
          (.held x.settings.sourceId [x.article.externalId]) = true := by
        simp [Call.asksFor]
      have hhas : x.hasAsked (sc'.called
          (.held x.settings.sourceId [x.article.externalId]) store) = true := by
        rw [hasAsked_called hsc'.begun, hasks, Bool.or_true]
      have hjust : x.justAsked (sc'.called
          (.held x.settings.sourceId [x.article.externalId]) store) = true := by
        rw [justAsked, hhas, Scene.called, List.getLast?_concat, Bool.true_and]
        exact hasks
      refine ⟨hhas, (hout.stored hjust).trans ?_⟩
      rw [linksLeft, if_neg fun hmem => hcalled.first hbefore hmem.1]

/-! ### One save -/

/-- The links of an article that has tags wait for the commit. -/
theorem runs_links {b : Article} {id : Int64} (h : x.Racing (· ∈ [.article id b]) asked sc)
    (htags : b.tags.isEmpty = false) :
    Runs w x (do
        match ← call (.upsertTags [.article id b] b.tags) with
        | (tx, .error e) => return (tx, .error e)
        | (tx, .ok ()) => call (.link tx id b.tagIds))
      (fun reply sc' => x.Racing (· ∈ reply.1) asked sc' ∧
        (reply.2 = .ok () → reply.1 = b.writes id)) sc := by
  refine .idle h rfl (fun _ _ => rfl) fun s calls sc₁ hsc₁ => ?_
  have hanswer : (s.answer (w.external calls) (.upsertTags [.article id b] b.tags)).1 =
      ([.article id b, .tags b.tags], .ok ()) := Store.upsertTags_of_tagged htags _
  rw [hanswer]
  refine .idle hsc₁ rfl (fun _ _ => rfl) fun s calls sc₂ hsc₂ => .pure ?_
  change x.Racing (· ∈ (s.link [.article id b, .tags b.tags] id b.tagIds).1) asked sc₂ ∧
    ((s.link [.article id b, .tags b.tags] id b.tagIds).2 = .ok () →
      (s.link [.article id b, .tags b.tags] id b.tagIds).1 = b.writes id)
  rw [Store.link]
  split
  · exact ⟨hsc₂.weaken fun _ _ hw => by simpa using hw, fun hok => absurd hok (by simp)⟩
  · exact ⟨hsc₂.weaken fun _ _ hw => by simpa using hw,
      fun _ => (Article.writes_of_tagged htags id).symm⟩

/-- **The writes of an article wait for the commit.** If they are those of the article itself, they
are for the internal id of the row that the others have left. -/
theorem runs_persist {b : Article} (h : x.Racing (fun _ => False) asked sc)
    (hasked : b = x.article → asked) :
    Runs w x (persist b []) (fun reply sc' => x.Racing (· ∈ reply.1) asked sc' ∧
      (reply.2 = .ok () →
        ∃ id, reply.1 = b.writes id ∧ (b = x.article → id = x.row.id))) sc := by
  rw [persist]
  refine .call h fun sc₁ hsc₁ => ?_
  let store := (Store.upsert [] b sc₁.store).2
  have hstake : x.stake store = x.stake sc₁.store := by
    simp only [store]
    rw [Store.upsert_snd]
    rfl
  have hupsert : store.Sound fun w => sc₁.Pending w ∨ w ∈ (Store.upsert [] b sc₁.store).1.1 :=
    (hsc₁.sound.upsert (hsc₁.room.mono (Nat.le_add_left 1 _)) fun w hw =>
      absurd hw List.not_mem_nil).weaken fun _ _ hw => hw.imp_left .inl
  have hcalled : x.Racing (· ∈ (Store.upsert [] b sc₁.store).1.1) asked
      (sc₁.called (.upsert [] b) store) :=
    hsc₁.called hupsert (fun h' => hstake.trans (hsc₁.kept h').2) rfl
  by_cases hmem : b.externalId ∈ sc₁.store.plan.upserts
  · obtain ⟨e, he⟩ : ∃ e, (sc₁.store.answer (w.external sc₁.calls) (.upsert [] b)).1 =
        ([], .error e) := Store.upsert_of_mem hmem
    change x.Racing (· ∈ (sc₁.store.answer (w.external sc₁.calls) (.upsert [] b)).1.1) asked _
      at hcalled
    rw [he] at hcalled ⊢
    exact .pure ⟨hcalled, fun hok => absurd hok (by simp)⟩
  · let id := sc₁.store.idOf b.key
    have hreply : (sc₁.store.answer (w.external sc₁.calls) (.upsert [] b)).1 =
        ([.article id b], .ok id) := Store.upsert_of_not_mem hmem
    have hid : b = x.article → id = x.row.id := by
      rintro rfl
      exact Store.idOf_of_row (Prod.mk.inj (hsc₁.kept (hasked rfl)).2).1
    change x.Racing (· ∈ (sc₁.store.answer (w.external sc₁.calls) (.upsert [] b)).1.1) asked _
      at hcalled
    rw [hreply] at hcalled ⊢
    simp only
    cases htags : b.tags.isEmpty with
    | true =>
        have hwrites := (Article.writes_of_untagged htags id).symm
        rw [if_pos rfl]
        exact .pure ⟨hcalled, fun _ => ⟨id, hwrites, hid⟩⟩
    | false =>
        rw [if_neg Bool.false_ne_true]
        exact Upholds.weaken (runs_links hcalled htags) fun reply sc' h =>
          ⟨h.1, fun hok => ⟨id, h.2 hok, hid⟩⟩

/-- **A unit of work in a race.** -/
theorem runs_unitOfWork {b : Article} (h : x.Racing (fun _ => False) asked sc)
    (hlate : x.article.lastModified ≤ x.row.article.lastModified)
    (hkey : b.key = x.article.key → b = x.article) (hasked : b = x.article → asked) :
    Runs w x (unitOfWork (persist b)) (fun _ sc' => x.Racing (fun _ => False) asked sc') sc := by
  rw [unitOfWork]
  refine .idle h rfl (fun _ _ => rfl) fun s calls sc₁ hsc₁ => ?_
  refine .bind (runs_persist hsc₁ hasked) ?_
  rintro ⟨tx, result⟩ sc₂ ⟨hsc₂, hwrites⟩
  cases result with
  | ok u =>
      obtain ⟨id, rfl, hid⟩ := hwrites rfl
      exact .call hsc₂ fun sc₃ hsc₃ => .pure (hsc₃.commit hlate hkey hasked hid)
  | error e =>
      refine .call hsc₂ fun sc₃ hsc₃ => .pure ?_
      exact hsc₃.called (hsc₃.ended.sound.of_eq rfl (Int64.le_refl _) rfl)
        (fun h' => (hsc₃.kept h').2) rfl

/-- **A save in a race**: if it is that of the article, the cycle has asked for it afterwards. -/
theorem runs_save {b : Article} (h : x.Racing (fun _ => False) asked sc)
    (hlate : x.article.lastModified ≤ x.row.article.lastModified)
    (hkey : b.key = x.article.key → b = x.article) :
    Runs w x (save x.settings.sourceId b)
      (fun _ sc' => x.Racing (fun _ => False) (asked ∨ b = x.article) sc') sc := by
  rw [save]
  have hquery : asked ∨ b = x.article → asked ∨ x.settings.sourceId = x.settings.sourceId ∧
      [b.externalId] = [x.article.externalId] := by
    rintro (h | rfl)
    · exact .inl h
    · exact .inr ⟨rfl, rfl⟩
  refine .query h hquery .inl fun reply sc₁ hsc₁ => ?_
  cases reply with
  | error e => exact .pure hsc₁
  | ok held =>
      refine .bind (runs_unitOfWork hsc₁ hlate hkey .inr) fun reply sc₂ hsc₂ => ?_
      cases reply with
      | error e => exact .pure hsc₂
      | ok u => exact .pure hsc₂

/-! ### The loop -/

/-- A report changes nothing in a race. -/
theorem Runs.report {part : Part} {level : Level} {message : String}
    {fields : List (String × Datum)} {f : Unit → Calls Transaction α} (h : x.Racing own asked sc)
    (hnext : ∀ sc', x.Racing own asked sc' → Runs w x (f ()) post sc') :
    Runs w x (FeedSync.report part level message fields >>= f) post sc :=
  .idle h rfl (fun _ _ => rfl) fun _ _ => hnext

/-- Publishing changes nothing in a race. -/
theorem runs_publish {b : Article} {isNew : Bool} {stats : Stats} (settings : Settings)
    (h : x.Racing own asked sc) :
    Runs w x (publish settings b isNew stats) (fun _ sc' => x.Racing own asked sc') sc := by
  rw [publish]
  split
  · refine .idle h rfl (fun _ _ => rfl) fun s calls sc₁ hsc₁ => ?_
    have hanswer : (s.answer (w.external calls) (.external (.publish b isNew))).1 =
        w.publish calls.length b isNew := rfl
    rw [hanswer]
    cases w.publish calls.length b isNew with
    | ok u => exact .pure hsc₁
    | error e => exact .report hsc₁ fun sc₂ hsc₂ => .pure hsc₂
  · exact .pure h

/-- **Handling an article in a race.** -/
theorem runs_handleArticle {b : Article} {progress : Progress}
    (h : x.Racing (fun _ => False) asked sc)
    (hlate : x.article.lastModified ≤ x.row.article.lastModified)
    (hkey : b.key = x.article.key → b = x.article) :
    Runs w x (handleArticle x.settings progress b)
      (fun _ sc' => x.Racing (fun _ => False) (asked ∨ b = x.article) sc') sc := by
  rw [handleArticle]
  refine .bind (runs_save h hlate hkey) fun reply sc₁ hsc₁ => ?_
  cases reply with
  | ok isNew => exact .bind (runs_publish x.settings hsc₁) fun stats sc₂ hsc₂ => .pure hsc₂
  | error e => exact .report hsc₁ fun sc₂ hsc₂ => .pure hsc₂

/-- **The loop in a race**: if the article is selected, the cycle has asked for it afterwards. -/
theorem runs_handleAll {articles : List Article} {progress : Progress}
    (h : x.Racing (fun _ => False) asked sc)
    (hlate : x.article.lastModified ≤ x.row.article.lastModified)
    (hkey : ∀ b ∈ articles, b.key = x.article.key → b = x.article) :
    Runs w x (handleAll x.settings progress articles)
      (fun _ sc' => x.Racing (fun _ => False) (asked ∨ x.article ∈ articles) sc') sc := by
  induction articles generalizing asked progress sc with
  | nil =>
      have hnone : (asked ∨ x.article ∈ ([] : List Article)) = asked := by simp
      rw [hnone]
      exact .pure h
  | cons b rest ih =>
      have hcons : (asked ∨ x.article ∈ b :: rest) =
          ((asked ∨ b = x.article) ∨ x.article ∈ rest) := by
        rw [List.mem_cons, eq_comm (a := x.article), or_assoc]
      rw [handleAll, hcons]
      refine .bind (runs_handleArticle h hlate (hkey b List.mem_cons_self)) ?_
      exact fun progress sc₁ hsc₁ => ih hsc₁ fun c hc => hkey c (List.mem_cons_of_mem b hc)

/-! ### The whole cycle -/

/-- The end of a cycle in a race. -/
theorem runs_updateState {progress : Progress} (h : x.Racing own asked sc) :
    Runs w x (updateState x.settings progress) (fun _ sc' => x.Racing own asked sc') sc := by
  rw [updateState]
  refine .idle h rfl (fun _ _ => rfl) fun s calls sc₁ hsc₁ => ?_
  have hanswer : (s.answer (w.external calls) (.readState x.settings.sourceId)).1 =
      .ok (s.stateOf x.settings.sourceId) := rfl
  rw [hanswer]
  refine .idle hsc₁ rfl (fun _ _ => rfl) fun s' calls' sc₂ hsc₂ => ?_
  split
  · exact .pure hsc₂
  · refine .call hsc₂ fun sc₃ hsc₃ => .pure ?_
    refine hsc₃.called (hsc₃.sound.writeState _) (fun h' => Eq.trans ?_ (hsc₃.kept h').2) rfl
    change x.stake (Store.writeState _ sc₃.store).2 = _
    rw [writeState_snd]
    rfl

/-- What follows the loop of a cycle in a race. -/
theorem runs_conclude {started : Nat} {progress : Progress} (h : x.Racing own asked sc) :
    Runs w x (conclude x.settings started progress) (fun _ sc' => x.Racing own asked sc') sc := by
  refine .bind (runs_updateState h) fun updated sc₁ hsc₁ => ?_
  cases updated with
  | none => exact .pure hsc₁
  | some updated =>
      refine .idle hsc₁ rfl (fun _ _ => rfl) fun s calls sc₂ hsc₂ => ?_
      cases updated with
      | error e => exact .pure hsc₂
      | ok u => exact .report hsc₂ fun sc₃ hsc₃ => .pure hsc₃

/-- What a cycle does before its batch query: no one else acts, and the clock is read so many
times. -/
structure Early (d : Desk) (n : Nat) (sc : Scene) : Prop where
  desk : sc.toDesk = d
  readings : sc.readings = n
  calls : ∀ c ∈ sc.calls, c.isQuery = false ∧ c.committed? = none

/-- Before the batch query no move of the others is due. -/
theorem Early.sinceBatch_eq {d : Desk} {n : Nat} (h : Early d n sc) : sinceBatch sc.calls = [] := by
  rw [sinceBatch, List.dropWhile_eq_nil_iff]
  intro c hc
  rw [(h.calls c hc).1]
  rfl

/-- Before the batch query the others find the desk as it was. -/
theorem Early.met_eq {d : Desk} {n : Nat} (h : Early d n sc) : sc.met (amid x.moves) = sc := by
  rw [Scene.met, amid, due, h.sinceBatch_eq]
  rfl

/-- Before the batch query the store is as it was. -/
theorem Early.store_eq {d : Desk} {n : Nat} (h : Early d n sc) : sc.store = d.store :=
  congrArg Desk.store h.desk

/-- The rule for the calls before the batch query. -/
theorem Runs.early {d : Desk} {n : Nat} {c : External}
    {f : c.Reply → Calls Transaction α} (h : Early d n sc)
    (hnext : ∀ sc', Early d (n + if Call.isReading (.external c) then 1 else 0) sc' →
      Runs w x (f (w.external sc.calls c)) post sc') :
    Runs w x (FeedSync.external c >>= f) post sc := by
  refine fun _ => ⟨trivial, ?_⟩
  change Runs w x (f (w.external sc.calls c)) post
    ((sc.met (amid x.moves)).called (.external c) (sc.met (amid x.moves)).store)
  rw [h.met_eq]
  refine hnext _ ⟨h.desk, ?_, fun c' hc' => ?_⟩
  · rw [← h.readings]
    exact Scene.readings_called sc _ _
  · rcases List.mem_append.mp hc' with hc' | hc'
    · exact h.calls c' hc'
    · rw [List.mem_singleton.mp hc']
      exact ⟨rfl, rfl⟩

/-- **The batch query opens the race.** -/
theorem Early.racing {d : Desk} {n : Nat} {sourceId : String} {ids : List Int64}
    (hreachable : d.Reachable) (h : Early d n sc) (hsc : x.Outrun sc) :
    x.Racing (fun _ => False) False
      (sc.called (.held sourceId ids) (Store.held sourceId ids sc.store).2) := by
  have hroom : d.store.HasRoom (d.store.plan.intrusions.length + 1) := by
    have hroom := hsc.room
    rw [due, h.sinceBatch_eq, h.store_eq] at hroom
    exact hroom.mono (Nat.le_add_left _ _)
  have hsound := (hreachable.sound.held (hroom.mono (Nat.le_succ _)) sourceId ids).1
  have hcommitted : sc.committed = [] :=
    List.filterMap_eq_nil_iff.mpr fun c hc => (h.calls c hc).2
  refine ⟨?_, ?_, fun _ => ?_, False.elim⟩
  · obtain ⟨rfl⟩ := h.desk
    exact hsound.weaken fun _ _ hw => hw.elim (fun hw => hw) False.elim
  · rw [Scene.called, sinceBatch, List.dropWhile_append, if_pos]
    · exact List.cons_ne_nil _ _
    · rw [← sinceBatch, h.sinceBatch_eq]
      rfl
  · rw [committed_called, hcommitted]
    exact List.not_mem_nil

/-- The rule for the batch query. -/
theorem Runs.batch {d : Desk} {n : Nat} {sourceId : String} {ids : List Int64}
    {f : Except InfraError Held → Calls Transaction α} (hreachable : d.Reachable)
    (h : Early d n sc)
    (hnext : ∀ sc', x.Racing (fun _ => False) False sc' →
      Runs w x (f (Store.held sourceId ids d.store).1) post sc') :
    Runs w x (FeedSync.call (.held sourceId ids) >>= f) post sc := by
  refine Upholds.of_assumed fun hsc _ => ⟨trivial, ?_⟩
  change Runs w x (f (Store.held sourceId ids (sc.met (amid x.moves)).store).1) post
    ((sc.met (amid x.moves)).called (.held sourceId ids)
      (Store.held sourceId ids (sc.met (amid x.moves)).store).2)
  rw [h.met_eq, h.store_eq]
  exact hnext _ (h.store_eq ▸ h.racing hreachable hsc)

/-- What a cycle does from its batch query on, in a race for an article that it selects. -/
theorem runs_store {d : Desk} {n started : Nat} {articles : List Article}
    (hreachable : d.Reachable) (h : Early d n sc)
    (hselected : x.article ∈ if d.store.plan.refuses (d.store.counts.queries + 1) then []
      else selectForSync articles (d.store.intruded.lastModified? x.settings.sourceId))
    (hlate : x.article.lastModified ≤ x.row.article.lastModified) :
    Runs w x (Cycle.store x.settings started articles)
      (fun _ sc' => x.Racing (fun _ => False) True sc') sc := by
  rw [Cycle.store]
  refine .batch hreachable h fun sc₁ hsc₁ => ?_
  rw [Store.held_eq]
  cases hrefuses : d.store.plan.refuses (d.store.counts.queries + 1) with
  | true =>
      rw [hrefuses, if_pos rfl] at hselected
      exact absurd hselected List.not_mem_nil
  | false =>
      rw [hrefuses, if_neg Bool.false_ne_true] at hselected
      let selected := selectForSync articles (d.store.intruded.lastModified? x.settings.sourceId)
      have hsel : selectForSync articles (d.store.intruded.heldOf x.settings.sourceId
          (articles.map Article.externalId)).get? = selected :=
        selectForSync_congr fun a ha => by
          rw [Store.get?_heldOf, if_pos (List.mem_map_of_mem ha)]
      have hkey : ∀ b ∈ selected, b.key = x.article.key → b = x.article := fun b hb heq =>
        List.inj_on_of_nodup_map (nodup_selectForSync _ _) hb hselected (Prod.mk.inj heq).2
      rw [if_neg Bool.false_ne_true]
      simp only
      rw [hsel]
      refine .report hsc₁ fun sc₂ hsc₂ => ?_
      refine .bind (runs_handleAll hsc₂ hlate hkey) fun progress sc₃ hsc₃ => ?_
      have hasked : (False ∨ x.article ∈ selected) = True := eq_true (.inr hselected)
      exact runs_conclude (hasked ▸ hsc₃)

/-- **A whole cycle in a race** for an article that it selects. -/
theorem runs_cycle {d : Desk} (hreachable : d.Reachable)
    (hselected : x.article ∈ selection w x.settings d.store)
    (hlate : x.article.lastModified ≤ x.row.article.lastModified) :
    Runs w x (cycle x.settings) (fun _ sc' => x.Racing (fun _ => False) True sc')
      { toDesk := d } := by
  have hstart : Early d 0 { toDesk := d } := ⟨rfl, rfl, fun c hc => nomatch hc⟩
  rw [cycle]
  refine .early hstart fun sc₁ hsc₁ => .early hsc₁ fun sc₂ hsc₂ => .early hsc₂ fun sc₃ hsc₃ => ?_
  have hfetch : w.external sc₂.calls (.fetch x.settings.maxPages) =
      w.fetch x.settings.maxPages := rfl
  rw [hfetch]
  rw [selection, window] at hselected
  cases hreply : w.fetch x.settings.maxPages with
  | error e =>
      rw [hreply] at hselected
      split at hselected
      · exact absurd hselected List.not_mem_nil
      · exact absurd hselected List.not_mem_nil
  | ok fetched =>
      rw [hreply] at hselected
      refine .early hsc₃ fun sc₄ hsc₄ => ?_
      have hclock : w.external sc₃.calls .now = w.clock 0 := congrArg w.clock hsc₃.readings
      rw [hclock]
      refine .early hsc₄ fun sc₅ hsc₅ => .early hsc₅ fun sc₆ hsc₆ => ?_
      exact runs_store hreachable hsc₆ hselected hlate

end Race

/-- **A save that loses a race** leaves the row of the article to the others, but not its links.
Whatever failures are planned: if the others have stored a version that is as late when the cycle
asks for the article again, and leave the article alone from then on, then its row is theirs after
the cycle. Its links are theirs exactly as far as they are not overwritten: the tags of the version
that lost replace them if the cycle could commit its save and that version has tags. -/
theorem row_and_links_after_lost_save {w : Replies} {x : Race} {d : Desk}
    (hreachable : d.Reachable) (hselected : x.article ∈ selection w x.settings d.store)
    (hlate : x.article.lastModified ≤ x.row.article.lastModified)
    (hothers : ∀ n, x.Outrun (Program.after (Scene.answer w (amid x.moves)) n (cycle x.settings)
      { toDesk := d }).2) :
    let sc := (Program.run (Scene.answer w (amid x.moves)) (cycle x.settings) { toDesk := d }).2
    sc.store.row? x.article.key = some x.row ∧
      sc.store.links.get? x.row.id =
        if x.article ∈ sc.committed ∧ x.article.tags ≠ [] then
          some (Tag.distinctIds x.article.tagIds)
        else x.links :=
  Prod.mk.inj ((Race.runs_cycle hreachable hselected hlate).run hothers |>.kept trivial).2

/-- Another writer commits a later version with other tags, while a cycle is between its batch query
and its save: the row is that version, but its links are the tags of the cycle's version. -/
theorem links_after_lost_save_of_tagged_version :
    let later := Article.bare 1 .sooner [⟨1, "rates"⟩]
    let x : Race :=
      { settings := .daily
        article := .bare 1 .epoch [⟨2, "bonds"⟩]
        moves := fun
          | 0 => [.upsert 0 later, .upsertTags 0 later.tags, .link 0 1 later.tagIds]
          | 1 => [.commit 0]
          | _ => []
        row := ⟨1, later⟩
        links := some [1] }
    let sc := (Program.run (Scene.answer (.listing [x.article]) (amid x.moves)) (cycle x.settings)
      { store := {} }).2
    sc.store.row? x.article.key = some x.row ∧ sc.store.links.get? x.row.id = some [2] := by
  intro later x sc
  have hothers : ∀ n, x.Outrun (Program.after (Scene.answer (.listing [x.article]) (amid x.moves)) n
      (cycle x.settings) { store := {} }).2 :=
    Program.forall_after (by decide +kernel : _ = true) (by decide +kernel : ∀ n < 20 + 1, _)
  obtain ⟨hrow, hlinks⟩ := row_and_links_after_lost_save (.start {}) (by decide) (by decide) hothers
  have hcommitted : x.article ∈ sc.committed := by decide +kernel
  have hids : Tag.distinctIds x.article.tagIds = [2] := by decide
  rw [if_pos ⟨hcommitted, by decide⟩, hids] at hlinks
  -- anything more than reducible would run the cycle once more
  with_reducible exact ⟨hrow, hlinks⟩

end FeedSync
