import Mathlib.Order.Bounds.Basic
import FeedSync.Proofs.Store.Desk
import FeedSync.Proofs.Store.Sight

/-!
# What interleaved transactions commit

Any number of transactions may be open on a store at once, and their steps may come in any order. A
ledger of the steps tells without a store what of them is committed: what a handle has asked to be
written waits until it commits, and is lost when it is rolled back or dropped. The store holds what
the committed writes make of it, and nothing else, whatever else is open.

## Main definitions

* `Lot` — what some writes write, without the internal ids of the articles.
* `Desk.Ledger` — what is committed, and what still waits.
* `Store.Written` — a store after the writes of a lot.
* `Move.IsTransactional` — a step that writes in transactions only.

## Main statements

* `Desk.Ledger.books_performAll` — steps of transactions leave what the ledger says they commit.
* `isGreatest_of_written` — the last modification of a row is the greatest of all that were stored
  or committed.
* `Desk.kept_performAll` — no row is removed, gets another internal id or moves back.
* `Desk.Ledger.mem_committed_iff` — what is committed depends on the steps of each handle by
  itself.
-/

namespace FeedSync

/-! ### Lots of writes -/

/-- What some writes write, each kind in order, without the internal ids of the articles. -/
structure Lot where
  articles : List Article := []
  tags : List Tag := []
  /-- The links, each under the internal id that was asked for. -/
  links : List (Int64 × List Int64) := []

namespace Lot

instance : Append Lot :=
  ⟨fun l l' => ⟨l.articles ++ l'.articles, l.tags ++ l'.tags, l.links ++ l'.links⟩⟩

@[simp]
theorem articles_append (l l' : Lot) : (l ++ l').articles = l.articles ++ l'.articles := rfl

@[simp]
theorem tags_append (l l' : Lot) : (l ++ l').tags = l.tags ++ l'.tags := rfl

@[simp]
theorem links_append (l l' : Lot) : (l ++ l').links = l.links ++ l'.links := rfl

@[simp]
theorem append_empty (l : Lot) : l ++ {} = l := by
  change Lot.mk (_ ++ []) (_ ++ []) (_ ++ []) = _
  simp only [List.append_nil]

theorem append_assoc (l l' l'' : Lot) : l ++ l' ++ l'' = l ++ (l' ++ l'') := by
  change Lot.mk (_ ++ _ ++ _) (_ ++ _ ++ _) (_ ++ _ ++ _) = Lot.mk _ _ _
  simp only [articles_append, tags_append, links_append, List.append_assoc]

end Lot

/-- What a write writes. -/
def Write.lot : Write → Lot
  | .article _ a => { articles := [a] }
  | .tags words => { tags := words }
  | .links id tagIds => { links := [(id, tagIds)] }

/-- What a transaction writes. -/
def lotOf : Transaction → Lot
  | [] => {}
  | w :: tx => w.lot ++ lotOf tx

theorem lotOf_append (tx tx' : Transaction) : lotOf (tx ++ tx') = lotOf tx ++ lotOf tx' := by
  induction tx with
  | nil => rfl
  | cons w tx ih =>
      change w.lot ++ lotOf (tx ++ tx') = w.lot ++ lotOf tx ++ lotOf tx'
      rw [ih, Lot.append_assoc]

namespace Store

variable {s s' s'' : Store} {lot lot' : Lot} {key : Article.Key}

/-- **A store after the writes of a lot**: its articles are merged into those of the store, its tags
overwrite the vocabulary, and its links replace those under their internal ids. -/
structure Written (lot : Lot) (s s' : Store) : Prop where
  articles : ∀ key, s'.articleOf key = mergeAll (s.articleOf key) (versionsOf key lot.articles)
  tags : s'.tags = (s.writeTags lot.tags).tags
  links : s'.links =
    lot.links.foldl (fun links link => links.set link.1 (Tag.distinctIds link.2)) s.links

/-- Without writes a store stays as it is. -/
theorem Written.refl (s : Store) : Written {} s s := ⟨fun _ => rfl, rfl, rfl⟩

/-- Lots are written one after the other. -/
theorem Written.trans (h : Written lot s s') (h' : Written lot' s' s'') :
    Written (lot ++ lot') s s'' where
  articles key := by
    have hsplit : versionsOf key (lot ++ lot').articles =
        versionsOf key lot.articles ++ versionsOf key lot'.articles := List.filter_append _ _
    rw [h'.articles, h.articles, hsplit, mergeAll_append]
  tags := by
    rw [h'.tags, writeTags, h.tags]
    exact List.foldl_append.symm
  links := by
    rw [h'.links, h.links]
    exact List.foldl_append.symm

/-- What is written is part of the content. -/
theorem Written.of_content (h : Written lot s s') (hcontent : s''.content = s'.content) :
    Written lot s s'' where
  articles key := by
    rw [articleOf, row?_of_content hcontent]
    exact h.articles key
  tags := (congrArg Content.tags hcontent).trans h.tags
  links := (congrArg Content.links hcontent).trans h.links

/-- A write writes its lot. -/
theorem written_apply (s : Store) (w : Write) : Written w.lot s (s.apply w) := by
  cases w with
  | article id a =>
      have hframe : s.apply (.article id a) = { s with articles := _ } := apply_article_eq
      refine ⟨fun key => ?_, (congrArg Store.tags hframe).trans rfl,
        (congrArg Store.links hframe).trans rfl⟩
      rw [articleOf, row?_apply_article, versionsOf, Write.lot]
      by_cases hkey : key = a.key
      · subst hkey
        rw [if_pos rfl, Option.map_some, StoredArticle.article_winner, List.filter_cons,
          if_pos (decide_eq_true rfl)]
        rfl
      · rw [if_neg hkey, List.filter_cons, if_neg (by simpa using Ne.symm hkey)]
        rfl
  | tags tags => exact ⟨fun _ => rfl, rfl, rfl⟩
  | links id tagIds => exact ⟨fun _ => rfl, rfl, rfl⟩

/-- **A commit writes the lot of its transaction.** -/
theorem written_commit (s : Store) (tx : Transaction) : Written (lotOf tx) s (s.commit tx) := by
  have hfold : Written (lotOf tx) s (tx.foldl apply s) := by
    induction tx generalizing s with
    | nil => exact .refl s
    | cons w tx ih => exact (written_apply s w).trans (ih (s.apply w))
  exact hfold.of_content rfl

/-! ### The last modification of a key -/

/-- When versions of an article were modified that are stored or committed. -/
def modified (s : Store) (committed : Lot) (key : Article.Key) : Set Instant :=
  { t | (∃ a, s.articleOf key = some a ∧ a.lastModified = t) ∨
    ∃ a ∈ committed.articles, a.key = key ∧ a.lastModified = t }

/-- **The last modification of a row is the greatest** of all that were stored or committed; without
any there is no row. -/
theorem isGreatest_of_written (h : Written lot s s') (t : Instant) :
    s'.lastModified? key.1 key.2 = some t ↔ IsGreatest (s.modified lot key) t := by
  have hread : s'.lastModified? key.1 key.2 = (s'.articleOf key).map Article.lastModified := by
    rw [lastModified?, articleOf, Option.map_map]
    rfl
  rw [hread, h.articles key]
  cases hmerged : mergeAll (s.articleOf key) (versionsOf key lot.articles) with
  | none =>
      obtain ⟨hstored, hversions⟩ := mergeAll_eq_none_iff.mp hmerged
      refine iff_of_false (Option.some_ne_none t).symm ?_
      rintro ⟨⟨a, ha, -⟩ | ⟨a, ha, hkey, -⟩, -⟩
      · rw [hstored] at ha
        cases ha
      · have hversion := mem_versionsOf.mpr ⟨ha, hkey⟩
        rw [hversions] at hversion
        exact absurd hversion List.not_mem_nil
  | some c =>
      obtain ⟨horigin, hle⟩ := isNewest_of_mergeAll hmerged
      have hmem : c.lastModified ∈ s.modified lot key := by
        rcases horigin with hstored | ⟨hversion, -⟩
        · exact .inl ⟨c, hstored, rfl⟩
        · obtain ⟨hc, hkey⟩ := mem_versionsOf.mp hversion
          exact .inr ⟨c, hc, hkey, rfl⟩
      have hgreatest : IsGreatest (s.modified lot key) c.lastModified := by
        refine ⟨hmem, ?_⟩
        rintro _ (⟨b, hb, rfl⟩ | ⟨a, ha, hkey, rfl⟩)
        · rcases horigin with hstored | ⟨-, hlt⟩
          · exact le_of_eq (congrArg _ (Option.some.inj (hb.symm.trans hstored)))
          · exact le_of_lt (hlt b hb)
        · exact hle a (mem_versionsOf.mpr ⟨ha, hkey⟩)
      rw [Option.map_some, Option.some_inj]
      exact ⟨fun heq => heq ▸ hgreatest, hgreatest.unique⟩

/-! ### What lasts -/

/-- A write keeps every row. -/
theorem Kept.apply (s : Store) (w : Write) : Kept s (s.apply w) := by
  intro k row hrow
  cases w with
  | article id a =>
      rw [row?_apply_article]
      by_cases hk : k = a.key
      · subst hk
        refine ⟨_, if_pos rfl, ?_, ?_⟩
        · rw [hrow, StoredArticle.winner]
          split <;> rfl
        · rw [hrow]
          exact StoredArticle.lastModified_le_winner
      · exact ⟨row, (if_neg hk).trans hrow, rfl, le_rfl⟩
  | tags tags => exact ⟨row, hrow, rfl, le_rfl⟩
  | links id tagIds => exact ⟨row, hrow, rfl, le_rfl⟩

/-- A commit keeps every row. -/
theorem Kept.commit (s : Store) (tx : Transaction) : Kept s (s.commit tx) := by
  have hfold : Kept s (tx.foldl Store.apply s) := by
    induction tx generalizing s with
    | nil => exact .refl s
    | cons w tx ih => exact (Kept.apply s w).trans (ih _)
  exact hfold

/-- What lasts of the rows depends on nothing but the content. -/
theorem Kept.of_content (h : Kept s s') (hcontent : s''.content = s'.content) : Kept s s'' :=
  fun k row hrow => by
    rw [row?_of_content hcontent]
    exact h k row hrow

end Store

/-! ### Steps of transactions -/

namespace Move

/-- The handle of the transaction that a step belongs to. -/
def handle? : Move → Option Nat
  | .upsert h _ | .upsertTags h _ | .link h _ _ | .commit h | .rollback h | .drop h => some h
  | .insert _ | .held _ _ | .writeState _ => none

/-- **A step that writes in transactions only**: anything but storing an article at once. -/
def IsTransactional : Move → Prop
  | .insert _ => False
  | _ => True

instance (m : Move) : Decidable m.IsTransactional :=
  match m with
  | .insert _ => isFalse id
  | .upsert _ _ | .upsertTags _ _ | .link _ _ _ | .commit _ | .rollback _ | .drop _ | .held _ _
  | .writeState _ => isTrue trivial

variable {d : Desk} {m : Move}

/-- **Only a commit changes the content of a store.** -/
theorem content_perform (hm : m.IsTransactional) (h : d.store.Undisturbed) :
    (m.perform d).store.content =
      match m with
      | .commit handle => (d.store.commit (d.opened handle)).content
      | _ => d.store.content := by
  cases m with
  | insert a => exact hm.elim
  | upsert handle a => exact Store.content_upsert _ a d.store
  | held sourceId ids =>
      change (Store.held sourceId ids d.store).2.content = d.store.content
      rw [Store.held_of_undisturbed h]
      rfl
  | writeState state =>
      change (Store.writeState state d.store).2.content = d.store.content
      rw [Store.writeState]
      split <;> rfl
  | upsertTags handle tags => rfl
  | link handle id tagIds => rfl
  | commit handle => rfl
  | rollback handle => rfl
  | drop handle => rfl

/-- After a step of a transaction no other writer waits, if none did before. -/
theorem undisturbed_perform (hm : m.IsTransactional) (h : d.store.Undisturbed) :
    (m.perform d).store.Undisturbed := by
  have hqueries : d.store.counts.queries ≤ (m.perform d).store.counts.queries := by
    cases m with
    | insert a => exact hm.elim
    | upsert handle a =>
        change _ ≤ (Store.upsert _ a d.store).2.counts.queries
        rw [Store.upsert_snd]
    | held sourceId ids =>
        change _ ≤ (Store.held sourceId ids d.store).2.counts.queries
        rw [Store.held_of_undisturbed h]
        exact Nat.le_succ _
    | writeState state =>
        change _ ≤ (Store.writeState state d.store).2.counts.queries
        rw [Store.writeState]
        split <;> exact Nat.le_refl _
    | commit handle =>
        change _ ≤ (d.store.commit _).counts.queries
        rw [Store.commit_eq]
    | upsertTags handle tags => exact Nat.le_refl _
    | link handle id tagIds => exact Nat.le_refl _
    | rollback handle => exact Nat.le_refl _
    | drop handle => exact Nat.le_refl _
  rw [Store.Undisturbed, plan_perform]
  exact fun intrusion hmem => Nat.le_trans (h intrusion hmem) hqueries

/-- A step of a transaction keeps every row. -/
theorem kept_perform (hm : m.IsTransactional) (h : d.store.Undisturbed) :
    d.store.Kept (m.perform d).store := by
  have hcontent := content_perform hm h
  cases m with
  | commit handle => exact .commit d.store (d.opened handle)
  | insert a => exact hm.elim
  | upsert handle a => exact (Store.Kept.refl d.store).of_content hcontent
  | upsertTags handle tags => exact (Store.Kept.refl d.store).of_content hcontent
  | link handle id tagIds => exact (Store.Kept.refl d.store).of_content hcontent
  | rollback handle => exact (Store.Kept.refl d.store).of_content hcontent
  | drop handle => exact (Store.Kept.refl d.store).of_content hcontent
  | held sourceId ids => exact (Store.Kept.refl d.store).of_content hcontent
  | writeState state => exact (Store.Kept.refl d.store).of_content hcontent

/-- Whether a step ends the transaction under a handle. -/
def ends (handle : Nat) : Move → Bool
  | .commit h | .rollback h | .drop h => h = handle
  | .insert _ | .upsert _ _ | .upsertTags _ _ | .link _ _ _ | .held _ _ | .writeState _ => false

/-- What a step adds to the transaction under a handle. -/
def adds (d : Desk) (handle : Nat) : Move → Transaction
  | .upsert h a =>
    if h = handle ∧ a.externalId ∉ d.store.plan.upserts then
      [.article (d.store.idOf a.key (Store.pendingId? (d.opened h) a.key)) a]
    else []
  | .upsertTags h tags => if h = handle ∧ tags ≠ [] then [.tags tags] else []
  | .link h id tagIds => if h = handle ∧ d.store.plan.links = false then [.links id tagIds] else []
  | .insert _ | .commit _ | .rollback _ | .drop _ | .held _ _ | .writeState _ => []

/-- **What waits under a handle after a step**: nothing if the step ended the transaction, else what
it added to what waited before. -/
theorem opened_perform (m : Move) (d : Desk) (handle : Nat) : (m.perform d).opened handle =
    if m.ends handle then [] else d.opened handle ++ m.adds d handle := by
  cases m with
  | insert a => exact (List.append_nil _).symm
  | held sourceId ids => exact (List.append_nil _).symm
  | writeState state => exact (List.append_nil _).symm
  | upsert own a =>
      change (if handle = own then (Store.upsert (d.opened own) a d.store).1.1
        else d.opened handle) = d.opened handle ++ _
      rw [adds]
      by_cases hown : handle = own
      · subst hown
        by_cases hmem : a.externalId ∈ d.store.plan.upserts
        · obtain ⟨e, he⟩ : ∃ e, (Store.upsert (d.opened handle) a d.store).1 = (_, .error e) :=
            Store.upsert_of_mem hmem
          rw [if_pos rfl, he, if_neg fun h => h.2 hmem, List.append_nil]
        · rw [if_pos rfl, Store.upsert_of_not_mem hmem, if_pos ⟨rfl, hmem⟩]
      · rw [if_neg hown, if_neg fun h => hown h.1.symm, List.append_nil]
  | upsertTags own tags =>
      change (if handle = own then (Store.upsertTags (d.opened own) tags).1
        else d.opened handle) = d.opened handle ++ _
      rw [adds, Store.upsertTags]
      by_cases hown : handle = own
      · subst hown
        cases tags with
        | nil => simp
        | cons tag tags => simp
      · rw [if_neg hown, if_neg fun h => hown h.1.symm, List.append_nil]
  | link own id tagIds =>
      change (if handle = own then (d.store.link (d.opened own) id tagIds).1
        else d.opened handle) = d.opened handle ++ _
      rw [adds, Store.link]
      by_cases hown : handle = own
      · subst hown
        cases d.store.plan.links <;> simp
      · rw [if_neg hown, if_neg fun h => hown h.1.symm, List.append_nil]
  | commit own => simp [perform, Desk.put, ends, adds, eq_comm]
  | rollback own => simp [perform, Desk.put, ends, adds, eq_comm]
  | drop own => simp [perform, Desk.put, ends, adds, eq_comm]

end Move

/-- A store on which no transaction is open. -/
def Store.desk (s : Store) : Desk := { store := s }

namespace Desk

variable {d : Desk} {moves : List Move}

/-- One more step at the end. -/
theorem performAll_concat (d : Desk) (moves : List Move) (m : Move) :
    d.performAll (moves ++ [m]) = m.perform (d.performAll moves) :=
  List.foldl_append

/-- Steps of transactions leave no other writer waiting, and the plan of failures as it is. -/
theorem frame_performAll (h : d.store.Undisturbed) (hmoves : ∀ m ∈ moves, m.IsTransactional) :
    (d.performAll moves).store.Undisturbed ∧ (d.performAll moves).store.plan = d.store.plan := by
  induction moves using List.reverseRecOn with
  | nil => exact ⟨h, rfl⟩
  | append_singleton moves m ih =>
      obtain ⟨hmoves, hm⟩ := List.forall_mem_append.mp hmoves
      obtain ⟨hundisturbed, hplan⟩ := ih hmoves
      rw [performAll_concat]
      exact ⟨Move.undisturbed_perform (hm m (List.mem_singleton_self m)) hundisturbed,
        m.plan_perform.trans hplan⟩

/-- **Steps of transactions keep every row.** -/
theorem kept_performAll (h : d.store.Undisturbed) (hmoves : ∀ m ∈ moves, m.IsTransactional) :
    d.store.Kept (d.performAll moves).store := by
  induction moves using List.reverseRecOn with
  | nil => exact .refl _
  | append_singleton moves m ih =>
      obtain ⟨hmoves, hm⟩ := List.forall_mem_append.mp hmoves
      rw [performAll_concat]
      exact (ih hmoves).trans
        (Move.kept_perform (hm m (List.mem_singleton_self m)) (frame_performAll h hmoves).1)

end Desk

/-! ### The ledger -/

/-- What waits under the handle of a step after it, if a lot waited there before. Writes that are
planned to fail ask for nothing. -/
def Move.leaves (plan : FaultPlan) (lot : Lot) : Move → Lot
  | .upsert _ a => if a.externalId ∈ plan.upserts then lot else lot ++ { articles := [a] }
  | .upsertTags _ words => lot ++ { tags := words }
  | .link _ id tagIds => if plan.links then lot else lot ++ { links := [(id, tagIds)] }
  | .commit _ | .rollback _ | .drop _ => {}
  | .insert _ | .held _ _ | .writeState _ => lot

/-- **What of some steps is committed**, told without a store. -/
structure Desk.Ledger where
  /-- What each handle has asked to be written since it was begun. -/
  waiting : Nat → Lot := fun _ => {}
  /-- What was committed, in the order of the commits. -/
  committed : Lot := {}

namespace Desk.Ledger

/-- Enters a step. -/
def enter (plan : FaultPlan) (l : Ledger) (m : Move) : Ledger where
  waiting h := if m.handle? = some h then m.leaves plan (l.waiting h) else l.waiting h
  committed :=
    match m with
    | .commit h => l.committed ++ l.waiting h
    | _ => l.committed

/-- The ledger of some steps, when no handle was open before. -/
def ofMoves (plan : FaultPlan) (moves : List Move) : Ledger := moves.foldl (enter plan) {}

theorem ofMoves_concat (plan : FaultPlan) (moves : List Move) (m : Move) :
    ofMoves plan (moves ++ [m]) = (ofMoves plan moves).enter plan m :=
  List.foldl_append

/-- **A ledger keeps the books** of a desk that started from a store: what waits there is open, and
what is committed there was written. -/
structure Books (s : Store) (d : Desk) (l : Ledger) : Prop where
  opened : ∀ h, lotOf (d.opened h) = l.waiting h
  written : s.Written l.committed d.store

variable {s : Store} {d : Desk} {l : Ledger} {m : Move}

/-- **What is open after a step** is what waits after it. -/
theorem Books.opened_perform (h : Books s d l) (m : Move) (handle : Nat) :
    lotOf ((m.perform d).opened handle) = (l.enter d.store.plan m).waiting handle := by
  rw [Move.opened_perform, apply_ite lotOf, lotOf_append, h.opened]
  change _ = if m.handle? = some handle then m.leaves d.store.plan (l.waiting handle) else _
  cases m with
  | insert a => exact Lot.append_empty _
  | held sourceId ids => exact Lot.append_empty _
  | writeState state => exact Lot.append_empty _
  | upsert own a =>
      rw [Move.ends, Move.adds, Move.leaves, Move.handle?]
      by_cases hown : own = handle <;> by_cases hmem : a.externalId ∈ d.store.plan.upserts <;>
        simp [hown, hmem, lotOf, Write.lot]
  | upsertTags own tags =>
      rw [Move.ends, Move.adds, Move.leaves, Move.handle?]
      by_cases hown : own = handle <;> cases tags <;> simp [hown, lotOf, Write.lot]
  | link own id tagIds =>
      rw [Move.ends, Move.adds, Move.leaves, Move.handle?]
      by_cases hown : own = handle <;> cases d.store.plan.links <;>
        simp [hown, lotOf, Write.lot]
  | commit own => simp [Move.ends, Move.adds, Move.leaves, Move.handle?, lotOf]
  | rollback own => simp [Move.ends, Move.adds, Move.leaves, Move.handle?, lotOf]
  | drop own => simp [Move.ends, Move.adds, Move.leaves, Move.handle?, lotOf]

/-- **A step of a transaction keeps the books.** -/
theorem Books.perform (h : Books s d l) (hm : m.IsTransactional)
    (hundisturbed : d.store.Undisturbed) : Books s (m.perform d) (l.enter d.store.plan m) := by
  refine ⟨h.opened_perform m, ?_⟩
  have hcontent := Move.content_perform hm hundisturbed
  cases m with
  | insert a => exact hm.elim
  | commit handle =>
      have hcommit := Store.written_commit d.store (d.opened handle)
      rw [h.opened] at hcommit
      exact h.written.trans hcommit
  | upsert handle a => exact h.written.of_content hcontent
  | link handle id tagIds => exact h.written.of_content hcontent
  | upsertTags handle tags => exact h.written.of_content hcontent
  | rollback handle => exact h.written.of_content hcontent
  | drop handle => exact h.written.of_content hcontent
  | held sourceId ids => exact h.written.of_content hcontent
  | writeState state => exact h.written.of_content hcontent

/-- **The books of an interleaving**: from a store with no transaction open, steps of transactions
leave what the ledger says they commit. -/
theorem books_performAll {moves : List Move} (hundisturbed : s.Undisturbed)
    (hmoves : ∀ m ∈ moves, m.IsTransactional) :
    Books s (s.desk.performAll moves) (ofMoves s.plan moves) := by
  induction moves using List.reverseRecOn with
  | nil => exact ⟨fun _ => rfl, .refl s⟩
  | append_singleton moves m ih =>
      obtain ⟨hmoves, hm⟩ := List.forall_mem_append.mp hmoves
      obtain ⟨hundisturbed', hplan⟩ := Desk.frame_performAll (d := s.desk) hundisturbed hmoves
      have hstep := (ih hmoves).perform (hm m (List.mem_singleton_self m)) hundisturbed'
      rw [hplan] at hstep
      rw [Desk.performAll_concat, ofMoves_concat]
      exact hstep

/-! ### Handles by themselves -/

variable {plan : FaultPlan} {moves moves' : List Move} {h : Nat}

/-- A step concerns what waits under its own handle only. -/
theorem waiting_enter (plan : FaultPlan) (l : Ledger) (m : Move) (h : Nat) :
    (l.enter plan m).waiting h =
      if m.handle? = some h then m.leaves plan (l.waiting h) else l.waiting h := rfl

/-- A commit commits what waits under its handle. -/
theorem committed_enter_commit (plan : FaultPlan) (l : Ledger) (h : Nat) :
    (l.enter plan (.commit h)).committed = l.committed ++ l.waiting h := rfl

/-- Nothing else commits anything. -/
theorem committed_enter_of_ne {l : Ledger} (hne : ∀ h, m ≠ .commit h) :
    (l.enter plan m).committed = l.committed := by
  cases m with
  | commit h => exact absurd rfl (hne h)
  | _ => rfl

/-- **What waits under a handle depends on its own steps only.** -/
theorem waiting_filter {keep : Move → Bool} (hkeep : ∀ m, m.handle? = some h → keep m = true) :
    (ofMoves plan (moves.filter keep)).waiting h = (ofMoves plan moves).waiting h := by
  induction moves using List.reverseRecOn with
  | nil => rfl
  | append_singleton moves m ih =>
      rw [List.filter_append, ofMoves_concat]
      rw [waiting_enter, List.filter_cons, List.filter_nil]
      by_cases hm : m.handle? = some h
      · rw [if_pos (hkeep m hm), ofMoves_concat, waiting_enter, if_pos hm, if_pos hm, ih]
      · rw [if_neg hm]
        split
        · rw [ofMoves_concat, waiting_enter, if_neg hm, ih]
        · rw [List.append_nil, ih]

/-- **What handles do that never commit** is as if they had not done it. -/
theorem committed_filter {lost : Nat → Bool} (hlost : ∀ h, lost h = true → .commit h ∉ moves) :
    (ofMoves plan (moves.filter fun m => !m.handle?.any lost)).committed =
      (ofMoves plan moves).committed := by
  induction moves using List.reverseRecOn with
  | nil => rfl
  | append_singleton moves m ih =>
      have hrest := ih fun h hh hmem => hlost h hh (List.mem_append_left _ hmem)
      rw [List.filter_append, ofMoves_concat, List.filter_cons, List.filter_nil]
      by_cases hcommit : ∃ h, m = .commit h
      · obtain ⟨h, rfl⟩ := hcommit
        have hkept : lost h = false := Bool.eq_false_iff.mpr fun hh =>
          hlost h hh (List.mem_append_right _ (List.mem_singleton_self _))
        have hkeep : ∀ m : Move, m.handle? = some h → (!m.handle?.any lost) = true := by
          intro m hm
          rw [hm, Option.any_some, hkept]
          rfl
        rw [if_pos (hkeep (.commit h) rfl), ofMoves_concat, committed_enter_commit,
          committed_enter_commit, hrest, waiting_filter hkeep]
      · have hne : ∀ h, m ≠ .commit h := fun h heq => hcommit ⟨h, heq⟩
        rw [committed_enter_of_ne hne, ← hrest]
        split
        · rw [ofMoves_concat, committed_enter_of_ne hne]
        · rw [List.append_nil]

/-- What one handle commits by itself, with one more step. -/
theorem committed_filter_concat (plan : FaultPlan) (moves : List Move) (m : Move) (h : Nat) :
    (ofMoves plan ((moves ++ [m]).filter (·.handle? = some h))).committed =
      if m = .commit h then
        (ofMoves plan (moves.filter (·.handle? = some h))).committed ++
          (ofMoves plan moves).waiting h
      else (ofMoves plan (moves.filter (·.handle? = some h))).committed := by
  have hwaiting : (ofMoves plan (moves.filter (·.handle? = some h))).waiting h =
      (ofMoves plan moves).waiting h := waiting_filter fun m hm => decide_eq_true hm
  rw [List.filter_append, List.filter_cons, List.filter_nil]
  by_cases hcommit : m = .commit h
  · subst hcommit
    have hown : decide ((Move.commit h).handle? = some h) = true := decide_eq_true rfl
    rw [if_pos rfl, if_pos hown, ofMoves_concat, committed_enter_commit, hwaiting]
  · rw [if_neg hcommit]
    split
    · next hm =>
        rw [ofMoves_concat, committed_enter_of_ne]
        rintro h' rfl
        exact hcommit (congrArg Move.commit (Option.some.inj (of_decide_eq_true hm)))
    · rw [List.append_nil]

/-- **An article is committed if one of the handles commits it by itself.** -/
theorem mem_committed_iff {a : Article} : a ∈ (ofMoves plan moves).committed.articles ↔
    ∃ h, a ∈ (ofMoves plan (moves.filter (·.handle? = some h))).committed.articles := by
  induction moves using List.reverseRecOn with
  | nil => exact ⟨fun h => absurd h List.not_mem_nil, fun ⟨_, h⟩ => absurd h List.not_mem_nil⟩
  | append_singleton moves m ih =>
      simp only [committed_filter_concat]
      rw [ofMoves_concat]
      by_cases hcommit : ∃ h, m = .commit h
      · obtain ⟨h₀, rfl⟩ := hcommit
        rw [committed_enter_commit, Lot.articles_append, List.mem_append, ih]
        constructor
        · rintro (⟨h, ha⟩ | ha)
          · refine ⟨h, ?_⟩
            split
            · exact List.mem_append_left _ ha
            · exact ha
          · exact ⟨h₀, by rw [if_pos rfl]; exact List.mem_append_right _ ha⟩
        · rintro ⟨h, ha⟩
          split at ha
          · next heq =>
              obtain rfl := Move.commit.inj heq
              exact (List.mem_append.mp ha).imp_left fun ha => ⟨h₀, ha⟩
          · exact .inl ⟨h, ha⟩
      · have hne : ∀ h, m ≠ .commit h := fun h heq => hcommit ⟨h, heq⟩
        rw [committed_enter_of_ne hne, ih]
        simp only [hne, if_false]

/-- **Reordering the steps of different handles** commits the same articles. -/
theorem mem_committed_congr
    (horder : ∀ h, moves.filter (·.handle? = some h) = moves'.filter (·.handle? = some h))
    (a : Article) : a ∈ (ofMoves plan moves).committed.articles ↔
      a ∈ (ofMoves plan moves').committed.articles := by
  rw [mem_committed_iff, mem_committed_iff]
  exact exists_congr fun h => by rw [horder]

end Desk.Ledger

end FeedSync
