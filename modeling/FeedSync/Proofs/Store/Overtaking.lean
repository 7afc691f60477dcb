import FeedSync.Proofs.Cycle.Scene
import FeedSync.Proofs.Store.Ledger

/-!
# Upserts that are overtaken

An upsert of a new key answers with an internal id that its transaction only reserves: the id
becomes that of the row if the transaction is the first to store the key. If another one stores it
meanwhile, under an id of its own, the upsert is **overtaken**. What its transaction then links is
linked under an id that no row has. This is the only way to such links: every other committed upsert
has answered with the internal id of the row.

## Main definitions

* `Desk.Consistent` — what the transactions on a store have reserved.
* `Desk.Takes` — steps of transactions that a desk can take.
* `Desk.OpenUpsert`, `Desk.CommittedUpsert` — an upsert that waits for its commit, and one that was
  committed.
* `OpenUpsert.IsOvertaken` — the key was stored by others meanwhile.
* `Desk.LinksOwn` — each transaction links under ids that its own upserts answered.

## Main statements

* `Takes.consistent_performAll` — steps of transactions keep the reservations consistent.
* `CommittedUpsert.stored_iff` — the row of a committed upsert has the id that the upsert answered,
  unless it was overtaken.
* `dangling_iff_overtaken` — whose links belong to no row.
-/

namespace FeedSync

/-! ### What a commit stores -/

namespace Store

variable {s : Store} {tx : Transaction} {key : Article.Key} {id : Int64} {row : StoredArticle}

/-- A row that a commit adds has an id that the transaction had reserved for its key. -/
theorem exists_article_of_row?_commit (hnone : s.row? key = none)
    (hrow : (s.commit tx).row? key = some row) : ∃ a, .article row.id a ∈ tx ∧ a.key = key := by
  change (tx.foldl apply s).row? key = some row at hrow
  induction tx generalizing s with
  | nil =>
      rw [List.foldl_nil, hnone] at hrow
      nomatch hrow
  | cons w tx ih =>
      rw [List.foldl_cons] at hrow
      cases hfirst : (s.apply w).row? key with
      | none =>
          obtain ⟨a, ha, hkey⟩ := ih hfirst hrow
          exact ⟨a, List.mem_cons_of_mem w ha, hkey⟩
      | some first =>
          -- the row that this write adds keeps its id
          obtain ⟨last, hlast, hid, -⟩ := Kept.commit (s.apply w) tx key first hfirst
          obtain rfl : last = row := Option.some.inj (hlast.symm.trans hrow)
          cases w with
          | article id a =>
              rw [row?_apply_article] at hfirst
              split at hfirst
              · next heq =>
                  subst heq
                  rw [hnone] at hfirst
                  obtain rfl := Option.some.inj hfirst
                  exact ⟨a, hid ▸ List.mem_cons_self, rfl⟩
              · rw [hnone] at hfirst
                nomatch hfirst
          | tags words => nomatch hnone.symm.trans hfirst
          | links id tagIds => nomatch hnone.symm.trans hfirst

/-- A commit stores every article of its transaction, under whatever id. -/
theorem exists_row?_commit {a : Article} (ha : .article id a ∈ tx) :
    ∃ row, (s.commit tx).row? a.key = some row := by
  change ∃ row, (tx.foldl apply s).row? a.key = some row
  induction tx generalizing s with
  | nil => exact absurd ha List.not_mem_nil
  | cons w tx ih =>
      rcases List.mem_cons.mp ha with rfl | ha
      · have hfirst : (s.apply (.article id a)).row? a.key = some _ :=
          row?_apply_article.trans (if_pos rfl)
        obtain ⟨row, hrow, -⟩ := Kept.commit (s.apply (.article id a)) tx a.key _ hfirst
        exact ⟨row, hrow⟩
      · exact ih ha

/-- What is linked after a commit was linked before or is linked by the transaction. -/
theorem get?_links_commit {linked : List Int64} (h : (s.commit tx).links.get? id = some linked) :
    s.links.get? id = some linked ∨ ∃ tagIds, .links id tagIds ∈ tx := by
  change (tx.foldl apply s).links.get? id = some linked at h
  induction tx generalizing s with
  | nil => exact .inl h
  | cons w tx ih =>
      rcases ih h with h | ⟨tagIds, hmem⟩
      · cases w with
        | article id' a =>
            rw [apply_article_eq] at h
            exact .inl h
        | tags words => exact .inl h
        | links id' tagIds =>
            change (s.links.set id' _).get? id = some linked at h
            rw [Table.get?_set] at h
            split at h
            · next heq => exact .inr ⟨tagIds, heq ▸ List.mem_cons_self⟩
            · exact .inl h
      · exact .inr ⟨tagIds, List.mem_cons_of_mem w hmem⟩

/-- The id under which a transaction has an article of a key pending, if it has one. -/
theorem pendingId?_eq_none (h : pendingId? tx key = none) (a : Article) (ha : .article id a ∈ tx) :
    a.key ≠ key := by
  have hnone := List.findSome?_eq_none_iff.mp h _ ha
  intro heq
  simp only [heq, if_true, reduceCtorEq] at hnone

end Store

/-! ### Reservations -/

namespace Move

variable {d : Desk} {m : Move} {handle : Nat} {id : Int64}

/-- Articles are added by upserts, under the id that they answer. -/
theorem eq_upsert_of_mem_adds {a : Article} (h : .article id a ∈ m.adds d handle) :
    m = .upsert handle a ∧
      id = d.store.idOf a.key (Store.pendingId? (d.opened handle) a.key) := by
  cases m with
  | upsert own b =>
      rw [adds] at h
      split at h
      · next hown =>
          obtain ⟨rfl, rfl⟩ := Write.article.inj (List.mem_singleton.mp h)
          obtain ⟨rfl, -⟩ := hown
          exact ⟨rfl, rfl⟩
      · exact absurd h List.not_mem_nil
  | upsertTags own words =>
      rw [adds] at h
      split at h <;> simp at h
  | link own id tagIds =>
      rw [adds] at h
      split at h <;> simp at h
  | _ => exact absurd h List.not_mem_nil

/-- Links are added by linking. -/
theorem eq_link_of_mem_adds {tagIds : List Int64} (h : .links id tagIds ∈ m.adds d handle) :
    m = .link handle id tagIds := by
  cases m with
  | link own id' tagIds' =>
      rw [adds] at h
      split at h
      · next hown =>
          obtain ⟨rfl, rfl⟩ := Write.links.inj (List.mem_singleton.mp h)
          rw [hown.1]
      · exact absurd h List.not_mem_nil
  | upsert own b =>
      rw [adds] at h
      split at h <;> simp at h
  | upsertTags own words =>
      rw [adds] at h
      split at h <;> simp at h
  | _ => exact absurd h List.not_mem_nil

end Move

namespace Desk

variable {d : Desk} {m : Move} {moves : List Move} {handle handle' : Nat} {id id' : Int64}
  {key : Article.Key} {row : StoredArticle}

/-- A transaction **reserves** an id for a key if it has an article of the key pending under it. -/
def Reserves (d : Desk) (handle : Nat) (id : Int64) (key : Article.Key) : Prop :=
  ∃ a, .article id a ∈ d.opened handle ∧ a.key = key

/-- What the transactions of a desk have reserved is **consistent**. -/
structure Consistent (d : Desk) : Prop where
  sound : d.store.Sound d.Pending
  /-- As long as a key has no row, a transaction reserves one id for it. -/
  agreed : ∀ {handle id id' key}, d.Reserves handle id key → d.Reserves handle id' key →
    d.store.row? key = none → id = id'
  /-- Two transactions reserve the same id only if it is that of the row. -/
  exclusive : ∀ {handle handle' id key}, d.Reserves handle id key → d.Reserves handle' id key →
    (∀ row, d.store.row? key = some row → row.id ≠ id) → handle = handle'

/-- A store on which no transaction is open has nothing reserved. -/
theorem consistent_desk {s : Store} (h : s.Reachable) : s.desk.Consistent := by
  obtain ⟨opened, hreachable⟩ := h
  have hnothing : ∀ {handle id key}, ¬ s.desk.Reserves handle id key :=
    fun ⟨_, ha, _⟩ => absurd ha List.not_mem_nil
  exact ⟨hreachable.sound.weaken fun id a ⟨_, ha⟩ => absurd ha List.not_mem_nil,
    fun h => absurd h hnothing, fun h => absurd h hnothing⟩

/-- The id that an upsert answers is that of the row, else one that the transaction has reserved
already, else one that no transaction has reserved. -/
theorem Consistent.idOf_cases (h : d.Consistent) (hroom : d.store.HasRoom 1) (handle : Nat)
    (key : Article.Key) :
    let id := d.store.idOf key (Store.pendingId? (d.opened handle) key)
    (∃ row, d.store.row? key = some row ∧ row.id = id) ∨
      d.store.row? key = none ∧ (d.Reserves handle id key ∨
        (∀ id, ¬ d.Reserves handle id key) ∧ ∀ handle' key', ¬ d.Reserves handle' id key') := by
  intro id
  cases hrow : d.store.row? key with
  | some row =>
      refine .inl ⟨row, rfl, ?_⟩
      change _ = d.store.idOf key _
      rw [Store.idOf, hrow]
      rfl
  | none =>
      refine .inr ⟨rfl, ?_⟩
      have hid : id = (Store.pendingId? (d.opened handle) key).getD (d.store.lastId + 1) := by
        change d.store.idOf key _ = _
        rw [Store.idOf, hrow]
        rfl
      cases hpending : Store.pendingId? (d.opened handle) key with
      | some reserved =>
          rw [hpending, Option.getD_some] at hid
          rw [hid]
          left
          have howns : d.store.Owns (· ∈ d.opened handle) reserved key :=
            Store.owns_pendingId? (fun w hw => hw) hpending
          rcases howns with ⟨row, hsome, -⟩ | hreserves
          · cases hrow.symm.trans hsome
          · exact hreserves
      | none =>
          rw [hpending, Option.getD_none] at hid
          refine .inr ⟨?_, ?_⟩
          · rintro _ ⟨a, ha, hkey⟩
            exact Store.pendingId?_eq_none hpending a ha hkey
          -- the counter has not reached this id yet
          rintro handle' key' ⟨a, ha, hkey⟩
          have hle := Int64.le_iff_toInt_le.mp
            (h.sound.issued id key' (.inr ⟨a, ⟨handle', ha⟩, hkey⟩))
          rw [hid, hroom.toInt_succ] at hle
          omega

/-- What is reserved after a step was reserved before, or an upsert was answered with it. -/
theorem reserves_perform (h : (m.perform d).Reserves handle id key) :
    d.Reserves handle id key ∨ ∃ a, m = .upsert handle a ∧ a.key = key ∧
      id = d.store.idOf key (Store.pendingId? (d.opened handle) key) := by
  obtain ⟨a, ha, hkey⟩ := h
  rw [Move.opened_perform] at ha
  split at ha
  · exact absurd ha List.not_mem_nil
  rcases List.mem_append.mp ha with ha | ha
  · exact .inl ⟨a, ha, hkey⟩
  · obtain ⟨rfl, hid⟩ := Move.eq_upsert_of_mem_adds ha
    exact .inr ⟨a, rfl, hkey, hkey ▸ hid⟩

/-- What waits under a handle waits there until its transaction ends. -/
theorem mem_opened_perform {w : Write} (h : w ∈ d.opened handle) (hopen : m.ends handle = false) :
    w ∈ (m.perform d).opened handle := by
  rw [Move.opened_perform, hopen]
  exact List.mem_append_left _ h

/-- What is reserved stays reserved until the transaction ends. -/
theorem Reserves.performAll (h : d.Reserves handle id key)
    (hopen : ∀ m ∈ moves, m.ends handle = false) : (d.performAll moves).Reserves handle id key := by
  induction moves generalizing d with
  | nil => exact h
  | cons m moves ih =>
      obtain ⟨hm, hmoves⟩ := List.forall_mem_cons.mp hopen
      obtain ⟨a, ha, hkey⟩ := h
      exact ih ⟨a, mem_opened_perform ha hm, hkey⟩ hmoves

/-- **A step of a transaction keeps the reservations consistent.** -/
theorem Consistent.perform (h : d.Consistent) (hm : m.IsTransactional)
    (hundisturbed : d.store.Undisturbed) (hroom : d.store.HasRoom (m.demand d.store.plan)) :
    (m.perform d).Consistent := by
  have hkept := Move.kept_perform hm hundisturbed
  have hnone : ∀ {key}, (m.perform d).store.row? key = none → d.store.row? key = none := by
    intro key hnone
    by_contra hsome
    obtain ⟨row, hrow⟩ := Option.ne_none_iff_exists'.mp hsome
    obtain ⟨row', hrow', -⟩ := hkept key row hrow
    nomatch hnone.symm.trans hrow'
  refine ⟨?_, ?_, ?_⟩
  · have hstart : d.store.Sound fun w => d.Pending w ∨ False :=
      h.sound.weaken fun _ _ hw => hw.elim (fun hw => hw) False.elim
    exact (m.sound hstart hroom).weaken fun _ _ => .inl
  · intro handle id id' key hid hid' hrow
    -- what is answered is what was reserved already
    have hanswer : ∀ {id a}, m = .upsert handle a → d.Reserves handle id key →
        id = d.store.idOf key (Store.pendingId? (d.opened handle) key) := by
      rintro id a rfl hwas
      rcases h.idOf_cases hroom handle key with ⟨row, hsome, -⟩ | ⟨-, hold | ⟨hnew, -⟩⟩
      · nomatch (hnone hrow).symm.trans hsome
      · exact h.agreed hwas hold (hnone hrow)
      · exact absurd hwas (hnew id)
    rcases reserves_perform hid with hwas | ⟨a, hupsert, -, hid⟩
    · rcases reserves_perform hid' with hwas' | ⟨a, hupsert, -, hid'⟩
      · exact h.agreed hwas hwas' (hnone hrow)
      · exact (hanswer hupsert hwas).trans hid'.symm
    · rcases reserves_perform hid' with hwas' | ⟨a, -, -, hid'⟩
      · exact hid.trans (hanswer hupsert hwas').symm
      · exact hid.trans hid'.symm
  · intro handle handle' id key hid hid' hrow
    have hbefore : ∀ row, d.store.row? key = some row → row.id ≠ id := by
      intro row hsome
      obtain ⟨row', hrow', hkeeps, -⟩ := hkept key row hsome
      exact hkeeps ▸ hrow row' hrow'
    -- no other transaction has reserved what is answered
    have hanswer : ∀ {own other a}, m = .upsert own a → d.Reserves other id key →
        id = d.store.idOf key (Store.pendingId? (d.opened own) key) → other = own := by
      rintro own other a rfl hwas rfl
      rcases h.idOf_cases hroom own key with ⟨row, hsome, heq⟩ | ⟨-, hold | ⟨-, hnew⟩⟩
      · exact absurd heq (hbefore row hsome)
      · exact h.exclusive hwas hold hbefore
      · exact absurd hwas (hnew other key)
    rcases reserves_perform hid with hwas | ⟨a, hupsert, -, hid⟩
    · rcases reserves_perform hid' with hwas' | ⟨a, hupsert, -, hid'⟩
      · exact h.exclusive hwas hwas' hbefore
      · exact hanswer hupsert hwas hid'
    · rcases reserves_perform hid' with hwas' | ⟨a', hupsert', -, -⟩
      · exact (hanswer hupsert hwas' hid).symm
      · exact (Move.upsert.inj (hupsert.symm.trans hupsert')).1

/-- A step that does not end a transaction adds no row of a key under an id that the transaction has
reserved for it. -/
theorem Consistent.ne_of_row?_perform (h : d.Consistent) (hm : m.IsTransactional)
    (hundisturbed : d.store.Undisturbed) (hreserves : d.Reserves handle id key)
    (hopen : m.ends handle = false) (hbefore : ∀ row, d.store.row? key = some row → row.id ≠ id)
    (hrow : (m.perform d).store.row? key = some row) : row.id ≠ id := by
  cases hwas : d.store.row? key with
  | some first =>
      obtain ⟨last, hlast, hkeeps, -⟩ := Move.kept_perform hm hundisturbed key first hwas
      obtain rfl : last = row := Option.some.inj (hlast.symm.trans hrow)
      exact hkeeps ▸ hbefore first hwas
  | none =>
      have hcontent := Move.content_perform hm hundisturbed
      cases m with
      | commit own =>
          rintro rfl
          obtain ⟨a, ha, hkey⟩ := Store.exists_article_of_row?_commit hwas hrow
          -- the row is that of the transaction which is committed
          exact of_decide_eq_false hopen (h.exclusive ⟨a, ha, hkey⟩ hreserves hbefore)
      | _ => nomatch (hwas.symm.trans (Store.row?_of_content hcontent.symm key)).trans hrow

/-! ### Steps that can be taken -/

/-- Steps that a desk **takes**: steps of transactions for which there are ids enough, with no other
writer waiting. -/
structure Takes (d : Desk) (moves : List Move) : Prop where
  consistent : d.Consistent
  undisturbed : d.store.Undisturbed
  transactional : ∀ m ∈ moves, m.IsTransactional
  room : d.store.HasRoom (Move.demands d.store.plan moves)

/-- After a step a desk takes those that follow. -/
theorem Takes.tail (h : d.Takes (m :: moves)) : (m.perform d).Takes moves := by
  obtain ⟨hm, hmoves⟩ := List.forall_mem_cons.mp h.transactional
  have hone : d.store.HasRoom (m.demand d.store.plan) := h.room.mono (Nat.le_add_right _ _)
  have hsound : d.store.Sound fun w => d.Pending w ∨ False :=
    h.consistent.sound.weaken fun _ _ hw => hw.elim (fun hw => hw) False.elim
  refine ⟨h.consistent.perform hm h.undisturbed hone, Move.undisturbed_perform hm h.undisturbed,
    hmoves, ?_⟩
  rw [m.plan_perform]
  exact h.room.rest (m.lastId_perform hsound hone)

/-- After some steps a desk takes those that follow. -/
theorem Takes.drop {moves' : List Move} (h : d.Takes (moves ++ moves')) :
    (d.performAll moves).Takes moves' := by
  induction moves generalizing d with
  | nil => exact h
  | cons m moves ih => exact ih h.tail

/-- A desk takes the first of some steps. -/
theorem Takes.take {moves' : List Move} (h : d.Takes (moves ++ moves')) : d.Takes moves where
  consistent := h.consistent
  undisturbed := h.undisturbed
  transactional := (List.forall_mem_append.mp h.transactional).1
  room := by
    refine h.room.mono ?_
    clear h
    induction moves with
    | nil => exact Nat.zero_le _
    | cons m moves ih => exact Nat.add_le_add_left ih _

/-- **Steps of transactions keep the reservations consistent.** -/
theorem Takes.consistent_performAll (h : d.Takes moves) : (d.performAll moves).Consistent := by
  rw [← List.append_nil moves] at h
  exact h.drop.consistent

/-- Steps of transactions keep every row. -/
theorem Takes.kept (h : d.Takes moves) : d.store.Kept (d.performAll moves).store :=
  kept_performAll h.undisturbed h.transactional

/-- As long as a transaction is open, no row of a key is added under an id that it has reserved. -/
theorem Takes.ne_of_row? (h : d.Takes moves) (hreserves : d.Reserves handle id key)
    (hopen : ∀ m ∈ moves, m.ends handle = false) (hnone : d.store.row? key = none)
    (hrow : (d.performAll moves).store.row? key = some row) : row.id ≠ id := by
  suffices hall : ∀ row, (d.performAll moves).store.row? key = some row → row.id ≠ id from
    hall row hrow
  have hbefore : ∀ row, d.store.row? key = some row → row.id ≠ id :=
    fun row hsome => nomatch hnone.symm.trans hsome
  clear hnone hrow
  induction moves generalizing d with
  | nil => exact hbefore
  | cons m moves ih =>
      obtain ⟨hm, hmoves⟩ := List.forall_mem_cons.mp hopen
      have htransactional := h.transactional m List.mem_cons_self
      have hstill : (m.perform d).Reserves handle id key :=
        hreserves.performAll (List.forall_mem_singleton.mpr hm)
      exact ih h.tail hstill hmoves fun row => h.consistent.ne_of_row?_perform htransactional
        h.undisturbed hreserves hm hbefore

/-! ### Upserts and their commits -/

/-- **An upsert that waits** for its commit at the end of some steps, with the id it answered. -/
structure OpenUpsert (d : Desk) (moves : List Move) (handle : Nat) where
  before : List Move
  article : Article
  between : List Move
  split : moves = before ++ .upsert handle article :: between
  still : ∀ m ∈ between, m.ends handle = false
  id : Int64
  answer : (Store.upsert ((d.performAll before).opened handle) article
    (d.performAll before).store).1.2 = .ok id

/-- **An upsert that was committed** in the course of some steps. -/
structure CommittedUpsert (d : Desk) (moves : List Move) where
  point : List Move
  handle : Nat
  after : List Move
  split : moves = point ++ .commit handle :: after
  upsert : OpenUpsert d point handle

/-- Each transaction **links under its own**: under ids that upserts in it answered. -/
def LinksOwn (d : Desk) (moves : List Move) : Prop :=
  ∀ before handle id tagIds after, moves = before ++ .link handle id tagIds :: after →
    ∃ u : d.OpenUpsert before handle, u.id = id

namespace OpenUpsert

/-- **An upsert is overtaken** if its key had no row when it was answered and has one now, while its
transaction still waits: others have stored the key. -/
def IsOvertaken (u : d.OpenUpsert moves handle) : Prop :=
  (d.performAll u.before).store.row? u.article.key = none ∧
    (d.performAll moves).store.row? u.article.key ≠ none

/-- The upsert after one more step. -/
def snoc (u : d.OpenUpsert moves handle) (hm : m.ends handle = false) :
    d.OpenUpsert (moves ++ [m]) handle :=
  { u with
    between := u.between ++ [m]
    split := (congrArg (· ++ [m]) u.split).trans (List.append_assoc _ _ _)
    still := List.forall_mem_append.mpr ⟨u.still, List.forall_mem_singleton.mpr hm⟩ }

/-- What an upsert answers is reserved by it. -/
theorem answered (u : d.OpenUpsert moves handle) :
    u.id = (d.performAll u.before).store.idOf u.article.key
        (Store.pendingId? ((d.performAll u.before).opened handle) u.article.key) ∧
      ((d.performAll u.before).performAll [.upsert handle u.article]).Reserves handle u.id
        u.article.key := by
  have hanswer := u.answer
  by_cases hmem : u.article.externalId ∈ (d.performAll u.before).store.plan.upserts
  · obtain ⟨e, he⟩ : ∃ e, (Store.upsert ((d.performAll u.before).opened handle) u.article
        (d.performAll u.before).store).1 = (_, .error e) := Store.upsert_of_mem hmem
    rw [he] at hanswer
    nomatch hanswer
  · rw [Store.upsert_of_not_mem hmem] at hanswer
    have hid := (Except.ok.inj hanswer).symm
    refine ⟨hid, u.article, ?_, rfl⟩
    change _ ∈ (Move.perform (d.performAll u.before) (.upsert handle u.article)).opened handle
    rw [Move.opened_perform, Move.ends, if_neg Bool.false_ne_true, Move.adds, if_pos ⟨rfl, hmem⟩,
      hid]
    exact List.mem_append_right _ (List.mem_singleton_self _)

/-- The steps after an upsert, from the desk that it leaves. -/
theorem performAll_eq (u : d.OpenUpsert moves handle) : d.performAll moves =
    ((d.performAll u.before).performAll [.upsert handle u.article]).performAll u.between := by
  conv_lhs => rw [u.split]
  exact List.foldl_append

/-- As long as an upsert waits its id is reserved. -/
theorem reserves (u : d.OpenUpsert moves handle) :
    (d.performAll moves).Reserves handle u.id u.article.key := by
  rw [u.performAll_eq]
  exact u.answered.2.performAll u.still

/-- **As long as an upsert waits, the row of its key has its id or it is overtaken.** -/
theorem id_eq_iff (u : d.OpenUpsert moves handle) (h : d.Takes moves)
    (hrow : (d.performAll moves).store.row? u.article.key = some row) :
    row.id = u.id ↔ ¬ u.IsOvertaken := by
  have hsplit := h
  rw [u.split] at hsplit
  cases hwas : (d.performAll u.before).store.row? u.article.key with
  | some first =>
      -- the upsert answered the id of the row
      have hid : u.id = first.id := by
        rw [u.answered.1, Store.idOf, hwas]
        rfl
      have hkept : (d.performAll u.before).store.Kept (d.performAll moves).store := by
        rw [u.performAll_eq]
        exact hsplit.drop.kept
      obtain ⟨last, hlast, hkeeps, -⟩ := hkept _ first hwas
      obtain rfl : last = row := Option.some.inj (hlast.symm.trans hrow)
      refine iff_of_true (hkeeps.trans hid.symm) fun hover => ?_
      cases hover.1.symm.trans hwas
  | none =>
      refine iff_of_false ?_ fun hnot => hnot ⟨hwas, hrow ▸ Option.some_ne_none row⟩
      have hanswered : ((d.performAll u.before).performAll [.upsert handle u.article]).store.row?
          u.article.key = none :=
        (Store.row?_of_content (Store.content_upsert _ u.article _) _).trans hwas
      rw [u.performAll_eq] at hrow
      exact hsplit.drop.tail.ne_of_row? u.answered.2 u.still hanswered hrow

end OpenUpsert

namespace CommittedUpsert

/-- The upsert after one more step. -/
def snoc (u : d.CommittedUpsert moves) (m : Move) : d.CommittedUpsert (moves ++ [m]) :=
  { u with
    after := u.after ++ [m]
    split := (congrArg (· ++ [m]) u.split).trans (List.append_assoc _ _ _) }

/-- The steps from the commit on. -/
theorem performAll_eq (u : d.CommittedUpsert moves) : d.performAll moves =
    ((d.performAll u.point).performAll (.commit u.handle :: u.after)) := by
  conv_lhs => rw [u.split]
  exact List.foldl_append

/-- What has room for all steps has room for those before the commit, and then for the others. -/
theorem takes (u : d.CommittedUpsert moves) (h : d.Takes moves) :
    d.Takes u.point ∧ (d.performAll u.point).Takes (.commit u.handle :: u.after) := by
  rw [u.split] at h
  exact ⟨h.take, h.drop⟩

/-- **The row of a committed upsert has the id that it answered, unless it was overtaken.** -/
theorem stored_iff (u : d.CommittedUpsert moves) (h : d.Takes moves) :
    (∃ row, (d.performAll moves).store.row? u.upsert.article.key = some row ∧
      row.id = u.upsert.id) ↔ ¬ u.upsert.IsOvertaken := by
  obtain ⟨hpoint, hrest⟩ := u.takes h
  obtain ⟨a, ha, hkey⟩ := u.upsert.reserves
  -- the row that the commit leaves
  obtain ⟨row, hrow⟩ : ∃ row, ((d.performAll u.point).store.commit
      ((d.performAll u.point).opened u.handle)).row? u.upsert.article.key = some row := by
    obtain ⟨row, hrow⟩ := Store.exists_row?_commit (s := (d.performAll u.point).store) ha
    exact ⟨row, by rw [← hkey, hrow]⟩
  have hid : row.id = u.upsert.id ↔ ¬ u.upsert.IsOvertaken := by
    cases hwas : (d.performAll u.point).store.row? u.upsert.article.key with
    | some first =>
        obtain ⟨last, hlast, hkeeps, -⟩ := Store.Kept.commit _ _ u.upsert.article.key first hwas
        obtain rfl : last = row := Option.some.inj (hlast.symm.trans hrow)
        rw [hkeeps]
        exact u.upsert.id_eq_iff hpoint hwas
    | none =>
        obtain ⟨b, hb, hbkey⟩ := Store.exists_article_of_row?_commit hwas hrow
        exact iff_of_true
          (hpoint.consistent_performAll.agreed ⟨b, hb, hbkey⟩ u.upsert.reserves hwas)
          fun hover => hover.2 hwas
  obtain ⟨last, hlast, hkeeps, -⟩ := hrest.tail.kept u.upsert.article.key row hrow
  rw [← hid, ← hkeeps, u.performAll_eq]
  constructor
  · rintro ⟨row', hrow', heq⟩
    obtain rfl : row' = last := Option.some.inj (hrow'.symm.trans hlast)
    exact heq
  · intro heq
    exact ⟨last, hlast, heq⟩

/-- The id of a committed upsert belongs to no other key. -/
theorem key_eq_of_id_eq (u : d.CommittedUpsert moves) (h : d.Takes moves) {k : Article.Key}
    (hrow : (d.performAll moves).store.row? k = some row) (hid : row.id = u.upsert.id) :
    k = u.upsert.article.key := by
  obtain ⟨hpoint, hrest⟩ := u.takes h
  obtain ⟨a, ha, hkey⟩ := u.upsert.reserves
  -- the article may count as pending for ever
  have hpending : (d.performAll u.point).store.Sound fun w =>
      (d.performAll u.point).Pending w ∨ w = .article u.upsert.id a :=
    hpoint.consistent_performAll.sound.weaken fun id b hb => hb.elim (fun hb => hb) fun hb => by
      rw [hb]
      exact ⟨u.handle, ha⟩
  have hroom : (d.performAll u.point).store.HasRoom (Move.demands (d.performAll u.point).store.plan
      (.commit u.handle :: u.after) + 0) := hrest.room
  have hsound := (sound_performAll hpending hroom).1
  rw [← u.performAll_eq] at hsound
  exact hsound.owner u.upsert.id k u.upsert.article.key (.inl ⟨row, hrow, hid⟩)
    (.inr ⟨a, .inr rfl, hkey⟩)

end CommittedUpsert

/-! ### Links -/

/-- Transactions that link under their own did so before the last step. -/
theorem LinksOwn.of_concat (h : d.LinksOwn (moves ++ [m])) : d.LinksOwn moves := by
  rintro before handle id tagIds after rfl
  exact h before handle id tagIds (after ++ [m]) (List.append_assoc _ _ _)

/-- Nothing is linked without steps. -/
theorem linksOwn_nil (d : Desk) : d.LinksOwn [] := fun before _ _ _ _ h => by
  cases before <;> nomatch h

/-- One more step may link under the id of an upsert that waits. -/
theorem LinksOwn.concat (h : d.LinksOwn moves)
    (hm : ∀ handle id tagIds, m = .link handle id tagIds →
      ∃ u : d.OpenUpsert moves handle, u.id = id) : d.LinksOwn (moves ++ [m]) := by
  intro before handle id tagIds after hsplit
  rcases List.eq_nil_or_concat after with rfl | ⟨after, last, rfl⟩
  · obtain ⟨rfl, hlast⟩ := List.append_inj' hsplit rfl
    exact hm handle id tagIds (List.singleton_inj.mp hlast)
  · rw [List.concat_eq_append, ← List.cons_append, ← List.append_assoc] at hsplit
    exact h before handle id tagIds after (List.append_inj' hsplit rfl).1

/-- **Where links come from**: those that wait are under the id of an upsert that waits with them,
and those of the store were there before or are under the id of a committed upsert. -/
theorem exists_upsert_of_links (hundisturbed : d.store.Undisturbed)
    (hnothing : ∀ handle, d.opened handle = []) (htransactional : ∀ m ∈ moves, m.IsTransactional)
    (hown : d.LinksOwn moves) :
    (∀ handle id tagIds, .links id tagIds ∈ (d.performAll moves).opened handle →
      ∃ u : d.OpenUpsert moves handle, u.id = id) ∧
    (∀ id linked, (d.performAll moves).store.links.get? id = some linked →
      d.store.links.get? id = some linked ∨ ∃ u : d.CommittedUpsert moves, u.upsert.id = id) := by
  induction moves using List.reverseRecOn with
  | nil =>
      refine ⟨fun handle id tagIds hw => ?_, fun id linked hlinked => .inl hlinked⟩
      change _ ∈ d.opened handle at hw
      rw [hnothing] at hw
      exact absurd hw List.not_mem_nil
  | append_singleton moves m ih =>
      obtain ⟨hmoves, hm⟩ := List.forall_mem_append.mp htransactional
      obtain ⟨hopen, hlinks⟩ := ih hmoves hown.of_concat
      rw [performAll_concat]
      constructor
      · intro handle id tagIds hw
        rw [Move.opened_perform] at hw
        split at hw
        · exact absurd hw List.not_mem_nil
        next hstill =>
        rw [Bool.not_eq_true] at hstill
        rcases List.mem_append.mp hw with hw | hw
        · obtain ⟨u, hid⟩ := hopen handle id tagIds hw
          exact ⟨u.snoc hstill, hid⟩
        · obtain rfl := Move.eq_link_of_mem_adds hw
          obtain ⟨u, hid⟩ := hown moves handle id tagIds [] rfl
          exact ⟨u.snoc hstill, hid⟩
      · intro id linked hlinked
        have hquiet := (frame_performAll hundisturbed hmoves).1
        have hcontent := Move.content_perform (hm m (List.mem_singleton_self m)) hquiet
        have hbefore (hlinked : (d.performAll moves).store.links.get? id = some linked) :
            d.store.links.get? id = some linked ∨
              ∃ u : d.CommittedUpsert (moves ++ [m]), u.upsert.id = id :=
          (hlinks id linked hlinked).imp_right fun ⟨u, hid⟩ => ⟨u.snoc m, hid⟩
        cases m with
        | commit handle =>
            rcases Store.get?_links_commit hlinked with hlinked | ⟨tagIds, hw⟩
            · exact hbefore hlinked
            · obtain ⟨u, hid⟩ := hopen handle id tagIds hw
              exact .inr ⟨⟨moves, handle, [], rfl, u⟩, hid⟩
        | _ => exact hbefore (congrArg (fun c : Content => c.links.get? id) hcontent ▸ hlinked)

end Desk

/-- **Links under ids of no row come from overtaken upserts only.** Transactions interleave on a
store in which links belong to rows, and each links only under ids that its own upserts answered (as
long as no one stores articles otherwise, and the counter of internal ids does not overflow). Then
the row of a committed upsert has the id that the upsert answered, unless the upsert was overtaken;
and links belong to a row, unless they are under the id of an overtaken upsert. -/
theorem dangling_iff_overtaken {s : Store} {moves : List Move} (hreachable : s.Reachable)
    (hundisturbed : s.Undisturbed) (hmoves : ∀ m ∈ moves, m.IsTransactional)
    (hroom : s.HasRoom (Move.demands s.plan moves))
    (hlinks : ∀ id linked, s.links.get? id = some linked →
      ∃ key row, s.row? key = some row ∧ row.id = id)
    (hown : s.desk.LinksOwn moves) :
    let after := (s.desk.performAll moves).store
    (∀ u : s.desk.CommittedUpsert moves,
      (∃ row, after.row? u.upsert.article.key = some row ∧ row.id = u.upsert.id) ↔
        ¬ u.upsert.IsOvertaken) ∧
    (∀ id linked, after.links.get? id = some linked →
      ((∃ key row, after.row? key = some row ∧ row.id = id) ↔
        ¬ ∃ u : s.desk.CommittedUpsert moves, u.upsert.IsOvertaken ∧ u.upsert.id = id)) := by
  intro after
  have htakes : s.desk.Takes moves :=
    ⟨Desk.consistent_desk hreachable, hundisturbed, hmoves, hroom⟩
  refine ⟨fun u => u.stored_iff htakes, fun id linked hlinked => ⟨?_, fun hnone => ?_⟩⟩
  · rintro ⟨key, row, hrow, rfl⟩ ⟨u, hover, hid⟩
    obtain rfl := u.key_eq_of_id_eq htakes hrow hid.symm
    exact (u.stored_iff htakes).mp ⟨row, hrow, hid.symm⟩ hover
  · rcases (Desk.exists_upsert_of_links hundisturbed (fun _ => rfl) hmoves hown).2 id linked hlinked
      with hlinked | ⟨u, rfl⟩
    · obtain ⟨key, row, hrow, hid⟩ := hlinks id linked hlinked
      obtain ⟨last, hlast, hkeeps, -⟩ := htakes.kept key row hrow
      exact ⟨key, last, hlast, hkeeps.trans hid⟩
    · obtain ⟨row, hrow, hid⟩ := (u.stored_iff htakes).mpr fun hover => hnone ⟨u, hover, rfl⟩
      exact ⟨_, row, hrow, hid⟩

/-- Two handles upsert the same new article, and the first one links under the id 1 that it was
answered; the second one commits first. The row gets the id 2, and the links of the first one are
under an id that no row has. -/
theorem dangling_after_overtaken_commit :
    let moves : List Move := [.upsert 0 (.bare 1 .sooner []), .upsert 1 (.bare 1 .later []),
      .link 0 1 [7], .commit 1, .commit 0]
    let s : Store := {}
    let after := (s.desk.performAll moves).store
    (∃ u : s.desk.CommittedUpsert moves, u.upsert.id = 1 ∧ u.upsert.IsOvertaken ∧
      ¬ ∃ row, after.row? u.upsert.article.key = some row ∧ row.id = u.upsert.id) ∧
    (after.row? ("ecb", 1)).map StoredArticle.id = some 2 ∧ after.links.get? 1 = some [7] ∧
      ¬ ∃ key row, after.row? key = some row ∧ row.id = 1 := by
  intro moves s after
  let first : s.desk.OpenUpsert [.upsert 0 (.bare 1 .sooner []), .upsert 1 (.bare 1 .later [])] 0 :=
    { before := []
      article := .bare 1 .sooner []
      between := [.upsert 1 (.bare 1 .later [])]
      split := rfl
      still := by decide
      id := 1
      answer := by decide +kernel }
  let committed : s.desk.CommittedUpsert moves :=
    { point := moves.take 4
      handle := 0
      after := []
      split := rfl
      upsert := (first.snoc (m := .link 0 1 [7]) rfl).snoc (m := .commit 1) rfl }
  have hover : committed.upsert.IsOvertaken := ⟨by decide +kernel, by decide +kernel⟩
  have hown : s.desk.LinksOwn moves := by
    have hupserts := ((Desk.linksOwn_nil s.desk).concat (m := .upsert 0 (.bare 1 .sooner []))
      fun _ _ _ heq => nomatch heq).concat (m := .upsert 1 (.bare 1 .later []))
      fun _ _ _ heq => nomatch heq
    have hlink := hupserts.concat (m := .link 0 1 [7]) fun _ _ _ heq => by
      obtain ⟨rfl, rfl, rfl⟩ := Move.link.inj heq
      exact ⟨first, rfl⟩
    have hfirst := hlink.concat (m := .commit 1) fun _ _ _ heq => nomatch heq
    exact hfirst.concat (m := .commit 0) fun _ _ _ heq => nomatch heq
  obtain ⟨hids, hlinks⟩ := dangling_iff_overtaken ⟨_, .start _⟩ (by decide) (by decide) (by decide)
    (fun _ _ hlinked => nomatch hlinked) hown
  refine ⟨⟨committed, rfl, hover, fun hrow => (hids committed).mp hrow hover⟩, by decide +kernel,
    by decide +kernel, fun hrow => ?_⟩
  exact (hlinks 1 [7] (by decide +kernel)).mp hrow ⟨committed, hover, rfl⟩

end FeedSync
