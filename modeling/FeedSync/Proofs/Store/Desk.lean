import FeedSync.Proofs.Store.Ids

/-!
# A store that others use

Others may have transactions open on a store while a cycle runs. A `Desk` is a store together with
these transactions, and a `Move` is one step that another writer can take with it. The moves are all
there is: a store is **reachable** if moves lead to it from an empty one.

## Main statements

* `Move.sound` — no move of another writer makes the store unsound, whatever else is pending.
* `Reachable.sound` — every reachable store is sound.
-/

namespace FeedSync

/-- A store with the transactions that others have open on it, by handle. One that was not begun, or
has ended, is empty. -/
structure Desk where
  store : Store
  opened : Nat → Transaction := fun _ => []

/-- A step that another writer can take. -/
inductive Move where
  /-- Store an article at once. -/
  | insert (article : Article)
  | upsert (handle : Nat) (article : Article)
  | upsertTags (handle : Nat) (tags : List Tag)
  | link (handle : Nat) (articleId : Int64) (tagIds : List Int64)
  | commit (handle : Nat)
  | rollback (handle : Nat)
  /-- Forget a transaction. -/
  | drop (handle : Nat)
  | held (sourceId : String) (externalIds : List Int64)
  | writeState (state : SyncState)
  deriving DecidableEq, Repr

namespace Desk

/-- The desk with another transaction under a handle. -/
def put (d : Desk) (handle : Nat) (tx : Transaction) : Desk :=
  { d with opened := fun h => if h = handle then tx else d.opened h }

/-- Whether a write waits in a transaction of another writer. -/
def Pending (d : Desk) (w : Write) : Prop := ∃ h, w ∈ d.opened h

end Desk

/-- What a step of another writer does. -/
def Move.perform (d : Desk) : Move → Desk
  | .insert a => { d with store := (Store.insert a d.store).2 }
  | .upsert h a =>
    let ((tx, _), store) := Store.upsert (d.opened h) a d.store
    { d with store }.put h tx
  | .upsertTags h tags => d.put h (Store.upsertTags (d.opened h) tags).1
  | .link h id tagIds => d.put h (d.store.link (d.opened h) id tagIds).1
  | .commit h => { d with store := d.store.commit (d.opened h) }.put h []
  | .rollback h => { d with store := d.store.rollback }.put h []
  | .drop h => d.put h []
  | .held sourceId ids => { d with store := (Store.held sourceId ids d.store).2 }
  | .writeState state => { d with store := (Store.writeState state d.store).2 }

/-- How many internal ids a step of another writer can use up at most. -/
def Move.demand (plan : FaultPlan) : Move → Nat
  | .insert _ => 1
  | .upsert _ _ => 1
  | .held _ _ => plan.intrusions.length
  | _ => 0

/-- How many internal ids some steps can use up together. -/
def Move.demands (plan : FaultPlan) : List Move → Nat
  | [] => 0
  | m :: moves => m.demand plan + demands plan moves

namespace Desk

/-- What steps of other writers do in a row. -/
def performAll (d : Desk) (moves : List Move) : Desk := moves.foldl Move.perform d

/-- **A desk that moves lead to**: from an empty store with any plan of failures, while the counter
of internal ids does not overflow. The plan may be changed in between. -/
inductive Reachable : Desk → Prop where
  | start (plan : FaultPlan) : Reachable { store := { plan } }
  | move {d : Desk} (m : Move) (h : Reachable d)
      (hroom : d.store.HasRoom (m.demand d.store.plan)) : Reachable (m.perform d)
  | replan {d : Desk} (plan : FaultPlan) (h : Reachable d) :
      Reachable { d with store := { d.store with plan } }

variable {d : Desk} {own : Write → Prop}

/-- What waits after a transaction was replaced. -/
theorem pending_put {h : Nat} {tx : Transaction} {w : Write} (hw : (d.put h tx).Pending w) :
    w ∈ tx ∨ d.Pending w := by
  obtain ⟨k, hk⟩ := hw
  change w ∈ if k = h then tx else d.opened k at hk
  by_cases hkh : k = h
  · rw [if_pos hkh] at hk
    exact .inl hk
  · rw [if_neg hkh] at hk
    exact .inr ⟨k, hk⟩

end Desk

namespace Move

variable {d : Desk} {own : Write → Prop}

/-- A store stays sound when a transaction is replaced by one whose articles were waiting before. -/
theorem sound_put {h : Nat} {tx : Transaction}
    (hsound : d.store.Sound fun w => d.Pending w ∨ own w)
    (htx : ∀ id a, Write.article id a ∈ tx → d.Pending (.article id a)) :
    (d.put h tx).store.Sound fun w => (d.put h tx).Pending w ∨ own w :=
  hsound.weaken fun id a hw => hw.imp_left fun hw =>
    (Desk.pending_put hw).elim (htx id a) fun h => h

/-- **No move makes a store unsound**, whatever else is pending for it. -/
theorem sound (m : Move) (h : d.store.Sound fun w => d.Pending w ∨ own w)
    (hroom : d.store.HasRoom (m.demand d.store.plan)) :
    (m.perform d).store.Sound fun w => (m.perform d).Pending w ∨ own w := by
  cases m with
  | insert a => exact h.insert hroom
  | upsert handle a =>
      have htx : ∀ w ∈ d.opened handle, d.Pending w ∨ own w := fun w hw => .inl ⟨handle, hw⟩
      refine (h.upsert hroom htx).weaken fun id b hw => ?_
      rcases hw with hw | hw
      · exact (Desk.pending_put hw).elim .inr fun hw => .inl (.inl hw)
      · exact .inl (.inr hw)
  | upsertTags handle tags =>
      exact sound_put h fun id a hw => ⟨handle, (Store.mem_upsertTags hw).resolve_right nofun⟩
  | link handle id tagIds =>
      exact sound_put h fun id a hw => ⟨handle, (Store.mem_link hw).resolve_right nofun⟩
  | commit handle =>
      have hcommit := h.commit fun w hw => .inl ⟨handle, hw⟩
      exact hcommit.weaken fun id a hw => hw.imp_left fun hw =>
        (Desk.pending_put hw).elim (fun hw => absurd hw List.not_mem_nil) fun hw => hw
  | rollback handle =>
      have hrollback : d.store.rollback.Sound fun w => d.Pending w ∨ own w :=
        h.of_eq rfl (Int64.le_refl _) rfl
      exact hrollback.weaken fun id a hw => hw.imp_left fun hw =>
        (Desk.pending_put hw).elim (fun hw => absurd hw List.not_mem_nil) fun hw => hw
  | drop handle => exact sound_put h fun id a hw => absurd hw List.not_mem_nil
  | held sourceId ids => exact (h.held hroom sourceId ids).1
  | writeState state => exact h.writeState state

/-- How far a move moves the counter of internal ids. -/
theorem lastId_perform (m : Move) (h : d.store.Sound fun w => d.Pending w ∨ own w)
    (hroom : d.store.HasRoom (m.demand d.store.plan)) :
    (m.perform d).store.lastId.toInt ≤ d.store.lastId.toInt + m.demand d.store.plan := by
  cases m with
  | insert a => exact (hroom.lastId_insert a).2
  | upsert handle a => exact (hroom.lastId_upsert _ a).2
  | held sourceId ids => exact (h.held hroom sourceId ids).2
  | commit handle =>
      change (d.store.commit _).lastId.toInt ≤ _
      rw [Store.commit_eq]
      exact Int.le_add_of_nonneg_right (Int.natCast_nonneg _)
  | writeState state =>
      change (Store.writeState state d.store).2.lastId.toInt ≤ _
      rw [Store.writeState]
      split <;> exact Int.le_add_of_nonneg_right (Int.natCast_nonneg _)
  | upsertTags handle tags => exact Int.le_add_of_nonneg_right (Int.natCast_nonneg _)
  | link handle id tagIds => exact Int.le_add_of_nonneg_right (Int.natCast_nonneg _)
  | rollback handle => exact Int.le_add_of_nonneg_right (Int.natCast_nonneg _)
  | drop handle => exact Int.le_add_of_nonneg_right (Int.natCast_nonneg _)

/-- No move changes what is planned to fail. -/
theorem plan_perform (m : Move) : (m.perform d).store.plan = d.store.plan := by
  cases m with
  | insert a =>
      change (Store.insert a d.store).2.plan = _
      rw [Store.insert_snd]
  | upsert handle a =>
      change (Store.upsert _ a d.store).2.plan = _
      rw [Store.upsert_snd]
  | held sourceId ids =>
      change (Store.held sourceId ids d.store).2.plan = _
      rw [Store.held_eq]
      split
      · rfl
      · exact Store.plan_intruded d.store
  | commit handle =>
      change (d.store.commit _).plan = _
      rw [Store.commit_eq]
  | writeState state =>
      change (Store.writeState state d.store).2.plan = _
      rw [Store.writeState]
      split <;> rfl
  | upsertTags handle tags => rfl
  | link handle id tagIds => rfl
  | rollback handle => rfl
  | drop handle => rfl

end Move

/-- **No moves in a row make a store unsound**, and the room that they do not need is left. -/
theorem Desk.sound_performAll {d : Desk} {own : Write → Prop} {n : Nat} {moves : List Move}
    (h : d.store.Sound fun w => d.Pending w ∨ own w)
    (hroom : d.store.HasRoom (Move.demands d.store.plan moves + n)) :
    ((d.performAll moves).store.Sound fun w => (d.performAll moves).Pending w ∨ own w) ∧
      (d.performAll moves).store.HasRoom n ∧
      (d.performAll moves).store.plan = d.store.plan := by
  induction moves generalizing d with
  | nil =>
      rw [Move.demands, Nat.zero_add] at hroom
      exact ⟨h, hroom, rfl⟩
  | cons m moves ih =>
      rw [Move.demands, Nat.add_assoc] at hroom
      have hone := hroom.mono (Nat.le_add_right _ _)
      have hrest := hroom.rest (m.lastId_perform h hone)
      rw [← m.plan_perform] at hrest
      obtain ⟨hsound, hroom', hplan⟩ := ih (m.sound h hone) hrest
      exact ⟨hsound, hroom', hplan.trans m.plan_perform⟩

/-- **Every reachable store is sound.** -/
theorem Desk.Reachable.sound {d : Desk} (h : d.Reachable) : d.store.Sound d.Pending := by
  induction h with
  | start plan =>
      exact (Store.sound_empty plan).weaken fun id a ⟨_, hw⟩ => absurd hw List.not_mem_nil
  | move m h hroom ih =>
      have hnothing : Store.Sound _ fun w => Desk.Pending _ w ∨ False :=
        ih.weaken fun _ _ hw => hw.elim (fun hw => hw) False.elim
      exact (m.sound hnothing hroom).weaken fun _ _ => .inl
  | replan plan h ih => exact ih.replan plan

/-- A store that moves lead to. -/
def Store.Reachable (s : Store) : Prop := ∃ opened, Desk.Reachable ⟨s, opened⟩

end FeedSync
