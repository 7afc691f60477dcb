import FeedSync.Proofs.Store.Settle

/-!
# Who owns an internal id

Internal ids are given out by a counter, to a key that has neither a row nor a pending write in the
transaction at hand. Two transactions can thus hold different ids for one key, but never one id for
two keys. `Store.Sound` is the invariant that says so, together with what else every store keeps
that is only used through its operations.

## Main statements

* `Sound.upsert`, `Sound.commit`, `Sound.insert`, `Sound.held` — every operation keeps a store
  sound, as long as the counter does not overflow.
* `Sound.settleAll` — so do the saves of any articles.
-/

namespace FeedSync

namespace Store

/-- A key **owns** an internal id if its row has it, or if an article of that key is pending under
it somewhere. -/
def Owns (s : Store) (pending : Write → Prop) (id : Int64) (key : Article.Key) : Prop :=
  (∃ row, s.row? key = some row ∧ row.id = id) ∨ ∃ a, pending (.article id a) ∧ a.key = key

/-- The counter of internal ids can still be increased so many times. -/
def HasRoom (s : Store) (n : Nat) : Prop := s.lastId.toInt + n ≤ Int64.maxValue.toInt

instance (s : Store) (n : Nat) : Decidable (s.HasRoom n) :=
  inferInstanceAs (Decidable (s.lastId.toInt + n ≤ Int64.maxValue.toInt))

/-- **A sound store**, as far as its rows, the writes pending for it and its sync states go. -/
structure Sound (s : Store) (pending : Write → Prop) : Prop where
  /-- A row holds an article of its key. -/
  keyed : ∀ key row, s.row? key = some row → row.article.key = key
  /-- No internal id has two owners. -/
  owner : ∀ id key key', s.Owns pending id key → s.Owns pending id key' → key = key'
  /-- Every internal id was given out by the counter. -/
  issued : ∀ id key, s.Owns pending id key → id ≤ s.lastId
  /-- A sync state is kept under the id of its source. -/
  states : ∀ sourceId state, s.states.get? sourceId = some state → state.sourceId = sourceId

variable {s s' : Store} {pending pending' : Write → Prop} {a : Article} {id : Int64}

/-- What owns an id with fewer articles pending owns it with more. -/
theorem Owns.mono {key : Article.Key} (h : s.Owns pending id key)
    (hpending : ∀ id a, pending (.article id a) → pending' (.article id a)) :
    s.Owns pending' id key :=
  h.imp_right fun ⟨a, ha, hkey⟩ => ⟨a, hpending id a ha, hkey⟩

/-- A store stays sound when articles are no longer pending. -/
theorem Sound.weaken (h : s.Sound pending)
    (hpending : ∀ id a, pending' (.article id a) → pending (.article id a)) :
    s.Sound pending' where
  keyed := h.keyed
  owner id key key' hk hk' := h.owner id key key' (hk.mono hpending) (hk'.mono hpending)
  issued id key hk := h.issued id key (hk.mono hpending)
  states := h.states

/-- Soundness looks only at the rows, the counter of internal ids and the sync states. -/
theorem Sound.of_eq (h : s.Sound pending) (harticles : s'.articles = s.articles)
    (hlast : s.lastId ≤ s'.lastId) (hstates : s'.states = s.states) : s'.Sound pending := by
  have hrow : ∀ key, s'.row? key = s.row? key := fun key => congrArg (Table.get? · key) harticles
  have howns : ∀ id key, s'.Owns pending id key ↔ s.Owns pending id key := fun id key => by
    rw [Owns, Owns, hrow]
  constructor
  · intro key row hr
    exact h.keyed key row (hrow key ▸ hr)
  · intro id key key' hk hk'
    exact h.owner id key key' ((howns id key).mp hk) ((howns id key').mp hk')
  · intro id key hk
    exact Int64.le_trans (h.issued id key ((howns id key).mp hk)) hlast
  · intro sourceId state hs
    exact h.states sourceId state (hstates ▸ hs)

/-- A store stays sound when an existence query is counted. -/
theorem Sound.asked (h : s.Sound pending) : s.asked.Sound pending :=
  h.of_eq rfl (Int64.le_refl _) rfl

/-- A store stays sound when other failures are planned. -/
theorem Sound.replan (h : s.Sound pending) (plan : FaultPlan) : Sound { s with plan } pending :=
  h.of_eq rfl (Int64.le_refl _) rfl

/-- The store without anything in it is sound. -/
theorem sound_empty (plan : FaultPlan) : ({ plan } : Store).Sound fun _ => False where
  keyed _ _ h := nomatch h
  owner _ _ _ h := by
    rcases h with ⟨_, h, -⟩ | ⟨_, h, -⟩
    · nomatch h
    · exact h.elim
  issued _ _ h := by
    rcases h with ⟨_, h, -⟩ | ⟨_, h, -⟩
    · nomatch h
    · exact h.elim
  states _ _ h := nomatch h

/-! ### Giving out internal ids -/

/-- With room left the counter only goes up. -/
theorem HasRoom.toInt_succ (h : s.HasRoom 1) : (s.lastId + 1).toInt = s.lastId.toInt + 1 := by
  have hlow := s.lastId.le_toInt
  rw [HasRoom, Int64.toInt_maxValue] at h
  rw [Int64.toInt_add]
  change Int.bmod (s.lastId.toInt + 1) (2 ^ 64) = _
  exact Int.bmod_eq_of_le (by omega) (by omega)

/-- Room for many is room for fewer. -/
theorem HasRoom.mono {n m : Nat} (h : s.HasRoom n) (hle : m ≤ n) : s.HasRoom m := by
  rw [HasRoom] at *
  omega

/-- What is left of the room when the counter was moved up. -/
theorem HasRoom.rest {n m : Nat} (h : s.HasRoom (m + n))
    (hle : s'.lastId.toInt ≤ s.lastId.toInt + m) : s'.HasRoom n := by
  rw [HasRoom] at *
  omega

/-- Giving out an internal id moves the counter up by one at most. -/
theorem HasRoom.lastId_idFor (h : s.HasRoom 1) (key : Article.Key) (p : Option Int64) :
    s.lastId ≤ (idFor key p s).2.lastId ∧
      (idFor key p s).2.lastId.toInt ≤ s.lastId.toInt + 1 := by
  have hsucc := h.toInt_succ
  rw [idFor, Int64.le_iff_toInt_le]
  split <;> simp only <;> omega

/-- The internal id for a key is one that it owns, or the next one of the counter. -/
theorem owns_idOf {key : Article.Key} {p : Option Int64}
    (hp : ∀ id, p = some id → s.Owns pending id key) :
    s.Owns pending (s.idOf key p) key ∨
      s.idOf key p = s.lastId + 1 ∧ (idFor key p s).2.lastId = s.lastId + 1 := by
  rw [idOf, idFor]
  cases hrow : s.row? key with
  | some row => exact .inl (.inl ⟨row, hrow, rfl⟩)
  | none =>
      cases p with
      | some id => exact .inl (hp id rfl)
      | none => exact .inr ⟨rfl, rfl⟩

/-- **The internal id for a key is owned by no other key.** -/
theorem Sound.eq_of_owns_idOf {key key' : Article.Key} {p : Option Int64} (h : s.Sound pending)
    (hroom : s.HasRoom 1) (hp : ∀ id, p = some id → s.Owns pending id key)
    (hkey : s.Owns pending (s.idOf key p) key') : key' = key := by
  rcases owns_idOf hp with howns | ⟨hfresh, -⟩
  · exact h.owner _ _ _ hkey howns
  · -- the counter has not reached this id yet
    have hle := Int64.le_iff_toInt_le.mp (h.issued _ _ hkey)
    rw [hfresh, hroom.toInt_succ] at hle
    omega

/-- A store stays sound when it gives out an internal id for a key and a write of that key under it
becomes pending. -/
theorem Sound.idFor {p : Option Int64} (h : s.Sound pending) (hroom : s.HasRoom 1)
    (hp : ∀ id, p = some id → s.Owns pending id a.key) :
    (idFor a.key p s).2.Sound fun w => pending w ∨ w = .article (s.idOf a.key p) a := by
  have hlast := (hroom.lastId_idFor a.key p).1
  have heq := congrArg Prod.snd (idFor_eq (s := s) a.key p)
  have hrow : ∀ key, (Store.idFor a.key p s).2.row? key = s.row? key := fun key => by rw [heq]; rfl
  have howns : ∀ {id key}, (Store.idFor a.key p s).2.Owns
      (fun w => pending w ∨ w = .article (s.idOf a.key p) a) id key →
      s.Owns pending id key ∨ id = s.idOf a.key p ∧ key = a.key := by
    rintro id key (⟨row, hr, hid⟩ | ⟨b, hb | hb, hkey⟩)
    · exact .inl (.inl ⟨row, hrow key ▸ hr, hid⟩)
    · exact .inl (.inr ⟨b, hb, hkey⟩)
    · obtain ⟨rfl, rfl⟩ := Write.article.inj hb
      exact .inr ⟨rfl, hkey.symm⟩
  constructor
  · intro key row hr
    exact h.keyed key row (hrow key ▸ hr)
  · intro id key key' hk hk'
    rcases howns hk with hk | ⟨rfl, rfl⟩
    · rcases howns hk' with hk' | ⟨rfl, rfl⟩
      · exact h.owner id key key' hk hk'
      · exact h.eq_of_owns_idOf hroom hp hk
    · rcases howns hk' with hk' | ⟨-, rfl⟩
      · exact (h.eq_of_owns_idOf hroom hp hk').symm
      · rfl
  · intro id key hk
    rcases howns hk with hk | ⟨rfl, rfl⟩
    · exact Int64.le_trans (h.issued id key hk) hlast
    · rcases owns_idOf hp with hown | ⟨hfresh, hnext⟩
      · exact Int64.le_trans (h.issued _ _ hown) hlast
      · rw [hfresh, hnext]
        exact Int64.le_refl _
  · intro sourceId state hs
    refine h.states sourceId state ?_
    rwa [heq] at hs

/-! ### Writing -/

/-- A store stays sound when a row is set to an article of its key, under an internal id that the
key owns. -/
theorem Sound.set_row {key : Article.Key} (h : s.Sound pending) (hown : s.Owns pending id key)
    (hkey : a.key = key) :
    ({ s with articles := s.articles.set key ⟨id, a⟩ } : Store).Sound pending := by
  have hrow : ∀ {k row}, ({ s with articles := s.articles.set key ⟨id, a⟩ } : Store).row? k =
      some row → s.row? k = some row ∨ k = key ∧ row = ⟨id, a⟩ := by
    intro k row hr
    rw [row?, Table.get?_set] at hr
    split at hr
    · next hk => exact .inr ⟨hk, (Option.some.inj hr).symm⟩
    · exact .inl hr
  have howns : ∀ {id' k}, ({ s with articles := s.articles.set key ⟨id, a⟩ } : Store).Owns pending
      id' k → s.Owns pending id' k := by
    rintro id' k (⟨row, hr, hid⟩ | hpend)
    · rcases hrow hr with hr | ⟨rfl, rfl⟩
      · exact .inl ⟨row, hr, hid⟩
      · exact hid ▸ hown
    · exact .inr hpend
  constructor
  · intro k row hr
    rcases hrow hr with hr | ⟨rfl, rfl⟩
    · exact h.keyed k row hr
    · exact hkey
  · exact fun id' k k' hk hk' => h.owner id' k k' (howns hk) (howns hk')
  · exact fun id' k hk => h.issued id' k (howns hk)
  · exact h.states

/-- A store stays sound when a pending write is made permanent. -/
theorem Sound.apply {w : Write} (h : s.Sound pending) (hw : pending w) :
    (s.apply w).Sound pending := by
  cases w with
  | article id a =>
      rw [Store.apply]
      cases hrow : s.row? a.key with
      | none => exact h.set_row (.inr ⟨a, hw, rfl⟩) rfl
      | some row =>
          simp only
          split
          · exact h
          · exact h.set_row (.inl ⟨row, hrow, rfl⟩) rfl
  | tags tags => exact h.of_eq rfl (Int64.le_refl _) rfl
  | links j ids => exact h.of_eq rfl (Int64.le_refl _) rfl

/-- A store stays sound when a transaction is committed. -/
theorem Sound.commit {tx : Transaction} (h : s.Sound pending) (htx : ∀ w ∈ tx, pending w) :
    (s.commit tx).Sound pending := by
  have hfold : (tx.foldl Store.apply s).Sound pending := by
    induction tx generalizing s with
    | nil => exact h
    | cons w tx ih =>
        exact ih (h.apply (htx w List.mem_cons_self)) fun w' hw' =>
          htx w' (List.mem_cons_of_mem w hw')
  exact hfold.of_eq rfl (Int64.le_refl _) rfl

/-- The internal id under which a transaction has an article pending is owned by its key. -/
theorem owns_pendingId? {tx : Transaction} {key : Article.Key} (htx : ∀ w ∈ tx, pending w)
    (h : pendingId? tx key = some id) : s.Owns pending id key := by
  obtain ⟨w, hw, hid⟩ := List.exists_of_findSome?_eq_some h
  cases w with
  | article id' b =>
      simp only at hid
      split at hid
      · next hkey =>
          obtain rfl := Option.some.inj hid
          exact .inr ⟨b, htx _ hw, hkey⟩
      · nomatch hid
  | tags tags => nomatch hid
  | links j ids => nomatch hid

/-- An upsert moves the counter of internal ids up by one at most. -/
theorem HasRoom.lastId_upsert (h : s.HasRoom 1) (tx : Transaction) (a : Article) :
    s.lastId ≤ (upsert tx a s).2.lastId ∧
      (upsert tx a s).2.lastId.toInt ≤ s.lastId.toInt + 1 := by
  rw [upsert]
  split
  · exact ⟨Int64.le_refl _, by simp only; omega⟩
  · have hcounted : ({ s with counts.upserts := s.counts.upserts ++ [a.externalId] } :
      Store).HasRoom 1 := h
    exact hcounted.lastId_idFor a.key _

/-- A store stays sound when an article is upserted, and its write may become pending. -/
theorem Sound.upsert {tx : Transaction} (h : s.Sound pending) (hroom : s.HasRoom 1)
    (htx : ∀ w ∈ tx, pending w) :
    (upsert tx a s).2.Sound fun w => pending w ∨ w ∈ (upsert tx a s).1.1 := by
  have hcounted : ({ s with counts.upserts := s.counts.upserts ++ [a.externalId] } : Store).Sound
      pending := h.of_eq rfl (Int64.le_refl _) rfl
  by_cases hmem : a.externalId ∈ s.plan.upserts
  · obtain ⟨e, he⟩ : ∃ e, (Store.upsert tx a s).1 = (tx, .error e) := upsert_of_mem hmem
    rw [he, Store.upsert, if_pos hmem]
    exact hcounted.weaken fun id b hb => hb.elim (fun hb => hb) (htx _)
  · have hfor := hcounted.idFor (a := a) (p := pendingId? tx a.key) hroom fun id hid =>
      owns_pendingId? htx hid
    rw [upsert_of_not_mem hmem, Store.upsert, if_neg hmem]
    refine hfor.weaken fun id b hb => ?_
    rcases hb with hb | hb
    · exact .inl hb
    · rcases List.mem_append.mp hb with hb | hb
      · exact .inl (htx _ hb)
      · exact .inr (List.mem_singleton.mp hb)

/-! ### Other writers -/

/-- What an insertion does besides setting a row. -/
theorem insert_snd (a : Article) (s : Store) : (insert a s).2 =
    { s with
      lastId := (idFor a.key none s).2.lastId
      tags := (s.writeTags a.tags).tags
      links := s.links.set (s.idOf a.key) a.tagIds
      articles := s.articles.set a.key ⟨s.idOf a.key, a⟩ } := by
  rw [insert]
  change ({ (idFor a.key none s).2.writeTags a.tags with
    links := (idFor a.key none s).2.links.set (idFor a.key none s).1 a.tagIds
    articles := (idFor a.key none s).2.articles.set a.key ⟨(idFor a.key none s).1, a⟩ } : Store) = _
  rw [idFor_eq]
  rfl

/-- A store stays sound when an article is inserted. -/
theorem Sound.insert (h : s.Sound pending) (hroom : s.HasRoom 1) :
    (insert a s).2.Sound pending := by
  have hfor := h.idFor (a := a) (p := none) hroom fun id hid => nomatch hid
  have hset := hfor.set_row (.inr ⟨a, .inr rfl, rfl⟩) (rfl : a.key = a.key)
  refine (hset.weaken fun _ _ => .inl).of_eq ?_ ?_ ?_
  · rw [insert_snd, idFor_eq]
  · rw [insert_snd]
    exact Int64.le_refl _
  · rw [insert_snd, idFor_eq]

/-- An insertion moves the counter of internal ids up by one at most. -/
theorem HasRoom.lastId_insert (h : s.HasRoom 1) (a : Article) :
    s.lastId ≤ (insert a s).2.lastId ∧ (insert a s).2.lastId.toInt ≤ s.lastId.toInt + 1 := by
  rw [insert_snd]
  exact h.lastId_idFor a.key none

/-- An insertion needs room for one internal id at most. -/
theorem HasRoom.insert {n : Nat} (h : s.HasRoom (n + 1)) (a : Article) :
    s.HasRoom 1 ∧ (insert a s).2.HasRoom n := by
  have hone := h.mono (Nat.le_add_left 1 n)
  rw [Nat.add_comm] at h
  exact ⟨hone, h.rest (hone.lastId_insert a).2⟩

/-- Insertions in a row keep a store sound and move the counter of internal ids up by one each at
most. -/
theorem Sound.foldl_insert (h : s.Sound pending) (l : List (Nat × Article))
    (hroom : s.HasRoom l.length) :
    (l.foldl (fun s intrusion => (Store.insert intrusion.2 s).2) s).Sound pending ∧
      (l.foldl (fun s intrusion => (Store.insert intrusion.2 s).2) s).lastId.toInt ≤
        s.lastId.toInt + l.length := by
  induction l generalizing s with
  | nil => exact ⟨h, Int.le_add_of_nonneg_right (Int.natCast_nonneg _)⟩
  | cons intrusion l ih =>
      obtain ⟨hone, hrest⟩ := hroom.insert intrusion.2
      obtain ⟨hsound, hlast⟩ := ih (h.insert hone) hrest
      have hle := (hone.lastId_insert intrusion.2).2
      refine ⟨hsound, Int.le_trans hlast ?_⟩
      rw [List.length_cons]
      omega

/-- Insertions change neither what is planned to fail nor the sync states. -/
theorem frame_foldl_insert (l : List (Nat × Article)) (s : Store) :
    (l.foldl (fun s intrusion => (Store.insert intrusion.2 s).2) s).plan = s.plan ∧
      (l.foldl (fun s intrusion => (Store.insert intrusion.2 s).2) s).states = s.states := by
  induction l generalizing s with
  | nil => exact ⟨rfl, rfl⟩
  | cons intrusion l ih =>
      rw [List.foldl_cons, (ih _).1, (ih _).2, insert_snd]
      exact ⟨rfl, rfl⟩

/-- Intruding writers do not change what is planned to fail. -/
theorem plan_intruded (s : Store) : s.intruded.plan = s.plan := (frame_foldl_insert _ s.asked).1

/-- Intruding writers do not change the sync states. -/
theorem states_intruded (s : Store) : s.intruded.states = s.states :=
  (frame_foldl_insert _ s.asked).2

/-- Intruding writers are not counted. -/
theorem counts_intruded (s : Store) : s.intruded.counts = s.asked.counts := by
  have hfold : ∀ (l : List (Nat × Article)) (s : Store),
      (l.foldl (fun s intrusion => (Store.insert intrusion.2 s).2) s).counts = s.counts := by
    intro l
    induction l with
    | nil => exact fun s => rfl
    | cons intrusion l ih =>
        intro s
        rw [List.foldl_cons, ih, insert_snd]
  exact hfold _ s.asked

/-- A store stays sound when an existence query is asked, before which other writers may intrude. -/
theorem Sound.held (h : s.Sound pending) (hroom : s.HasRoom s.plan.intrusions.length)
    (sourceId : String) (ids : List Int64) : (held sourceId ids s).2.Sound pending ∧
      (Store.held sourceId ids s).2.lastId.toInt ≤ s.lastId.toInt + s.plan.intrusions.length := by
  rw [Store.held]
  split
  · exact ⟨h.asked, Int.le_add_of_nonneg_right (Int.natCast_nonneg _)⟩
  · have hlen := List.length_filter_le (fun intrusion : Nat × Article =>
      decide (intrusion.1 = s.counts.queries + 1)) s.plan.intrusions
    obtain ⟨hsound, hlast⟩ := h.asked.foldl_insert _ (hroom.mono hlen)
    refine ⟨hsound, Int.le_trans hlast ?_⟩
    change s.lastId.toInt + _ ≤ _
    omega

/-! ### The saves of a cycle -/

/-- A save moves the counter of internal ids up by one at most. -/
theorem HasRoom.lastId_settle (h : s.HasRoom 1) (a : Article) :
    s.lastId ≤ (s.settle a).lastId ∧ (s.settle a).lastId.toInt ≤ s.lastId.toInt + 1 := by
  have hasked : s.asked.HasRoom 1 := h
  rcases settle_cases s a with ⟨-, h⟩ | ⟨-, h⟩ | ⟨-, h⟩
  · rw [h]
    exact ⟨Int64.le_refl _, by change s.lastId.toInt ≤ _; omega⟩
  · rw [h]
    exact hasked.lastId_upsert [] a
  · rw [h, commit_eq]
    exact hasked.lastId_upsert [] a

/-- A save needs room for one internal id at most. -/
theorem HasRoom.settle {n : Nat} (h : s.HasRoom (n + 1)) (a : Article) :
    s.HasRoom 1 ∧ (s.settle a).HasRoom n := by
  have hone := h.mono (Nat.le_add_left 1 n)
  rw [Nat.add_comm] at h
  exact ⟨hone, h.rest (hone.lastId_settle a).2⟩

/-- Saves need room for one internal id each at most. -/
theorem HasRoom.settleAll {articles : List Article} {n : Nat}
    (h : s.HasRoom (articles.length + n)) : (s.settleAll articles).HasRoom n := by
  induction articles generalizing s with
  | nil =>
      rw [List.length_nil, Nat.zero_add] at h
      exact h
  | cons a rest ih =>
      rw [List.length_cons, Nat.add_right_comm] at h
      exact ih (h.settle a).2

/-- A store stays sound when the unit of work of an article is rolled back. -/
theorem Sound.upsert_rollback (h : s.Sound pending) (hroom : s.HasRoom 1) :
    (Store.upsert [] a s).2.rollback.Sound pending := by
  have hupsert := h.upsert (a := a) hroom fun w hw => absurd hw List.not_mem_nil
  exact (hupsert.weaken fun _ _ => .inl).of_eq rfl (Int64.le_refl _) rfl

/-- A store stays sound when the unit of work of an article is committed. -/
theorem Sound.upsert_commit (h : s.Sound pending) (hroom : s.HasRoom 1)
    (hmem : a.externalId ∉ s.plan.upserts) :
    ((Store.upsert [] a s).2.commit (a.writes (s.idOf a.key))).Sound pending := by
  have hupsert := h.upsert (a := a) hroom fun w hw => absurd hw List.not_mem_nil
  rw [upsert_of_not_mem hmem] at hupsert
  have hwrites : (Store.upsert [] a s).2.Sound
      fun w => pending w ∨ w ∈ a.writes (s.idOf a.key) :=
    hupsert.weaken fun id b hb => hb.imp_right fun hb => by
      obtain ⟨rfl, rfl⟩ := Article.mem_writes.mp hb
      exact List.mem_singleton_self _
  exact (hwrites.commit fun w => .inr).weaken fun _ _ => .inl

/-- A store stays sound when an article is saved. -/
theorem Sound.settle (h : s.Sound pending) (hroom : s.HasRoom 1) :
    (s.settle a).Sound pending := by
  rcases settle_cases s a with ⟨-, heq⟩ | ⟨-, heq⟩ | ⟨hs, heq⟩
  · rw [heq]
    exact h.asked
  · rw [heq]
    exact h.asked.upsert_rollback hroom
  · have hmem : a.externalId ∉ s.asked.plan.upserts :=
      (FaultPlan.accepts_iff.mp (Bool.and_eq_true_iff.mp hs).2).1
    rw [heq]
    exact h.asked.upsert_commit hroom hmem

/-- **The saves of any articles keep a store sound.** -/
theorem Sound.settleAll {articles : List Article} (h : s.Sound pending)
    (hroom : s.HasRoom articles.length) : (s.settleAll articles).Sound pending := by
  induction articles generalizing s with
  | nil => exact h
  | cons a rest ih =>
      obtain ⟨hone, hrest⟩ := hroom.settle a
      exact ih (h.settle hone) hrest

/-! ### Sync states -/

/-- A store stays sound when a sync state is written. -/
theorem Sound.writeState (h : s.Sound pending) (state : SyncState) :
    (writeState state s).2.Sound pending := by
  rw [Store.writeState]
  split
  · exact h.of_eq rfl (Int64.le_refl _) rfl
  · refine { h with states := fun sourceId state' hs => ?_ }
    change (s.states.set state.sourceId state).get? sourceId = some state' at hs
    rw [Table.get?_set] at hs
    split at hs
    · next heq =>
        obtain rfl := Option.some.inj hs
        exact heq.symm
    · exact h.states sourceId state' hs

/-- The sync state of a source is that of this source. -/
theorem Sound.sourceId_stateOf (h : s.Sound pending) (sourceId : String) :
    (s.stateOf sourceId).sourceId = sourceId := by
  rw [stateOf]
  cases hs : s.states.get? sourceId with
  | none => rfl
  | some state => exact h.states sourceId state hs

end Store

end FeedSync
