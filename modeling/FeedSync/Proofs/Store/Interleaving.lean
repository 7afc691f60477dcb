import FeedSync.Proofs.Cycle.Scene
import FeedSync.Proofs.Store.Ledger

/-!
# The last modification wins under any interleaving

Several writers may have transactions open on one store, and the internal id of an article is fixed
when it is upserted, while whether it is written is decided when its transaction commits, against a
store that others may have changed since. Whatever the order of their steps, each row ends up in the
latest of all committed versions, what was not committed is never seen, and where no two versions
are equally late the order of the commits does not matter.

## Main statements

* `last_modified_wins` — any interleaving of any transactions.
-/

namespace FeedSync

namespace Store

variable {s s' : Store} {lot lot' : Lot}

/-- **What stores hold in which the same was written**: the same articles, tags and links. -/
theorem Written.same {s'' : Store} (h : Written lot s s') (h' : Written lot s s'') :
    (∀ key, s''.articleOf key = s'.articleOf key) ∧ s''.tags = s'.tags ∧ s''.links = s'.links :=
  ⟨fun key => (h'.articles key).trans (h.articles key).symm, h'.tags.trans h.tags.symm,
    h'.links.trans h.links.symm⟩

/-- Stores in which the same articles were written hold the same articles, if no two different
versions of one are equally late. -/
theorem Written.articleOf_congr {s'' : Store} (h : Written lot s s') (h' : Written lot' s s'')
    (hsame : ∀ a, a ∈ lot.articles ↔ a ∈ lot'.articles)
    (hties : ∀ a ∈ lot.articles, ∀ b ∈ lot.articles, a.key = b.key →
      a.lastModified = b.lastModified → a = b) (key : Article.Key) :
    s''.articleOf key = s'.articleOf key := by
  rw [h.articles, h'.articles]
  refine (mergeAll_congr (fun a => ?_) fun a ha b hb => ?_).symm
  · rw [mem_versionsOf, mem_versionsOf, hsame]
  · obtain ⟨ha, hakey⟩ := mem_versionsOf.mp ha
    obtain ⟨hb, hbkey⟩ := mem_versionsOf.mp hb
    exact hties a ha b hb (hakey.trans hbkey.symm)

/-- An existence query tells what was written. -/
theorem Written.get?_held (h : Written lot s s') (hundisturbed : s'.Undisturbed)
    {sourceId : String} {ids : List Int64} {held : Held}
    (hreply : (Store.held sourceId ids s').1 = .ok held) (e : Int64) (t : Instant) :
    held.get? e = some t ↔ e ∈ ids ∧ IsGreatest (s.modified lot (sourceId, e)) t := by
  rw [held_of_undisturbed hundisturbed] at hreply
  simp only at hreply
  split at hreply
  · nomatch hreply
  · obtain rfl := Except.ok.inj hreply
    rw [get?_heldOf, ← isGreatest_of_written h]
    by_cases he : e ∈ ids
    · rw [if_pos he]
      exact (and_iff_right he).symm
    · rw [if_neg he]
      exact ⟨nofun, fun hand => absurd hand.1 he⟩

end Store

/-- Different keys have different internal ids, whatever is interleaved. -/
theorem key_eq_of_id_eq {s : Store} {moves : List Move} (h : s.Reachable)
    (hroom : s.HasRoom (Move.demands s.plan moves)) {k k' : Article.Key} {row row' : StoredArticle}
    (hrow : (s.desk.performAll moves).store.row? k = some row)
    (hrow' : (s.desk.performAll moves).store.row? k' = some row') (hid : row.id = row'.id) :
    k = k' := by
  obtain ⟨opened, hreachable⟩ := h
  have hstart : s.desk.store.Sound fun w => s.desk.Pending w ∨ False :=
    hreachable.sound.weaken fun id a hw =>
      hw.elim (fun ⟨_, hw⟩ => absurd hw List.not_mem_nil) False.elim
  have hsound := (Desk.sound_performAll (n := 0) (d := s.desk) hstart hroom).1
  exact hsound.owner _ k k' (.inl ⟨row, hrow, rfl⟩) (.inl ⟨row', hrow', hid.symm⟩)

/-- **The last modification wins.** However the steps of any transactions interleave on a store, as
long as no one stores articles otherwise: an existence query answers with the greatest of the last
modifications that were stored before or committed so far; so does each row, which is never removed,
keeps its internal id and never moves back; different keys have different internal ids (if the
counter of internal ids does not overflow); what handles do that never commit changes no article, no
tag and no link; and in whatever order the transactions commit, the rows hold the same, if no two
different committed versions of an article are equally late. -/
theorem last_modified_wins {s : Store} {moves : List Move} (hundisturbed : s.Undisturbed)
    (hmoves : ∀ m ∈ moves, m.IsTransactional) :
    let after := (s.desk.performAll moves).store
    let committed := (Desk.Ledger.ofMoves s.plan moves).committed
    (∀ sourceId ids held, (Store.held sourceId ids after).1 = .ok held → ∀ e t,
      held.get? e = some t ↔ e ∈ ids ∧ IsGreatest (s.modified committed (sourceId, e)) t) ∧
    (∀ key t,
      after.lastModified? key.1 key.2 = some t ↔ IsGreatest (s.modified committed key) t) ∧
    (∀ more, (∀ m ∈ more, m.IsTransactional) →
      after.Kept (s.desk.performAll (moves ++ more)).store) ∧
    (s.Reachable → s.HasRoom (Move.demands s.plan moves) → ∀ k k' row row',
      after.row? k = some row → after.row? k' = some row' → row.id = row'.id → k = k') ∧
    (∀ lost : Nat → Bool, (∀ h, lost h = true → .commit h ∉ moves) →
      let without := (s.desk.performAll (moves.filter fun m => !m.handle?.any lost)).store
      (∀ key, without.articleOf key = after.articleOf key) ∧
        without.tags = after.tags ∧ without.links = after.links) ∧
    (∀ moves', (∀ h, moves.filter (·.handle? = some h) = moves'.filter (·.handle? = some h)) →
      (∀ m ∈ moves', m.IsTransactional) →
      (∀ a ∈ committed.articles, ∀ b ∈ committed.articles, a.key = b.key →
        a.lastModified = b.lastModified → a = b) →
      ∀ key, (s.desk.performAll moves').store.articleOf key = after.articleOf key) := by
  intro after committed
  have hwritten : s.Written committed after :=
    (Desk.Ledger.books_performAll hundisturbed hmoves).written
  have hafter : after.Undisturbed := (Desk.frame_performAll (d := s.desk) hundisturbed hmoves).1
  refine ⟨?_, ?_, ?_, ?_, ?_, ?_⟩
  · intro sourceId ids held hreply
    exact hwritten.get?_held hafter hreply
  · intro key
    exact Store.isGreatest_of_written hwritten
  · intro more hmore
    have happend : s.desk.performAll (moves ++ more) = (s.desk.performAll moves).performAll more :=
      List.foldl_append
    rw [happend]
    exact Desk.kept_performAll hafter hmore
  · intro hreachable hroom k k' row row' hrow hrow'
    exact key_eq_of_id_eq hreachable hroom hrow hrow'
  · intro lost hlost
    have hwithout := (Desk.Ledger.books_performAll hundisturbed fun m hm =>
      hmoves m (List.mem_of_mem_filter (p := fun m : Move => !m.handle?.any lost) hm)).written
    rw [Desk.Ledger.committed_filter hlost] at hwithout
    exact hwritten.same hwithout
  · intro moves' horder hmoves' hties
    exact hwritten.articleOf_congr (Desk.Ledger.books_performAll hundisturbed hmoves').written
      (Desk.Ledger.mem_committed_congr horder) hties

/-- Two handles with a version each of the same new article, the later one committed first, an
upsert that fails and a handle that is dropped: an existence query answers with the later version of
the first article and knows nothing of the other one, as if the dropped handle had done nothing. -/
theorem last_modified_wins_over_late_commit :
    let s : Store := { plan := { upserts := [3] } }
    let moves : List Move := [.upsert 0 (.bare 1 .sooner []), .upsert 1 (.bare 1 .later []),
      .upsert 0 (.bare 3 .later []), .upsert 2 (.bare 2 .later []), .link 2 3 [7], .commit 1,
      .commit 0, .drop 2]
    let after := (s.desk.performAll moves).store
    let committed := (Desk.Ledger.ofMoves s.plan moves).committed
    committed.articles = [.bare 1 .later [], .bare 1 .sooner []] ∧
      (Store.held "ecb" [1, 2] after).1.isOk = true ∧
      (∀ held, (Store.held "ecb" [1, 2] after).1 = .ok held → ∀ e t,
        held.get? e = some t ↔ e ∈ [1, 2] ∧ IsGreatest (s.modified committed ("ecb", e)) t) ∧
      after.lastModified? "ecb" 1 = some .later ∧ after.lastModified? "ecb" 2 = none ∧
      (∀ k k' row row', after.row? k = some row → after.row? k' = some row' → row.id = row'.id →
        k = k') ∧
      (s.desk.performAll
        (moves.filter fun m => !m.handle?.any (· = 2))).store.links = after.links := by
  intro s moves after committed
  have hundisturbed : s.Undisturbed := by decide
  have hmoves : ∀ m ∈ moves, m.IsTransactional := by decide
  obtain ⟨hread, -, -, hids, hlost, -⟩ := last_modified_wins hundisturbed hmoves
  have hdropped : ∀ h, decide (h = 2) = true → .commit h ∉ moves := fun h hh => by
    obtain rfl : h = 2 := of_decide_eq_true hh
    decide +kernel
  exact ⟨by decide +kernel, by decide +kernel, hread "ecb" [1, 2], by decide +kernel,
    by decide +kernel, hids ⟨_, .start _⟩ (by decide), (hlost _ hdropped).2.2⟩

end FeedSync
