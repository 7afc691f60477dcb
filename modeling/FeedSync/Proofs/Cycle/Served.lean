import FeedSync.Proofs.Cycle.Advance
import FeedSync.Proofs.Cycle.Alone
import FeedSync.Proofs.Cycle.Protocol

/-!
# Cycles served by a store in memory

The call protocol of a cycle holds for any replies. This module adds what is known of them when the
calls are answered by a store in memory, whatever failures are planned for it and whoever writes to
it right before its existence queries: a unit of work that is committed holds the article that it
was begun for, and a sync state changes only when it is written.

## Main definitions

* `Store.Serves` — a store answers the calls of a trace.
* `committedIn`, `writtenIn` — the articles and the sync states that a trace commits and writes.

## Main statements

* `serves_outcome` — the calls of a cycle that no one disturbs are served by its store.
* `HandlesAll.committed_eq` — the committed articles are those that count as saved.
* `states_outcome` — a cycle brings the sync state of its source up to date if it succeeds, and
  changes none otherwise.
-/

namespace FeedSync

open Program

variable {s s' : Store} {w : Replies} {a : Article}

namespace Cycle

/-- The articles whose units of work a trace commits, in order. -/
def committedIn (t : Trace (Collaborators Transaction)) : List Article :=
  t.filterMap fun x => x.request.committed?

/-- The sync states that a trace writes, in order. -/
def writtenIn (t : Trace (Collaborators Transaction)) : List SyncState :=
  t.filterMap fun x => x.request.writtenState?

theorem committedIn_append (t t' : Trace (Collaborators Transaction)) :
    committedIn (t ++ t') = committedIn t ++ committedIn t' :=
  List.filterMap_append

theorem writtenIn_append (t t' : Trace (Collaborators Transaction)) :
    writtenIn (t ++ t') = writtenIn t ++ writtenIn t' :=
  List.filterMap_append

end Cycle

/-! ### Served calls -/

/-- The reply of an exchange is one that some store in memory gives, or one of the others. -/
def Exchange.Served (w : Replies) (x : Exchange (Collaborators Transaction)) : Prop :=
  ∃ (s : Store) (calls : List (Call Transaction)),
    x.reply = (s.answer (w.external calls) x.request).1

namespace Store

/-- **A store serves the calls of a trace**, where others reply to what is not about it: it answers
them one after the other, and is left as another store. -/
def Serves (w : Replies) : Store → Trace (Collaborators Transaction) → Store → Prop
  | s, [], s' => s' = s
  | s, x :: t, s' => ∃ calls, x.reply = (s.answer (w.external calls) x.request).1 ∧
    Serves w (s.answer (w.external calls) x.request).2 t s'

variable {t t' : Trace (Collaborators Transaction)}

/-- Calls in a row. -/
theorem serves_append :
    s.Serves w (t ++ t') s' ↔ ∃ m, s.Serves w t m ∧ m.Serves w t' s' := by
  induction t generalizing s with
  | nil =>
      constructor
      · exact fun h => ⟨s, rfl, h⟩
      · rintro ⟨_, rfl, h⟩
        exact h
  | cons x t ih =>
      constructor
      · rintro ⟨calls, hreply, h⟩
        obtain ⟨m, hm, h'⟩ := ih.mp h
        exact ⟨m, ⟨calls, hreply, hm⟩, h'⟩
      · rintro ⟨m, ⟨calls, hreply, hm⟩, h'⟩
        exact ⟨calls, hreply, ih.mpr ⟨m, hm, h'⟩⟩

/-- Each of the calls that a store serves is served. -/
theorem Serves.served (h : s.Serves w t s') : ∀ x ∈ t, x.Served w := by
  induction t generalizing s with
  | nil => exact fun x hx => nomatch hx
  | cons x t ih =>
      obtain ⟨calls, hreply, h⟩ := h
      exact List.forall_mem_cons.mpr ⟨⟨s, calls, hreply⟩, ih h⟩

/-- A call that reads a clock or writes to the log leaves the store. -/
theorem answer_of_isAmbient {external : (c : External) → c.Reply} {c : Call Transaction}
    (h : c.isAmbient = true) : (s.answer external c).2 = s := by
  cases c with
  | external c => rfl
  | _ => nomatch h

/-- Only writing a sync state changes the sync states. -/
theorem states_answer {external : (c : External) → c.Reply} {c : Call Transaction}
    (h : c.writtenState? = none) : (s.answer external c).2.states = s.states := by
  cases c with
  | held sourceId ids =>
      change (held sourceId ids s).2.states = _
      rw [held_eq]
      split
      · rfl
      · exact s.states_intruded
  | upsert tx a =>
      change (upsert tx a s).2.states = _
      rw [upsert_snd]
  | commit tx =>
      change (s.commit tx).states = _
      rw [commit_eq]
  | writeState state => nomatch h
  | _ => rfl

/-- Calls that write no sync state leave the sync states. -/
theorem Serves.states_eq (h : s.Serves w t s')
    (hcalm : Cycle.writtenIn t = []) : s'.states = s.states := by
  have hcalm := List.filterMap_eq_nil_iff.mp hcalm
  induction t generalizing s with
  | nil => exact congrArg Store.states h
  | cons x t ih =>
      obtain ⟨calls, -, h⟩ := h
      obtain ⟨hx, hcalm⟩ := List.forall_mem_cons.mp hcalm
      exact (ih h (List.filterMap_eq_nil_iff.mpr hcalm) hcalm).trans (states_answer hx)

/-- The calls of a scene that no one disturbs are served by its store. -/
theorem serves_of_answered {sc sc' : Scene} (h : Answered (Scene.answer w alone) sc t sc') :
    sc.store.Serves w (Cycle.calls t) sc'.store ∧
      sc'.calls = sc.calls ++ t.map Exchange.request := by
  induction t generalizing sc with
  | nil =>
      obtain rfl : sc' = sc := h
      exact ⟨rfl, (List.append_nil _).symm⟩
  | cons x t ih =>
      obtain ⟨hreply, h⟩ := h
      obtain ⟨hserves, hcalls⟩ := ih h
      refine ⟨?_, ?_⟩
      · cases hx : x.request.isAmbient with
        | true =>
            have hskip : Cycle.calls (x :: t) = Cycle.calls t := by
              rw [Cycle.calls, List.filter_cons_of_neg (by simp [hx])]
              rfl
            rw [hskip]
            have hsame : (sc.store.answer (w.external sc.calls) x.request).2 = sc.store :=
              answer_of_isAmbient hx
            change Serves w (sc.store.answer (w.external sc.calls) x.request).2 _ _ at hserves
            rwa [hsame] at hserves
        | false =>
            have hkeep : Cycle.calls (x :: t) = x :: Cycle.calls t := by
              rw [Cycle.calls, List.filter_cons_of_pos (by simp [hx])]
              rfl
            rw [hkeep]
            exact ⟨sc.calls, hreply, hserves⟩
      · rw [hcalls, List.map_cons]
        change (sc.calls ++ [x.request]) ++ _ = _
        rw [List.append_assoc]
        rfl

end Store

/-! ### The clock -/

/-- An exchange that is no reading of the clock asks for something else. -/
theorem Exchange.isReading_of_reading? {x : Exchange (Collaborators Transaction)}
    (h : x.reading? = none) : x.request.isReading = false := by
  obtain ⟨c, reply⟩ := x
  cases c with
  | external c =>
      cases c with
      | now => nomatch h
      | _ => rfl
  | _ => rfl

/-- A reading of the clock is the next one of the clock. -/
theorem Exchange.eq_of_reading? {x : Exchange (Collaborators Transaction)} {now : Instant}
    {sc : Scene} (h : x.reading? = some now)
    (hreply : x.reply = (Scene.answer w alone x.request sc).1) : now = w.clock sc.readings := by
  obtain ⟨c, reply⟩ := x
  cases c with
  | external c =>
      cases c with
      | now =>
          obtain rfl : reply = now := Option.some.inj h
          exact hreply
      | _ => nomatch h
  | _ => nomatch h

/-- The first reading of the clock in a trace is the next one of the clock. -/
theorem reading_of_answered {t : Trace (Collaborators Transaction)} {sc sc' : Scene} {now : Instant}
    (h : Answered (Scene.answer w alone) sc t sc')
    (hreading : t.findSome? Exchange.reading? = some now) : now = w.clock sc.readings := by
  induction t generalizing sc with
  | nil => nomatch hreading
  | cons x t ih =>
      obtain ⟨hreply, h⟩ := h
      rw [List.findSome?_cons] at hreading
      cases hx : x.reading? with
      | some now' =>
          rw [hx] at hreading
          obtain rfl : now' = now := Option.some.inj hreading
          exact Exchange.eq_of_reading? hx hreply
      | none =>
          rw [hx] at hreading
          have hreadings := Scene.readings_called sc x.request
            (sc.store.answer (w.external sc.calls) x.request).2
          rw [Exchange.isReading_of_reading? hx, if_neg Bool.false_ne_true] at hreadings
          exact (ih h hreading).trans (congrArg w.clock hreadings)

/-! ### Replies of a store -/

namespace Exchange.Served

/-- A transaction begins empty. -/
theorem eq_of_begin {tx : Transaction}
    (h : Exchange.Served w ⟨.begin, .ok tx⟩) : tx = [] := by
  obtain ⟨s, calls, h⟩ := h
  exact Except.ok.inj h

/-- An upsert that succeeds adds its article to the transaction. -/
theorem eq_of_upsert {tx tx' : Transaction} {id : Int64}
    (h : Exchange.Served w ⟨.upsert tx a, (tx', .ok id)⟩) : tx' = tx ++ [.article id a] := by
  obtain ⟨s, calls, h⟩ := h
  change (tx', Except.ok id) = (Store.upsert tx a s).1 at h
  by_cases hmem : a.externalId ∈ s.plan.upserts
  · obtain ⟨e, he⟩ : ∃ e, (Store.upsert tx a s).1 = (tx, .error e) := Store.upsert_of_mem hmem
    nomatch (Prod.mk.inj (h.trans he)).2
  · rw [Store.upsert_of_not_mem hmem] at h
    obtain ⟨rfl, hid⟩ := Prod.mk.inj h
    rw [Except.ok.inj hid]

/-- Writing tags only adds to a transaction. -/
theorem prefix_of_upsertTags {tx tx' : Transaction} {tags : List Tag}
    {reply : Except InfraError Unit} (h : Exchange.Served w ⟨.upsertTags tx tags, (tx', reply)⟩) :
    tx <+: tx' := by
  obtain ⟨s, calls, h⟩ := h
  obtain ⟨rfl, -⟩ := Prod.mk.inj h
  split
  · exact List.prefix_rfl
  · exact List.prefix_append _ _

/-- Writing links only adds to a transaction. -/
theorem prefix_of_link {tx tx' : Transaction} {articleId : Int64} {tagIds : List Int64}
    {reply : Except InfraError Unit}
    (h : Exchange.Served w ⟨.link tx articleId tagIds, (tx', reply)⟩) : tx <+: tx' := by
  obtain ⟨s, calls, h⟩ := h
  change (tx', reply) = s.link tx articleId tagIds at h
  rw [Store.link] at h
  split at h
  · obtain ⟨rfl, -⟩ := Prod.mk.inj h
    exact List.prefix_rfl
  · obtain ⟨rfl, -⟩ := Prod.mk.inj h
    exact List.prefix_append _ _

/-- A commit succeeds. -/
theorem eq_of_commit {tx : Transaction} {reply : Except InfraError Unit}
    (h : Exchange.Served w ⟨.commit tx, reply⟩) : reply = .ok () := by
  obtain ⟨s, calls, h⟩ := h
  exact h

end Exchange.Served

namespace Cycle

variable {t : Trace (Collaborators Transaction)} {settings : Settings} {fate : Fate} {fates : Fates}

/-! ### What is committed and written -/

/-- A commit is a call. -/
theorem committedIn_calls (t : Trace (Collaborators Transaction)) :
    committedIn (calls t) = committedIn t := by
  rw [committedIn, calls, List.filterMap_filter]
  refine List.filterMap_congr fun x _ => ?_
  obtain ⟨c, reply⟩ := x
  cases c with
  | external c => cases c <;> rfl
  | _ => rfl

/-- The writes of an article that succeed begin with the article itself. -/
theorem Writes.exists_eq_append {tx tx' : Transaction} (h : Writes a tx t tx' (.ok ()))
    (hserved : ∀ x ∈ t, x.Served w) : ∃ id rest, tx' = tx ++ .article id a :: rest := by
  cases h with
  | @untagged _ id htags =>
      exact ⟨id, [], (hserved _ List.mem_cons_self).eq_of_upsert⟩
  | @linked tx₁ tx₂ _ id _ htags =>
      obtain ⟨hupsert, htagged, hlinked⟩ :
          Exchange.Served w ⟨.upsert tx a, (tx₁, .ok id)⟩ ∧
            Exchange.Served w ⟨.upsertTags tx₁ a.tags, (tx₂, .ok ())⟩ ∧
            Exchange.Served w ⟨.link tx₂ id a.tagIds, (tx', .ok ())⟩ := by
        simpa using hserved
      obtain ⟨rest, rfl⟩ := htagged.prefix_of_upsertTags.trans hlinked.prefix_of_link
      exact ⟨id, rest, by rw [hupsert.eq_of_upsert, List.append_assoc]; rfl⟩

/-- The writes of an article commit nothing, and write no sync state. -/
theorem Writes.committed_eq {tx tx' : Transaction} {reply : Except InfraError Unit}
    (h : Writes a tx t tx' reply) : writtenIn t = [] ∧ committedIn t = [] := by
  cases h <;> exact ⟨rfl, rfl⟩

/-- A unit of work commits its article if it succeeds, and nothing otherwise. -/
theorem Works.committed_eq {reply : Except InfraError Unit} (h : Works a t reply)
    (hserved : ∀ x ∈ t, x.Served w) :
    writtenIn t = [] ∧ committedIn t = if reply.isOk then [a] else [] := by
  cases h with
  | unbegun => exact ⟨rfl, rfl⟩
  | @committed tx tx' t reply h =>
      obtain ⟨hbegin, hrest⟩ := List.forall_mem_cons.mp hserved
      obtain ⟨hwrites, hcommit⟩ := List.forall_mem_append.mp hrest
      obtain rfl := hbegin.eq_of_begin
      obtain rfl := (hcommit _ List.mem_cons_self).eq_of_commit
      obtain ⟨id, rest, rfl⟩ := h.exists_eq_append hwrites
      change writtenIn (t ++ [_]) = [] ∧ committedIn (t ++ [_]) = _
      rw [writtenIn_append, committedIn_append, h.committed_eq.1, h.committed_eq.2]
      exact ⟨rfl, rfl⟩
  | @rolledBack tx tx' t e reply h =>
      change writtenIn (t ++ [_]) = [] ∧ committedIn (t ++ [_]) = _
      rw [writtenIn_append, committedIn_append, h.committed_eq.1, h.committed_eq.2]
      exact ⟨rfl, rfl⟩

/-- A save commits its article if it succeeds, and nothing otherwise. -/
theorem Saves.committed_eq {sourceId : String} {reply : Except InfraError Bool}
    (h : Saves sourceId a t reply) (hserved : ∀ x ∈ t, x.Served w) :
    writtenIn t = [] ∧ committedIn t = if reply.isOk then [a] else [] := by
  cases h with
  | unasked => exact ⟨rfl, rfl⟩
  | failed h => exact h.committed_eq (List.forall_mem_cons.mp hserved).2
  | stored h => exact h.committed_eq (List.forall_mem_cons.mp hserved).2

/-- An article is committed if it counts as saved. -/
theorem Handles.committed_eq (h : Handles settings a t fate) (hserved : ∀ x ∈ t, x.Served w) :
    writtenIn t = [] ∧ committedIn t = if fate.isStored then [a] else [] := by
  cases h with
  | failed h => exact h.committed_eq hserved
  | unpublished _ h => exact h.committed_eq hserved
  | @published t isNew reply _ h =>
      have hsave := h.committed_eq (List.forall_mem_append.mp hserved).1
      rw [writtenIn_append, committedIn_append, hsave.1, hsave.2]
      exact ⟨rfl, rfl⟩

/-- **The committed articles are those that count as saved**, in order. No sync state is written
before the end of a cycle. -/
theorem HandlesAll.committed_eq (h : HandlesAll settings t fates) (hserved : ∀ x ∈ t, x.Served w) :
    writtenIn t = [] ∧ committedIn t = fates.stored := by
  induction h with
  | nil => exact ⟨rfl, rfl⟩
  | @cons a fate fates t t' h _ ih =>
      obtain ⟨hfirst, hrest⟩ := List.forall_mem_append.mp hserved
      have hstored : Fates.stored ((a, fate) :: fates) = Fates.stored [(a, fate)] ++ fates.stored :=
        Fates.stored_append [_] _
      rw [writtenIn_append, committedIn_append, (h.committed_eq hfirst).1,
        (h.committed_eq hfirst).2, (ih hrest).1, (ih hrest).2, hstored]
      cases fate <;> exact ⟨rfl, rfl⟩

/-- The end of a cycle commits nothing. -/
theorem Closes.committed_eq {synced : Nat} {lastStored : Option Int64}
    {reply : Option (Except InfraError Unit)} (h : Closes settings synced lastStored t reply) :
    committedIn t = [] := by
  cases h <;> rfl

/-! ### The sync state of the source -/

/-- **The end of a cycle** brings the sync state of its source up to date, if there is one to go on
with and writing it is not planned to fail, and changes none otherwise. -/
theorem Closes.states_eq {synced : Nat} {lastStored : Option Int64}
    {reply : Option (Except InfraError Unit)} (h : Closes settings synced lastStored t reply)
    (hserves : s.Serves w t s') :
    (reply ≠ some (.ok ()) ∧ s'.states = s.states) ∨
      ∃ now state, reply = some (.ok ()) ∧
        Advanced (s.stateOf settings.sourceId) now synced lastStored state ∧
        s'.states = s.states.set state.sourceId state := by
  cases h with
  | unread =>
      obtain ⟨calls, hreply, -⟩ := hserves
      nomatch hreply
  | overflown =>
      obtain ⟨_, -, rfl⟩ := hserves
      exact .inl ⟨by simp, rfl⟩
  | @written state state' now reply hadvance =>
      obtain ⟨_, hread, _, hwrite, rfl⟩ := hserves
      obtain rfl : state = s.stateOf settings.sourceId := Except.ok.inj hread
      change reply = (Store.writeState state' s).1 at hwrite
      change (some reply ≠ some (.ok ()) ∧ (Store.writeState state' s).2.states = s.states) ∨
        ∃ now state, some reply = some (.ok ()) ∧ _ ∧ (Store.writeState state' s).2.states = _
      rw [hwrite, Store.writeState]
      split
      · exact .inl ⟨by simp, rfl⟩
      · exact .inr ⟨now, state', rfl, advance?_eq_some_iff.mp hadvance, rfl⟩

/-- A cycle that no one disturbs has a trace, of which the replies are those of its scene. -/
theorem yields_outcome (w : Replies) (settings : Settings) (s : Store) :
    ∃ t, Yields (cycle settings) t (outcome w settings s).1 ∧
      Answered (Scene.answer w alone) (Scene.start s) t (outcome w settings s).2 :=
  ⟨_, yields_trace _ _⟩

/-- The scene at the end of a cycle has the commits of its trace. -/
theorem committed_of_answered {sc : Scene}
    (h : Answered (Scene.answer w alone) (Scene.start s) t sc) :
    sc.committed = committedIn (calls t) := by
  rw [Scene.committed, (Store.serves_of_answered h).2, committedIn_calls, committedIn]
  change ([] ++ _).filterMap _ = _
  rw [List.nil_append, List.filterMap_map]
  rfl

/-- The calls of a cycle that no one disturbs are served by its store. -/
theorem serves_outcome (w : Replies) (settings : Settings) (s : Store) :
    ∃ t, Yields (cycle settings) t (outcome w settings s).1 ∧
      s.Serves w (calls t) (outcome w settings s).2.store ∧
      (outcome w settings s).2.committed = committedIn (calls t) := by
  obtain ⟨t, hyields, hanswered⟩ := yields_outcome w settings s
  exact ⟨t, hyields, (Store.serves_of_answered hanswered).1, committed_of_answered hanswered⟩

/-- **What a store has served before the end of a cycle**: the sync states are still those of its
start, and the articles that count as saved are committed. -/
theorem Course.serves_closing {t : Trace (Collaborators Transaction)}
    {result : Except CycleFault Stats} (c : Course settings t result)
    (hserves : s.Serves w (calls t) s') :
    ∃ s₁ : Store, s₁.states = s.states ∧ s₁.Serves w (calls c.closing) s' ∧
      c.progress.lastStored = (committedIn (calls t)).getLast?.map Article.externalId := by
  obtain ⟨fates, -, hhandles, hprogress⟩ := c.exists_fates
  have hcalls := c.calls_eq
  rw [hcalls] at hserves ⊢
  change s.Serves w ([_, _] ++ (calls c.handling ++ calls c.closing)) _ at hserves
  obtain ⟨s₁, hopening, hserves⟩ := Store.serves_append.mp hserves
  obtain ⟨s₂, hhandling, hclosing⟩ := Store.serves_append.mp hserves
  obtain ⟨hwritten, hsaved⟩ := hhandles.committed_eq hhandling.served
  have hcommitted : committedIn (calls c.handling ++ calls c.closing) = fates.stored := by
    rw [committedIn_append, hsaved, c.closed.committed_eq, List.append_nil]
  refine ⟨s₂, (hhandling.states_eq hwritten).trans (hopening.states_eq rfl), hclosing, ?_⟩
  change _ = (committedIn (calls c.handling ++ calls c.closing)).getLast?.map _
  rw [hcommitted, hprogress]
  exact fates.lastStored_addTo _

/-- **What a cycle does to the sync states**: if it succeeds, the one of its source is brought up to
date with the articles that were committed; otherwise all stay as they are. -/
theorem states_outcome (w : Replies) (settings : Settings) (s : Store) :
    (∃ e, (outcome w settings s).1 = .error e ∧
      (outcome w settings s).2.store.states = s.states) ∨
    ∃ stats now state, (outcome w settings s).1 = .ok stats ∧
      Advanced (s.stateOf settings.sourceId) now stats.synced
        ((outcome w settings s).2.committed.getLast?.map Article.externalId) state ∧
      (outcome w settings s).2.store.states = s.states.set state.sourceId state := by
  obtain ⟨t, hyields, hserves, hcommitted⟩ := serves_outcome w settings s
  rw [hcommitted]
  rcases yields_cycle hyields with ⟨e, hcalls, hresult⟩ | ⟨_, _, e, hcalls, -, hresult⟩ | ⟨⟨c⟩⟩
  · rw [hcalls] at hserves
    exact .inl ⟨_, hresult, hserves.states_eq rfl⟩
  · rw [hcalls] at hserves
    exact .inl ⟨_, hresult, hserves.states_eq rfl⟩
  · obtain ⟨s₁, hstates, hclosing, hlast⟩ := c.serves_closing hserves
    have hstate : s₁.stateOf settings.sourceId = s.stateOf settings.sourceId := by
      rw [Store.stateOf, Store.stateOf, hstates]
    have hcloses := c.closed.states_eq hclosing
    rw [hstates, hstate, hlast] at hcloses
    have hresult := c.result_eq
    rcases hcloses with ⟨hupdated, hsame⟩ | ⟨now, state, hupdated, hadvanced, hset⟩
    · refine .inl ?_
      rcases hreply : c.updated with _ | e | u
      · exact ⟨_, hresult.trans (by rw [hreply]; rfl), hsame⟩
      · exact ⟨_, hresult.trans (by rw [hreply]; rfl), hsame⟩
      · exact absurd hreply hupdated
    · exact .inr ⟨c.stats, now, state, hresult.trans (by rw [hupdated]; rfl), hadvanced, hset⟩

end Cycle

end FeedSync
