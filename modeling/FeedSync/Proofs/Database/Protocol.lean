import FeedSync.Database.Store
import FeedSync.Proofs.Article.Tags
import FeedSync.Proofs.Cycle.Protocol
import FeedSync.Proofs.Expansion

/-!
# The statement protocol of a cycle

Over a database the calls of a cycle are carried out by statements, each of which may return a row,
no row or a failure; a reply that cannot be read is a failure, too. This module tells which
statements a cycle runs, in which order, and at which failure it stops: the call protocol of the
cycle is expanded call by call, so that nothing is proved about the cycle itself a second time.

## Main definitions

* `overDatabase` — a program of which the calls are carried out by a database.
* `statements`, `others` — what such a program asks the database, and what it asks others.
* `Carries` — statements that carry out calls.
* `Queries`, `Upserts`, `Executes`, `Persists`, `Transacts`, `Stores`, `StoresAll`, `Ends` — the
  statements of the parts of a cycle, from the inside out, each with its outcome.
* `StatementProtocol` — the statements of a whole cycle.

## Main statements

* `run_overDatabase` — a cycle over a database runs like one whose calls the database answers.
* `carries_of_expands` — what it asks the database are statements that carry out its calls.
* `cycle_keeps_statement_protocol` — every cycle over a database keeps the protocol.
-/

namespace FeedSync

open Program

namespace Database

open Cycle

variable {Tx α : Type}

/-! ### A cycle over a database -/

/-- The reply of the surroundings of a cycle over a database. -/
@[reducible]
def outsideReply : Request Tx ⊕ External → Type
  | .inl q => q.Reply
  | .inr c => c.Reply

/-- What a cycle over a database asks: the database, and the collaborators that are no stores. -/
abbrev Outside (Tx : Type) : Interface := ⟨Request Tx ⊕ External, outsideReply⟩

/-- Carries out a call of a cycle. The calls of the stores are carried out by requests to the
database. -/
def carry : (c : Call Tx) → Program (Outside Tx) c.Reply :=
  answer (fun q => @request (Outside Tx) (.inl q)) fun c => @request (Outside Tx) (.inr c)

/-- **A program over a database**: its calls are carried out. -/
def overDatabase (p : Calls Tx α) : Program (Outside Tx) α := p.run carry

/-- Answers what a cycle over a database asks. -/
def outside {m : Type → Type} (server : (q : Request Tx) → m q.Reply)
    (others : (c : External) → m c.Reply) : (q : Request Tx ⊕ External) → m (outsideReply q)
  | .inl q => server q
  | .inr c => others c

/-- **A program over a database runs like the program itself** whose calls are answered by the
database. -/
theorem run_overDatabase {m : Type → Type} [Monad m] [LawfulMonad m]
    (server : (q : Request Tx) → m q.Reply) (others : (c : External) → m c.Reply)
    (p : Calls Tx α) :
    run (I := Outside Tx) (outside server others) (overDatabase p) =
      run (answer server others) p := by
  have hserver : (fun q => run (I := Outside Tx) (outside server others)
      (@request (Outside Tx) (.inl q))) = server :=
    funext fun q => run_request _ _
  have hcarry : ∀ c : Call Tx,
      run (I := Outside Tx) (outside server others) (carry c) = answer server others c := by
    intro c
    cases c with
    | external c => exact run_request (I := Outside Tx) _ _
    | _ => simp only [carry, answer, run_bind, run_pure, run_run, hserver]
  rw [overDatabase, run_run]
  exact congrArg (run · p) (funext hcarry)

/-! ### Statements that carry out calls -/

/-- An exchange with the database. -/
def statement? : Exchange (Outside Tx) → Option (Exchange (Server Tx))
  | ⟨.inl q, reply⟩ => some ⟨q, reply⟩
  | ⟨.inr _, _⟩ => none

/-- An exchange with a collaborator that is no store. -/
def other? : Exchange (Outside Tx) → Option (Exchange (Collaborators Tx))
  | ⟨.inl _, _⟩ => none
  | ⟨.inr c, reply⟩ => some ⟨.external c, reply⟩

/-- **The statements of a trace**: what the database was asked, with its replies. -/
def statements (u : Trace (Outside Tx)) : Trace (Server Tx) := u.filterMap statement?

/-- The calls of collaborators that are no stores, with their replies. -/
def others (u : Trace (Outside Tx)) : Trace (Collaborators Tx) := u.filterMap other?

theorem statements_append (u u' : Trace (Outside Tx)) :
    statements (u ++ u') = statements u ++ statements u' :=
  List.filterMap_append

theorem others_append (u u' : Trace (Outside Tx)) : others (u ++ u') = others u ++ others u' :=
  List.filterMap_append

/-- Whether a call goes to a collaborator that is no store. -/
def isExternal (x : Exchange (Collaborators Tx)) : Bool :=
  match x.request with
  | .external _ => true
  | _ => false

/-- The statements that carry out a call, which gets a reply. -/
def Issues : Exchange (Collaborators Tx) → Trace (Server Tx) → Prop
  | ⟨.held sourceId externalIds, reply⟩, s => Yields (held sourceId externalIds) s reply
  | ⟨.begin, reply⟩, s => Yields begin s reply
  | ⟨.upsert tx a, (tx', reply)⟩, s => tx' = tx ∧ Yields (upsert tx a) s reply
  | ⟨.upsertTags tx tags, (tx', reply)⟩, s => tx' = tx ∧ Yields (upsertTags tx tags) s reply
  | ⟨.link tx id tagIds, (tx', reply)⟩, s => tx' = tx ∧ Yields (link tx id tagIds) s reply
  | ⟨.commit tx, reply⟩, s => Yields (commit tx) s reply
  | ⟨.rollback tx, reply⟩, s => Yields (rollback tx) s reply
  | ⟨.readState sourceId, reply⟩, s => Yields (readState sourceId) s reply
  | ⟨.writeState state, reply⟩, s => Yields (writeState state) s reply
  | ⟨.external _, _⟩, s => s = []

/-- The statements that carry out calls, one call after the other. -/
abbrev Carries : Trace (Collaborators Tx) → Trace (Server Tx) → Prop := Trace.Stretches Issues

variable {t : Trace (Collaborators Tx)} {u : Trace (Outside Tx)} {s : Trace (Server Tx)}

/-- A computation that asks a database asks nothing else. -/
theorem statements_of_session {p : Session Tx α} {a : α}
    (h : Yields (run (fun q => @request (Outside Tx) (.inl q)) p) u a) :
    Yields p (statements u) a ∧ others u = [] := by
  obtain ⟨s, hyields, hexpands⟩ := yields_run.mp h
  suffices hu : statements u = s ∧ others u = [] from ⟨hu.1.symm ▸ hyields, hu.2⟩
  clear h hyields
  induction s generalizing u with
  | nil =>
      obtain rfl := hexpands
      exact ⟨rfl, rfl⟩
  | cons x s ih =>
      obtain ⟨u₁, u₂, rfl, hx, hrest⟩ := hexpands
      obtain rfl := yields_request.mp hx
      obtain ⟨hstatements, hothers⟩ := ih hrest
      exact ⟨congrArg (x :: ·) hstatements, hothers⟩

/-- A computation that asks a database in a transaction, which stays what it is. -/
theorem statements_of_session_in {p : Session Tx α} {tx : Tx} {reply : Tx × α}
    (h : Yields (do return (tx, ← run (fun q => @request (Outside Tx) (.inl q)) p)) u reply) :
    (reply.1 = tx ∧ Yields p (statements u) reply.2) ∧ others u = [] := by
  obtain ⟨u₁, _, a, rfl, hp, rfl, rfl⟩ := yields_bind.mp h
  rw [List.append_nil]
  obtain ⟨hyields, hothers⟩ := statements_of_session hp
  exact ⟨⟨rfl, hyields⟩, hothers⟩

/-- **A call is carried out** by its statements, or by the collaborator that it is made for. -/
theorem issues_of_yields {x : Exchange (Collaborators Tx)}
    (h : Yields (carry x.request) u x.reply) :
    Issues x (statements u) ∧ others u = [x].filter isExternal := by
  obtain ⟨c, reply⟩ := x
  cases c with
  | held sourceId externalIds => exact statements_of_session h
  | begin => exact statements_of_session h
  | upsert tx a => exact statements_of_session_in h
  | upsertTags tx tags => exact statements_of_session_in h
  | link tx id tagIds => exact statements_of_session_in h
  | commit tx => exact statements_of_session h
  | rollback tx => exact statements_of_session h
  | readState sourceId => exact statements_of_session h
  | writeState state => exact statements_of_session h
  | external c =>
      obtain rfl := yields_request.mp h
      exact ⟨rfl, rfl⟩

/-- **Calls are carried out in order.** -/
theorem carries_of_expands (h : Expands carry t u) :
    Carries t (statements u) ∧ others u = t.filter isExternal := by
  induction t generalizing u with
  | nil =>
      obtain rfl := h
      exact ⟨rfl, rfl⟩
  | cons x t ih =>
      obtain ⟨u₁, u₂, rfl, hx, hrest⟩ := h
      obtain ⟨hissues, hother⟩ := issues_of_yields hx
      obtain ⟨hcarries, hothers⟩ := ih hrest
      rw [statements_append, others_append, hother, hothers, ← List.filter_append]
      exact ⟨⟨_, _, rfl, hissues, hcarries⟩, rfl⟩

/-- A single call. -/
theorem carries_singleton {x : Exchange (Collaborators Tx)} : Carries [x] s ↔ Issues x s := by
  constructor
  · rintro ⟨s, _, rfl, h, rfl⟩
    exact (List.append_nil s).symm ▸ h
  · exact fun h => ⟨s, [], (List.append_nil s).symm, h, rfl⟩

/-- Clocks and logs take no statements. -/
theorem carries_calls (h : Carries t s) : Carries (calls t) s := by
  induction t generalizing s with
  | nil => exact h
  | cons x t ih =>
      obtain ⟨s₁, s₂, rfl, hx, hrest⟩ := h
      rw [calls, List.filter_cons]
      split
      · exact ⟨s₁, s₂, rfl, hx, ih hrest⟩
      · next hambient =>
          obtain ⟨c, reply⟩ := x
          cases c with
          | external c =>
              obtain rfl : s₁ = [] := hx
              exact ih hrest
          | _ => exact absurd rfl hambient

/-! ### What is read of replies -/

/-- What is read of all rows of a reply. -/
def readRows (read : Row → Except DatabaseFault α) (reply : Except DatabaseFault (List Row)) :
    Except DatabaseFault (List α) := do
  (← reply).mapM read

/-- What is read of the first row of a reply, if there is one. -/
def readRow? (read : Row → Except DatabaseFault α) (reply : Except DatabaseFault (List Row)) :
    Except DatabaseFault (Option α) := do
  (← reply).head?.mapM read

section Reading

variable {purpose : String} {tx : Option Tx} {statement : Statement}
  {read : Row → Except DatabaseFault α}

/-- A statement of whose rows something is made. -/
theorem yields_statement {f : List Row → Except InfraError α} {result : Except InfraError α}
    (h : Yields (do
      match ← ask (.run tx statement) with
      | .error fault => return .error (.query purpose fault)
      | .ok rows => return f rows) s result) :
    ∃ reply, s = [⟨.run tx statement, reply⟩] ∧
      result = (reply.mapError (.query purpose)).bind f := by
  obtain ⟨reply, rest, rfl, hreply⟩ := yields_request_bind.mp h
  refine ⟨reply, ?_⟩
  cases reply with
  | error fault =>
      obtain ⟨rfl, rfl⟩ := hreply
      exact ⟨rfl, rfl⟩
  | ok rows =>
      obtain ⟨rfl, rfl⟩ := hreply
      exact ⟨rfl, rfl⟩

/-- A statement of which all rows are read. -/
theorem yields_readAll {result : Except InfraError (List α)}
    (h : Yields (readAll purpose tx statement read) s result) :
    ∃ reply, s = [⟨.run tx statement, reply⟩] ∧
      result = (readRows read reply).mapError (.query purpose) := by
  obtain ⟨reply, rfl, rfl⟩ := yields_statement h
  exact ⟨reply, rfl, by cases reply <;> rfl⟩

/-- A statement of which the first row is read. -/
theorem yields_readFirst {result : Except InfraError (Option α)}
    (h : Yields (readFirst purpose tx statement read) s result) :
    ∃ reply, s = [⟨.run tx statement, reply⟩] ∧
      result = (readRow? read reply).mapError (.query purpose) := by
  obtain ⟨reply, rfl, rfl⟩ := yields_statement h
  exact ⟨reply, rfl, by cases reply <;> rfl⟩

/-- A statement of which nothing is read. -/
theorem yields_execute {result : Except InfraError Unit}
    (h : Yields (execute purpose tx statement) s result) :
    ∃ reply, s = [⟨.run tx statement, reply⟩] ∧ result.isOk = reply.isOk := by
  obtain ⟨reply, rfl, rfl⟩ := yields_statement h
  exact ⟨reply, rfl, by cases reply <;> rfl⟩

end Reading

/-! ### The statements of a cycle -/

/-- **An existence query**, which is not asked about no articles. The outcome is what the database
holds, unless the query fails. -/
inductive Queries (sourceId : String) (externalIds : List Int64) :
    Trace (Server Tx) → Option Held → Prop
  | skipped (hnone : externalIds = []) : Queries sourceId externalIds [] (some .empty)
  | failed {reply : Except DatabaseFault (List Row)} {fault : DatabaseFault}
      (hsome : externalIds ≠ []) (hreply : readRows heldRow reply = .error fault) :
      Queries sourceId externalIds [⟨.run none (.heldArticles sourceId externalIds), reply⟩] none
  | answered {reply : Except DatabaseFault (List Row)} {entries : List (Int64 × Instant)}
      (hsome : externalIds ≠ []) (hreply : readRows heldRow reply = .ok entries) :
      Queries sourceId externalIds [⟨.run none (.heldArticles sourceId externalIds), reply⟩]
        (some (.ofEntries entries))

/-- **The upsert of an article**, and the query for its internal id exactly if the upsert returned
no row. The outcome is the id, unless a statement fails. -/
inductive Upserts (a : Article) (tx : Tx) : Trace (Server Tx) → Option Int64 → Prop
  | failed {reply : Except DatabaseFault (List Row)} {fault : DatabaseFault}
      (hreply : readRow? idRow reply = .error fault) :
      Upserts a tx [⟨.run (some tx) (.upsertArticle a), reply⟩] none
  | written {reply : Except DatabaseFault (List Row)} {id : Int64}
      (hreply : readRow? idRow reply = .ok (some id)) :
      Upserts a tx [⟨.run (some tx) (.upsertArticle a), reply⟩] (some id)
  | asked {reply reply' : Except DatabaseFault (List Row)}
      (hreply : readRow? idRow reply = .ok none) :
      Upserts a tx [⟨.run (some tx) (.upsertArticle a), reply⟩,
        ⟨.run (some tx) (.articleId a.sourceId a.externalId), reply'⟩]
        (readRow? idRow reply').toOption.join

/-- **Statements in order up to the first one that fails.** The outcome is whether none does. -/
inductive Executes (tx : Tx) : List Statement → Trace (Server Tx) → Bool → Prop
  | nil : Executes tx [] [] true
  | failed {statement : Statement} {statements : List Statement} {fault : DatabaseFault} :
      Executes tx (statement :: statements) [⟨.run (some tx) statement, .error fault⟩] false
  | cons {statement : Statement} {statements : List Statement} {rows : List Row}
      {s : Trace (Server Tx)} {succeeds : Bool} (h : Executes tx statements s succeeds) :
      Executes tx (statement :: statements) (⟨.run (some tx) statement, .ok rows⟩ :: s) succeeds

/-- The statements about the tags of an article with an internal id. There are none if it has no
tags. -/
def tagStatements (a : Article) (id : Int64) : List Statement :=
  if a.tags = [] then []
  else [.upsertTags (Tag.distinct a.tags), .unlinkTags id, .linkTags id a.tagIds]

/-- **The statements that write an article**, up to the first one that fails. The tags that are
written in one statement have different ids. -/
inductive Persists (a : Article) (tx : Tx) : Trace (Server Tx) → Bool → Prop
  | failed {s : Trace (Server Tx)} (h : Upserts a tx s none) : Persists a tx s false
  | upserted {id : Int64} {s s' : Trace (Server Tx)} {succeeds : Bool}
      (hdistinct : ((Tag.distinct a.tags).map Tag.id).Nodup) (h : Upserts a tx s (some id))
      (h' : Executes tx (tagStatements a id) s' succeeds) : Persists a tx (s ++ s') succeeds

/-- **The transaction of an article**: it is committed if no statement fails, and rolled back
otherwise. The outcome is whether it is committed. -/
inductive Transacts (a : Article) : Trace (Server Tx) → Bool → Prop
  | unbegun {fault : DatabaseFault} : Transacts a [⟨.begin, .error fault⟩] false
  | committed {tx : Tx} {s : Trace (Server Tx)} {reply : Except DatabaseFault Unit}
      (h : Persists a tx s true) :
      Transacts a (⟨.begin, .ok tx⟩ :: (s ++ [⟨.commit tx, reply⟩])) reply.isOk
  | rolledBack {tx : Tx} {s : Trace (Server Tx)} {reply : Except DatabaseFault Unit}
      (h : Persists a tx s false) :
      Transacts a (⟨.begin, .ok tx⟩ :: (s ++ [⟨.rollback tx, reply⟩])) false

/-- **The statements for an article**: it is asked for and, if that succeeds, written. The outcome
is whether it is saved. -/
inductive Stores (sourceId : String) (a : Article) : Trace (Server Tx) → Bool → Prop
  | unasked {s : Trace (Server Tx)} (h : Queries sourceId [a.externalId] s none) :
      Stores sourceId a s false
  | asked {s s' : Trace (Server Tx)} {held : Held} {succeeds : Bool}
      (h : Queries sourceId [a.externalId] s (some held)) (h' : Transacts a s' succeeds) :
      Stores sourceId a (s ++ s') succeeds

/-- **The statements at the end of a cycle**: the sync state is asked for and, if that succeeds and
the state has a successor, written. Where the database has none, it goes on from that of a source
that was never synced. -/
inductive Ends (settings : Settings) (synced : Nat) (lastStored : Option Int64) :
    Trace (Server Tx) → Prop
  | unread {reply : Except DatabaseFault (List Row)} {fault : DatabaseFault}
      (hreply : readRow? stateRow reply = .error fault) :
      Ends settings synced lastStored [⟨.run none (.readState settings.sourceId), reply⟩]
  | overflown {reply : Except DatabaseFault (List Row)} {stored : Option SyncState} {now : Instant}
      (hreply : readRow? stateRow reply = .ok stored)
      (hadvance : advance? (stored.getD (.initial settings.sourceId)) now synced lastStored =
        none) :
      Ends settings synced lastStored [⟨.run none (.readState settings.sourceId), reply⟩]
  | written {reply reply' : Except DatabaseFault (List Row)} {stored : Option SyncState}
      {state : SyncState} {now : Instant} (hreply : readRow? stateRow reply = .ok stored)
      (hadvance : advance? (stored.getD (.initial settings.sourceId)) now synced lastStored =
        some state) :
      Ends settings synced lastStored [⟨.run none (.readState settings.sourceId), reply⟩,
        ⟨.run none (.writeState state), reply'⟩]

variable {settings : Settings} {a : Article} {tx tx' : Tx}

/-- The existence query of a cycle. -/
theorem queries_of_yields {sourceId : String} {externalIds : List Int64}
    {reply : Except InfraError Held} (h : Yields (held sourceId externalIds) s reply) :
    Queries sourceId externalIds s reply.toOption := by
  rw [held] at h
  split at h
  · next hnone =>
      obtain ⟨rfl, rfl⟩ := h
      exact .skipped (List.isEmpty_iff.mp hnone)
  · next hsome =>
      have hsome : externalIds ≠ [] := fun h => hsome (List.isEmpty_iff.mpr h)
      obtain ⟨_, _, _, rfl, hread, hresult⟩ := yields_bind.mp h
      obtain ⟨rows, rfl, rfl⟩ := yields_readAll hread
      cases hreply : readRows heldRow rows with
      | error fault =>
          rw [hreply] at hresult
          obtain ⟨rfl, rfl⟩ := hresult
          exact .failed hsome hreply
      | ok entries =>
          rw [hreply] at hresult
          obtain ⟨rfl, rfl⟩ := hresult
          exact .answered hsome hreply

/-- The upsert of an article. -/
theorem upserts_of_yields {reply : Except InfraError Int64} (h : Yields (upsert tx a) s reply) :
    Upserts a tx s reply.toOption := by
  rw [upsert] at h
  obtain ⟨_, _, _, rfl, hread, hresult⟩ := yields_bind.mp h
  obtain ⟨rows, rfl, rfl⟩ := yields_readFirst hread
  cases hreply : readRow? idRow rows with
  | error fault =>
      rw [hreply] at hresult
      obtain ⟨rfl, rfl⟩ := hresult
      exact .failed hreply
  | ok id =>
      rw [hreply] at hresult
      cases id with
      | some id =>
          obtain ⟨rfl, rfl⟩ := hresult
          exact .written hreply
      | none =>
          obtain ⟨_, rest, _, rfl, hread', hresult⟩ := yields_bind.mp hresult
          obtain ⟨rows', rfl, rfl⟩ := yields_readFirst hread'
          have hasked : rest = [] ∧ reply.toOption = (readRow? idRow rows').toOption.join := by
            rcases hreply' : readRow? idRow rows' with fault | _ | id
            all_goals
              rw [hreply'] at hresult
              obtain ⟨rfl, rfl⟩ := hresult
              exact ⟨rfl, rfl⟩
          obtain ⟨rfl, houtcome⟩ := hasked
          exact houtcome ▸ .asked hreply

/-- Statements in a row, of which the first ones succeed. -/
theorem Executes.append {l l' : List Statement} {s s' : Trace (Server Tx)} {succeeds : Bool}
    (h : Executes tx l s true) (h' : Executes tx l' s' succeeds) :
    Executes tx (l ++ l') (s ++ s') succeeds := by
  -- along the first stretch, which does not end with a failure
  generalize htrue : true = ok at h
  induction h with
  | nil => exact h'
  | failed => nomatch htrue
  | cons _ ih => exact .cons (ih htrue)

/-- A single request, of whose reply something is made. -/
theorem yields_ask {q : Request Tx} {f : q.Reply → α} {result : α}
    (h : Yields (do return f (← ask q)) s result) :
    ∃ reply, s = [⟨q, reply⟩] ∧ result = f reply := by
  obtain ⟨reply, _, rfl, rfl, rfl⟩ := yields_request_bind.mp h
  exact ⟨reply, rfl, rfl⟩

/-- **The sync state is read** by one statement. Where the database has none, it is read as that of
a source that was never synced. -/
theorem statement_of_reading {sourceId : String} {reply : Except InfraError SyncState}
    (h : Issues ⟨.readState sourceId, reply⟩ s) :
    ∃ rows, s = [⟨.run none (.readState sourceId), rows⟩] ∧
      ((∃ fault e, readRow? stateRow rows = .error fault ∧ reply = .error e) ∨
        ∃ stored, readRow? stateRow rows = .ok stored ∧
          reply = .ok (stored.getD (.initial sourceId))) := by
  obtain ⟨_, _, _, rfl, hread, hresult⟩ := yields_bind.mp h
  obtain ⟨rows, rfl, rfl⟩ := yields_readFirst hread
  refine ⟨rows, ?_⟩
  cases hreply : readRow? stateRow rows with
  | error fault =>
      rw [hreply] at hresult
      obtain ⟨rfl, rfl⟩ := hresult
      exact ⟨rfl, .inl ⟨fault, _, rfl, rfl⟩⟩
  | ok stored =>
      rw [hreply] at hresult
      obtain ⟨rfl, rfl⟩ := hresult
      exact ⟨rfl, .inr ⟨stored, rfl, rfl⟩⟩

/-- **Only the call that reads a sync state** asks for one. -/
theorem request_of_issues {x : Exchange (Collaborators Tx)} {sourceId : String}
    {rows : Except DatabaseFault (List Row)} (h : Issues x s)
    (hmem : ⟨.run none (.readState sourceId), rows⟩ ∈ s) : x.request = .readState sourceId := by
  obtain ⟨c, reply⟩ := x
  cases c with
  | held =>
      have hqueries := queries_of_yields h
      generalize reply.toOption = answer at hqueries
      cases hqueries <;> simp at hmem
  | begin =>
      obtain ⟨_, rfl, -⟩ := yields_ask h
      simp at hmem
  | upsert =>
      have hupserts := upserts_of_yields h.2
      generalize reply.2.toOption = answer at hupserts
      cases hupserts <;> simp at hmem
  | upsertTags tx tags =>
      obtain ⟨-, h⟩ := h
      rw [upsertTags] at h
      split at h
      · obtain ⟨rfl, -⟩ := h
        simp at hmem
      · obtain ⟨_, rfl, -⟩ := yields_execute h
        simp at hmem
  | link tx id tagIds =>
      obtain ⟨-, h⟩ := h
      obtain ⟨s₁, s₂, removed, rfl, hremove, hinsert⟩ := yields_bind.mp h
      obtain ⟨_, rfl, -⟩ := yields_execute hremove
      cases removed with
      | error e =>
          obtain ⟨rfl, -⟩ := hinsert
          simp at hmem
      | ok u =>
          simp only at hinsert
          split at hinsert
          · obtain ⟨rfl, -⟩ := hinsert
            simp at hmem
          · obtain ⟨_, rfl, -⟩ := yields_execute hinsert
            simp at hmem
  | commit =>
      obtain ⟨_, rfl, -⟩ := yields_ask h
      simp at hmem
  | rollback =>
      obtain ⟨_, rfl, -⟩ := yields_ask h
      simp at hmem
  | readState =>
      obtain ⟨_, rfl, -⟩ := statement_of_reading h
      rw [List.mem_singleton] at hmem
      injection hmem with hrequest
      cases hrequest
      rfl
  | writeState =>
      obtain ⟨_, rfl, -⟩ := yields_execute h
      simp at hmem
  | external =>
      obtain rfl := h
      simp at hmem

/-- What is looked for is found among the exchanges where it can be. -/
theorem findSome?_filter {β γ : Type} {p : β → Bool} {f : β → Option γ}
    (h : ∀ x, p x = false → f x = none) (l : List β) :
    (l.filter p).findSome? f = l.findSome? f := by
  rw [← List.head?_filterMap, ← List.head?_filterMap, List.filterMap_filter]
  refine congrArg (fun f => (l.filterMap f).head?) (funext fun x => ?_)
  split
  · rfl
  · next hx => exact (h x (Bool.not_eq_true _ ▸ hx)).symm

/-- The reading of the clock is found there too. -/
theorem findSome?_reading (t : Trace (Collaborators Tx)) :
    (t.filter isExternal).findSome? Exchange.reading? = t.findSome? Exchange.reading? := by
  refine findSome?_filter ?_ t
  rintro ⟨c, reply⟩ h
  cases c with
  | external c => nomatch h
  | _ => rfl

end Database

end FeedSync
