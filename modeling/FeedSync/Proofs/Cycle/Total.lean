import FeedSync.Proofs.Cycle.Balance
import FeedSync.Proofs.Cycle.History
import FeedSync.Proofs.Database.Protocol
import Mathlib.Data.List.Chain

/-!
# The total over many cycles

Every cycle that succeeds reads the sync state of its source and writes it back with what it has
synced counted in its total (`Counts`), so no total goes back. A total is a signed word of 64 bits,
of which a store may hold any, so the sum may overflow. Then the cycle aborts: its articles are
saved and published, but no sync state is written. This module tells exactly when that happens, for
one cycle in any surroundings and for any number of cycles on one store.

## Main definitions

* `Counts` — how a total grows when some articles are counted in it.
* `Reads`, `ReadsRow` — a cycle reads a sync state.
* `Replaces`, `ReplacesRow` — the end of a cycle that replaces one.
* `totals` — the totals of a source along some cycles.

## Main statements

* `counts_of_yields`, `counts_of_statements` — a cycle that succeeds counts what it has synced.
* `overflow_iff_of_yields`, `overflow_iff_of_statements`, `overflow_iff_of_outcome` — a cycle aborts
  exactly if the total that it has read overflows.
* `isChain_totals`, `toInt_totalSynced_afterTurns` — along any cycles the totals never go back, and
  grow by all that is counted.
-/

namespace FeedSync

open Program

/-- Whether a call reads a sync state. -/
def Call.readsState {Tx : Type} : Call Tx → Bool
  | .readState _ => true
  | _ => false

/-- A store with some sync states, each under the id of its source. Of several for one source the
last one counts. -/
def Store.holding (s : Store) (states : List SyncState) : Store :=
  { s with states := states.foldl (fun table state => table.set state.sourceId state) .empty }

/-- A store holds sync states under the ids of their sources. -/
theorem Store.sourceId_stateOf_holding (s : Store) (states : List SyncState) (sourceId : String) :
    ((s.holding states).stateOf sourceId).sourceId = sourceId := by
  induction states using List.reverseRecOn with
  | nil => rfl
  | append_singleton states state ih =>
      rw [stateOf] at ih ⊢
      have hget : (s.holding (states ++ [state])).states.get? sourceId =
          if sourceId = state.sourceId then some state
          else (s.holding states).states.get? sourceId := by
        rw [holding, List.foldl_append]
        exact Table.get?_set _ _ _ _
      rw [hget]
      by_cases hsource : sourceId = state.sourceId
      · rw [if_pos hsource]
        exact hsource.symm
      · rw [if_neg hsource]
        exact ih

namespace Cycle

/-- **A total counts some articles**: it has grown by their weight. -/
structure Counts (before : Int64) (synced : Nat) (after : Int64) : Prop where
  sum : after.toInt = before.toInt + weight synced
  le : before ≤ after

/-- A sync state that is brought up to date counts. -/
theorem Advanced.counts {state state' : SyncState} {now : Instant} {synced : Nat}
    {lastStored : Option Int64} (h : Advanced state now synced lastStored state') :
    Counts state.totalSynced synced state'.totalSynced :=
  ⟨h.totalSynced, h.le⟩

section Surroundings

variable {Tx : Type} {settings : Settings} {stats : Stats} {result : Except CycleFault Stats}
  {t : Trace (Collaborators Tx)} {state : SyncState}

/-! ### What a cycle reads -/

/-- A cycle **reads** a sync state in a call of its trace. -/
def Reads (sourceId : String) (t : Trace (Collaborators Tx)) (state : SyncState) : Prop :=
  ⟨.readState sourceId, .ok state⟩ ∈ calls t

/-- The last two calls of a cycle **replace** a sync state: they read it and write another one. -/
def Replaces (sourceId : String) (t : Trace (Collaborators Tx)) (state state' : SyncState) : Prop :=
  [⟨.readState sourceId, .ok state⟩, ⟨.writeState state', .ok ()⟩] <:+ calls t

/-- The writes of an article read no sync state. -/
theorem Writes.readsState_eq {a : Article} {tx tx' : Tx} {reply : Except InfraError Unit}
    (h : Writes a tx t tx' reply) : ∀ x ∈ t, x.request.readsState = false := by
  cases h <;> simp [Call.readsState]

/-- A unit of work reads none. -/
theorem Works.readsState_eq {a : Article} {reply : Except InfraError Unit} (h : Works a t reply) :
    ∀ x ∈ t, x.request.readsState = false := by
  cases h with
  | unbegun => simp [Call.readsState]
  | committed h =>
      exact List.forall_mem_cons.mpr ⟨rfl, List.forall_mem_append.mpr
        ⟨h.readsState_eq, List.forall_mem_singleton.mpr rfl⟩⟩
  | rolledBack h =>
      exact List.forall_mem_cons.mpr ⟨rfl, List.forall_mem_append.mpr
        ⟨h.readsState_eq, List.forall_mem_singleton.mpr rfl⟩⟩

/-- A save reads none. -/
theorem Saves.readsState_eq {a : Article} {sourceId : String} {reply : Except InfraError Bool}
    (h : Saves sourceId a t reply) : ∀ x ∈ t, x.request.readsState = false := by
  cases h with
  | unasked => simp [Call.readsState]
  | failed h => exact List.forall_mem_cons.mpr ⟨rfl, h.readsState_eq⟩
  | stored h => exact List.forall_mem_cons.mpr ⟨rfl, h.readsState_eq⟩

/-- The calls for an article read none. -/
theorem Handles.readsState_eq {a : Article} {fate : Fate} (h : Handles settings a t fate) :
    ∀ x ∈ t, x.request.readsState = false := by
  cases h with
  | failed h => exact h.readsState_eq
  | unpublished _ h => exact h.readsState_eq
  | published _ h =>
      exact List.forall_mem_append.mpr ⟨h.readsState_eq, List.forall_mem_singleton.mpr rfl⟩

/-- **No sync state is read before the end of a cycle.** -/
theorem HandlesAll.readsState_eq {fates : Fates} (h : HandlesAll settings t fates) :
    ∀ x ∈ t, x.request.readsState = false := by
  induction h with
  | nil => exact List.forall_mem_nil _
  | cons h _ ih => exact List.forall_mem_append.mpr ⟨h.readsState_eq, ih⟩

/-- What a cycle reads, it reads at its end. -/
theorem Course.reads_iff (c : Course settings t result) : Reads settings.sourceId t state ↔
    ⟨.readState settings.sourceId, .ok state⟩ ∈ calls c.closing := by
  obtain ⟨fates, -, hhandles, -⟩ := c.exists_fates
  have hhandling : ⟨.readState settings.sourceId, .ok state⟩ ∉ calls c.handling := fun hmem =>
    Bool.false_ne_true (hhandles.readsState_eq _ hmem).symm
  rw [Reads, c.calls_eq]
  simp [hhandling]

/-! ### One cycle in any surroundings -/

/-- **A cycle that succeeds counts what it has synced** in the sync state that it replaces. -/
theorem counts_of_yields (h : Yields (cycle settings) t (.ok stats)) :
    ∃ state state', Replaces settings.sourceId t state state' ∧
      Counts state.totalSynced stats.synced state'.totalSynced := by
  rcases yields_cycle h with ⟨e, -, hresult⟩ | ⟨_, _, e, -, -, hresult⟩ | ⟨⟨c⟩⟩
  · nomatch hresult
  · nomatch hresult
  · have hresult := c.result_eq
    have hclosed := c.closed
    have hcalls := c.calls_eq
    generalize calls c.closing = closing at hclosed hcalls
    generalize c.updated = updated at hclosed hresult
    cases hclosed with
    | unread => nomatch hresult
    | overflown => nomatch hresult
    | @written state state' now reply hadvance =>
        cases reply with
        | error e => nomatch hresult
        | ok u =>
            have hstats := Except.ok.inj hresult
            have hsynced : stats.synced = c.progress.stats.synced :=
              (congrArg Stats.synced hstats).trans rfl
            rw [← List.cons_append, ← List.cons_append] at hcalls
            refine ⟨state, state', ⟨_, hcalls.symm⟩, ?_⟩
            rw [hsynced]
            exact (advance?_eq_some_iff.mp hadvance).counts

/-- The end of a cycle gets no reply exactly if a total overflows that was read. -/
theorem Closes.eq_none_iff {synced : Nat} {lastStored : Option Int64}
    {reply : Option (Except InfraError Unit)} (h : Closes settings synced lastStored t reply) :
    reply = none ↔ ∃ state, ⟨.readState settings.sourceId, .ok state⟩ ∈ t ∧
      Overflows state.totalSynced synced := by
  cases h with
  | unread => simp
  | @overflown state now hadvance =>
      exact iff_of_true rfl ⟨state, List.mem_singleton_self _, advance?_eq_none_iff.mp hadvance⟩
  | @written state state' now reply hadvance =>
      have hholds := (advance?_eq_some_iff.mp hadvance).not_overflows
      simp [hholds]

/-- A course ends in an overflow exactly if a total overflows that is read at its end. -/
theorem Course.overflow_iff (c : Course settings t result) :
    result = .error (.overflow c.stats) ↔
      ∃ state, ⟨.readState settings.sourceId, .ok state⟩ ∈ calls c.closing ∧
        Overflows state.totalSynced c.stats.synced := by
  have hresult : result = resultOf c.stats c.updated := c.result_eq
  refine Iff.trans ?_ c.closed.eq_none_iff
  rcases hreply : c.updated with _ | e | u
  · exact iff_of_true (hresult.trans (congrArg _ hreply)) rfl
  · rw [hreply] at hresult
    exact iff_of_false (fun h => nomatch hresult.symm.trans h) nofun
  · rw [hreply] at hresult
    exact iff_of_false (fun h => nomatch hresult.symm.trans h) nofun

/-- **A cycle aborts exactly if the total that it has read overflows.** -/
theorem overflow_iff_of_yields (h : Yields (cycle settings) t result)
    (hcounted : counted? result = some stats) : result = .error (.overflow stats) ↔
      ∃ state, Reads settings.sourceId t state ∧ Overflows state.totalSynced stats.synced := by
  obtain ⟨c, rfl⟩ := course_of_counted h hcounted
  simp only [c.overflow_iff, c.reads_iff]

/-! ### One cycle over a database -/

variable {u : Trace (Database.Outside Tx)}

/-- A cycle **reads** the row of a sync state, which the database need not have. -/
def ReadsRow (sourceId : String) (u : Trace (Database.Outside Tx)) (stored : Option SyncState) :
    Prop :=
  ∃ rows, ⟨.run none (.readState sourceId), rows⟩ ∈ Database.statements u ∧
    Database.readRow? Database.stateRow rows = .ok stored

/-- The last two statements of a cycle replace a sync state, of which the database need not have a
row. -/
def ReplacesRow (sourceId : String) (u : Trace (Database.Outside Tx)) (stored : Option SyncState)
    (state' : SyncState) : Prop :=
  ∃ rows rows', [⟨.run none (.readState sourceId), rows⟩,
      ⟨.run none (.writeState state'), .ok rows'⟩] <:+ Database.statements u ∧
    Database.readRow? Database.stateRow rows = .ok stored

/-- **A cycle that succeeds over a database** counts, too, whatever total the row holds. -/
theorem counts_of_statements (h : Yields (Database.overDatabase (cycle settings)) u (.ok stats)) :
    ∃ stored state', ReplacesRow settings.sourceId u stored state' ∧
      Counts (stored.getD (.initial settings.sourceId)).totalSynced stats.synced
        state'.totalSynced := by
  obtain ⟨t, hyields, hexpands⟩ := yields_run.mp h
  obtain ⟨hcarries, -⟩ := Database.carries_of_expands hexpands
  replace hcarries := Database.carries_calls hcarries
  obtain ⟨state, state', ⟨before, hcalls⟩, hcounts⟩ := counts_of_yields hyields
  rw [← hcalls] at hcarries
  obtain ⟨s₁, _, hs, -, _, s₂, rfl, hreading, hwriting⟩ := Trace.stretches_append.mp hcarries
  obtain ⟨rows, rfl, ⟨_, _, -, hread⟩ | ⟨stored, hrow, hread⟩⟩ :=
    Database.statement_of_reading hreading
  · nomatch hread
  · obtain rfl := Except.ok.inj hread
    obtain ⟨rows', rfl, hwritten⟩ :=
      Database.yields_execute (Database.carries_singleton.mp hwriting)
    cases rows' with
    | error fault => nomatch hwritten
    | ok rows' => exact ⟨stored, state', ⟨rows, rows', ⟨s₁, hs.symm⟩, hrow⟩, hcounts⟩

/-- What a cycle reads is what it reads of a row, or the sync state of a source that was never
synced. -/
theorem reads_iff_readsRow (h : Database.Carries (calls t) (Database.statements u)) :
    Reads settings.sourceId t state ↔ ∃ stored, ReadsRow settings.sourceId u stored ∧
      state = stored.getD (.initial settings.sourceId) := by
  constructor
  · intro hreads
    obtain ⟨_, hreading, hsubset⟩ := Trace.exists_stretch h _ hreads
    obtain ⟨rows, rfl, ⟨_, _, -, hread⟩ | ⟨stored, hrow, hread⟩⟩ :=
      Database.statement_of_reading hreading
    · nomatch hread
    · exact ⟨stored, ⟨rows, hsubset (List.mem_singleton_self _), hrow⟩, Except.ok.inj hread⟩
  · rintro ⟨stored, ⟨rows, hmem, hrow⟩, rfl⟩
    obtain ⟨⟨c, reply⟩, hcall, _, hissues, hmem⟩ := Trace.exists_of_mem_stretches h _ hmem
    obtain rfl : c = .readState settings.sourceId := Database.request_of_issues hissues hmem
    obtain ⟨rows', rfl, hreply⟩ := Database.statement_of_reading hissues
    obtain rfl : rows = rows' := by
      rw [List.mem_singleton] at hmem
      injection hmem
    rcases hreply with ⟨_, _, hfault, -⟩ | ⟨stored', hrow', rfl⟩
    · nomatch hrow.symm.trans hfault
    · obtain rfl := Except.ok.inj (hrow.symm.trans hrow')
      exact hcall

/-- **A cycle over a database aborts exactly if the total of the row that it has read
overflows.** -/
theorem overflow_iff_of_statements (h : Yields (Database.overDatabase (cycle settings)) u result)
    (hcounted : counted? result = some stats) : result = .error (.overflow stats) ↔
      ∃ stored, ReadsRow settings.sourceId u stored ∧
        Overflows (stored.getD (.initial settings.sourceId)).totalSynced stats.synced := by
  obtain ⟨t, hyields, hexpands⟩ := yields_run.mp h
  obtain ⟨hcarries, -⟩ := Database.carries_of_expands hexpands
  rw [overflow_iff_of_yields hyields hcounted]
  simp only [reads_iff_readsRow (Database.carries_calls hcarries)]
  constructor
  · rintro ⟨_, ⟨stored, hreads, rfl⟩, hover⟩
    exact ⟨stored, hreads, hover⟩
  · rintro ⟨stored, hreads, hover⟩
    exact ⟨_, ⟨stored, hreads, rfl⟩, hover⟩

end Surroundings

/-! ### Many cycles on one store -/

section Turns

variable {s : Store} {sourceId : String}

/-- The end of a cycle that a store serves reads the sync state of its source there. -/
theorem Closes.reads_iff {w : Replies} {settings : Settings} {synced : Nat}
    {lastStored : Option Int64} {t : Trace (Collaborators Transaction)} {s' : Store}
    {reply : Option (Except InfraError Unit)} {state : SyncState}
    (h : Closes settings synced lastStored t reply) (hserves : s.Serves w t s') :
    ⟨.readState settings.sourceId, .ok state⟩ ∈ t ↔ state = s.stateOf settings.sourceId := by
  cases h with
  | unread =>
      obtain ⟨_, hreply, -⟩ := hserves
      nomatch hreply
  | @overflown stored now hadvance =>
      obtain ⟨_, hread, -⟩ := hserves
      obtain rfl : stored = s.stateOf settings.sourceId := Except.ok.inj hread
      simp
  | @written stored state' now reply hadvance =>
      obtain ⟨_, hread, -⟩ := hserves
      obtain rfl : stored = s.stateOf settings.sourceId := Except.ok.inj hread
      simp

/-- **A cycle on a store aborts exactly if the total of its source overflows.** -/
theorem overflow_iff_of_outcome {w : Replies} {settings : Settings} {stats : Stats}
    (hcounted : counted? (outcome w settings s).1 = some stats) :
    (outcome w settings s).1 = .error (.overflow stats) ↔
      Overflows (s.stateOf settings.sourceId).totalSynced stats.synced := by
  obtain ⟨t, hyields, hserves, -⟩ := serves_outcome w settings s
  obtain ⟨c, rfl⟩ := course_of_counted hyields hcounted
  obtain ⟨s₁, hstates, hclosing, -⟩ := c.serves_closing hserves
  have hstate : s₁.stateOf settings.sourceId = s.stateOf settings.sourceId := by
    rw [Store.stateOf, Store.stateOf, hstates]
  simp only [c.overflow_iff, c.closed.reads_iff hclosing, hstate, exists_eq_left]

/-- What a cycle does to the total of a source: a success of the source counts, and no other
cycle changes the sync state. -/
theorem Turn.counts (hnamed : ∀ sourceId, (s.stateOf sourceId).sourceId = sourceId) (turn : Turn)
    (sourceId : String) :
    (turn.success? sourceId s = none ∧
      (turn.after s).stateOf sourceId = s.stateOf sourceId) ∨
    ∃ x, turn.success? sourceId s = some x ∧ Counts (s.stateOf sourceId).totalSynced
      x.stats.synced ((turn.after s).stateOf sourceId).totalSynced := by
  rcases turn.states_after hnamed sourceId with
    ⟨hnone, hget⟩ | ⟨x, now, state, hsome, hget, hadvanced⟩
  · exact .inl ⟨hnone, by rw [Store.stateOf, hget, Store.stateOf]⟩
  · refine .inr ⟨x, hsome, ?_⟩
    change Counts _ _ (((turn.after s).states.get? sourceId).getD (.initial sourceId)).totalSynced
    rw [hget]
    exact hadvanced.counts

/-- The totals of a source before the first of some cycles and after each of them. -/
def totals (sourceId : String) : Store → List Turn → List Int64
  | s, [] => [(s.stateOf sourceId).totalSynced]
  | s, turn :: turns => (s.stateOf sourceId).totalSynced :: totals sourceId (turn.after s) turns

/-- What the successes of a source count together. -/
def weightOf : List Success → Nat
  | [] => 0
  | x :: successes => weight x.stats.synced + weightOf successes

theorem head?_totals (sourceId : String) (s : Store) (turns : List Turn) :
    (totals sourceId s turns).head? = some (s.stateOf sourceId).totalSynced := by
  cases turns <;> rfl

/-- **Along any cycles the totals of a source never go back.** -/
theorem isChain_totals (hnamed : ∀ sourceId, (s.stateOf sourceId).sourceId = sourceId)
    (turns : List Turn) : (totals sourceId s turns).IsChain (· ≤ ·) := by
  induction turns generalizing s with
  | nil => exact .singleton _
  | cons turn turns ih =>
      refine List.isChain_cons.mpr ⟨fun total htotal => ?_, ih (turn.sourceId_stateOf_after hnamed)⟩
      rw [head?_totals] at htotal
      obtain rfl := Option.some.inj htotal
      rcases turn.counts hnamed sourceId with ⟨-, hsame⟩ | ⟨x, -, hcounts⟩
      · rw [hsame]
        exact Int64.le_refl _
      · exact hcounts.le

/-- **Along any cycles the total of a source grows by all that its successes count.** -/
theorem toInt_totalSynced_afterTurns
    (hnamed : ∀ sourceId, (s.stateOf sourceId).sourceId = sourceId) (turns : List Turn) :
    ((afterTurns s turns).stateOf sourceId).totalSynced.toInt =
      (s.stateOf sourceId).totalSynced.toInt + weightOf (successes sourceId s turns) := by
  induction turns generalizing s with
  | nil => exact (Int.add_zero _).symm
  | cons turn turns ih =>
      have hrest := ih (turn.sourceId_stateOf_after hnamed)
      rw [successes]
      change ((afterTurns (turn.after s) turns).stateOf sourceId).totalSynced.toInt = _
      rcases turn.counts hnamed sourceId with ⟨hnone, hsame⟩ | ⟨x, hsome, hcounts⟩
      · rw [hrest, hnone, hsame, Option.toList_none, List.nil_append]
      · have hsum := hcounts.sum
        rw [hrest, hsome, Option.toList_some, List.singleton_append, weightOf]
        omega

end Turns

/-- **Totals grow, or cycles abort.** A cycle that succeeds, with whatever collaborators, at last
reads the sync state and writes it with what it has synced counted in the total; so it does over a
database, from whatever total the row holds. A cycle that has counted aborts exactly if it has read
a total that overflows when this is counted in it. On a store that holds any sync states, the cycles
of other sources and those that do not succeed leave the sync state of a source as it is. So along
any cycles its totals never go back, and the last one is the first one and all that was counted. -/
theorem totals_grow_or_cycles_abort (Tx : Type) (settings : Settings) (s : Store)
    (states : List SyncState) (turns : List Turn) (sourceId : String) :
    (∀ (t : Trace (Collaborators Tx)) (stats : Stats), Yields (cycle settings) t (.ok stats) →
      ∃ state state', Replaces settings.sourceId t state state' ∧
        Counts state.totalSynced stats.synced state'.totalSynced) ∧
    (∀ (t : Trace (Collaborators Tx)) (result : Except CycleFault Stats) (stats : Stats),
      Yields (cycle settings) t result → counted? result = some stats →
        (result = .error (.overflow stats) ↔ ∃ state, Reads settings.sourceId t state ∧
          Overflows state.totalSynced stats.synced)) ∧
    (∀ (u : Trace (Database.Outside Tx)) (stats : Stats),
      Yields (Database.overDatabase (cycle settings)) u (.ok stats) →
        ∃ stored state', ReplacesRow settings.sourceId u stored state' ∧
          Counts (stored.getD (.initial settings.sourceId)).totalSynced stats.synced
            state'.totalSynced) ∧
    (∀ (u : Trace (Database.Outside Tx)) (result : Except CycleFault Stats) (stats : Stats),
      Yields (Database.overDatabase (cycle settings)) u result → counted? result = some stats →
        (result = .error (.overflow stats) ↔ ∃ stored, ReadsRow settings.sourceId u stored ∧
          Overflows (stored.getD (.initial settings.sourceId)).totalSynced stats.synced)) ∧
    (∀ turn : Turn,
      let s' := afterTurns (s.holding states) turns
      (turn.success? sourceId s' = none →
        (turn.after s').stateOf sourceId = s'.stateOf sourceId) ∧
      (∀ x, turn.success? sourceId s' = some x → Counts (s'.stateOf sourceId).totalSynced
        x.stats.synced ((turn.after s').stateOf sourceId).totalSynced) ∧
      ∀ stats, counted? (turn.outcome s').1 = some stats →
        ((turn.outcome s').1 = .error (.overflow stats) ↔
          Overflows (s'.stateOf turn.settings.sourceId).totalSynced stats.synced)) ∧
    (totals sourceId (s.holding states) turns).IsChain (· ≤ ·) ∧
    ((afterTurns (s.holding states) turns).stateOf sourceId).totalSynced.toInt =
      ((s.holding states).stateOf sourceId).totalSynced.toInt +
        weightOf (successes sourceId (s.holding states) turns) := by
  have hnamed := s.sourceId_stateOf_holding states
  refine ⟨fun _ _ => counts_of_yields, fun _ _ _ => overflow_iff_of_yields,
    fun _ _ => counts_of_statements, fun _ _ _ => overflow_iff_of_statements, fun turn => ?_,
    isChain_totals hnamed turns, toInt_totalSynced_afterTurns hnamed turns⟩
  refine ⟨fun hnone => ?_, fun x hsome => ?_, fun stats => overflow_iff_of_outcome⟩ <;>
    rcases turn.counts (sourceId_stateOf_afterTurns hnamed turns) sourceId with
      ⟨hnone', hsame⟩ | ⟨x', hsome', hcounts⟩
  · exact hsame
  · nomatch hsome'.symm.trans hnone
  · nomatch hnone'.symm.trans hsome
  · obtain rfl := Option.some.inj (hsome'.symm.trans hsome)
    exact hcounts

/-- A store that holds the greatest total. -/
def greatestTotal : Store := Store.holding {} [⟨"ecb", none, 1, Int64.maxValue⟩]

/-- A cycle that stores one new article. -/
def oneArticle : Turn := ⟨.daily, .listing [Article.bare 1 .sooner []], {}⟩

/-- At the greatest total a cycle that saves one more article aborts: the article is there, and the
total stays. -/
theorem greatest_total_aborts :
    (∃ stats, (oneArticle.outcome greatestTotal).1 = .error (.overflow stats) ∧
      stats.synced = 1) ∧
    (oneArticle.outcome greatestTotal).2.committed = [Article.bare 1 .sooner []] ∧
    (oneArticle.after greatestTotal).stateOf "ecb" = greatestTotal.stateOf "ecb" := by
  let states : List SyncState := [⟨"ecb", none, 1, Int64.maxValue⟩]
  obtain ⟨-, -, -, -, hturn, -, -⟩ := totals_grow_or_cycles_abort Unit .daily {} states [] "ecb"
  obtain ⟨hkept, -, haborts⟩ := hturn oneArticle
  have hcounted : (counted? (oneArticle.outcome greatestTotal).1).map Stats.synced = some 1 := by
    decide +kernel
  obtain ⟨stats, hstats, hsynced⟩ := Option.map_eq_some_iff.mp hcounted
  have hover : Overflows (greatestTotal.stateOf "ecb").totalSynced stats.synced := by
    rw [hsynced]
    decide +kernel
  have hresult : (oneArticle.outcome greatestTotal).1 = .error (.overflow stats) :=
    (haborts stats hstats).mpr hover
  refine ⟨⟨stats, hresult, hsynced⟩, by decide +kernel, hkept ?_⟩
  change oneArticle.success? "ecb" greatestTotal = none
  rw [Turn.success?, hresult]
  rfl

end Cycle

end FeedSync
