import FeedSync.Proofs.Cycle.Protocol

/-!
# The balance of a cycle

The numbers of a cycle add up, whatever its collaborators reply: every article inside the window is
either skipped or selected, and every selected one has one fate. So each kind of fate is counted
along the stretches of calls, and the sums are read off at the end.

## Main definitions

* `commits` — how many units of work were committed.
* `Balanced` — the statistics of a cycle add up.

## Main statements

* `HandlesAll.commits_eq` — the articles that count as saved are those whose unit was committed.
* `cycle_balances` — the statistics of a cycle that gets past its batch query add up.
-/

namespace FeedSync

open Program

variable {Tx : Type}

/-- Whether an exchange is a commit that succeeded. -/
def Exchange.isCommit : Exchange (Collaborators Tx) → Bool
  | ⟨.commit _, .ok ()⟩ => true
  | _ => false

namespace Cycle

variable {settings : Settings} {a : Article} {t : Trace (Collaborators Tx)} {fate : Fate}
  {fates : Fates}

/-! ### Commits -/

/-- How many units of work were committed. -/
def commits (t : Trace (Collaborators Tx)) : Nat := t.countP Exchange.isCommit

theorem commits_append (t t' : Trace (Collaborators Tx)) :
    commits (t ++ t') = commits t + commits t' :=
  List.countP_append

/-- A commit is a call. -/
theorem commits_calls (t : Trace (Collaborators Tx)) : commits (calls t) = commits t := by
  rw [commits, calls, List.countP_filter]
  refine List.countP_congr fun x _ => ?_
  obtain ⟨_ | _ | _ | _ | _ | tx | _ | _ | _ | c, reply⟩ := x <;>
    simp [Exchange.isCommit, Call.isAmbient]

/-- The writes of an article commit nothing. -/
theorem Writes.commits_eq {tx tx' : Tx} {reply : Except InfraError Unit}
    (h : Writes a tx t tx' reply) : commits t = 0 := by
  cases h <;> rfl

/-- A unit of work is committed once if it succeeds, and never otherwise. -/
theorem Works.commits_eq {reply : Except InfraError Unit} (h : Works a t reply) :
    commits t = if reply.isOk then 1 else 0 := by
  cases h with
  | unbegun => rfl
  | @committed tx tx' t reply h =>
      change commits (t ++ [_]) = _
      rw [commits_append, h.commits_eq]
      cases reply <;> rfl
  | @rolledBack tx tx' t e reply h =>
      change commits (t ++ [_]) = _
      rw [commits_append, h.commits_eq]
      rfl

/-- A save commits once if it succeeds, and never otherwise. -/
theorem Saves.commits_eq {sourceId : String} {reply : Except InfraError Bool}
    (h : Saves sourceId a t reply) : commits t = if reply.isOk then 1 else 0 := by
  cases h with
  | unasked => rfl
  | failed h => exact h.commits_eq
  | stored h => exact h.commits_eq

/-- An article counts as saved if its unit of work was committed. -/
theorem Handles.commits_eq (h : Handles settings a t fate) :
    commits t = if fate.isStored then 1 else 0 := by
  cases h with
  | failed h => exact h.commits_eq
  | unpublished _ h => exact h.commits_eq
  | published _ h =>
      rw [commits_append, h.commits_eq]
      rfl

/-- **The articles that count as saved are those whose unit of work was committed.** -/
theorem HandlesAll.commits_eq (h : HandlesAll settings t fates) :
    commits t = fates.stored.length := by
  induction h with
  | nil => rfl
  | @cons a fate fates t t' h _ ih =>
      rw [commits_append, h.commits_eq, ih, ← List.singleton_append, Fates.stored_append,
        List.length_append]
      cases fate <;> rfl

/-- The end of a cycle commits nothing. -/
theorem Closes.commits_eq {synced : Nat} {lastStored : Option Int64}
    {reply : Option (Except InfraError Unit)} (h : Closes settings synced lastStored t reply) :
    commits t = 0 := by
  cases h <;> rfl

/-! ### Fates -/

/-- No article is published that was not saved. -/
theorem Fates.count_isPublished_le (fates : Fates) :
    fates.count Fate.isPublished ≤ fates.stored.length := by
  rw [stored, List.length_map, ← List.countP_eq_length_filter]
  refine List.countP_mono_left fun x _ h => ?_
  obtain ⟨a, _ | ⟨isNew, publication⟩⟩ := x
  · exact h
  · rfl

/-- If the cycle publishes, each selected article is either published or an error. -/
theorem HandlesAll.count_of_publishes (h : HandlesAll settings t fates)
    (hpublishes : settings.publishes = true) :
    fates.count Fate.isError + fates.count Fate.isPublished = fates.length := by
  induction h with
  | nil => rfl
  | @cons a fate fates t t' h _ ih =>
      rw [← List.singleton_append, Fates.count_append, Fates.count_append, List.length_append, ← ih]
      have hone : Fates.count Fate.isError [(a, fate)] + Fates.count Fate.isPublished [(a, fate)] =
          1 := by
        cases h with
        | failed => rfl
        | unpublished hsilent => exact absurd hpublishes (Bool.eq_false_iff.mp hsilent)
        | @published t isNew reply => cases reply <;> rfl
      rw [List.length_singleton]
      omega

/-- If the cycle does not publish, each selected article is either saved or an error. -/
theorem HandlesAll.count_of_not_publishes (h : HandlesAll settings t fates)
    (hpublishes : settings.publishes = false) :
    fates.count Fate.isPublished = 0 ∧
      fates.stored.length + fates.count Fate.isError = fates.length := by
  induction h with
  | nil => exact ⟨rfl, rfl⟩
  | @cons a fate fates t t' h _ ih =>
      rw [← List.singleton_append, Fates.count_append, Fates.count_append, Fates.stored_append,
        List.length_append, List.length_append, ih.1, ← ih.2]
      have hone : Fates.count Fate.isPublished [(a, fate)] = 0 ∧
          (Fates.stored [(a, fate)]).length + Fates.count Fate.isError [(a, fate)] = 1 := by
        cases h with
        | failed => exact ⟨rfl, rfl⟩
        | unpublished => exact ⟨rfl, rfl⟩
        | published hloud => exact absurd hloud (Bool.eq_false_iff.mp hpublishes)
      rw [List.length_singleton]
      omega

/-! ### The balance -/

/-- The statistics that a cycle has counted by its end. It tells them if it succeeds or fails only
at its end; one that aborts takes them with it. -/
def counted? : Except CycleFault Stats → Option Stats
  | .ok stats => some stats
  | .error (.failed e) => e.stats?
  | .error (.overflow stats) => some stats

/-- **The statistics of a cycle add up**: of the articles inside the window, the selected ones, and
so many units of work that were committed. -/
structure Balanced (settings : Settings) (articles selected : List Article) (committed : Nat)
    (stats : Stats) : Prop where
  fetched : stats.fetched = articles.length
  /-- The skipped articles are counted by a subtraction, which has a result. -/
  selected_le : selected.length ≤ articles.length
  skipped : stats.skipped + selected.length = articles.length
  stored : stats.new + stats.updated = committed
  publishing : settings.publishes = true →
    stats.skipped + stats.errors + stats.published = stats.fetched ∧
      stats.published ≤ stats.new + stats.updated
  silent : settings.publishes = false → stats.published = 0 ∧
    stats.skipped + stats.new + stats.updated + stats.errors = stats.fetched

/-- The numbers of the selected articles with their fates add up. -/
theorem HandlesAll.balanced {articles selected : List Article} (h : HandlesAll settings t fates)
    (elapsed : Elapsed) (hfates : fates.articles = selected)
    (hle : selected.length ≤ articles.length) :
    Balanced settings articles selected (commits t)
      { (fates.addTo { stats := statsBefore settings articles selected }).stats with elapsed } := by
  have hlength : fates.length = selected.length := by rw [← hfates, Fates.articles, List.length_map]
  have hstored := h.commits_eq
  have hnew := fates.length_stored
  have hpublished := fates.count_isPublished_le
  refine ⟨rfl, hle, ?_, ?_, fun hpublishes => ?_, fun hpublishes => ?_⟩ <;>
    simp only [Fates.addTo, statsBefore, Nat.zero_add]
  · omega
  · omega
  · have hcount := h.count_of_publishes hpublishes
    omega
  · have hcount := h.count_of_not_publishes hpublishes
    omega

/-- Every course has counted, whether the sync state could be updated or not. -/
theorem Course.counted?_eq {result : Except CycleFault Stats} (c : Course settings t result) :
    counted? result = some c.stats := by
  calc counted? result = counted? (resultOf c.stats c.updated) := congrArg counted? c.result_eq
    _ = some c.stats := by rcases c.updated with _ | _ | _ <;> rfl

/-- A cycle that has counted has taken its course. -/
theorem course_of_counted {result : Except CycleFault Stats} {stats : Stats}
    (h : Yields (cycle settings) t result) (hcounted : counted? result = some stats) :
    ∃ c : Course settings t result, stats = c.stats := by
  rcases yields_cycle h with ⟨e, -, rfl⟩ | ⟨_, _, e, -, -, rfl⟩ | ⟨⟨c⟩⟩
  · nomatch hcounted
  · nomatch hcounted
  · exact ⟨c, Option.some.inj (hcounted.symm.trans c.counted?_eq)⟩

/-- **The statistics add up** in every course that a cycle can take. -/
theorem Course.balanced {result : Except CycleFault Stats} (c : Course settings t result) :
    ∃ stats, counted? result = some stats ∧
      Balanced settings c.articles c.selected (commits t) stats := by
  obtain ⟨fates, hfates, hhandles, hprogress⟩ := c.exists_fates
  have hbalanced := hhandles.balanced c.elapsed hfates (length_selectForSync_le _ _)
  have hcommits : commits t = commits (calls c.handling) := by
    calc commits t = commits (calls t) := (commits_calls t).symm
      _ = commits ([_, _] ++ (calls c.handling ++ calls c.closing)) := congrArg commits c.calls_eq
      _ = commits [_, _] + (commits (calls c.handling) + commits (calls c.closing)) := by
        rw [commits_append, commits_append]
      _ = 0 + (commits (calls c.handling) + 0) := by rw [c.closed.commits_eq]; rfl
      _ = commits (calls c.handling) := Nat.zero_add _
  rw [← hprogress, ← hcommits] at hbalanced
  exact ⟨_, c.counted?_eq, hbalanced⟩

/-- **No article is lost or counted twice.** A cycle has counted if and only if its source was
fetched and its batch query was answered; then its statistics add up, whatever was replied to its
other calls. -/
theorem cycle_balances {result : Except CycleFault Stats}
    (h : Yields (cycle settings) t result) :
    (∀ stats, counted? result = some stats → ∃ fetched now held rest,
      t.findSome? Exchange.reading? = some now ∧
      calls t = ⟨.external (.fetch settings.maxPages), .ok fetched⟩ ::
        ⟨.held settings.sourceId ((windowAt settings now fetched).map Article.externalId),
          .ok held⟩ :: rest ∧
      Balanced settings (windowAt settings now fetched)
        (selectForSync (windowAt settings now fetched) held.get?) (commits t) stats) ∧
    ∀ fetched ids held rest, calls t = ⟨.external (.fetch settings.maxPages), .ok fetched⟩ ::
        ⟨.held settings.sourceId ids, .ok held⟩ :: rest →
      ∃ stats, counted? result = some stats := by
  rcases yields_cycle h with ⟨e, hcalls, rfl⟩ | ⟨fetched, now, e, hcalls, hreading, rfl⟩ | ⟨⟨c⟩⟩
  · refine ⟨fun stats hstats => (nomatch hstats), fun fetched ids held rest heq => ?_⟩
    rw [hcalls] at heq
    nomatch heq
  · refine ⟨fun stats hstats => (nomatch hstats), fun fetched ids held rest heq => ?_⟩
    rw [hcalls] at heq
    nomatch heq
  · obtain ⟨stats, hstats, hbalanced⟩ := c.balanced
    refine ⟨fun stats' hstats' => ?_, fun _ _ _ _ _ => ⟨stats, hstats⟩⟩
    obtain rfl : stats = stats' := Option.some.inj (hstats.symm.trans hstats')
    exact ⟨c.fetched, c.now, c.held, _, c.findSome?_reading, c.calls_eq, hbalanced⟩

/-- A cycle over four articles: the first one is not saved, the second one not published, the fourth
one repeats the third, and the sync state is not updated. -/
theorem balance_of_failing_cycle :
    let s : Store := { plan := { upserts := [1], states := true } }
    let a := Article.bare 1 .sooner []
    let b := Article.bare 2 .sooner []
    let c := Article.bare 3 .sooner []
    let w := { Replies.listing [a, b, c, c] with
      publish _ x _ := if x = b then .error (.backend "") else .ok () }
    let stats : Stats :=
      { sourceId := "ecb", fetched := 4, new := 2, skipped := 1, errors := 2, published := 1 }
    counted? (outcome w .daily s).1 = some stats ∧
      ∃ articles selected, Balanced .daily articles selected 2 stats := by
  intro s a b c w stats
  have hstats : counted? (outcome w .daily s).1 = some stats := by decide +kernel
  have hcommits : commits (trace (Scene.answer w alone) (cycle .daily) (Scene.start s)) = 2 :=
    by decide +kernel
  obtain ⟨_, _, _, _, -, -, hbalanced⟩ := (cycle_balances (yields_trace _ _).1).1 stats hstats
  exact ⟨hstats, _, _, hcommits ▸ hbalanced⟩

end Cycle

end FeedSync
