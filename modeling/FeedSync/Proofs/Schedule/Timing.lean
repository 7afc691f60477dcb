import FeedSync.Proofs.Schedule.Rounds

/-!
# When cycles start and end

As long as no shutdown is requested, a schedule goes on for ever, and when its cycles start and end
depends on nothing but how long they take. A cycle that is late moves the ticks after it, so that
missed ticks are never made up for; as long as no cycle is late the ticks stay on a grid.

## Main statements

* `Follows.add_interval_le` — two cycles never start closer than the interval, but for the
  tolerance.
* `start_eq_of_prompt` — without delay the cycles start on the grid.
* `cycles_on_time` — all that a schedule promises about time.
-/

namespace FeedSync

namespace Round

variable {I : Interface} {σ : Type} {schedule : Schedule} {r r' : Round I σ}

/-- A tick that comes late moves the next one away, and one that does not leaves it on the grid:
**two cycles never start closer than the interval**, but for the tolerance. -/
theorem Follows.add_interval_le (h : r.Follows schedule r') :
    r.start + schedule.interval ≤ r'.start + Schedule.tolerance := by
  obtain ⟨hdue, hstart⟩ := h
  have hle : r'.due ≤ r'.start := hstart ▸ Nat.le_max_left _ _
  rw [Schedule.nextDue] at hdue
  split at hdue <;> omega

/-- A cycle starts when the one before it has ended, or later. -/
theorem Follows.finish_le (h : r.Follows schedule r') : r.finish ≤ r'.start :=
  h.2 ▸ Nat.le_max_right _ _

/-- A cycle that has ended by the next tick is followed at that tick, and the ticks stay on the grid
if it has started with its own. -/
theorem Follows.start_eq (h : r.Follows schedule r') (hdue : r.start = r.due)
    (hprompt : r.finish ≤ r'.due) :
    r'.start = r.start + schedule.interval ∧ r'.start = r'.due := by
  obtain ⟨hnext, hstart⟩ := h
  rw [Nat.max_eq_left hprompt] at hstart
  refine ⟨?_, hstart⟩
  rw [hstart, hnext, hdue, Schedule.nextDue, if_neg (by omega)]

/-- **Without delay the cycles start on the grid**: if each cycle so far has ended by the next tick,
the ticks have not drifted. -/
theorem start_eq_of_prompt {rs : List (Round I σ)} {origin : Nat}
    (hchain : rs.IsChain (Follows schedule))
    (hhead : ∀ r ∈ rs.head?, r.start = origin ∧ r.start = r.due) {i : Nat} {r : Round I σ}
    (hr : rs[i]? = some r)
    (hprompt : ∀ j < i, ∀ a b, rs[j]? = some a → rs[j + 1]? = some b → a.finish ≤ b.due) :
    r.start = origin + i * schedule.interval ∧ r.start = r.due := by
  induction i generalizing r with
  | zero =>
      rw [← List.head?_eq_getElem?] at hr
      obtain ⟨hstart, hdue⟩ := hhead r hr
      exact ⟨by rw [hstart, Nat.zero_mul, Nat.add_zero], hdue⟩
  | succ i ih =>
      obtain ⟨hi, rfl⟩ := List.getElem?_eq_some_iff.mp hr
      have hlast : rs[i]? = some rs[i] := List.getElem?_eq_getElem (Nat.lt_of_succ_lt hi)
      obtain ⟨hstart, hdue⟩ := ih hlast fun j hj => hprompt j (Nat.lt_succ_of_lt hj)
      have hfollows : rs[i].Follows schedule rs[i + 1] := List.isChain_iff_getElem.mp hchain i hi
      obtain ⟨hnext, hdue'⟩ := hfollows.start_eq hdue (hprompt i (Nat.lt_succ_self i) _ _ hlast hr)
      refine ⟨?_, hdue'⟩
      rw [hnext, hstart, Nat.succ_mul, Nat.add_assoc]

/-- **One round comes before another**: it has ended when the cycle of the other one starts. -/
def Before (r r' : Round I σ) : Prop := r.finish ≤ r'.start ∧ r'.start ≤ r'.finish

instance : Trans (Before (I := I) (σ := σ)) Before Before where
  trans h h' := ⟨Nat.le_trans h.1 (Nat.le_trans h.2 h'.1), h'.2⟩

/-- **No two cycles overlap**, if each one starts after the one before it. -/
theorem pairwise_of_isChain {rs : List (Round I σ)} (hchain : rs.IsChain (Follows schedule))
    (hle : ∀ r ∈ rs, r.start ≤ r.finish) : rs.Pairwise Before := by
  refine (List.isChain_iff_getElem.mpr fun i hi => ?_).pairwise
  exact ⟨(hchain.getElem i hi).finish_le, hle _ (List.getElem_mem hi)⟩

end Round

namespace Peers

variable {I : Interface} {σ : Type}

/-- The first cycle starts at once. -/
theorem head_roundsOf {peers : Peers I σ} {schedule : Schedule}
    {p : Program I (Except SyncError Stats)} {cycles : Nat} {t : Timed (Watched I σ)}
    {r : Round I σ} (h : r ∈ (peers.roundsOf schedule p cycles t).head?) :
    r.start = t.clock ∧ r.start = r.due := by
  obtain ⟨hdue, hstart⟩ := head_rounds h
  rw [Nat.max_self] at hstart
  exact ⟨hstart, hstart.trans hdue.symm⟩

/-- **What a schedule promises about time**, whatever its cycles take. Its first cycle starts at
once, and no two cycles overlap. As long as no shutdown is requested it goes on, and no cycle is cut
short: each one ends after the time that it takes or at the time limit, and as timed out exactly if
it takes longer than that. Each cycle is followed at the next tick if it has ended before, else at
once; two cycles never start closer than the interval, but for the tolerance; and as long as each
cycle has ended by the next tick, the cycles start at the multiples of the interval. -/
theorem cycles_on_time (peers : Peers I σ) (schedule : Schedule)
    (p : Program I (Except SyncError Stats)) (cycles : Nat) (t : Timed (Watched I σ)) :
    let rs := peers.roundsOf schedule p cycles t
    (∃ t', peers.start schedule p cycles t = (.ok (), t') ∧
      t'.world.starts = t.world.starts ++ rs.map Round.start) ∧
    (t.shutdown = none → rs.length = cycles ∧ ∀ r ∈ rs, ∃ outcome, r.result = .ok outcome) ∧
    (∀ r ∈ rs.head?, r.start = t.clock) ∧
    rs.Pairwise (fun r r' => r.finish ≤ r'.start) ∧
    (∀ r ∈ rs, ∀ outcome, r.result = .ok outcome →
      (r.finish : ℕ∞) = r.start + min (peers.length p r.began.world.world) schedule.timeout ∧
      (outcome = .timedOut ↔ schedule.timeout < peers.length p r.began.world.world)) ∧
    rs.IsChain (fun r r' => r'.due = schedule.nextDue r.due r.start ∧
      (r.finish < r'.due → r'.start = r'.due) ∧ (r'.due ≤ r.finish → r'.start = r.finish) ∧
      r.start + schedule.interval ≤ r'.start + Schedule.tolerance) ∧
    (∀ i r, rs[i]? = some r →
      (∀ j < i, ∀ a b, rs[j]? = some a → rs[j + 1]? = some b → a.finish ≤ b.due) →
      r.start = t.clock + i * schedule.interval) := by
  intro rs
  obtain ⟨t', heq, -, hstarts, -, hend⟩ := peers.start_cases schedule p cycles t
  have hchain : rs.IsChain (Round.Follows schedule) := peers.isChain_rounds schedule p cycles _ _
  have hhead : ∀ r ∈ rs.head?, r.start = t.clock ∧ r.start = r.due :=
    fun r hr => head_roundsOf hr
  have hran : ∀ r ∈ rs, peers.Ran schedule p r ∧ r.began.stop = t.stop := fun r hr => by
    obtain ⟨hran, hpasses⟩ := ran_of_mem hr
    exact ⟨hran, hpasses.stop⟩
  refine ⟨⟨t', heq, hstarts⟩, fun hshutdown => ?_, fun r hr => (hhead r hr).1, ?_, ?_, ?_, ?_⟩
  · have hnever : t.stop = none := by rw [Timed.stop, hshutdown]; rfl
    have hgoesOn : t.stop ≠ some t'.clock := hnever ▸ (Option.some_ne_none _).symm
    refine ⟨hend.resolve_right hgoesOn, fun r hr => ?_⟩
    obtain ⟨hran, hstop⟩ := hran r hr
    obtain ⟨-, -, -, -, ⟨-, hshut⟩ | ⟨outcome, hok, -⟩⟩ := hran.cases
    · cases (hstop.trans hnever).symm.trans hshut
    · exact ⟨outcome, hok⟩
  · refine (Round.pairwise_of_isChain hchain fun r hr => ?_).imp And.left
    exact (hran r hr).1.cases.1.clock_le
  · intro r hr outcome hok
    obtain ⟨-, -, -, -, ⟨hshut, -⟩ | ⟨outcome', hok', hfinish, htimedOut⟩⟩ := (hran r hr).1.cases
    · cases hok.symm.trans hshut
    · obtain rfl := Except.ok.inj (hok.symm.trans hok')
      exact ⟨hfinish, htimedOut⟩
  · refine hchain.imp fun r r' h => ⟨h.1, fun hlt => ?_, fun hle => ?_, h.add_interval_le⟩
    · rw [h.2, Nat.max_eq_left (Nat.le_of_lt hlt)]
    · rw [h.2, Nat.max_eq_right hle]
  · intro i r hr hprompt
    exact (Round.start_eq_of_prompt hchain hhead hr hprompt).1

/-- Cycles of two calls each, with an interval of 10 ms and a time limit of 30 ms. The second cycle
ends 15 ms late, and no call after it is replied to: each further cycle is timed out, the next one
starts at once, and no missed tick is made up for. -/
theorem cycles_on_time_after_late_cycle :
    let schedule : Schedule := { sourceId := "ecb", interval := 10, timeout := 30 }
    let peers := paced [3, 0, 20, 5]
    let t : Timed (Watched Paced Nat) := { world := { world := 0 } }
    let rs := peers.roundsOf schedule twoCalls 5 t
    (∃ t', peers.start schedule twoCalls 5 t = (.ok (), t') ∧
      t'.world.starts = rs.map Round.start) ∧
    (∀ r ∈ rs, ∃ outcome, r.result = .ok outcome) ∧
    rs.map (fun r => (r.due, r.start, r.finish)) =
      [(0, 0, 3), (10, 10, 35), (20, 35, 65), (45, 65, 95), (75, 95, 125)] ∧
    ∀ r ∈ rs, ∀ outcome, r.result = .ok outcome →
      (outcome = .timedOut ↔ (30 : ℕ) < peers.length twoCalls r.began.world.world) := by
  intro schedule peers t rs
  obtain ⟨⟨t', heq, hstarts⟩, hgoesOn, -, -, hends, -, -⟩ :=
    peers.cycles_on_time schedule twoCalls 5 t
  rw [show t.world.starts = [] from rfl, List.nil_append] at hstarts
  exact ⟨⟨t', heq, hstarts⟩, (hgoesOn rfl).2, by decide +kernel,
    fun r hr outcome hok => (hends r hr outcome hok).2⟩

end Peers

end FeedSync
