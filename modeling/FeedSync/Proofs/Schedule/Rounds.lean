import FeedSync.Proofs.Schedule.Peers

/-!
# The rounds of a schedule

A schedule goes in rounds: it waits for a tick, starts a cycle and lets it end. This module follows
a run of a schedule and writes down its rounds, each with the state in which the cycle has started
and the one in which it has ended, and shows that the run starts the cycles of its rounds and no
others, and in which order.

## Main definitions

* `Round` — a tick and the cycle that it starts.
* `Peers.rounds` — the rounds of a run.
* `Round.Follows` — how one round comes after another.

## Main statements

* `runFrom_cases` — a run starts the cycles of its rounds, makes their calls, and goes on until the
  shutdown.
* `isChain_rounds` — each round follows the one before it.
* `start_cases` — the same for a run from its beginning.
-/

namespace FeedSync

/-- **A round**: a tick, and the cycle that it starts. -/
structure Round (I : Interface) (σ : Type) where
  /-- When the tick was due. -/
  due : Nat
  /-- The state in which the cycle has started. -/
  began : Timed (Watched I σ)
  /-- How the cycle has ended. -/
  result : Except Interruption Outcome
  /-- The state in which it has ended. -/
  ended : Timed (Watched I σ)

namespace Round

variable {I : Interface} {σ : Type}

/-- When the cycle of a round has started. -/
def start (r : Round I σ) : Nat := r.began.clock

/-- When the cycle of a round has ended. -/
def finish (r : Round I σ) : Nat := r.ended.clock

/-- The calls of the cycle. -/
def calls (r : Round I σ) : List (Sent I) := r.ended.world.calls.drop r.began.world.calls.length

/-- **How a round follows another one**: its tick is the next one, and its cycle starts with the
tick, unless the cycle before it has not ended by then. -/
def Follows (schedule : Schedule) (r r' : Round I σ) : Prop :=
  r'.due = schedule.nextDue r.due r.start ∧ r'.start = max r'.due r.finish

end Round

namespace Peers

variable {I : Interface} {σ : Type} (peers : Peers I σ) (schedule : Schedule)
  (p : Program I (Except SyncError Stats))

/-- Runs cycles from a due tick on. -/
def runFrom (cycles due : Nat) : Act (Watched I σ) Unit :=
  schedule.runFrom peers.log peers.atShutdown (peers.cycle p) cycles due

/-- Runs cycles. -/
def start (cycles : Nat) : Act (Watched I σ) Unit :=
  schedule.start peers.log peers.atShutdown (peers.cycle p) cycles

/-- **The rounds of a run** from a due tick on, with so many cycles at most. -/
def rounds : (cycles due : Nat) → Timed (Watched I σ) → List (Round I σ)
  | 0, _, _ => []
  | cycles + 1, due, t =>
    let came := max due t.clock
    -- the shutdown may come with the tick, and again before the cycle
    match (do Act.passUntil came; Act.passUntil came : Act (Watched I σ) Unit) t with
    | (.error _, _) => []
    | (.ok (), began) =>
      match peers.runOnce schedule p began with
      | (.ok outcome, ended) =>
        ⟨due, began, .ok outcome, ended⟩ :: rounds cycles (schedule.nextDue due came) ended
      | (.error i, ended) => [⟨due, began, .error i, ended⟩]

variable {peers schedule p} {t : Timed (Watched I σ)} {cycles due : Nat}

/-- The cycle of a round **ran** in it. -/
structure Ran (peers : Peers I σ) (schedule : Schedule)
    (p : Program I (Except SyncError Stats)) (r : Round I σ) : Prop where
  run : peers.runOnce schedule p r.began = (r.result, r.ended)
  due_le : r.due ≤ r.start

/-- How the cycle of a round ends, and which calls it makes. -/
theorem Ran.cases {r : Round I σ} (h : peers.Ran schedule p r) :
    r.began.Passes r.ended ∧ r.ended.world.starts = r.began.world.starts ++ [r.start] ∧
      r.ended.world.calls = r.began.world.calls ++ r.calls ∧
      Sent.InTurn r.start r.finish r.calls ∧
      (r.result = .error .shutdown ∧ r.began.stop = some r.finish ∨
        ∃ outcome, r.result = .ok outcome ∧ (r.finish : ℕ∞) =
          r.start + min (peers.length p r.began.world.world) schedule.timeout ∧
          (outcome = .timedOut ↔ schedule.timeout < peers.length p r.began.world.world)) := by
  obtain ⟨result, t', calls, heq, hpasses, hstarts, hcalls, hturn, hcases⟩ :=
    runOnce_cases peers schedule p r.began
  obtain ⟨rfl, rfl⟩ := Prod.mk.inj (h.run.symm.trans heq)
  obtain rfl : r.calls = calls := by rw [Round.calls, hcalls, List.drop_left]
  exact ⟨hpasses, hstarts, hcalls, hturn, hcases⟩

/-! ### One round -/

/-- **A run leaves at the shutdown**: no cycle starts and no call is made any more. -/
structure Leaves (t t' : Timed (Watched I σ)) : Prop where
  passes : t.Passes t'
  starts : t'.world.starts = t.world.starts
  calls : t'.world.calls = t.world.calls
  stop : t.stop = some t'.clock

/-- A run leaves where the shutdown comes while it waits. -/
theorem Leaves.of_stop {t' : Timed (Watched I σ)} (hpasses : t.Passes t')
    (hworld : t'.world = t.world) (hstop : t.stop = some t'.clock) : Leaves t t' :=
  ⟨hpasses, congrArg Watched.starts hworld, congrArg Watched.calls hworld, hstop⟩

/-- What is done after the shutdown takes no time and leaves what was written down. -/
theorem Leaves.of_world {t' : Timed (Watched I σ)} (h : Leaves t t') (world : σ) :
    Leaves t { t' with world := { t'.world with world } } where
  passes := h.passes.trans (.of_clock rfl rfl rfl)
  starts := h.starts
  calls := h.calls
  stop := h.stop

/-- What the shutdown cuts short. -/
theorem unlessShutDown_of_shutdown {act : Act (Watched I σ) Unit} {t' : Timed (Watched I σ)}
    (h : act t = (.error .shutdown, t')) :
    Schedule.unlessShutDown peers.atShutdown act t =
      (.ok false, { t' with world := { t'.world with world := peers.leave t'.world.world } }) := by
  rw [Schedule.unlessShutDown, h]
  rfl

/-- What the shutdown does not cut short comes to its end. -/
theorem unlessShutDown_of_ok {act : Act (Watched I σ) Unit} {t' : Timed (Watched I σ)}
    (h : act t = (.ok (), t')) :
    Schedule.unlessShutDown peers.atShutdown act t = (.ok true, t') := by
  rw [Schedule.unlessShutDown, h]

/-- Whatever the result of an act, it may be forgotten. -/
theorem discard_of_eq {α : Type} {act : Act (Watched I σ) α} {result : Except Interruption α}
    {t' : Timed (Watched I σ)} (h : act t = (result, t')) :
    (discard act : Act (Watched I σ) Unit) t = (result.map fun _ => (), t') := by
  cases result with
  | ok a => exact Act.bind_of_ok h
  | error i => exact Act.bind_of_error h

variable (peers schedule p) in
/-- Starts a cycle that is due now, unless the shutdown comes before. -/
def turn (came : Nat) : Act (Watched I σ) Unit := do
  Act.passUntil came
  discard <| peers.runOnce schedule p

variable {t₁ : Timed (Watched I σ)}

/-- A run after a tick. -/
theorem runFrom_of_tick (htick : Act.passUntil (max due t.clock) t = (.ok (), t₁)) :
    peers.runFrom schedule p (cycles + 1) due t = (do
      if ← Schedule.unlessShutDown peers.atShutdown (peers.turn schedule p (max due t.clock)) then
        peers.runFrom schedule p cycles (schedule.nextDue due (max due t.clock))
      else peers.log (Schedule.event .warn "シャットダウン要求により実行中の同期を中断しました")) t₁ := by
  have hget : (get : Act (Watched I σ) (Timed (Watched I σ))) t = (.ok t, t) := rfl
  exact (Act.bind_of_ok hget).trans ((Act.bind_of_ok (unlessShutDown_of_ok htick)).trans rfl)

/-- A run in which a cycle has ended. -/
theorem runFrom_of_ok {t₂ : Timed (Watched I σ)}
    (htick : Act.passUntil (max due t.clock) t = (.ok (), t₁))
    (hturn : peers.turn schedule p (max due t.clock) t₁ = (.ok (), t₂)) :
    peers.runFrom schedule p (cycles + 1) due t =
      peers.runFrom schedule p cycles (schedule.nextDue due (max due t.clock)) t₂ :=
  (runFrom_of_tick htick).trans ((Act.bind_of_ok (unlessShutDown_of_ok hturn)).trans rfl)

/-- A run in which a cycle was cut short, or could not start any more, leaves. -/
theorem runFrom_of_shutdown {t₀ t₂ : Timed (Watched I σ)}
    (htick : Act.passUntil (max due t.clock) t = (.ok (), t₁))
    (hturn : peers.turn schedule p (max due t.clock) t₁ = (.error .shutdown, t₂))
    (hleaves : Leaves t₀ t₂) :
    ∃ t', peers.runFrom schedule p (cycles + 1) due t = (.ok (), t') ∧ Leaves t₀ t' :=
  ⟨_, (runFrom_of_tick htick).trans
    ((Act.bind_of_ok (unlessShutDown_of_shutdown hturn)).trans rfl),
    (hleaves.of_world _).of_world _⟩

/-- Where the shutdown comes before the cycle there is no round. -/
theorem rounds_of_shutdown {i : Interruption} (h : (do
      Act.passUntil (max due t.clock)
      Act.passUntil (max due t.clock) : Act (Watched I σ) Unit) t = (.error i, t₁)) :
    peers.rounds schedule p (cycles + 1) due t = [] := by
  simp only [rounds]
  rw [h]

/-- The first round of a run in which a cycle starts. -/
theorem rounds_of_ready {t₂ t₃ : Timed (Watched I σ)} {result : Except Interruption Outcome}
    (htick : Act.passUntil (max due t.clock) t = (.ok (), t₁))
    (hready : Act.passUntil (max due t.clock) t₁ = (.ok (), t₂))
    (hrun : peers.runOnce schedule p t₂ = (result, t₃)) :
    peers.rounds schedule p (cycles + 1) due t = ⟨due, t₂, result, t₃⟩ :: match result with
      | .ok _ => peers.rounds schedule p cycles (schedule.nextDue due (max due t.clock)) t₃
      | .error _ => [] := by
  simp only [rounds]
  rw [Act.bind_of_ok htick, hready]
  cases result <;> simp only [hrun]

variable (peers schedule p) in
/-- **One round of a run**: it leaves before the cycle has started, or goes on after the cycle, or
leaves while the cycle is running. -/
theorem round_cases (cycles due : Nat) (t : Timed (Watched I σ)) :
    (peers.rounds schedule p (cycles + 1) due t = [] ∧
      ∃ t', peers.runFrom schedule p (cycles + 1) due t = (.ok (), t') ∧ Leaves t t') ∨
    ∃ r, peers.Ran schedule p r ∧ r.due = due ∧ r.start = max due t.clock ∧ t.Passes r.began ∧
      r.began.world = t.world ∧
      (peers.rounds schedule p (cycles + 1) due t =
          r :: peers.rounds schedule p cycles (schedule.nextDue r.due r.start) r.ended ∧
        peers.runFrom schedule p (cycles + 1) due t =
          peers.runFrom schedule p cycles (schedule.nextDue r.due r.start) r.ended ∨
      peers.rounds schedule p (cycles + 1) due t = [r] ∧
        ∃ t', peers.runFrom schedule p (cycles + 1) due t = (.ok (), t') ∧ Leaves r.ended t') := by
  obtain ⟨t₁, hpasses₁, hworld₁, hle₁, ⟨htick, hclock₁⟩ | ⟨htick, hstop₁⟩⟩ :=
    Act.passUntil_cases (Nat.le_max_right due t.clock)
  · obtain ⟨t₂, hpasses₂, hworld₂, -, ⟨hready, hclock₂⟩ | ⟨hready, hstop₂⟩⟩ :=
      Act.passUntil_cases (le_of_eq hclock₁)
    · right
      obtain ⟨result, t₃, calls, hrun, hpasses₃, -, -, -, hcases⟩ :=
        runOnce_cases peers schedule p t₂
      have hturn : peers.turn schedule p (max due t.clock) t₁ = (result.map fun _ => (), t₃) :=
        (Act.bind_of_ok hready).trans (discard_of_eq hrun)
      have hdue : due ≤ t₂.clock := hclock₂ ▸ Nat.le_max_left due t.clock
      refine ⟨⟨due, t₂, result, t₃⟩, ⟨hrun, hdue⟩, rfl, hclock₂, hpasses₁.trans hpasses₂,
        hworld₂.trans hworld₁, ?_⟩
      rcases hcases with ⟨rfl, hstop⟩ | ⟨outcome, rfl, -, -⟩
      · right
        have hleaves : Leaves t₃ t₃ := ⟨.refl t₃, rfl, rfl, hpasses₃.stop ▸ hstop⟩
        exact ⟨rounds_of_ready htick hready hrun, runFrom_of_shutdown htick hturn hleaves⟩
      · left
        simp only [Round.start, hclock₂]
        exact ⟨rounds_of_ready htick hready hrun, runFrom_of_ok htick hturn⟩
    · left
      have hleaves : Leaves t t₂ :=
        .of_stop (hpasses₁.trans hpasses₂) (hworld₂.trans hworld₁) (hpasses₁.stop ▸ hstop₂)
      exact ⟨rounds_of_shutdown ((Act.bind_of_ok htick).trans hready),
        runFrom_of_shutdown htick (Act.bind_of_error hready) hleaves⟩
  · left
    have hleaves : Leaves t t₁ := .of_stop hpasses₁ hworld₁ hstop₁
    have hget : (get : Act (Watched I σ) (Timed (Watched I σ))) t = (.ok t, t) := rfl
    exact ⟨rounds_of_shutdown (Act.bind_of_error htick), _, (Act.bind_of_ok hget).trans
      ((Act.bind_of_ok (unlessShutDown_of_shutdown htick)).trans rfl), hleaves.of_world _⟩

/-! ### All rounds -/

/-- The first round of a run has the tick that it starts with. -/
theorem head_rounds {r : Round I σ} (h : r ∈ (peers.rounds schedule p cycles due t).head?) :
    r.due = due ∧ r.start = max due t.clock := by
  cases cycles with
  | zero => nomatch h
  | succ cycles =>
      rcases round_cases peers schedule p cycles due t with
        ⟨hnone, -⟩ | ⟨first, -, hdue, hstart, -, -, ⟨hmore, -⟩ | ⟨hlast, -⟩⟩
      · rw [hnone] at h
        nomatch h
      · rw [hmore] at h
        obtain rfl := Option.some.inj h
        exact ⟨hdue, hstart⟩
      · rw [hlast] at h
        obtain rfl := Option.some.inj h
        exact ⟨hdue, hstart⟩

variable (peers schedule p) in
/-- **Each round follows the one before it.** -/
theorem isChain_rounds (cycles due : Nat) (t : Timed (Watched I σ)) :
    (peers.rounds schedule p cycles due t).IsChain (Round.Follows schedule) := by
  induction cycles generalizing due t with
  | zero => exact .nil
  | succ cycles ih =>
      rcases round_cases peers schedule p cycles due t with
        ⟨hnone, -⟩ | ⟨r, -, -, -, -, -, ⟨hmore, -⟩ | ⟨hlast, -⟩⟩
      · rw [hnone]
        exact .nil
      · rw [hmore]
        refine (ih _ _).cons fun r' hr' => ?_
        obtain ⟨hdue, hstart⟩ := head_rounds hr'
        exact ⟨hdue, hdue ▸ hstart⟩
      · rw [hlast]
        exact .singleton r

/-- The cycles of all rounds ran in them, after the start of the run. -/
theorem ran_of_mem {r : Round I σ} (h : r ∈ peers.rounds schedule p cycles due t) :
    peers.Ran schedule p r ∧ t.Passes r.began := by
  induction cycles generalizing due t with
  | zero => nomatch h
  | succ cycles ih =>
      rcases round_cases peers schedule p cycles due t with
        ⟨hnone, -⟩ | ⟨first, hran, -, -, hpasses, -, ⟨hmore, -⟩ | ⟨hlast, -⟩⟩
      · rw [hnone] at h
        nomatch h
      · rw [hmore] at h
        rcases List.mem_cons.mp h with rfl | h
        · exact ⟨hran, hpasses⟩
        · obtain ⟨hran', hpasses'⟩ := ih h
          exact ⟨hran', hpasses.trans (hran.cases.1.trans hpasses')⟩
      · rw [hlast] at h
        obtain rfl := List.mem_singleton.mp h
        exact ⟨hran, hpasses⟩

variable (peers schedule p) in
/-- **A run starts the cycles of its rounds and makes their calls**, and goes on until it has made
so many rounds or until the shutdown. -/
theorem runFrom_cases (cycles due : Nat) (t : Timed (Watched I σ)) :
    let rs := peers.rounds schedule p cycles due t
    ∃ t', peers.runFrom schedule p cycles due t = (.ok (), t') ∧ t.Passes t' ∧
      t'.world.starts = t.world.starts ++ rs.map Round.start ∧
      t'.world.calls = t.world.calls ++ rs.flatMap Round.calls ∧
      (rs.length = cycles ∨ t.stop = some t'.clock) := by
  induction cycles generalizing due t with
  | zero => exact ⟨t, rfl, .refl t, (List.append_nil _).symm, (List.append_nil _).symm, .inl rfl⟩
  | succ cycles ih =>
      intro rs
      rcases round_cases peers schedule p cycles due t with
        ⟨hnone, t', heq, hleaves⟩ | ⟨r, hran, -, -, hpasses, hworld, hcases⟩
      · have hrs : rs = [] := hnone
        rw [hrs]
        exact ⟨t', heq, hleaves.passes, hleaves.starts.trans (List.append_nil _).symm,
          hleaves.calls.trans (List.append_nil _).symm, .inr hleaves.stop⟩
      obtain ⟨hpasses', hstarts, hcalls, -, -⟩ := hran.cases
      rw [hworld] at hstarts hcalls
      rcases hcases with ⟨hmore, heq⟩ | ⟨hlast, t', heq, hleaves⟩
      · obtain ⟨t', heq', hpasses'', hstarts', hcalls', hend⟩ :=
          ih (schedule.nextDue r.due r.start) r.ended
        have hrs : rs = r :: _ := hmore
        refine ⟨t', heq.trans heq', hpasses.trans (hpasses'.trans hpasses''), ?_, ?_, ?_⟩
        · rw [hstarts', hstarts, hrs, List.map_cons, List.append_assoc]
          rfl
        · rw [hcalls', hcalls, hrs, List.flatMap_cons, List.append_assoc]
        · rw [hrs, List.length_cons, Nat.add_right_cancel_iff, ← hpasses.stop, ← hpasses'.stop]
          exact hend
      · have hrs : rs = [r] := hlast
        have hpasses'' := hpasses.trans hpasses'
        refine ⟨t', heq, hpasses''.trans hleaves.passes, ?_, ?_, .inr ?_⟩
        · rw [hleaves.starts, hstarts, hrs]
          rfl
        · rw [hleaves.calls, hcalls, hrs, List.flatMap_cons, List.flatMap_nil, List.append_nil]
        · rw [← hpasses''.stop]
          exact hleaves.stop

variable (peers schedule p) in
/-- **The rounds of a run** from its beginning. -/
def roundsOf (cycles : Nat) (t : Timed (Watched I σ)) : List (Round I σ) :=
  peers.rounds schedule p cycles t.clock
    { t with world := { t.world with world := peers.note schedule.started t.world.world } }

variable (peers schedule p) in
/-- **A run from its beginning** starts the cycles of its rounds and makes their calls, and goes on
until it has made so many rounds or until the shutdown. -/
theorem start_cases (cycles : Nat) (t : Timed (Watched I σ)) :
    let rs := peers.roundsOf schedule p cycles t
    ∃ t', peers.start schedule p cycles t = (.ok (), t') ∧ t.Passes t' ∧
      t'.world.starts = t.world.starts ++ rs.map Round.start ∧
      t'.world.calls = t.world.calls ++ rs.flatMap Round.calls ∧
      (rs.length = cycles ∨ t.stop = some t'.clock) := by
  intro rs
  let started : Timed (Watched I σ) :=
    { t with world := { t.world with world := peers.note schedule.started t.world.world } }
  have hlog : peers.log schedule.started t = (.ok (), started) := rfl
  have hget : (get : Act (Watched I σ) (Timed (Watched I σ))) started =
      (.ok started, started) := rfl
  obtain ⟨t', heq, hpasses, hstarts, hcalls, hend⟩ :=
    runFrom_cases peers schedule p cycles t.clock started
  have hstart : t.Passes started := .of_clock rfl rfl rfl
  let world := peers.note (Schedule.event .info "スケジューラを停止しました") t'.world.world
  have hstopped : t'.Passes { t' with world := { t'.world with world } } := .of_clock rfl rfl rfl
  refine ⟨{ t' with world := { t'.world with world } }, ?_, hstart.trans (hpasses.trans hstopped),
    hstarts, hcalls, hend⟩
  exact (Act.bind_of_ok hlog).trans ((Act.bind_of_ok hget).trans (Act.bind_of_ok heq))

end Peers

end FeedSync
