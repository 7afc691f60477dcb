import Mathlib.Data.List.Chain
import FeedSync.Program
import FeedSync.Proofs.Timed
import FeedSync.Schedule

/-!
# Cycles among peers that take time

A cycle is a program that asks its peers, and all the time that it takes is the time that they take
to reply. Nothing is assumed of how long that is, nor of what is replied; a call may also never be
replied to. The world is **watched**: it is written down when cycles start, and when each call is
made and how long it takes.

## Main definitions

* `Peers` — what calls do, how long they take and what is replied.
* `Peers.length` — how long a program takes.
* `Sent.InTurn` — calls made one after the other.

## Main statements

* `ends_run` — a program takes the time of its calls, and makes them in turn.
* `runOnce_cases` — how a cycle with a time limit ends.
-/

namespace FeedSync

/-- A call that was made. -/
structure Sent (I : Interface) where
  request : I.Request
  made : Nat
  /-- How long it takes until the reply. -/
  delay : ℕ∞

/-- When a call is replied to. -/
def Sent.replied {I : Interface} (x : Sent I) : ℕ∞ := x.made + x.delay

/-- A world in which it is written down what cycles do. -/
structure Watched (I : Interface) (σ : Type) where
  world : σ
  /-- When cycles have started. -/
  starts : List Nat := []
  /-- The calls that they have made. -/
  calls : List (Sent I) := []

/-- **Peers** of a cycle, which need time to reply. -/
structure Peers (I : Interface) (σ : Type) where
  /-- What a call does at once. -/
  accept : I.Request → σ → σ
  /-- How long a call takes, for ever if it is never replied to. -/
  delay : I.Request → σ → ℕ∞
  /-- The reply to a call, and what the call has done by then. -/
  reply : (q : I.Request) → σ → I.Reply q × σ
  /-- Takes down an event. -/
  note : Event → σ → σ
  /-- What is done at the shutdown. -/
  leave : σ → σ

/-! ### Calls one after the other -/

namespace Sent

variable {I : Interface} {start reply finish : Nat} {x : Sent I}
  {calls before after : List (Sent I)}

/-- **Calls that are made in turn**, from one moment to another: each one only after the one before
it was replied to. -/
structure InTurn (start finish : Nat) (calls : List (Sent I)) : Prop where
  chain : calls.IsChain fun x y => x.replied ≤ y.made
  within : ∀ x ∈ calls, start ≤ x.made ∧ x.made ≤ finish

/-- No calls. -/
theorem InTurn.nil (start finish : Nat) : InTurn start finish ([] : List (Sent I)) :=
  ⟨.nil, nofun⟩

/-- A single call. -/
theorem InTurn.singleton (hmade : x.made = start) (hle : start ≤ finish) :
    InTurn start finish [x] := by
  refine ⟨.singleton x, fun y hy => ?_⟩
  obtain rfl := List.mem_singleton.mp hy
  exact ⟨le_of_eq hmade.symm, hmade ▸ hle⟩

/-- A call before others. -/
theorem InTurn.cons (h : InTurn reply finish calls) (hmade : x.made = start)
    (hreply : x.replied = reply) (hle : reply ≤ finish) : InTurn start finish (x :: calls) := by
  have hstart : start ≤ reply := by
    have : (x.made : ℕ∞) ≤ reply := hreply ▸ le_self_add
    exact_mod_cast hmade ▸ this
  refine ⟨h.chain.cons fun y hy => ?_, fun y hy => ?_⟩
  · have hy := (h.within y (List.mem_of_mem_head? hy)).1
    rw [hreply]
    exact_mod_cast hy
  · rcases List.mem_cons.mp hy with rfl | hy
    · exact ⟨le_of_eq hmade.symm, hmade ▸ Nat.le_trans hstart hle⟩
    · obtain ⟨hfrom, hto⟩ := h.within y hy
      exact ⟨Nat.le_trans hstart hfrom, hto⟩

/-- **After a call that is not replied to in time no other call is made.** -/
theorem InTurn.eq_nil (h : InTurn start finish (before ++ x :: after))
    (hlate : (finish : ℕ∞) < x.replied) : after = [] := by
  cases after with
  | nil => rfl
  | cons y after =>
      have hnext : x.replied ≤ y.made :=
        (List.isChain_cons_cons.mp (List.isChain_append.mp h.chain).2.1).1
      have hin := (h.within y (List.mem_append_right _
        (List.mem_cons_of_mem x List.mem_cons_self))).2
      have hin' : (y.made : ℕ∞) ≤ finish := by exact_mod_cast hin
      exact absurd (lt_of_lt_of_le hlate (le_trans hnext hin')) (lt_irrefl _)

end Sent

namespace Peers

variable {I : Interface} {σ α : Type} (peers : Peers I σ)

/-! ### Programs among peers -/

/-- The reply to a call and the world after it. -/
def served (q : I.Request) : StateM σ (I.Reply q) := fun s => peers.reply q (peers.accept q s)

/-- **How long a program takes.** -/
def length : Program I α → σ → ℕ∞
  | .done _, _ => 0
  | .ask q next, s => peers.delay q s + length (next (peers.served q s).1) (peers.served q s).2

/-- Makes a call: how long it will take. -/
def make (q : I.Request) : Act (Watched I σ) ℕ∞ := fun t =>
  let delay := peers.delay q t.world.world
  (.ok delay, { t with world := { t.world with
    world := peers.accept q t.world.world
    calls := t.world.calls ++ [⟨q, t.clock, delay⟩] } })

/-- Makes a call and waits for the reply. -/
def answer (q : I.Request) : Act (Watched I σ) (I.Reply q) := do
  Act.await (← peers.make q)
  Act.touch fun w => ((peers.reply q w.world).1, { w with world := (peers.reply q w.world).2 })

variable {t : Timed (Watched I σ)} {limit : Nat}

/-- A call takes the time until its reply. -/
theorem ends_answer (hlimit : t.timeout = some limit) (hle : t.clock ≤ limit) (q : I.Request) :
    ∃ result t', peers.answer q t = (result, t') ∧
      t.Ends limit (peers.delay q t.world.world) result t' ∧
      t'.world.starts = t.world.starts ∧
      t'.world.calls = t.world.calls ++ [⟨q, t.clock, peers.delay q t.world.world⟩] ∧
      ∀ reply, result = .ok reply → peers.served q t.world.world = (reply, t'.world.world) := by
  let made : Timed (Watched I σ) := { t with world := { t.world with
    world := peers.accept q t.world.world
    calls := t.world.calls ++ [⟨q, t.clock, peers.delay q t.world.world⟩] } }
  have hmade : t.Passes made := .of_clock rfl rfl rfl
  have hmake : peers.make q t = (.ok (peers.delay q t.world.world), made) := rfl
  obtain ⟨result, t', heq, hworld, hends⟩ :=
    Act.ends_await (t := made) hlimit hle (peers.delay q t.world.world)
  have hends' : t.Ends limit (peers.delay q t.world.world) result t' := hends.of_clock hmade rfl
  have hstarts : t'.world.starts = t.world.starts := hworld ▸ rfl
  have hcalls : t'.world.calls = t.world.calls ++ [⟨q, t.clock, peers.delay q t.world.world⟩] :=
    hworld ▸ rfl
  cases result with
  | ok _ =>
      let replied : Timed (Watched I σ) := { t' with world := { t'.world with
        world := (peers.reply q t'.world.world).2 } }
      refine ⟨.ok (peers.reply q t'.world.world).1, replied,
        (Act.bind_of_ok hmake).trans (Act.bind_of_ok heq), ?_, hstarts, hcalls, ?_⟩
      · rw [← add_zero (peers.delay q t.world.world)]
        exact hends'.trans (.now (.of_clock rfl rfl rfl) rfl hends'.le_limit)
      · rintro _ ⟨⟩
        change peers.reply q (peers.accept q t.world.world) = peers.reply q t'.world.world
        rw [hworld]
  | error i =>
      refine ⟨.error i, t', (Act.bind_of_ok hmake).trans (Act.bind_of_error heq), ?_, hstarts,
        hcalls, nofun⟩
      rw [← add_zero (peers.delay q t.world.world)]
      exact hends'.cut 0

/-- **A program takes the time of its calls**, and makes them in turn. -/
theorem ends_run (hlimit : t.timeout = some limit) (hle : t.clock ≤ limit) (p : Program I α) :
    ∃ result t' calls, p.run peers.answer t = (result, t') ∧
      t.Ends limit (peers.length p t.world.world) result t' ∧
      t'.world.starts = t.world.starts ∧ t'.world.calls = t.world.calls ++ calls ∧
      Sent.InTurn t.clock t'.clock calls := by
  induction p generalizing t with
  | done a =>
      exact ⟨.ok a, t, [], rfl, .now (.refl t) rfl hle, rfl, (List.append_nil _).symm, .nil _ _⟩
  | ask q next ih =>
      obtain ⟨result, t₁, heq, hends, hstarts, hcalls, hreply⟩ :=
        ends_answer peers hlimit hle q
      cases result with
      | error i =>
          exact ⟨.error i, t₁, _, Act.bind_of_error heq, hends.cut _, hstarts, hcalls,
            .singleton rfl hends.passes.clock_le⟩
      | ok reply =>
          obtain ⟨result, t₂, calls, heq₂, hends₂, hstarts₂, hcalls₂, hturn⟩ :=
            ih reply (hends.passes.timeout.trans hlimit) hends.le_limit
          refine ⟨result, t₂, ⟨q, t.clock, peers.delay q t.world.world⟩ :: calls,
            (Act.bind_of_ok heq).trans heq₂, ?_, hstarts₂.trans hstarts, ?_,
            hturn.cons rfl (hends.ok reply rfl).symm hends₂.passes.clock_le⟩
          · rw [length, hreply reply rfl]
            exact hends.trans hends₂
          · rw [hcalls₂, hcalls, List.append_assoc]
            rfl

/-! ### Cycles among peers -/

/-- Takes down an event. -/
def log (event : Event) : Act (Watched I σ) Unit :=
  Act.touch fun w => ((), { w with world := peers.note event w.world })

/-- Does what is done at the shutdown. -/
def atShutdown : Act (Watched I σ) Unit :=
  Act.touch fun w => ((), { w with world := peers.leave w.world })

/-- A cycle, which starts now. -/
def cycle (p : Program I α) : Act (Watched I σ) α := fun t =>
  p.run peers.answer { t with world := { t.world with starts := t.world.starts ++ [t.clock] } }

/-- One cycle with a time limit. -/
def runOnce (schedule : Schedule) (p : Program I (Except SyncError Stats)) :
    Act (Watched I σ) Outcome :=
  schedule.runOnce peers.log (peers.cycle p)

/-- **How a cycle with a time limit ends**: after the time that it needs, or as timed out if it
would need longer, or cut short by the shutdown. It makes its calls in turn. -/
theorem runOnce_cases (schedule : Schedule) (p : Program I (Except SyncError Stats))
    (t : Timed (Watched I σ)) : ∃ result t' calls, peers.runOnce schedule p t = (result, t') ∧
      t.Passes t' ∧ t'.world.starts = t.world.starts ++ [t.clock] ∧
      t'.world.calls = t.world.calls ++ calls ∧ Sent.InTurn t.clock t'.clock calls ∧
      (result = .error .shutdown ∧ t.stop = some t'.clock ∨ ∃ outcome, result = .ok outcome ∧
        (t'.clock : ℕ∞) = t.clock + min (peers.length p t.world.world) schedule.timeout ∧
        (outcome = .timedOut ↔ schedule.timeout < peers.length p t.world.world)) := by
  let started : Timed (Watched I σ) :=
    { t with
      world := { t.world with starts := t.world.starts ++ [t.clock] }
      timeout := some (t.clock + schedule.timeout) }
  obtain ⟨result, t₁, calls, heq, hends, hstarts, hcalls, hturn⟩ :=
    ends_run peers (t := started) rfl (Nat.le_add_right _ _) p
  obtain ⟨answered, t₂, heq₂, hpasses, hworld, hclock, hcases⟩ :=
    Act.within_cases (t := t) (peers.cycle p) heq (hends.of_clock (.of_clock rfl rfl rfl) rfl)
  have hstarts₂ : t₂.world.starts = t.world.starts ++ [t.clock] := hworld ▸ hstarts
  have hcalls₂ : t₂.world.calls = t.world.calls ++ calls := hworld ▸ hcalls
  have hturn₂ : Sent.InTurn t.clock t₂.clock calls := hclock ▸ hturn
  rcases hcases with ⟨rfl, hstop⟩ | ⟨answer, rfl, hover, hlate⟩
  · exact ⟨.error .shutdown, t₂, calls, Act.bind_of_error heq₂, hpasses, hstarts₂, hcalls₂, hturn₂,
      .inl ⟨rfl, hstop⟩⟩
  -- what is reported afterwards takes no time
  obtain ⟨outcome, world, heq₃, hstarts₃, hcalls₃, htimedOut⟩ : ∃ outcome world,
      peers.runOnce schedule p t = (.ok outcome, { t₂ with world }) ∧
        world.starts = t₂.world.starts ∧ world.calls = t₂.world.calls ∧
        (outcome = .timedOut ↔ answer = none) := by
    match answer with
    | none => exact ⟨.timedOut, _, Act.bind_of_ok heq₂, rfl, rfl, iff_of_true rfl rfl⟩
    | some (.ok stats) =>
        exact ⟨.completed stats, _, Act.bind_of_ok heq₂, rfl, rfl, iff_of_false nofun nofun⟩
    | some (.error e) =>
        have hrest : peers.runOnce schedule p t = _ := Act.bind_of_ok heq₂
        rw [hrest]
        cases hstats : e.stats? with
        | none =>
            simp only [hstats]
            exact ⟨.failed e, _, rfl, rfl, rfl, iff_of_false nofun nofun⟩
        | some stats =>
            simp only [hstats]
            exact ⟨.failed e, _, rfl, rfl, rfl, iff_of_false nofun nofun⟩
  have hreported : t₂.Passes { t₂ with world } := .of_clock rfl rfl rfl
  exact ⟨.ok outcome, _, calls, heq₃, hpasses.trans hreported, hstarts₃.trans hstarts₂,
    hcalls₃.trans hcalls₂, hturn₂, .inr ⟨outcome, rfl, hover, htimedOut.trans hlate⟩⟩

/-! ### Peers that only take time -/

/-- Calls without a content. -/
def Paced : Interface := ⟨Unit, fun _ => Unit⟩

/-- **Peers that only take time**, given for their calls in order; further calls are never
replied to. -/
def paced (delays : List ℕ∞) : Peers Paced Nat where
  accept _ calls := calls + 1
  delay _ calls := delays.getD calls ⊤
  reply _ calls := ((), calls)
  note _ calls := calls
  leave calls := calls

/-- A cycle that makes two calls. -/
def twoCalls : Program Paced (Except SyncError Stats) := do
  Program.request (I := Paced) ()
  Program.request (I := Paced) ()
  return .ok { sourceId := "paced" }

end Peers

end FeedSync
