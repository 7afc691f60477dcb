import Mathlib.Data.ENat.Lattice
import FeedSync.Timed

/-!
# Laws of waiting

What acts that wait can do to the clock. Time only moves on, and never past the shutdown; an act
that needs some time and has to be over by a limit either ends after just that time, or runs into
the limit because it needs longer, or is cut short by the shutdown at the moment of the shutdown.
That is what `Timed.Ends` says, and it holds of acts in a row if it holds of each of them.

## Main definitions

* `Timed.Passes` — time passes between two states of a world.
* `Timed.Ends` — how an act ends that needs some time.
* `Act.await` — waiting for a while that may be endless.

## Main statements

* `ends_await` — a wait takes the time that it is for.
* `Ends.trans`, `Ends.cut` — acts in a row.
* `within_cases` — how an act ends to which some time is given.
-/

namespace FeedSync

namespace Timed

variable {σ α β : Type} {t t' t'' : Timed σ}

/-- **Time passes** between two states, under the same timeout and the same shutdown, and not past
the shutdown. -/
structure Passes (t t' : Timed σ) : Prop where
  clock_le : t.clock ≤ t'.clock
  timeout : t'.timeout = t.timeout
  shutdown : t'.shutdown = t.shutdown
  stop : t'.stop = t.stop

/-- No time passes when only the world and the answers to ties change. -/
theorem Passes.of_clock (hclock : t'.clock = t.clock) (htimeout : t'.timeout = t.timeout)
    (hshutdown : t'.shutdown = t.shutdown) : t.Passes t' :=
  ⟨hclock ▸ Nat.le_refl _, htimeout, hshutdown, by rw [Timed.stop, hclock, hshutdown]; rfl⟩

/-- Nothing passes. -/
theorem Passes.refl (t : Timed σ) : t.Passes t := .of_clock rfl rfl rfl

/-- Time passes, and then some more. -/
theorem Passes.trans (h : t.Passes t') (h' : t'.Passes t'') : t.Passes t'' where
  clock_le := Nat.le_trans h.clock_le h'.clock_le
  timeout := h'.timeout.trans h.timeout
  shutdown := h'.shutdown.trans h.shutdown
  stop := h'.stop.trans h.stop

/-- The time until everything has to be over is not over. -/
theorem clock_le_stop {stop : Nat} (h : t.stop = some stop) : t.clock ≤ stop := by
  rw [Timed.stop] at h
  obtain ⟨shutdown, -, rfl⟩ := Option.map_eq_some_iff.mp h
  exact Nat.le_max_left _ _

/-- The clock may be moved on, if not past the shutdown. -/
theorem Passes.of_le_stop {moment : Nat} {ties : Nat → Bool} (hle : t.clock ≤ moment)
    (hstop : ∀ stop, t.stop = some stop → moment ≤ stop) :
    t.Passes { t with clock := moment, ties } := by
  refine ⟨hle, rfl, rfl, ?_⟩
  rw [Timed.stop, Timed.stop]
  cases hshutdown : t.shutdown with
  | none => rfl
  | some shutdown =>
      have hmoment := hstop (max t.clock shutdown) (by rw [Timed.stop, hshutdown]; rfl)
      rw [Option.map_some, Option.map_some]
      simp only [Option.some.injEq]
      omega

/-- **How an act ends** that needs some time, for ever if it is endless, and has to be over by a
limit. -/
structure Ends (limit : Nat) (length : ℕ∞) (t : Timed σ) (result : Except Interruption α)
    (t' : Timed σ) : Prop where
  passes : t.Passes t'
  le_limit : t'.clock ≤ limit
  /-- It ends by itself after the time that it needs. -/
  ok : ∀ a, result = .ok a → (t'.clock : ℕ∞) = t.clock + length
  /-- It is given up at the limit if it needs longer. -/
  timeout : result = .error .timeout → t'.clock = limit ∧ (limit : ℕ∞) < t.clock + length
  /-- It is cut short at the shutdown. -/
  shutdown : result = .error .shutdown → t.stop = some t'.clock
  not_abort : result ≠ .error .abort

variable {limit : Nat} {length length' : ℕ∞}

/-- What takes no time ends at once. -/
theorem Ends.now {a : α} (hpasses : t.Passes t') (hclock : t'.clock = t.clock)
    (hlimit : t.clock ≤ limit) : Ends limit 0 t (.ok a : Except Interruption α) t' where
  passes := hpasses
  le_limit := hclock ▸ hlimit
  ok _ _ := by rw [hclock, add_zero]
  timeout := nofun
  shutdown := nofun
  not_abort := nofun

/-- What has taken no time before an act changes nothing about how it ends. -/
theorem Ends.of_clock {result : Except Interruption α} (h : Ends limit length t' result t'')
    (hpasses : t.Passes t') (hclock : t'.clock = t.clock) : Ends limit length t result t'' where
  passes := hpasses.trans h.passes
  le_limit := h.le_limit
  ok a ha := hclock ▸ h.ok a ha
  timeout hi := hclock ▸ h.timeout hi
  shutdown hi := hpasses.stop ▸ h.shutdown hi
  not_abort := h.not_abort

/-- An act that goes on where another one has ended needs the time of both. -/
theorem Ends.trans {a : α} {result : Except Interruption β}
    (h : Ends limit length t (.ok a : Except Interruption α) t')
    (h' : Ends limit length' t' result t'') : Ends limit (length + length') t result t'' where
  passes := h.passes.trans h'.passes
  le_limit := h'.le_limit
  ok b hb := by rw [h'.ok b hb, h.ok a rfl, add_assoc]
  timeout hb := by
    obtain ⟨hlimit, hlt⟩ := h'.timeout hb
    rw [h.ok a rfl, add_assoc] at hlt
    exact ⟨hlimit, hlt⟩
  shutdown hb := h.passes.stop ▸ h'.shutdown hb
  not_abort := h'.not_abort

/-- What was to follow an act that was interrupted does not. -/
theorem Ends.cut {i : Interruption} (h : Ends limit length t (.error i : Except Interruption α) t')
    (length' : ℕ∞) : Ends limit (length + length') t (.error i : Except Interruption β) t' where
  passes := h.passes
  le_limit := h.le_limit
  ok _ := nofun
  timeout hi := by
    obtain ⟨hlimit, hlt⟩ := h.timeout (congrArg Except.error (Except.error.inj hi))
    refine ⟨hlimit, lt_of_lt_of_le hlt ?_⟩
    rw [← add_assoc]
    exact le_self_add
  shutdown hi := h.shutdown (congrArg Except.error (Except.error.inj hi))
  not_abort hi := h.not_abort (congrArg Except.error (Except.error.inj hi))

end Timed

namespace Act

variable {σ α β : Type} {t t' : Timed σ}

/-- An act goes on where the one before it has ended. -/
theorem bind_of_ok {p : Act σ α} {f : α → Act σ β} {a : α} (h : p t = (.ok a, t')) :
    (p >>= f) t = f a t' := by
  change StateT.bind p (ExceptT.bindCont f) t = f a t'
  rw [StateT.bind, h]
  rfl

/-- Nothing follows an act that was interrupted. -/
theorem bind_of_error {p : Act σ α} {f : α → Act σ β} {i : Interruption}
    (h : p t = (.error i, t')) : (p >>= f) t = (.error i, t') := by
  change StateT.bind p (ExceptT.bindCont f) t = _
  rw [StateT.bind, h]
  rfl

/-- **Time passes up to a moment**, or up to the shutdown if that comes first. -/
theorem passUntil_cases {moment : Nat} (hle : t.clock ≤ moment) : ∃ t', t.Passes t' ∧
    t'.world = t.world ∧ t'.clock ≤ moment ∧
    (passUntil moment t = (.ok (), t') ∧ t'.clock = moment ∨
      passUntil moment t = (.error .shutdown, t') ∧ t.stop = some t'.clock) := by
  cases hstop : t.stop with
  | none =>
      refine ⟨{ t with clock := moment }, .of_le_stop hle fun stop h => ?_, rfl, le_rfl,
        .inl ⟨by rw [passUntil, hstop], rfl⟩⟩
      nomatch hstop.symm.trans h
  | some stop =>
      have hclock := Timed.clock_le_stop hstop
      have hpasses : ∀ {m : Nat} {ties : Nat → Bool}, t.clock ≤ m → m ≤ stop →
          t.Passes { t with clock := m, ties } := fun hm hms =>
        .of_le_stop hm fun stop' h => Option.some.inj (hstop.symm.trans h) ▸ hms
      rcases Nat.lt_trichotomy moment stop with hlt | heq | hlt
      · refine ⟨{ t with clock := moment }, hpasses hle (Nat.le_of_lt hlt), rfl, le_rfl,
          .inl ⟨?_, rfl⟩⟩
        rw [passUntil, hstop]
        exact if_pos hlt
      · -- a tie, which either may win
        subst heq
        refine ⟨{ t with clock := moment, ties := fun n => t.ties (n + 1) }, hpasses hle le_rfl,
          rfl, le_rfl, ?_⟩
        rw [passUntil, hstop]
        simp only [lt_irrefl, if_false]
        cases t.ties 0 with
        | false => exact .inl ⟨rfl, trivial⟩
        | true => exact .inr ⟨rfl, trivial⟩
      · refine ⟨{ t with clock := stop }, hpasses hclock le_rfl, rfl, Nat.le_of_lt hlt,
          .inr ⟨?_, rfl⟩⟩
        rw [passUntil, hstop]
        simp only [if_neg (Nat.not_lt_of_lt hlt), if_pos hlt]

/-- A wait with a time limit goes up to its end or up to the limit. -/
theorem wait_eq {limit millis : Nat} (hlimit : t.timeout = some limit) (hmillis : millis ≠ 0) :
    wait millis t = if t.clock + millis ≤ limit then passUntil (t.clock + millis) t
      else (do passUntil limit; throw .timeout : Act σ Unit) t := by
  have hget : (get : Act σ (Timed σ)) t = (.ok t, t) := rfl
  rw [wait, if_neg hmillis]
  refine (bind_of_ok hget).trans ?_
  rw [hlimit]
  exact apply_ite (fun act : Act σ Unit => act t) _ _ _

/-- A wait for some milliseconds takes that long. -/
theorem ends_wait {limit : Nat} (hlimit : t.timeout = some limit) (hle : t.clock ≤ limit)
    (millis : Nat) : ∃ result t', wait millis t = (result, t') ∧ t'.world = t.world ∧
      t.Ends limit millis result t' := by
  by_cases hmillis : millis = 0
  · subst hmillis
    exact ⟨.ok (), t, rfl, rfl, .now (.refl t) rfl hle⟩
  rw [wait_eq hlimit hmillis]
  split
  · next hin =>
      obtain ⟨t', hpasses, hworld, hmoment, ⟨heq, hclock⟩ | ⟨heq, hstop⟩⟩ :=
        passUntil_cases (t := t) (Nat.le_add_right t.clock millis)
      · refine ⟨_, t', heq, hworld, hpasses, Nat.le_trans hmoment hin, fun _ _ => ?_, nofun, nofun,
          nofun⟩
        rw [hclock, Nat.cast_add]
      · exact ⟨_, t', heq, hworld, hpasses, Nat.le_trans hmoment hin, nofun, nofun,
          fun _ => hstop, nofun⟩
  · next hout =>
      obtain ⟨t', hpasses, hworld, hmoment, ⟨heq, hclock⟩ | ⟨heq, hstop⟩⟩ := passUntil_cases hle
      · refine ⟨.error .timeout, t', bind_of_ok heq, hworld, hpasses, hmoment, nofun,
          fun _ => ⟨hclock, ?_⟩, nofun, nofun⟩
        exact_mod_cast Nat.not_le.mp hout
      · exact ⟨_, t', bind_of_error heq, hworld, hpasses, hmoment, nofun, nofun, fun _ => hstop,
          nofun⟩

/-- Waits for a while that may be endless. Where there is a time limit, that is to wait longer than
it leaves. -/
def await (length : ℕ∞) : Act σ Unit := fun t =>
  wait (length.recTopCoe (t.timeout.getD t.clock - t.clock + 1) id) t

/-- **A wait takes the time that it is for.** -/
theorem ends_await {limit : Nat} (hlimit : t.timeout = some limit) (hle : t.clock ≤ limit)
    (length : ℕ∞) : ∃ result t', await length t = (result, t') ∧ t'.world = t.world ∧
      t.Ends limit length result t' := by
  cases length using ENat.recTopCoe with
  | coe millis => exact ends_wait hlimit hle millis
  | top =>
      obtain ⟨result, t', heq, hworld, hends⟩ := ends_wait hlimit hle (limit - t.clock + 1)
      refine ⟨result, t', ?_, hworld, hends.passes, hends.le_limit, fun a ha => ?_,
        fun hi => ⟨(hends.timeout hi).1, ?_⟩, hends.shutdown, hends.not_abort⟩
      · rw [← heq, await, hlimit]
        rfl
      · -- the wait would be over after the limit
        have hclock := hends.ok a ha
        have hlate := hends.le_limit
        have : t'.clock = t.clock + (limit - t.clock + 1) := by exact_mod_cast hclock
        omega
      · rw [add_top]
        exact ENat.natCast_lt_top limit

/-- **How an act ends to which some time is given**: it is over in time, or given up after it, or
cut short by the shutdown. -/
theorem within_cases {millis : Nat} (act : Act σ α) {length : ℕ∞} {result : Except Interruption α}
    (heq : act { t with timeout := some (t.clock + millis) } = (result, t'))
    (hends : Timed.Ends (t.clock + millis) length { t with timeout := some (t.clock + millis) }
      result t') :
    ∃ result' t'', within millis act t = (result', t'') ∧ t.Passes t'' ∧ t''.world = t'.world ∧
      t''.clock = t'.clock ∧
      (result' = .error .shutdown ∧ t.stop = some t''.clock ∨ ∃ answer, result' = .ok answer ∧
        (t''.clock : ℕ∞) = t.clock + min length millis ∧ (answer = none ↔ millis < length)) := by
  have hpasses : t.Passes { t' with timeout := t.timeout } :=
    ⟨hends.passes.clock_le, rfl, hends.passes.shutdown, hends.passes.stop⟩
  have hclock : (t.clock : ℕ∞) ≠ ⊤ := ENat.natCast_ne_top t.clock
  cases result with
  | ok a =>
      have hover := hends.ok a rfl
      have hin : length ≤ millis := by
        rw [← ENat.add_le_add_iff_left hclock, ← hover]
        exact_mod_cast hends.le_limit
      refine ⟨.ok (some a), _, by rw [within, heq], hpasses, rfl, rfl,
        .inr ⟨some a, rfl, ?_, iff_of_false nofun (not_lt_of_ge hin)⟩⟩
      rw [min_eq_left hin]
      exact hover
  | error i =>
      cases i with
      | timeout =>
          obtain ⟨hover, hlate⟩ := hends.timeout rfl
          have hout : (millis : ℕ∞) < length := by
            rw [← ENat.add_lt_add_iff_left hclock]
            exact_mod_cast hlate
          refine ⟨.ok none, _, by rw [within, heq], hpasses, rfl, rfl,
            .inr ⟨none, rfl, ?_, iff_of_true rfl hout⟩⟩
          rw [min_eq_right (le_of_lt hout)]
          exact_mod_cast hover
      | shutdown =>
          exact ⟨.error .shutdown, _, by rw [within, heq], hpasses, rfl, rfl,
            .inl ⟨rfl, hends.shutdown rfl⟩⟩
      | abort => exact absurd rfl hends.not_abort

end Act

end FeedSync
