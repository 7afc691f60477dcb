import Mathlib.Order.Interval.Finset.Nat
import FeedSync.Proofs.Schedule.Timing

/-!
# The end of a schedule

A shutdown ends a schedule at once, whatever it is doing: waiting for a tick, about to start a
cycle, or in the middle of one. Where the shutdown falls on the same moment as a tick, a reply or a
timeout either may win, and each such tie may be decided in its own way; as the starts of cycles are
apart, at most one cycle can start at the moment of the shutdown.

## Main statements

* `pairwise_lt_start` — one cycle starts strictly after the other.
* `length_le` — only so many cycles can start until the shutdown.
* `leaves_at_shutdown` — how a schedule ends.
-/

namespace FeedSync

namespace Round

variable {I : Interface} {σ : Type} {schedule : Schedule} {rs : List (Round I σ)}

/-- Where the interval is longer than the tolerance, **one cycle starts strictly after the
other**. -/
theorem pairwise_lt_start (hinterval : Schedule.tolerance < schedule.interval)
    (hchain : rs.IsChain (Follows schedule)) : (rs.map start).Pairwise (· < ·) := by
  refine List.IsChain.pairwise ((List.isChain_map start).mpr (hchain.imp fun r r' h => ?_))
  have hapart := h.add_interval_le
  omega

/-- **Only so many cycles can start** between two moments. -/
theorem length_le {first last : Nat} (hlt : (rs.map start).Pairwise (· < ·))
    (hbounds : ∀ r ∈ rs, first ≤ r.start ∧ r.start ≤ last) : rs.length ≤ last + 1 - first := by
  have hnodup : (rs.map start).Nodup := hlt.imp Nat.ne_of_lt
  have hsubset : (rs.map start).toFinset ⊆ Finset.Icc first last := by
    intro s hs
    obtain ⟨r, hr, rfl⟩ := List.mem_map.mp (List.mem_toFinset.mp hs)
    exact Finset.mem_Icc.mpr (hbounds r hr)
  calc rs.length = (rs.map start).toFinset.card := by
        rw [List.toFinset_card_of_nodup hnodup, List.length_map]
    _ ≤ (Finset.Icc first last).card := Finset.card_le_card hsubset
    _ = last + 1 - first := Nat.card_Icc first last

/-- All cycles but the last one have started before the last one. -/
theorem start_lt_of_mem_dropLast {stop : Nat} (hlt : (rs.map start).Pairwise (· < ·))
    (hstop : ∀ r ∈ rs, r.start ≤ stop) {r : Round I σ} (hr : r ∈ rs.dropLast) : r.start < stop := by
  have hne : rs ≠ [] := by
    rintro rfl
    nomatch hr
  have hsplit := List.dropLast_concat_getLast hne
  rw [← hsplit, List.map_append, List.pairwise_append] at hlt
  have hbefore := hlt.2.2 r.start (List.mem_map_of_mem hr) (rs.getLast hne).start
    (List.mem_map_of_mem (List.mem_singleton_self _))
  exact Nat.lt_of_lt_of_le hbefore (hstop _ (List.getLast_mem hne))

end Round

namespace Peers

variable {I : Interface} {σ : Type}

/-- **How a schedule ends.** At the shutdown, or at once if the shutdown came before the start, it
leaves, whatever its cycles and the calls of its cycles would still take, and however ties are
decided. No cycle starts later, and at most one at that moment, which is then the last one and whose
tick was due; and a cycle that waits for a reply to a call at that moment makes no further call.
(The interval has to be longer than the tolerance of ticks, and the limit on the number of cycles
too high to matter.) -/
theorem leaves_at_shutdown {schedule : Schedule}
    (hinterval : Schedule.tolerance < schedule.interval) (peers : Peers I σ)
    (p : Program I (Except SyncError Stats)) (world : Watched I σ) (clock shutdown : Nat)
    (ties : Nat → Bool) {cycles : Nat} (hcycles : max clock shutdown + 1 - clock < cycles) :
    let t : Timed (Watched I σ) := { world, clock, shutdown := some shutdown, ties }
    let stop := max clock shutdown
    let rs := peers.roundsOf schedule p cycles t
    (∃ t', peers.start schedule p cycles t = (.ok (), t') ∧ t'.clock = stop ∧
      t'.world.starts = world.starts ++ rs.map Round.start ∧
      t'.world.calls = world.calls ++ rs.flatMap Round.calls) ∧
    rs.length < cycles ∧ (∀ r ∈ rs, r.start ≤ stop ∧ r.due ≤ r.start) ∧
    (∀ r ∈ rs.dropLast, r.start < stop) ∧
    ∀ r ∈ rs, (∀ x ∈ r.calls, x.made ≤ stop) ∧
      ∀ before x after, r.calls = before ++ x :: after →
        (stop : ℕ∞) < x.replied → after = [] := by
  intro t stop rs
  obtain ⟨t', heq, -, hstarts, hcalls, hend⟩ := peers.start_cases schedule p cycles t
  have hstop : t.stop = some stop := rfl
  have hran : ∀ r ∈ rs, peers.Ran schedule p r ∧ t.clock ≤ r.start ∧ r.began.stop = some stop :=
    fun r hr => by
      obtain ⟨hran, hbegan⟩ := ran_of_mem hr
      exact ⟨hran, hbegan.clock_le, hbegan.stop⟩
  have hle : ∀ r ∈ rs, r.start ≤ stop := fun r hr => Timed.clock_le_stop (hran r hr).2.2
  have hlt : (rs.map Round.start).Pairwise (· < ·) :=
    Round.pairwise_lt_start hinterval (peers.isChain_rounds schedule p cycles _ _)
  have hlength : rs.length ≤ stop + 1 - clock :=
    Round.length_le hlt fun r hr => ⟨(hran r hr).2.1, hle r hr⟩
  have hfew : rs.length < cycles := Nat.lt_of_le_of_lt hlength hcycles
  have hclock : some stop = some t'.clock := hend.resolve_left (Nat.ne_of_lt hfew)
  refine ⟨⟨t', heq, (Option.some.inj hclock).symm, hstarts, hcalls⟩, hfew,
    fun r hr => ⟨hle r hr, (hran r hr).1.due_le⟩,
    fun r hr => Round.start_lt_of_mem_dropLast hlt hle hr, fun r hr => ?_⟩
  obtain ⟨hran, -, hbegan⟩ := hran r hr
  obtain ⟨hended, -, -, hturn, -⟩ := hran.cases
  have hfinish : r.finish ≤ stop := Timed.clock_le_stop (hended.stop.trans hbegan)
  have hfinish' : (r.finish : ℕ∞) ≤ stop := by exact_mod_cast hfinish
  refine ⟨fun x hx => Nat.le_trans (hturn.within x hx).2 hfinish,
    fun before x after hsplit hlate => ?_⟩
  rw [hsplit] at hturn
  exact hturn.eq_nil (lt_of_le_of_lt hfinish' hlate)

/-- Cycles of two calls each, with an interval of 10 ms and a time limit of 30 ms, and a shutdown at
35 ms that loses all ties. The second cycle is replied to its second call just then, when its next
tick is overdue: a third cycle starts at that moment and makes its first call, and is cut short. -/
theorem leaves_at_shutdown_after_ties :
    let schedule : Schedule := { sourceId := "ecb", interval := 10, timeout := 30 }
    let peers := paced [3, 0, 20, 5, 8]
    let world : Watched Paced Nat := { world := 0 }
    let t := { world, shutdown := some 35, ties := fun _ => false }
    let rs := peers.roundsOf schedule twoCalls 40 t
    (∃ t', peers.start schedule twoCalls 40 t = (.ok (), t') ∧ t'.clock = 35 ∧
      t'.world.starts = [0, 10, 35] ∧ t'.world.calls.map Sent.made = [0, 3, 10, 30, 35]) ∧
    (∀ r ∈ rs.dropLast, r.start < 35) ∧
    ∀ r ∈ rs, ∀ before x after, r.calls = before ++ x :: after →
      ((35 : ℕ) : ℕ∞) < x.replied → after = [] := by
  intro schedule peers world t rs
  have hinterval : Schedule.tolerance < schedule.interval := by decide
  have hcycles : max 0 35 + 1 - 0 < 40 := by decide
  obtain ⟨⟨t', heq, hclock, -, -⟩, -, -, hlast, hcalls⟩ :=
    leaves_at_shutdown hinterval peers twoCalls world 0 35 (fun _ => false) hcycles
  have hwritten : (peers.start schedule twoCalls 40 t).2.world.starts = [0, 10, 35] ∧
      (peers.start schedule twoCalls 40 t).2.world.calls.map Sent.made = [0, 3, 10, 30, 35] := by
    decide +kernel
  have heq : peers.start schedule twoCalls 40 t = (.ok (), t') := heq
  rw [heq] at hwritten
  exact ⟨⟨t', heq, hclock, hwritten⟩, hlast, fun r hr => (hcalls r hr).2⟩

end Peers

end FeedSync
