import FeedSync.Schedule

/-!
# Scripted cycles

Cycles that only take time and end as a script says, to watch a schedule at work.
-/

namespace FeedSync.Rehearsal

/-- How a scripted cycle fails. -/
inductive ScriptedFailure where
  | fetch
  | filter
  | progress
  deriving DecidableEq, Repr

/-- How long a cycle takes, in milliseconds, and how it ends. -/
structure ScriptedCycle where
  duration : Nat
  failure : Option ScriptedFailure := none
  deriving DecidableEq, Repr, Inhabited

/-- Something that happens to a cycle. -/
inductive Moment where
  | started
  | ended
  /-- It was given up before its end. -/
  | dropped
  deriving DecidableEq, Repr

/-- A script for cycles, and what became of them so far. -/
structure Script where
  /-- The cycles in order; the last one is repeated. -/
  cycles : List ScriptedCycle
  /-- How many cycles have started. -/
  started : Nat := 0
  /-- What happened to which cycle, and when. -/
  moments : List (Nat × Nat × Moment) := []
  log : List Event := []

namespace Script

/-- The id of the source of scripted cycles. -/
def sourceId : String := "scripted"

/-- Reports an event. -/
def note (event : Event) : Act Script Unit :=
  Act.touch fun s => ((), { s with log := s.log ++ [event] })

/-- Writes down what happens to a cycle. -/
def record (cycle : Nat) (moment : Moment) : Act Script Unit := do
  let clock := (← get).clock
  Act.touch fun s => ((), { s with moments := s.moments ++ [(clock, cycle, moment)] })

/-- The result of the nth cycle, counted from zero. -/
def result (n : Nat) (cycle : ScriptedCycle) : Except SyncError Stats :=
  let stats : Stats := { sourceId, fetched := n }
  match cycle.failure with
  | none => .ok stats
  | some .fetch => .error (.fetch (.backend "fetch failed"))
  | some .filter => .error (.filter (.backend "filter failed"))
  | some .progress => .error (.progress stats (.backend "update failed"))

/-- Runs the next cycle of the script. -/
def next : Act Script (Except SyncError Stats) := do
  let (n, cycle) ← Act.touch fun s =>
    ((s.started, (s.cycles[s.started]? <|> s.cycles.getLast?).getD default),
      { s with started := s.started + 1 })
  record n .started
  tryCatch (Act.wait cycle.duration) fun interruption => do
    record n .dropped
    throw interruption
  record n .ended
  return result n cycle

end Script

end FeedSync.Rehearsal
