/-!
# Waiting and being interrupted

Worlds with a clock that moves only while something waits. Waiting may be cut short in two ways:
by a **timeout**, which ends one activity, and by a **shutdown**, which ends everything. What ends
at the very moment of its timeout has ended in time. Where a shutdown falls on the same moment as
something else, either may win; such ties are decided by a given sequence of answers. An activity
may also **abort**, which ends everything, too, but leaves nothing to be done.
-/

namespace FeedSync

/-- What can cut an activity short. -/
inductive Interruption where
  | timeout
  | shutdown
  /-- The activity has aborted. -/
  | abort
  deriving DecidableEq, Repr

/-- A world with a clock. All times are in milliseconds. -/
structure Timed (σ : Type) where
  world : σ
  clock : Nat := 0
  /-- When the current activity has to be over. -/
  timeout : Option Nat := none
  /-- When everything has to be over. -/
  shutdown : Option Nat := none
  /-- For the next ties, whether the shutdown wins. -/
  ties : Nat → Bool := fun _ => true

/-- A computation in a world with a clock. It may be interrupted and then leaves the world as it is
at that moment. -/
abbrev Act (σ α : Type) := ExceptT Interruption (StateM (Timed σ)) α

/-- When everything has to be over, as it is seen from now: a shutdown that is past comes now. -/
def Timed.stop {σ : Type} (t : Timed σ) : Option Nat := t.shutdown.map (max t.clock)

namespace Act

variable {σ α : Type}

/-- Changes the world and takes no time. -/
def touch (f : σ → α × σ) : Act σ α := ExceptT.lift fun t =>
  let (a, world) := f t.world
  (a, { t with world })

/-- Looks at the world. -/
def look (f : σ → α) : Act σ α := touch fun s => (f s, s)

/-- Lets time pass up to a moment that is not over yet, unless the shutdown comes before. -/
def passUntil (moment : Nat) : Act σ Unit := fun t =>
  match t.stop with
  | none => (.ok (), { t with clock := moment })
  | some stop =>
    if moment < stop then (.ok (), { t with clock := moment })
    else if stop < moment then (.error .shutdown, { t with clock := stop })
    else
      let result := if t.ties 0 then .error .shutdown else .ok ()
      (result, { t with clock := moment, ties := fun n => t.ties (n + 1) })

/-- Waits for some milliseconds. Waiting for none is no wait. -/
def wait (millis : Nat) : Act σ Unit := do
  if millis = 0 then return
  let t ← get
  match t.timeout with
  | none => passUntil (t.clock + millis)
  | some timeout =>
    if t.clock + millis ≤ timeout then passUntil (t.clock + millis)
    else
      passUntil timeout
      throw .timeout

/-- Gives an activity some milliseconds; the answer is missing if they do not suffice. -/
def within (millis : Nat) (act : Act σ α) : Act σ (Option α) := fun t =>
  let (result, u) := act { t with timeout := some (t.clock + millis) }
  let u := { u with timeout := t.timeout }
  match result with
  | .ok a => (.ok (some a), u)
  | .error .timeout => (.ok none, u)
  | .error .shutdown => (.error .shutdown, u)
  | .error .abort => (.error .abort, u)

end Act

end FeedSync
