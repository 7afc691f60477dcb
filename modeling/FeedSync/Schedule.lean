import FeedSync.Error
import FeedSync.Log
import FeedSync.Timed

/-!
# Running cycles on schedule

Cycles run one after the other, never two at once. Each has a time limit. The first cycle starts at
once, the next ones with the **ticks** of a ticker; a shutdown ends everything, a running cycle
included.

A ticker ticks once an interval. A tick that comes late, because the cycle before it took too long,
comes as soon as it can, and if it is more than a few milliseconds late the ticker starts anew from
there, so that missed ticks are never made up for.
-/

namespace FeedSync

/-- How a cycle ended. -/
inductive Outcome where
  | completed (stats : Stats)
  | failed (cause : SyncError)
  | timedOut
  deriving DecidableEq, Repr

/-- What a cycle tells the activity that runs it. One that aborts tells nothing. -/
def Act.ofCycle {σ : Type} : Except CycleFault Stats → Act σ (Except SyncError Stats)
  | .ok stats => return .ok stats
  | .error (.failed e) => return .error e
  | .error (.overflow _) => throw .abort

/-- When cycles of a source run. Times are in milliseconds. -/
structure Schedule where
  sourceId : String
  interval : Nat
  /-- The time limit of each cycle. -/
  timeout : Nat
  deriving DecidableEq, Repr

namespace Schedule

/-- How late a tick may come, in milliseconds, without moving the ticks after it. -/
def tolerance : Nat := 5

/-- When the next tick is due after one that was due at some moment and came at another. -/
def nextDue (schedule : Schedule) (due came : Nat) : Nat :=
  if came > due + tolerance then came + schedule.interval else due + schedule.interval

variable {σ : Type} (schedule : Schedule) (log : Event → Act σ Unit)

/-- An event of the schedule. -/
def event (level : Level) (message : String) (fields : List (String × Datum) := []) : Event :=
  { part := .schedule, level, message, fields }

/-- Runs one cycle within its time limit and reports if it failed. -/
def runOnce (cycle : Act σ (Except SyncError Stats)) : Act σ Outcome := do
  match ← Act.within schedule.timeout cycle with
  | some (.ok stats) => return .completed stats
  | some (.error e) =>
    if let some stats := e.stats? then log (event .info stats.summary)
    log <| event .error "同期に失敗しました"
      [("source", .text schedule.sourceId), ("error", .text e.message)]
    return .failed e
  | none =>
    log <| event .error "同期がタイムアウトしました"
      [("source", .text schedule.sourceId), ("timeout_secs", .integer (schedule.timeout / 1000))]
    return .timedOut

/-- Runs an activity, which the shutdown may cut short: whether it came to its end. If it did not,
what is to be done at the shutdown is done. -/
def unlessShutDown (atShutdown : Act σ Unit) (act : Act σ Unit) : Act σ Bool := fun t =>
  match act t with
  | (.ok (), t) => (.ok true, t)
  | (.error .shutdown, t) => (do atShutdown; return false : Act σ Bool) t
  | (.error i, t) => (.error i, t)

variable (atShutdown : Act σ Unit)

/-- Runs cycles with the ticks from a due one on until the shutdown, at most so many. -/
def runFrom (cycle : Act σ (Except SyncError Stats)) : (cycles : Nat) → (due : Nat) → Act σ Unit
  | 0, _ => return
  | cycles + 1, due => do
    let came := max due (← get).clock
    if ← unlessShutDown atShutdown (Act.passUntil came) then
      let act := do Act.passUntil came; discard <| runOnce schedule log cycle
      if ← unlessShutDown atShutdown act then
        runFrom cycle cycles (schedule.nextDue due came)
      else log (event .warn "シャットダウン要求により実行中の同期を中断しました")

/-- What is reported when the schedule starts. -/
def started : Event :=
  event .info "スケジューラを開始します"
    [("source", .text schedule.sourceId), ("interval_secs", .integer (schedule.interval / 1000)),
      ("timeout_secs", .integer (schedule.timeout / 1000))]

/-- Runs cycles until the shutdown, at most so many. Something may be done when the shutdown
comes. -/
def start (cycle : Act σ (Except SyncError Stats)) (cycles : Nat) : Act σ Unit := do
  log schedule.started
  runFrom schedule log atShutdown cycle cycles (← get).clock
  log (event .info "スケジューラを停止しました")

end Schedule

end FeedSync
