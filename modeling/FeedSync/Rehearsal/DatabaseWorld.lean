import FeedSync.Cycle
import FeedSync.Rehearsal.Database
import FeedSync.Rehearsal.Peers

/-!
# Rehearsing cycles over a database

A world in which the store of a cycle is a scripted database and everything else a stand-in. No time
passes in it.
-/

namespace FeedSync.Rehearsal

open FeedSync.Database

/-- A world with a scripted database. -/
structure DatabaseWorld where
  database : ScriptedDatabase
  source : ListedSource := { id := "" }
  publisher : Publisher := {}
  /-- The reading of the wall clock. -/
  now : Instant
  log : List Event := []

namespace DatabaseWorld

/-- Answers a request to the database. -/
def server (q : Request Nat) : StateM DatabaseWorld q.Reply := fun w =>
  let (reply, database) := ScriptedDatabase.answer q w.database
  (reply, { w with database })

/-- Answers the calls of a cycle that are not about the store. -/
def others : (c : External) → StateM DatabaseWorld c.Reply
  | .fetch maxPages => fun w =>
    let (reply, source) := w.source.fetch maxPages
    (reply, { w with source })
  | .now => fun w => (w.now, w)
  | .stopwatch => return 0
  | .publish a isNew => fun w =>
    let (reply, publisher) := w.publisher.publish a isNew
    (reply, { w with publisher })
  | .log event => fun w => ((), { w with log := w.log ++ [event] })

/-- Answers a call of a cycle. -/
def answer (c : Call Nat) : StateM DatabaseWorld c.Reply := Database.answer server others c

/-- Runs one cycle. -/
def cycle (maxPages historyDays : UInt32) : StateM DatabaseWorld (Except CycleFault Stats) := do
  let w ← get
  let settings : Cycle.Settings := {
    sourceId := w.source.id
    sourceName := ListedSource.name
    maxPages
    historyDays
    publishes := true }
  (FeedSync.cycle settings).run answer

end DatabaseWorld

end FeedSync.Rehearsal
