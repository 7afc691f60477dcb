import FeedSync.Cycle
import FeedSync.Feed.Fetch
import FeedSync.Rehearsal.Peers
import FeedSync.Schedule
import FeedSync.Store.Memory

/-!
# Rehearsing cycles

A world in which cycles run with a store in memory and stand-ins for everything else, on a clock
that moves only by waiting. On top of the failures that the store plans, calls can be disturbed by
their number: the nth begin, commit, rollback or reading of a sync state fails before it reaches the
store, and commits, fetches and publications can take time.
-/

namespace FeedSync

open FeedSync.Rehearsal

namespace Rehearsal

/-- Where the articles of a rehearsal come from. -/
inductive Source where
  | listed (source : ListedSource)
  | feed (settings : Feed.Settings)

/-- The id of a source. -/
def Source.id : Source → String
  | .listed source => source.id
  | .feed _ => Feed.sourceId

/-- The name of a source. -/
def Source.name : Source → String
  | .listed _ => ListedSource.name
  | .feed _ => Feed.sourceName

/-- A kind of call that can be disturbed. -/
inductive Disturbed where
  | begin
  | commit
  | rollback
  | readState
  deriving DecidableEq, Repr

/-- The word for a kind of call in the error of a disturbed one. -/
def Disturbed.word : Disturbed → String
  | .begin => "begin"
  | .commit => "commit"
  | .rollback => "rollback"
  | .readState => "get"

/-- Which calls of a rehearsal are disturbed. Times are in milliseconds. -/
structure Disturbances where
  /-- The numbers, from one, of the calls of a kind that fail. -/
  failing : Disturbed → List Nat := fun _ => []
  /-- How long a commit takes. -/
  commitDelay : Nat := 0
  /-- How long it takes until a fetch begins. -/
  fetchDelay : Nat := 0
  /-- How long it takes until an article is published. -/
  publishDelay : Nat := 0

/-- Everything that a rehearsed cycle can see or change. -/
structure World where
  store : Store := {}
  source : Source
  web : ScriptedWeb := {}
  publisher : Option Publisher := none
  disturbances : Disturbances := {}
  /-- How often each kind of call has been made. -/
  made : Disturbed → Nat := fun _ => 0
  /-- The reading of the wall clock. -/
  now : Instant
  log : List Event := []

/-- An activity in a rehearsal. -/
abbrev Step := Act World

/-- Reports an event. -/
def note (event : Event) : Step Unit := Act.touch fun w => ((), { w with log := w.log ++ [event] })

/-- Does something with the store. -/
def onStore {α : Type} (f : StateM Store α) : Step α := Act.touch fun w =>
  let (a, store) := f w.store
  (a, { w with store })

/-- Counts a call; if it is to fail, the answer is its error. -/
def disturb (kind : Disturbed) : Step (Option InfraError) := Act.touch fun w =>
  let n := w.made kind + 1
  let made := fun k => if k = kind then n else w.made k
  let error := if n ∈ w.disturbances.failing kind then
      some (.backend s!"{kind.word} {n}")
    else none
  (error, { w with made })

/-- Makes a call that may be disturbed. -/
def unlessDisturbed {α : Type} (kind : Disturbed) (act : Step (Except InfraError α)) :
    Step (Except InfraError α) := do
  match ← disturb kind with
  | some e => return .error e
  | none => act

/-- Answers the calls of a fetch. -/
def answerFetch : (c : Feed.Call) → Step c.Reply
  | .get url => do
    let clock := (← get).clock
    Act.touch fun w =>
      let (reply, web) := w.web.get clock url
      (reply, { w with web })
  | .wait millis => Act.wait millis
  | .now => Act.look World.now
  | .log event => note event

/-- Fetches from the source of the rehearsal. -/
def fetch (maxPages : UInt32) : Step (Except InfraError (List Article)) := do
  Act.wait (← Act.look (·.disturbances.fetchDelay))
  match ← Act.look World.source with
  | .feed settings => (Feed.fetch settings maxPages).run answerFetch
  | .listed source =>
    let (reply, source) := source.fetch maxPages
    Act.touch fun w => (reply, { w with source := .listed source })

/-- Publishes an article, if the rehearsal has a publisher. -/
def publish (a : Article) (isNew : Bool) : Step (Except InfraError Unit) := do
  Act.wait (← Act.look (·.disturbances.publishDelay))
  Act.touch fun w =>
    match w.publisher with
    | none => (.ok (), w)
    | some publisher =>
      let (reply, publisher) := publisher.publish a isNew
      (reply, { w with publisher := some publisher })

/-- Answers the calls of a cycle that are not about the store. -/
def answerExternal : (c : External) → Step c.Reply
  | .fetch maxPages => fetch maxPages
  | .now => Act.look World.now
  | .stopwatch => do return (← get).clock * 1000000
  | .publish a isNew => publish a isNew
  | .log event => note event

/-- Answers the calls of a cycle. -/
def answer : (c : Call Transaction) → Step c.Reply
  | .held sourceId ids => onStore (Store.held sourceId ids)
  | .begin => unlessDisturbed .begin (return .ok [])
  | .upsert tx a => onStore (Store.upsert tx a)
  | .upsertTags tx tags => return Store.upsertTags tx tags
  | .link tx id tagIds => Act.look fun w => w.store.link tx id tagIds
  | .commit tx => unlessDisturbed .commit do
    Act.wait (← Act.look (·.disturbances.commitDelay))
    onStore fun s => (.ok (), s.commit tx)
  | .rollback _ => unlessDisturbed .rollback <| onStore fun s => (.ok (), s.rollback)
  | .readState sourceId =>
    unlessDisturbed .readState <| Act.look fun w => .ok (w.store.stateOf sourceId)
  | .writeState state => onStore (Store.writeState state)
  | .external c => answerExternal c

/-- Runs calls of a cycle. -/
def perform {α : Type} (calls : Calls Transaction α) : Step α := calls.run answer

/-- Runs one cycle. -/
def cycle (maxPages historyDays : UInt32) : Step (Except SyncError Stats) := do
  let settings ← Act.look fun w => {
    sourceId := w.source.id
    sourceName := w.source.name
    maxPages
    historyDays
    publishes := w.publisher.isSome : Cycle.Settings }
  Act.ofCycle (← perform (FeedSync.cycle settings))

/-- Runs one cycle within a time limit, given in milliseconds. -/
def runOnce (maxPages historyDays : UInt32) (timeout : Nat) : Step Outcome := do
  let sourceId ← Act.look (·.source.id)
  Schedule.runOnce { sourceId, interval := 0, timeout } note (cycle maxPages historyDays)

end Rehearsal

end FeedSync
