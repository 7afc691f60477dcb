import FeedSync.Error
import FeedSync.Log
import FeedSync.Program
import FeedSync.Store.Table
import FeedSync.Sync.State

/-!
# What a cycle asks of its surroundings

A cycle knows its collaborators (the source, the stores, the publisher, the clock and the log) only
by the calls below. Writes belong to a **transaction**: the cycle holds its handle, a value of some
type `Tx`, hands it to each write and gets it back, until it ends it with a commit or a rollback.
-/

namespace FeedSync

/-- The numbers of the articles of a source that a store holds, each with the time of its last
modification. -/
abbrev Held := Table Int64 Instant

/-- A call of a collaborator that is no store. -/
inductive External where
  /-- Get the articles of the source, of at most so many pages. -/
  | fetch (maxPages : UInt32)
  /-- Read the clock. -/
  | now
  /-- Read the stopwatch, in nanoseconds. -/
  | stopwatch
  /-- Tell the world about an article that was stored. -/
  | publish (article : Article) (isNew : Bool)
  /-- Report an event. -/
  | log (event : Event)

/-- The reply to a call of a collaborator that is no store. -/
@[reducible]
def External.Reply : External → Type
  | .fetch _ => Except InfraError (List Article)
  | .now => Instant
  | .stopwatch => Nat
  | .publish _ _ => Except InfraError Unit
  | .log _ => Unit

/-- A call of a collaborator. -/
inductive Call (Tx : Type) where
  /-- Which of some articles of a source the store holds. -/
  | held (sourceId : String) (externalIds : List Int64)
  /-- Begin a transaction. -/
  | begin
  /-- Write an article, unless the store holds a version that is as late; the reply is its internal
  id. -/
  | upsert (tx : Tx) (article : Article)
  /-- Write words of the tag vocabulary. -/
  | upsertTags (tx : Tx) (tags : List Tag)
  /-- Replace the tags of the article with an internal id. -/
  | link (tx : Tx) (articleId : Int64) (tagIds : List Int64)
  /-- Make the writes of a transaction permanent. -/
  | commit (tx : Tx)
  /-- Take the writes of a transaction back. -/
  | rollback (tx : Tx)
  /-- Read the sync state of a source. -/
  | readState (sourceId : String)
  /-- Write the sync state of a source. -/
  | writeState (state : SyncState)
  /-- Call a collaborator that is no store. -/
  | external (call : External)

/-- The reply to a call. -/
@[reducible]
def Call.Reply {Tx : Type} : Call Tx → Type
  | .held _ _ => Except InfraError Held
  | .begin => Except InfraError Tx
  | .upsert _ _ => Tx × Except InfraError Int64
  | .upsertTags _ _ => Tx × Except InfraError Unit
  | .link _ _ _ => Tx × Except InfraError Unit
  | .commit _ => Except InfraError Unit
  | .rollback _ => Except InfraError Unit
  | .readState _ => Except InfraError SyncState
  | .writeState _ => Except InfraError Unit
  | .external c => c.Reply

/-- The interface of a cycle to its collaborators. -/
abbrev Collaborators (Tx : Type) : Interface := ⟨Call Tx, Call.Reply⟩

/-- A computation that calls the collaborators of a cycle. -/
abbrev Calls (Tx : Type) (α : Type) := Program (Collaborators Tx) α

/-- Calls a collaborator. -/
abbrev call {Tx : Type} (c : Call Tx) : Calls Tx c.Reply := @Program.request (Collaborators Tx) c

/-- Calls a collaborator that is no store. -/
abbrev external {Tx : Type} (c : External) : Calls Tx c.Reply := call (.external c)

/-- Reports an event. -/
def report {Tx : Type} (part : Part) (level : Level) (message : String)
    (fields : List (String × Datum) := []) : Calls Tx Unit :=
  external (.log { part, level, message, fields })

end FeedSync
