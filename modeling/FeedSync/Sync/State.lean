import FeedSync.Article.Json

/-!
# The sync state of a source

What is kept about a source from one cycle to the next, and its JSON form.
-/

namespace FeedSync

/-- The progress of syncing one source. -/
@[ext]
structure SyncState where
  sourceId : String
  /-- When the last cycle that came to its end ended; none before the first. -/
  lastSyncedAt : Option Instant := none
  /-- The number of the article that was stored last. -/
  lastArticleId : Int64 := 0
  /-- How many articles have been stored or updated so far. -/
  totalSynced : Int64 := 0
  deriving DecidableEq, Repr, Inhabited

namespace SyncState

/-- The state of a source that was never synced. -/
def initial (sourceId : String) : SyncState := { sourceId }

/-- A sync state as JSON. -/
def toJson (s : SyncState) : Json.Value :=
  .object [
    ("source_id", .string s.sourceId),
    ("last_synced_at", .ofOption Instant.toJson s.lastSyncedAt),
    ("last_article_id", .integer s.lastArticleId.toInt),
    ("total_synced", .integer s.totalSynced.toInt)]

/-- The JSON form of a sync state. -/
def shape : Json.Shape SyncState :=
  SyncState.mk
    <$> .required "source_id" Json.string
    <*> .optional "last_synced_at" Instant.decoder
    <*> .required "last_article_id" Json.int64
    <*> .required "total_synced" Json.int64

/-- The sync state that a JSON text holds. -/
def ofText (text : String) : Except Json.Fault SyncState := shape.decoder.decode text

end SyncState

end FeedSync
