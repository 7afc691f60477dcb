import FeedSync.Cycle.Call
import FeedSync.Database.Session

/-!
# The store in the database

How the calls of a cycle are answered by statements.
-/

namespace FeedSync.Database

variable {Tx : Type}

/-! ### Results -/

/-- Runs a statement and reads all rows of its result; errors tell the purpose of the statement. -/
def readAll {α : Type} (purpose : String) (tx : Option Tx) (statement : Statement)
    (read : Row → Except DatabaseFault α) : Session Tx (Except InfraError (List α)) := do
  match ← ask (.run tx statement) with
  | .error fault => return .error (.query purpose fault)
  | .ok rows => return (rows.mapM read).mapError (.query purpose)

/-- Runs a statement and reads the first row of its result, if there is one. -/
def readFirst {α : Type} (purpose : String) (tx : Option Tx) (statement : Statement)
    (read : Row → Except DatabaseFault α) : Session Tx (Except InfraError (Option α)) := do
  match ← ask (.run tx statement) with
  | .error fault => return .error (.query purpose fault)
  | .ok rows => return (rows.head?.mapM read).mapError (.query purpose)

/-- Runs a statement for what it does. -/
def execute (purpose : String) (tx : Option Tx) (statement : Statement) :
    Session Tx (Except InfraError Unit) := do
  match ← ask (.run tx statement) with
  | .error fault => return .error (.query purpose fault)
  | .ok _ => return .ok ()

/-- The internal id in a row. -/
def idRow (row : Row) : Except DatabaseFault Int64 := row.int64 0 "0"

/-- The number and the time of the last modification of an article in a row. -/
def heldRow (row : Row) : Except DatabaseFault (Int64 × Instant) := do
  return (← row.int64 0 "0", ← row.time 1 "1")

/-- The tag in a row. -/
def tagRow (row : Row) : Except DatabaseFault Tag := do
  return ⟨← row.int64 0 "\"id\"", ← row.text 1 "\"label\""⟩

/-- The sync state in a row. -/
def stateRow (row : Row) : Except DatabaseFault SyncState := do
  return {
    sourceId := ← row.text 0 "\"source_id\""
    lastSyncedAt := ← row.time? 1 "\"last_synced_at\""
    lastArticleId := ← row.int64 2 "\"last_article_id\""
    totalSynced := ← row.int64 3 "\"total_synced\"" }

/-! ### Articles -/

/-- Writes an article unless the version that is there is as late. The answer is its internal id,
which is asked for separately where nothing was written. -/
def upsert (tx : Tx) (a : Article) : Session Tx (Except InfraError Int64) := do
  match ← readFirst "記事のUPSERT" (some tx) (.upsertArticle a) idRow with
  | .error e => return .error e
  | .ok (some id) => return .ok id
  | .ok none =>
    let purpose := "既存記事IDの取得"
    match ← readFirst purpose (some tx) (.articleId a.sourceId a.externalId) idRow with
    | .error e => return .error e
    | .ok (some id) => return .ok id
    | .ok none => return .error (.query purpose .rowNotFound)

/-- Which of some articles of a source are there. Nothing is asked about no articles. -/
def held (sourceId : String) (externalIds : List Int64) : Session Tx (Except InfraError Held) := do
  if externalIds.isEmpty then return .ok .empty
  else
    match ← readAll "既存記事の更新日時の取得" none (.heldArticles sourceId externalIds) heldRow with
    | .error e => return .error e
    | .ok entries => return .ok (.ofEntries entries)

/-! ### Tags -/

/-- Writes tags. -/
def upsertTags (tx : Tx) (tags : List Tag) : Session Tx (Except InfraError Unit) := do
  if tags.isEmpty then return .ok ()
  else execute "タグの一括UPSERT" (some tx) (.upsertTags (Tag.distinct tags))

/-- Replaces the tags of an article. -/
def link (tx : Tx) (articleId : Int64) (tagIds : List Int64) :
    Session Tx (Except InfraError Unit) := do
  match ← execute "記事タグ関連の削除" (some tx) (.unlinkTags articleId) with
  | .error e => return .error e
  | .ok () =>
    if tagIds.isEmpty then return .ok ()
    else execute "記事タグ関連の挿入" (some tx) (.linkTags articleId tagIds)

/-- The tags of an article. -/
def tagsFor (articleId : Int64) : Session Tx (Except InfraError (List Tag)) :=
  readAll "記事タグの取得" none (.tagsOf articleId) tagRow

/-! ### Sync states -/

/-- The sync state of a source. -/
def readState (sourceId : String) : Session Tx (Except InfraError SyncState) := do
  match ← readFirst "同期状態の取得" none (.readState sourceId) stateRow with
  | .error e => return .error e
  | .ok state => return .ok (state.getD (.initial sourceId))

/-- Writes a sync state. -/
def writeState (state : SyncState) : Session Tx (Except InfraError Unit) :=
  execute "同期状態の更新" none (.writeState state)

/-! ### Transactions -/

/-- Begins a transaction. -/
def begin : Session Tx (Except InfraError Tx) := do
  return (← ask .begin).mapError (.query "トランザクションの開始")

/-- Makes a transaction permanent. -/
def commit (tx : Tx) : Session Tx (Except InfraError Unit) := do
  return (← ask (.commit tx)).mapError (.query "トランザクションのコミット")

/-- Takes a transaction back. -/
def rollback (tx : Tx) : Session Tx (Except InfraError Unit) := do
  return (← ask (.rollback tx)).mapError (.query "トランザクションのロールバック")

/-! ### The calls of a cycle -/

/-- Answers the calls of a cycle, given who answers the requests to the database and who the calls
that are not about the store. -/
def answer {m : Type → Type} [Monad m] (server : (q : Request Tx) → m q.Reply)
    (others : (c : External) → m c.Reply) : (c : Call Tx) → m c.Reply
  | .held sourceId externalIds => (held sourceId externalIds).run server
  | .begin => begin.run server
  | .upsert tx a => do return (tx, ← (upsert tx a).run server)
  | .upsertTags tx tags => do return (tx, ← (upsertTags tx tags).run server)
  | .link tx articleId tagIds => do return (tx, ← (link tx articleId tagIds).run server)
  | .commit tx => (commit tx).run server
  | .rollback tx => (rollback tx).run server
  | .readState sourceId => (readState sourceId).run server
  | .writeState state => (writeState state).run server
  | .external c => others c

end FeedSync.Database
