import FeedSync.Json.Text
import FeedSync.Sync.Stats

/-!
# Errors

Everything that can go wrong around a cycle, as causes. Each type has one function `message` with
the wording; where a cause lies in a peer or a format, its wording is a short English phrase.
-/

namespace FeedSync

/-! ### Causes -/

/-- Why a file cannot be read. -/
inductive FileFault where
  | notFound
  | isDirectory
  | notDirectory
  | nameTooLong
  | notUtf8
  | nulInName
  /-- Another reason in the words of the system. -/
  | other (text : String)
  deriving DecidableEq, Repr

/-- The wording of a file fault. -/
def FileFault.message : FileFault → String
  | .notFound => "No such file or directory (os error 2)"
  | .isDirectory => "Is a directory (os error 21)"
  | .notDirectory => "Not a directory (os error 20)"
  | .nameTooLong => "File name too long (os error 36)"
  | .notUtf8 => "stream did not contain valid UTF-8"
  | .nulInName => "file name contained an unexpected NUL byte"
  | .other text => text

/-- How a migration of the database can fail. -/
inductive MigrationFault where
  /-- One of its statements failed. -/
  | execute
  /-- It was applied with another text. -/
  | versionMismatch (version : Int64)
  /-- A version was applied that is not known. -/
  | versionMissing (version : Int64)
  /-- A version was applied only in part. -/
  | dirty (version : Int64)
  deriving DecidableEq, Repr

/-- Why the database did not do what it was asked. -/
inductive DatabaseFault where
  /-- The server refused, with its words. -/
  | server (message : String)
  | rowNotFound
  | poolTimedOut
  | poolClosed
  | workerCrashed
  /-- The connection was cut. -/
  | disconnected
  /-- A column, given by its name or number, holds nothing where it should. -/
  | columnDecode (column : String)
  /-- The address of the database cannot be used. -/
  | configuration
  | protocol
  | encode
  | migration (fault : MigrationFault)
  | other
  deriving DecidableEq, Repr

/-- The wording of a migration fault. -/
def MigrationFault.message : MigrationFault → String
  | .execute => "while executing migrations"
  | .versionMismatch version =>
    s!"migration {version.toInt} was previously applied but has been modified"
  | .versionMissing version =>
    s!"migration {version.toInt} was previously applied but is missing in the resolved migrations"
  | .dirty version =>
    s!"migration {version.toInt} is partially applied; fix and remove row from the migrations table"

/-- The wording of a database fault. -/
def DatabaseFault.message : DatabaseFault → String
  | .server message => s!"error returned from database: {message}"
  | .rowNotFound => "no rows returned by a query that expected to return at least one row"
  | .poolTimedOut => "pool timed out while waiting for an open connection"
  | .poolClosed => "attempted to acquire a connection on a closed pool"
  | .workerCrashed => "attempted to communicate with a crashed background worker"
  | .disconnected =>
    "error communicating with database: expected to read 5 bytes, got 0 bytes at EOF"
  | .columnDecode column =>
    s!"error occurred while decoding column {column}: " ++
      "unexpected null; try decoding as an \x60Option\x60"
  | .configuration => "error with configuration"
  | .protocol => "encountered unexpected or invalid data"
  | .encode => "error occurred while encoding a value"
  | .migration fault => fault.message
  | .other => "unexpected error"

/-- The wordings of a database fault and of what is behind it. -/
def DatabaseFault.trail (fault : DatabaseFault) : List String :=
  match fault with
  | .server message => [fault.message, message]
  | _ => [fault.message]

/-- Why a web request has no text. -/
inductive HttpFault where
  /-- The answer has a status from 400 to 599. -/
  | status (code : Nat)
  /-- The address is no absolute web address. -/
  | address
  /-- Nothing listens there. -/
  | connect
  /-- The connection was cut before an answer. -/
  | request
  | timeout
  /-- Too many redirects. -/
  | redirect
  /-- The connection was cut within the body. -/
  | body
  deriving DecidableEq, Repr

/-- The wording of a web fault. -/
def HttpFault.message : HttpFault → String
  | .status code => s!"HTTP status {code}"
  | .address => "builder error"
  | .connect => "error trying to connect"
  | .request => "error sending request"
  | .timeout => "operation timed out"
  | .redirect => "too many redirects"
  | .body => "error reading a body from connection"

/-- Why the configuration cannot be used. -/
inductive ConfigError where
  /-- A value is not allowed. -/
  | invalidValue (reason : String)
  /-- The text does not have the form of a configuration. -/
  | unreadable
  deriving DecidableEq, Repr

/-- The wording for a text that does not have the expected form. -/
def unreadable : String := "unreadable"

/-- The wording of a configuration error. -/
def ConfigError.message : ConfigError → String
  | .invalidValue reason => s!"設定値が不正です: {reason}"
  | .unreadable => s!"設定ファイルの解析に失敗しました: {FeedSync.unreadable}"

/-- The wordings of a configuration error and of what is behind it. -/
def ConfigError.trail (e : ConfigError) : List String :=
  match e with
  | .invalidValue _ => [e.message]
  | .unreadable => [e.message, FeedSync.unreadable]

/-! ### Errors of the surroundings -/

/-- An error of something outside the cycle: files, database, content API, broker, configuration. -/
inductive InfraError where
  | fileSystem (path : String) (fault : FileFault)
  | connection (fault : DatabaseFault)
  | query (operation : String) (fault : DatabaseFault)
  | http (url : String) (fault : HttpFault)
  /-- All attempts failed, the last one with the given error. -/
  | retriesExhausted (attempts : UInt32) (last : InfraError)
  /-- A JSON text does not have the expected form. -/
  | decoding (context : String) (fault : Json.Fault)
  | broker (operation : String)
  /-- An error that is known by its words only. -/
  | backend (text : String)
  | config (cause : ConfigError)
  deriving DecidableEq, Repr

namespace InfraError

/-- The wording for what a broker did not do. -/
def refused : String := "refused"

/-- The wording of an error of the surroundings. -/
def message : InfraError → String
  | .fileSystem path fault => s!"ファイルシステムエラー: {path} - {fault.message}"
  | .connection fault => s!"データベース接続エラー: {fault.message}"
  | .query operation fault => s!"データベースクエリエラー: {operation} - {fault.message}"
  | .http url fault => s!"HTTP通信エラー: {url} - {fault.message}"
  | .retriesExhausted attempts last =>
    s!"{attempts.toNat}回試行しましたが失敗しました: {last.message}"
  | .decoding context _ => s!"シリアライゼーションエラー: {context} - {unreadable}"
  | .broker operation => s!"メッセージブローカーエラー: {operation} - {refused}"
  | .backend text => s!"バックエンドエラー: {text}"
  | .config cause => cause.message

/-- The wordings of an error and of what is behind it, step by step. -/
def trail : InfraError → List String
  | e@(.fileSystem _ fault) => [e.message, fault.message]
  | e@(.connection fault) => e.message :: fault.trail
  | e@(.query _ fault) => e.message :: fault.trail
  | e@(.http _ fault) => [e.message, fault.message]
  | e@(.retriesExhausted _ last) => e.message :: last.trail
  | e@(.decoding _ _) => [e.message, unreadable]
  | e@(.broker _) => [e.message, refused]
  | e@(.backend _) => [e.message]
  | .config cause => cause.trail

end InfraError

/-! ### Errors of a cycle -/

/-- Why a cycle ended early. Errors with single articles do not end it and are only counted. -/
inductive SyncError where
  /-- The articles could not be fetched; nothing was changed. -/
  | fetch (cause : InfraError)
  /-- The store could not be asked what it holds; nothing was changed. -/
  | filter (cause : InfraError)
  /-- The sync state could not be updated; the articles are stored. -/
  | progress (stats : Stats) (cause : InfraError)
  deriving DecidableEq, Repr

namespace SyncError

/-- The wording of a cycle's error. -/
def message : SyncError → String
  | .fetch cause => s!"記事の取得に失敗: {cause.message}"
  | .filter cause => s!"同期対象の抽出に失敗: {cause.message}"
  | .progress _ cause => s!"同期状態の更新に失敗: {cause.message}"

/-- The error of the surroundings that ended the cycle. -/
def cause : SyncError → InfraError
  | .fetch cause => cause
  | .filter cause => cause
  | .progress _ cause => cause

/-- The wordings of a cycle's error and of what is behind it, step by step. -/
def trail (e : SyncError) : List String := e.message :: e.cause.trail

/-- The statistics of a cycle that failed only at its end. -/
def stats? : SyncError → Option Stats
  | .progress stats _ => some stats
  | _ => none

end SyncError

/-- Why a cycle came to no success. -/
inductive CycleFault where
  /-- It failed. -/
  | failed (cause : SyncError)
  /-- The total of synced articles would not have fitted into its word. Such a cycle aborts, and
  nobody is told what it had counted. -/
  | overflow (stats : Stats)
  deriving DecidableEq, Repr

end FeedSync
