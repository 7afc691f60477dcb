import FeedSync.Cycle.Save
import FeedSync.Sync.Selection
import FeedSync.Time.Rfc3339

/-!
# A sync cycle

One cycle brings the store up to date with a source: it fetches the source's articles, drops those
outside the history window, selects what the store does not hold yet, saves and publishes the
selected articles one by one, and at last updates the sync state of the source. The failure of a
single article is reported and counted, and the cycle goes on with the next one. Only a total that
would not fit into its word makes a cycle abort.
-/

namespace FeedSync

namespace Cycle

/-- What a cycle is about. -/
structure Settings where
  /-- The id of the source. -/
  sourceId : String
  /-- The name of the source for people. -/
  sourceName : String
  /-- How many pages of the source are fetched at most. -/
  maxPages : UInt32
  /-- How many days back articles may be published. -/
  historyDays : UInt32
  /-- Whether stored articles are published. -/
  publishes : Bool
  deriving DecidableEq, Repr

/-- How far a cycle has come with its articles. -/
structure Progress where
  stats : Stats
  /-- The number of the article stored last. -/
  lastStored : Option Int64 := none
  deriving DecidableEq, Repr

variable {Tx : Type}

/-- Publishes an article that was stored, if the cycle publishes at all. -/
def publish (settings : Settings) (a : Article) (isNew : Bool) (stats : Stats) :
    Calls Tx Stats := do
  if settings.publishes then
    match ← external (.publish a isNew) with
    | .ok () => return { stats with published := stats.published + 1 }
    | .error e =>
      report .cycle .warn "記事の変更通知の配信に失敗しました"
        [("external_id", .integer a.externalId.toInt), ("error", .text e.message)]
      return { stats with errors := stats.errors + 1 }
  else return stats

/-- The statistics with one more article stored. -/
def countStored (stats : Stats) (isNew : Bool) : Stats :=
  if isNew then { stats with new := stats.new + 1 }
  else { stats with updated := stats.updated + 1 }

/-- Saves and publishes one selected article. -/
def handleArticle (settings : Settings) (progress : Progress) (a : Article) :
    Calls Tx Progress := do
  match ← save settings.sourceId a with
  | .ok isNew =>
    let stats ← publish settings a isNew (countStored progress.stats isNew)
    return { stats, lastStored := some a.externalId }
  | .error e =>
    report .cycle .warn "記事の保存に失敗しました"
      [("external_id", .integer a.externalId.toInt), ("error", .text e.message)]
    return { progress with stats.errors := progress.stats.errors + 1 }

/-- Saves and publishes the selected articles in order. -/
def handleAll (settings : Settings) : Progress → List Article → Calls Tx Progress
  | progress, [] => return progress
  | progress, a :: rest => do handleAll settings (← handleArticle settings progress a) rest

/-- What some articles count in a total: their number, or the greatest word if that is less. -/
def weight (synced : Nat) : Nat := min synced Int64.maxValue.toNatClampNeg

/-- A total **overflows** when some articles are counted in it: no word holds the sum. -/
def Overflows (total : Int64) (synced : Nat) : Prop :=
  Int64.maxValue.toInt < total.toInt + weight synced

instance (total : Int64) (synced : Nat) : Decidable (Overflows total synced) :=
  inferInstanceAs (Decidable (_ < _))

/-- The sync state after a cycle that stored some articles and ended at the given time. There is
none if the total overflows. -/
def advance? (state : SyncState) (now : Instant) (synced : Nat) (lastStored : Option Int64) :
    Option SyncState :=
  if Overflows state.totalSynced synced then none
  else some { state with
    lastSyncedAt := some now
    totalSynced := Int64.ofInt (state.totalSynced.toInt + weight synced)
    lastArticleId := lastStored.getD state.lastArticleId }

/-- Updates the sync state of the source at the end of a cycle. If there is no state to go on with,
nothing is written, and no reply is given. -/
def updateState (settings : Settings) (progress : Progress) :
    Calls Tx (Option (Except InfraError Unit)) := do
  match ← call (.readState settings.sourceId) with
  | .error e => return some (.error e)
  | .ok state =>
    let now ← external .now
    match advance? state now progress.stats.synced progress.lastStored with
    | none => return none
    | some state' => return some (← call (.writeState state'))

/-- Ends a cycle: updates the sync state and tells the statistics. A cycle without a state to go on
with aborts at once. -/
def conclude (settings : Settings) (started : Nat) (progress : Progress) :
    Calls Tx (Except CycleFault Stats) := do
  match ← updateState settings progress with
  | none => return .error (.overflow progress.stats)
  | some updated =>
    let elapsed := Elapsed.ofNanos ((← external .stopwatch) - started)
    let stats := { progress.stats with elapsed }
    match updated with
    | .error e => return .error (.failed (.progress stats e))
    | .ok () =>
      report .cycle .info stats.summary
      return .ok stats

/-- Stores the articles that are inside the window and ends the cycle. -/
def store (settings : Settings) (started : Nat) (articles : List Article) :
    Calls Tx (Except CycleFault Stats) := do
  match ← call (.held settings.sourceId (articles.map Article.externalId)) with
  | .error e => return .error (.failed (.filter e))
  | .ok held =>
    let selected := selectForSync articles held.get?
    let stats : Stats :=
      { sourceId := settings.sourceId
        fetched := articles.length
        skipped := articles.length - selected.length }
    report .cycle .info "同期対象を抽出しました"
      [("selected", .integer selected.length), ("skipped", .integer stats.skipped)]
    conclude settings started (← handleAll settings { stats } selected)

end Cycle

/-- One cycle. -/
def cycle {Tx : Type} (settings : Cycle.Settings) : Calls Tx (Except CycleFault Stats) := do
  let started ← external .stopwatch
  report .cycle .info "同期を開始します" [("name", .text settings.sourceName)]
  match ← external (.fetch settings.maxPages) with
  | .error e => return .error (.failed (.fetch e))
  | .ok fetched =>
    let cutoff := historyCutoff (← external .now) settings.historyDays
    let articles := insideWindow cutoff fetched
    report .cycle .debug "日付フィルタを適用しました"
      [("before", .integer fetched.length), ("after", .integer articles.length),
        ("cutoff", .text cutoff.display)]
    report .cycle .info "記事を取得しました" [("fetched", .integer articles.length)]
    Cycle.store settings started articles

end FeedSync
