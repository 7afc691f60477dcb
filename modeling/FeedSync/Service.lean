import FeedSync.Broker.Publisher
import FeedSync.Config.Settings
import FeedSync.Database.Address
import FeedSync.Database.Store
import FeedSync.Http.Client
import FeedSync.Startup

/-!
# The service

A whole run of the program: it connects to the database and the broker, runs one cycle or cycles on
schedule, and closes what it has opened. The run is a program of its own on top of those of the
database, the broker, the web and the cycle; here their requests are handed on to whoever answers
them.
-/

namespace FeedSync

/-- Who answers what a run asks of the world outside. -/
structure Surroundings (σ Tx : Type) where
  /-- Makes the first connection to the database. -/
  connect : Database.Address → Act σ (Except DatabaseFault Unit)
  database : (q : Database.Request Tx) → Act σ q.Reply
  broker : (q : Broker.Request) → Act σ q.Reply
  web : Http.Request → Act σ (Except HttpFault Http.Response)
  now : Act σ Instant
  log : LogEntry → Act σ Unit
  /-- Writes a line of output. -/
  print : String → Act σ Unit

namespace Service

/-! ### Activities -/

/-- The activity of running a cycle. -/
def syncSpan : Span where
  part := .cycle
  level := .info
  name := "sync"
  fields := [("source", .text Feed.sourceId)]

/-- The activity of publishing the change of an article. -/
def publishSpan (a : Article) (isNew : Bool) : Span where
  part := .broker
  level := .debug
  name := "publish"
  fields := [("external_id", .integer a.externalId.toInt), ("is_new", .bool isNew)]

/-- An event of the service. -/
def event (level : Level) (message : String) (fields : List (String × Datum) := []) : Event :=
  { part := .service, level, message, fields }

variable {σ Tx : Type} (s : Surroundings σ Tx) (config : Config)

/-- Reports an event outside all activities. -/
def note (event : Event) : Act σ Unit := s.log { event }

/-! ### A cycle -/

/-- Answers a publisher in some activities. -/
def answerPublisher (spans : List Span) : (q : Broker.Request) → Act σ q.Reply
  | .log event => s.log { event, spans }
  | .now => s.now
  | q => s.broker q

/-- Answers a fetch. -/
def answerFetch : (c : Feed.Call) → Act σ c.Reply
  | .get url => (Http.get url).run s.web
  | .wait millis => Act.wait millis
  | .now => s.now
  | .log event => s.log { event, spans := [syncSpan] }

/-- Answers the calls of a cycle that are not about the store. -/
def answerExternal : (c : External) → Act σ c.Reply
  | .fetch maxPages => (Feed.fetch config.feedSettings maxPages).run (answerFetch s)
  | .now => s.now
  | .stopwatch => do return (← get).clock * 1000000
  | .publish a isNew =>
    (Broker.publish config.broker a isNew).run (answerPublisher s [syncSpan, publishSpan a isNew])
  | .log event => s.log { event, spans := [syncSpan] }

/-- Runs one cycle. -/
def cycle : Act σ (Except SyncError Stats) := do
  let answer := Database.answer s.database (answerExternal s config)
  Act.ofCycle (← (FeedSync.cycle config.cycleSettings).run answer)

/-! ### Opening and closing -/

/-- Connects to the database and brings its tables up to date. -/
def openDatabase (environment : Environment) : Act σ (Except Failure Unit) := do
  match Database.Address.ofText? (config.database.connectionUrl environment) with
  | none => return .error (.database (.connection .configuration))
  | some address =>
    match ← s.connect address with
    | .error fault => return .error (.database (.connection fault))
    | .ok () =>
      match ← Database.migrate.run s.database with
      | .error e => return .error (.database e)
      | .ok () =>
        note s {
          part := .database
          level := .info
          message := "データベースに接続しました"
          fields := [("max_connections", .integer config.database.maxConnections)] }
        return .ok ()

/-- Connects to the broker, if articles are published. -/
def openBroker : Act σ (Except Failure Unit) := do
  if config.broker.publishes then
    return (← (Broker.connect config.broker).run (answerPublisher s [])).mapError .broker
  else
    note s (event .info "変更通知の配信は無効です")
    return .ok ()

/-- The report that the connection to the broker was not closed. -/
def closeFailure : String := "RabbitMQ接続のクローズに失敗しました"

/-- Closes the connection to the broker, if there is one. -/
def closeBroker : Act σ Unit := do
  if config.broker.publishes then
    if let .error e := ← Broker.close.run (answerPublisher s []) then
      note s (event .warn closeFailure [("error", .text e.message)])

/-! ### Running -/

/-- Runs one cycle within its time limit and prints its statistics. -/
def runOnce : Act σ (Except Failure Unit) := do
  match ← config.schedule.runOnce (note s) (cycle s config) with
  | .completed stats =>
    s.print stats.summary
    return .ok ()
  | .failed e =>
    if let some stats := e.stats? then s.print stats.summary
    return .error (.cycle e)
  | .timedOut => return .error .timedOut

/-- Runs cycles on schedule until the shutdown, at most so many. -/
def runOnSchedule (cycles : Nat) : Act σ Unit :=
  config.schedule.start (note s)
    (note s (event .info "シャットダウンシグナルを受信しました")) (cycle s config) cycles

/-- A whole run, with at most so many cycles. -/
def run (startup : Startup) (cycles : Nat) : Act σ (Except Failure Unit) := do
  let config := startup.config
  match ← openDatabase s config startup.environment with
  | .error failure => return .error failure
  | .ok () =>
    match ← openBroker s config with
    | .error failure => return .error failure
    | .ok () =>
      let result ← do
        if startup.once then runOnce s config
        else
          runOnSchedule s config cycles
          pure (.ok ())
      closeBroker s config
      note s (event .info "終了しました")
      return result

end Service

end FeedSync
