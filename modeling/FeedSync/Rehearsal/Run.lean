import FeedSync.Rehearsal.Broker
import FeedSync.Rehearsal.Database
import FeedSync.Rehearsal.Site
import FeedSync.Service

/-!
# Rehearsing whole runs

A world of scripted servers in which the program runs from its command line to its end. The shutdown
comes some time after something that the servers have seen.
-/

namespace FeedSync.Rehearsal

/-- What the shutdown comes after. -/
inductive Trigger where
  /-- A statement that writes a sync state. -/
  | stateWritten
  /-- A request to the site. -/
  | requested
  deriving DecidableEq, Repr

/-- Everything that a run can see or change. -/
structure Servers where
  site : ScriptedSite
  database : ScriptedDatabase
  broker : ScriptedBroker
  /-- The reading of the wall clock. -/
  now : Instant
  trigger : Option Trigger := none
  log : List LogEntry := []
  /-- The lines printed. -/
  printed : List String := []

/-- How long after its trigger the shutdown comes, in milliseconds. -/
def shutdownDelay : Nat := 150

/-- Whether what a shutdown comes after has happened. -/
def Trigger.isSeen (servers : Servers) : Trigger → Bool
  | .stateWritten =>
    servers.database.statements.any fun (sql, _) => sql.startsWith "INSERT INTO sync_state"
  | .requested => !servers.site.requests.isEmpty

namespace Servers

/-- Sets the time of the shutdown once its trigger was seen. -/
def watch : Act Servers Unit := modify fun t =>
  if t.shutdown.isNone && t.world.trigger.any (·.isSeen t.world) then
    { t with shutdown := some (t.clock + shutdownDelay) }
  else t

/-- Answers a request to the database. -/
def answerDatabase (q : Database.Request Nat) : Act Servers q.Reply := do
  let reply ← Act.touch fun w =>
    let (reply, database) := ScriptedDatabase.answer q w.database
    (reply, { w with database })
  watch
  return reply

/-- Answers a request to the broker. -/
def answerBroker (q : Broker.Request) : Act Servers q.Reply := Act.touch fun w =>
  let (reply, broker) := ScriptedBroker.answer w.now q w.broker
  (reply, { w with broker })

/-- Answers a request to the site for somebody who waits so many milliseconds. -/
def answerWeb (timeout : Nat) (r : Http.Request) :
    Act Servers (Except HttpFault Http.Response) := do
  let reply ← Act.touch fun w =>
    let (reply, site) := w.site.receive r
    (reply, { w with site })
  watch
  match reply with
  | some reply => return reply
  | none =>
    Act.wait timeout
    return .error .timeout

/-- The servers as the surroundings of a run. -/
def surroundings (config : Config) : Surroundings Servers Nat where
  connect address := Act.look fun w => w.database.connectTo address
  database := answerDatabase
  broker := answerBroker
  web := answerWeb (1000 * config.api.timeout)
  now := Act.look Servers.now
  log r := Act.touch fun w => ((), { w with log := w.log ++ [r] })
  print line := Act.touch fun w => ((), { w with printed := w.printed ++ [line] })

end Servers

/-- What is left of a run. -/
structure Remains where
  ending : Ending
  servers : Servers
  format : LogFormat := .json
  /-- The events shown, each with the activity shown around it. -/
  shown : List (Event × Option Span) := []

/-- The code of a run that was killed. -/
def killedCode : Nat := 143

/-- The code of a run that aborted. -/
def abortedCode : Nat := 101

/-- How a run ended that got as far as the servers. -/
def endingOf : Except Interruption (Except Failure Unit) → Ending
  | .ok (.ok ()) => {}
  | .ok (.error failure) => .ofFailure failure
  | .error .abort => { code := abortedCode }
  | .error _ => { code := killedCode }

/-- Runs the program. Every cycle asks the site for something, and when its script has come to its
end nothing new can happen any more; so the number of cycles is bounded. -/
def run (arguments : List String) (environment : Environment) (files : Entry) (servers : Servers) :
    Remains :=
  match Startup.begin (m := Id) files.bytesOf arguments environment with
  | .error ending => { ending, servers }
  | .ok startup =>
    let cycles := servers.site.replies.length + 2
    let act := Service.run (Servers.surroundings startup.config) startup cycles
    let (result, t) := act.run.run { world := servers }
    let ending := endingOf result
    { ending := { ending with
        output := t.world.printed
        complaints := startup.notes ++ ending.complaints }
      servers := t.world
      format := startup.config.logFormat
      shown := t.world.log.filterMap startup.filter.show? }

end FeedSync.Rehearsal
