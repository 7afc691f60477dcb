import FeedSync.Service

/-!
# The program

The outermost layer: it takes the command line, the environment and the files of the process, and
shows how the run ended. Its surroundings have no connection to any server, so that a run ends where
the database would be needed.
-/

namespace FeedSync

/-- The number of a system error, which may be given as a negative one. -/
def errorNumber (code : UInt32) : UInt32 := min code (0 - code)

/-- Why a file could not be read. -/
def FileFault.ofError : IO.Error → FileFault
  | .noFileOrDirectory .. => .notFound
  | .inappropriateType _ code _ =>
    if errorNumber code = 20 then .notDirectory else .isDirectory
  | .invalidArgument file code text =>
    if errorNumber code = 36 then .nameTooLong
    else .other (toString (IO.Error.invalidArgument file code text))
  | e => .other (toString e)

/-- The bytes of a file. -/
def readBytes (path : String) : IO (Except FileFault (List UInt8)) := do
  if path.contains '\x00' then return .error .nulInName
  else
    match ← (IO.FS.readBinFile path).toBaseIO with
    | .ok bytes => return .ok bytes.toList
    | .error e => return .error (.ofError e)

/-- The variables that a list of assignments sets. -/
def Environment.ofAssignments (texts : List String) : Environment := fun name =>
  texts.findSome? fun text =>
    if text.startsWith (name ++ "=") then some (text.drop (name.length + 1)).toString else none

/-- The environment of the process. -/
def processEnvironment : IO Environment := do
  match ← readBytes "/proc/self/environ" with
  | .error _ => return fun _ => none
  | .ok bytes => return .ofAssignments ((bytes.splitOn 0).filterMap Text.utf8?)

/-- Surroundings in which no server can be reached. -/
def offline : Surroundings Unit Unit where
  connect _ := return .error .poolTimedOut
  database
    | .begin => return .error .poolTimedOut
    | .commit _ => return .error .poolTimedOut
    | .rollback _ => return .error .poolTimedOut
    | .run _ _ => return .error .poolTimedOut
    | .ledger => return .error .poolTimedOut
    | .record _ _ => return .error .poolTimedOut
  broker
    | .login _ => return false
    | .perform _ => return false
    | .confirmation => return none
    | .now => return default
    | .log _ => return ()
  web _ := return .error .connect
  now := return default
  log _ := return ()
  print _ := return ()

/-- How a run ends whose surroundings are offline. -/
def Startup.finish (startup : Startup) : Ending :=
  match ((Service.run offline startup 0).run.run { world := () }).1 with
  | .ok (.error failure) =>
    let ending := Ending.ofFailure failure
    { ending with complaints := startup.notes ++ ending.complaints }
  | _ => { complaints := startup.notes }

/-- Shows how a run ended. -/
def Ending.show (ending : Ending) : IO UInt32 := do
  ending.output.forM fun line => IO.println line
  ending.complaints.forM fun line => IO.eprintln line
  return ending.code.toUInt32

end FeedSync

open FeedSync

/-- Runs the program. -/
def main (arguments : List String) : IO UInt32 := do
  match ← Startup.begin readBytes arguments (← processEnvironment) with
  | .error ending => ending.show
  | .ok startup => startup.finish.show
