import FeedSync.CommandLine
import FeedSync.Config.EnvFile
import FeedSync.Failure
import FeedSync.Files
import FeedSync.Log.Filter

/-!
# Starting up

What a run of the program begins with: its options, the environment with the variables of the
environment file, the configuration and the log filter. Nothing outside the files is touched yet.
-/

namespace FeedSync

/-- How a run ended, as its caller sees it. -/
structure Ending where
  code : Nat := 0
  /-- The lines of output. -/
  output : List String := []
  /-- The lines of complaints. -/
  complaints : List String := []
  deriving DecidableEq, Repr

/-- The end of a run for which the command line was enough. -/
def Ending.ofStop (stop : CommandLine.Stop) : Ending :=
  if stop.isRefusal then { code := 2, complaints := stop.lines } else { output := stop.lines }

/-- The end of a run that failed. -/
def Ending.ofFailure (failure : Failure) : Ending :=
  { code := 1, complaints := failure.report }

/-- What a run begins with. -/
structure Startup where
  environment : Environment
  config : Config
  /-- Whether one cycle is run, or cycles on schedule. -/
  once : Bool
  filter : Log.Filter
  /-- Complaints that do not keep the run from going on. -/
  notes : List String

namespace Startup

/-- The name of the environment file. -/
def envFile : String := ".env"

/-- Starts a run, given who reads files. -/
def begin {m : Type → Type} [Monad m] (read : String → m (Except FileFault (List UInt8)))
    (arguments : List String) (environment : Environment) : m (Except Ending Startup) := do
  let environment := match ← read envFile with
    | .ok bytes => Config.EnvFile.load environment bytes
    | .error _ => environment
  match CommandLine.Options.ofArguments arguments with
  | .error stop => return .error (.ofStop stop)
  | .ok options =>
    match Config.ofFile environment options.config (← read options.config) with
    | .error e => return .error (.ofFailure (.configuration options.config e))
    | .ok config =>
      let (filter, notes) := Log.Filter.choose (environment "RUST_LOG") config.logLevel
      return .ok { environment, config, once := options.once, filter, notes }

end Startup

end FeedSync
