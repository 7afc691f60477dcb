import FeedSync.Log
import FeedSync.Text.Blank
import FeedSync.Text.Digits

/-!
# Log filters

Which events and activities are shown. A filter is a list of directives, written with commas between
them: a level, for everything; a target, for everything below it; or a target, `=` and a level, for
what is at least that important below it. What is most specific counts: the directive with the
longest target, and of several with the same target the last one.
-/

namespace FeedSync

open FeedSync.Text

/-- From which level on something is shown, if at all. -/
abbrev Threshold := Option Level

/-- A rule of a filter. -/
structure Log.Directive where
  /-- What the paths begin with that the rule is about. -/
  target : String := ""
  threshold : Threshold := some .trace
  deriving DecidableEq, Repr

namespace Log

/-- Why a text is no directive. -/
inductive Misread where
  | directive
  | level
  deriving DecidableEq, Repr

/-- The wording for a text that is no directive. -/
def Misread.message : Misread → String
  | .directive => "invalid filter directive"
  | .level =>
    "error parsing level filter: expected one of \"off\", \"error\", \"warn\", \"info\", " ++
      "\"debug\", \"trace\", or a number 0-5"

/-- The thresholds from the highest to the lowest, each with its word. -/
def thresholds : List (String × Threshold) := [
  ("off", none), ("error", some .error), ("warn", some .warn), ("info", some .info),
  ("debug", some .debug), ("trace", some .trace)]

/-- The threshold that a word or a number stands for. -/
def threshold? (cs : List Char) : Option Threshold :=
  match unsigned? 5 cs with
  | some n => thresholds[n]?.map (·.2)
  | none => thresholds.lookup (String.ofList cs).toLower

namespace Directive

/-- A character that may begin a directive. -/
def isStart (c : Char) : Bool :=
  c.isAlphanum || c == '-' || c == ':' || c == '_' || (c.toNat ≥ 0x80 && !isBlank c)

/-- The directive in a text. -/
def ofText (text : String) : Except Misread Directive :=
  let cs := trim text.toList
  let front := cs.takeWhile (· != '=')
  if !cs.head?.any isStart || front.contains '[' then .error .directive
  else
    match cs.dropWhile (· != '=') with
    | [] =>
      match threshold? cs with
      | some threshold => .ok { threshold }
      | none => .ok { target := String.ofList cs }
    | [_] => .ok { target := String.ofList front }
    | _ :: word =>
      match threshold? word with
      | some threshold => .ok { target := String.ofList front, threshold }
      | none => .error .level

end Directive

/-- Which events and activities are shown. -/
abbrev Filter := List Directive

namespace Filter

/-- The texts of the directives of a filter. -/
def pieces (text : String) : List String := (text.splitOn ",").filter (!·.isEmpty)

/-- The filter in a text, if all its directives can be read. -/
def ofText? (text : String) : Option Filter := ((pieces text).mapM Directive.ofText).toOption

/-- The filter of the directives in a text that can be read, and a note for each one that cannot.
Without any directive only errors are shown. -/
def lenient (text : String) : Filter × List String :=
  let read := (pieces text).map fun piece => (piece, Directive.ofText piece)
  let directives := read.filterMap fun (_, result) => result.toOption
  let notes := read.filterMap fun
    | (piece, .error fault) => some s!"ignoring \x60{piece}\x60: {fault.message}"
    | _ => none
  (if directives.isEmpty then [{ threshold := some .error }] else directives, notes)

/-- The filter that the environment asks for, if it can be read, else the configured one. -/
def choose (asked : Option String) (configured : String) : Filter × List String :=
  match asked.bind ofText? with
  | some filter => (filter, [])
  | none => lenient configured

/-- The directive that counts for a target. -/
def directive? (filter : Filter) (target : String) : Option Directive :=
  (filter.filter fun d => target.startsWith d.target).foldl (fun best d =>
    match best with
    | none => some d
    | some b => if b.target.utf8ByteSize ≤ d.target.utf8ByteSize then some d else some b) none

/-- Whether something of a part with a level is shown. -/
def admits (filter : Filter) (part : Part) (level : Level) : Bool :=
  match (filter.directive? part.target).bind Directive.threshold with
  | some least => least.rank ≤ level.rank
  | none => false

/-- What is shown of an event, if anything: the event, and the innermost activity around it that is
shown itself. -/
def show? (filter : Filter) (r : LogEntry) : Option (Event × Option Span) :=
  if filter.admits r.event.part r.event.level then
    some (r.event, (r.spans.filter fun span => filter.admits span.part span.level).getLast?)
  else none

end Filter

end Log

end FeedSync
