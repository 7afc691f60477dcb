import FeedSync.Text.Similarity

/-!
# The command line

The options of the program and how they are read. Options have a long name after two hyphens and
some a short one, a letter after one hyphen; letters may follow each other after one hyphen. A value
stands in the next argument or, after `=` or a letter, in the same one.
-/

namespace FeedSync.CommandLine

/-- An option. -/
inductive Flag where
  | config
  | once
  | help
  | version
  deriving DecidableEq, Repr

namespace Flag

/-- All options, in the order in which the help lists them. -/
def all : List Flag := [.config, .once, .help, .version]

/-- The long name of an option. -/
def long : Flag → String
  | .config => "config"
  | .once => "once"
  | .help => "help"
  | .version => "version"

/-- The short name of an option. -/
def short? : Flag → Option Char
  | .config => some 'c'
  | .once => none
  | .help => some 'h'
  | .version => some 'V'

/-- What an option is for. -/
def purpose : Flag → String
  | .config => "設定ファイルのパス [default: config.yaml]"
  | .once => "同期を1回だけ実行して終了する"
  | .help => "Print help"
  | .version => "Print version"

/-- How an option is written; a name in angle brackets stands for its value. -/
def form (flag : Flag) : String :=
  let value := if flag = .config then " <CONFIG>" else ""
  s!"--{flag.long}{value}"

/-- The option with a long name. -/
def ofLong? (name : String) : Option Flag := all.find? (·.long == name)

/-- The option with a short name. -/
def ofShort? (c : Char) : Option Flag := all.find? (·.short? == some c)

/-- The option whose long name is most similar to a given one, if it is similar at all. -/
def similarTo? (name : String) : Option Flag :=
  let similar := all.filter fun flag => 7 / 10 < Text.similarity name flag.long
  similar.foldl (fun best flag =>
    match best with
    | none => some flag
    | some b =>
      if Text.similarity name b.long ≤ Text.similarity name flag.long then some flag
      else some b) none

end Flag

/-- Why reading a command line ends before the program starts. -/
inductive Stop where
  | help
  | version
  /-- There is no such argument; perhaps an option with a similar name, and options that have been
  used. -/
  | unexpectedArgument (text : String) (similar : Option Flag) (used : List Flag)
  /-- An option has a value that takes none. -/
  | unexpectedValue (value : String) (flag : Flag) (used : List Flag)
  | repeated (flag : Flag)
  | missingValue (flag : Flag)
  deriving DecidableEq, Repr

/-- What some arguments say. -/
structure Reading where
  /-- The options used, in order. -/
  used : List Flag := []
  /-- The path of the configuration. -/
  config : Option String := none
  /-- Whether a value was announced that does not count yet, and the value if it has come. -/
  announced : Option (Option String) := none
  deriving DecidableEq, Repr

namespace Reading

/-- Makes the announced value count. -/
def settle (r : Reading) : Except Stop Reading :=
  match r.announced with
  | none => .ok r
  | some none => .error (.missingValue .config)
  | some (some value) =>
    if r.config.isSome then .error (.repeated .config)
    else .ok { used := r.used ++ [.config], config := some value }

/-- Makes the announced value count if it can, for the sake of a refusal. -/
def settled (r : Reading) : Reading :=
  match r.settle with
  | .ok r => r
  | .error (.repeated flag) => { r with used := r.used.erase flag, announced := none }
  | .error _ => { r with announced := none }

/-- Reads an option without a value in the same argument. -/
def add (r : Reading) (flag : Flag) : Except Stop Reading := do
  let r ← r.settle
  match flag with
  | .help => throw .help
  | .version => throw .version
  | .config => return { r with announced := some none }
  | .once =>
    if .once ∈ r.used then throw (.repeated .once)
    else return { r with used := r.used ++ [.once] }

/-- Reads the path of the configuration. -/
def addConfig (r : Reading) (value : String) : Except Stop Reading := do
  let r ← r.settle
  { r with announced := some (some value) }.settle

/-- Reads an argument after its two hyphens. -/
def addLong (r : Reading) (cs : List Char) : Except Stop Reading :=
  let name := String.ofList (cs.takeWhile (· != '='))
  let value := match cs.dropWhile (· != '=') with
    | [] => none
    | _ :: value => some (String.ofList value)
  match Flag.ofLong? name, value with
  | some .config, some value => r.addConfig value
  | some flag, some value => .error (.unexpectedValue value flag r.used)
  | some flag, none => r.add flag
  | none, _ =>
    let similar := Flag.similarTo? name
    let used := r.settled.used
    let extra := similar.toList.filter (· ∉ used)
    .error (.unexpectedArgument s!"--{name}" similar (used ++ extra))

/-- Reads an argument after its one hyphen. -/
def addShort (r : Reading) : List Char → Except Stop Reading
  | [] => .ok r
  | c :: cs =>
    match Flag.ofShort? c with
    | none => .error (.unexpectedArgument s!"-{c}" none [])
    | some .config =>
      match cs with
      | [] => r.add .config
      | '=' :: value => r.addConfig (String.ofList value)
      | value => r.addConfig (String.ofList value)
    | some flag => do (← r.add flag).addShort cs

/-- Reads arguments. After two hyphens alone there are no options, and nothing else is expected. -/
def addAll (r : Reading) : List String → Except Stop Reading
  | [] => r.settle
  | text :: rest =>
    match text.toList with
    | ['-', '-'] =>
      match rest with
      | [] => r.settle
      | text :: _ => .error (.unexpectedArgument text none [])
    | '-' :: '-' :: cs => do (← r.addLong cs).addAll rest
    | '-' :: c :: cs => do (← r.addShort (c :: cs)).addAll rest
    | _ =>
      if r.announced = some none then addAll { r with announced := some (some text) } rest
      else .error (.unexpectedArgument text none [])

end Reading

/-- How the program is to run. -/
structure Options where
  /-- The path of the configuration. -/
  config : String := "config.yaml"
  /-- Whether one cycle is run, or cycles on schedule. -/
  once : Bool := false
  deriving DecidableEq, Repr

/-- The options in some arguments. -/
def Options.ofArguments (arguments : List String) : Except Stop Options := do
  let r ← ({} : Reading).addAll arguments
  return { config := r.config.getD "config.yaml", once := .once ∈ r.used }

/-! ### Wording -/

/-- The name of the program. -/
def programName : String := "news-syncer"

/-- How the program is called with some options, or with any. -/
def usage (flags : List Flag) : String :=
  let shown := if flags.isEmpty then ["[OPTIONS]"] else flags.map Flag.form
  " ".intercalate (["Usage:", programName] ++ shown)

/-- The line of the help about an option. -/
def helpLine (flag : Flag) : String :=
  let short := match flag.short? with
    | some c => s!"-{c}, "
    | none => "    "
  let width := Flag.config.form.length
  let form := flag.form.pushn ' ' (width - flag.form.length)
  s!"  {short}{form}  {flag.purpose}"

/-- The help. -/
def help : List String :=
  ["コンテンツAPIの記事をデータベースへ同期する", "", usage [], "", "Options:"] ++
    Flag.all.map helpLine

namespace Stop

/-- What is wrong with a command line. -/
def complaint : Stop → String
  | .help | .version => ""
  | .unexpectedArgument text _ _ => s!"unexpected argument '{text}' found"
  | .unexpectedValue value flag _ =>
    s!"unexpected value '{value}' for '{flag.form}' found; no more were expected"
  | .repeated flag => s!"the argument '{flag.form}' cannot be used multiple times"
  | .missingValue flag => s!"a value is required for '{flag.form}' but none was supplied"

/-- What could have been meant. -/
def tip : Stop → List String
  | .unexpectedArgument _ (some flag) _ =>
    ["", s!"  tip: a similar argument exists: '--{flag.long}'"]
  | _ => []

/-- How the program is called instead. -/
def advice : Stop → List String
  | .unexpectedArgument _ _ used | .unexpectedValue _ _ used => ["", usage used]
  | .repeated _ => ["", usage []]
  | _ => []

/-- Whether a command line was refused. -/
def isRefusal : Stop → Bool
  | .help | .version => false
  | _ => true

/-- The lines to show for it. -/
def lines : Stop → List String
  | .help => CommandLine.help
  | .version => [s!"{programName} 0.1.0"]
  | stop => s!"error: {stop.complaint}" ::
      (stop.tip ++ stop.advice ++ ["", "For more information, try '--help'."])

end Stop

end FeedSync.CommandLine
