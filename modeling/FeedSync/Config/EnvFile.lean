import FeedSync.Config.Expand
import FeedSync.Text.Blank
import FeedSync.Text.Utf8

/-!
# Environment files

A file of assignments, one a line, that adds variables to an environment. A value may stand in
quotes and then go on over several lines; outside single quotes it may hold references to variables.
Reading ends at the first line that is no assignment. Variables that are set already stay as they
are.
-/

namespace FeedSync.Config.EnvFile

open FeedSync.Text

/-! ### Lines -/

/-- What a line may hold next. -/
inductive Position where
  | plain
  /-- A comment could begin here. -/
  | blank
  /-- After a backslash, in the given quotes if any. -/
  | escaped (quote : Option Char)
  | quoted (quote : Char)
  deriving DecidableEq, Repr

/-- The position after a character outside quotes. -/
def Position.ofPlain (c : Char) : Position :=
  if c == '\\' then .escaped none else if c == '"' || c == '\x27' then .quoted c else .plain

/-- The position after a character; missing where a comment begins. -/
def Position.next : Position → Char → Option Position
  | .plain, c => if isBlank c && c != '\n' && c != '\r' then some .blank else some (.ofPlain c)
  | .blank, c => if c == '#' then none else some (.ofPlain c)
  | .escaped none, _ => some .plain
  | .escaped (some quote), _ => some (.quoted quote)
  | .quoted quote, c =>
    if c == '\\' then some (.escaped (some quote))
    else if c == quote then some .plain
    else some (.quoted quote)

/-- The part of a line before a comment, and the position at its end if there is no comment. -/
def uncommented : Position → List Char → List Char × Option Position
  | p, [] => ([], some p)
  | p, c :: cs =>
    match p.next c with
    | none => ([], none)
    | some p =>
      let (front, last) := uncommented p cs
      (c :: front, last)

/-- The lines of a text, each with the break at its end. -/
def breakLines (cs : List Char) : List (List Char) :=
  let pieces := cs.splitOn '\n'
  pieces.dropLast.map (· ++ ['\n']) ++ (pieces.getLast?.toList.filter (!·.isEmpty))

/-- The lines of assignments, given the beginning of the first one and the position at its end.
Where the text ends within quotes, a missing line stands last. -/
def joinLines (p : Position) (held : List Char) : List (List Char) → List (Option (List Char))
  | [] => if p = .plain then [] else [none]
  | line :: rest =>
    if (trimStart (held ++ line)).head? = some '#' then joinLines .plain [] rest
    else
      match uncommented p line with
      | (front, none) => some (held ++ front) :: joinLines .plain [] rest
      | (front, some .plain) => some (held ++ front) :: joinLines .plain [] rest
      | (front, some p) => joinLines p (held ++ front) rest

/-! ### Values -/

/-- What a character of a value belongs to. -/
inductive Phase where
  | text
  /-- A character after a backslash. -/
  | escape
  /-- The name of a reference, which goes on. -/
  | name (read : List Char)
  /-- The name of a reference in braces. -/
  | braced (read : List Char)
  /-- The blanks after a value. -/
  | ended
  | comment
  deriving DecidableEq, Repr

/-- How far a value has been read. -/
structure Reading where
  /-- The quotes that are open. -/
  quote : Option Char := none
  phase : Phase := .text
  value : List Char := []
  deriving DecidableEq, Repr

namespace Reading

/-- Adds a character to the value. -/
def push (r : Reading) (c : Char) : Reading := { r with phase := .text, value := r.value ++ [c] }

/-- Adds the value of a variable to the value. -/
def pushVariable (env : Environment) (r : Reading) (name : List Char) : Reading :=
  { r with phase := .text, value := r.value ++ ((env (String.ofList name)).getD "").toList }

/-- A character that may stand in the name of a reference. -/
def isNameChar (c : Char) : Bool := c.isAlphanum || (c.toNat ≥ 0xAA && !isBlank c)

/-- Reads one more character of text. -/
def nextOfText (r : Reading) (c : Char) : Reading :=
  if r.quote = some '\x27' then if c == '\x27' then { r with quote := none } else r.push c
  else if c == '$' then { r with phase := .name [] }
  else if c == '\\' then { r with phase := .escape }
  else if r.quote = some '"' then if c == '"' then { r with quote := none } else r.push c
  else if c == '"' || c == '\x27' then { r with quote := some c }
  else if c == ' ' || c == '\t' then { r with phase := .ended }
  else r.push c

/-- Reads one more character; missing where it may not stand. The character that ends the name of a
reference without braces stands for itself. -/
def next (env : Environment) (r : Reading) (c : Char) : Option Reading :=
  match r.phase with
  | .text => some (r.nextOfText c)
  | .escape =>
    if c == 'n' then some (r.push '\n')
    else if c ∈ ['\\', '\x27', '"', '$', ' '] then some (r.push c)
    else none
  | .name read =>
    if isNameChar c then some { r with phase := .name (read ++ [c]) }
    else if c == '{' && read.isEmpty then some { r with phase := .braced [] }
    else
      let r := r.pushVariable env read
      if c == '$' then some { r with phase := .name [] } else some (r.push c)
  | .braced read =>
    if c == '}' then some (r.pushVariable env read)
    else some { r with phase := .braced (read ++ [c]) }
  | .ended =>
    if c == ' ' || c == '\t' then some r
    else if c == '#' then some { r with phase := .comment }
    else none
  | .comment => some r

/-- The value at the end of a line, if nothing is left open. -/
def finish (env : Environment) (r : Reading) : Option (List Char) :=
  if r.quote.isSome then none
  else
    match r.phase with
    | .braced _ => none
    | .name read => some (r.pushVariable env read).value
    | _ => some r.value

end Reading

/-- The value in a text. -/
def value? (env : Environment) (cs : List Char) : Option String := do
  let r ← cs.foldlM (Reading.next env) {}
  return String.ofList (← r.finish env)

/-! ### Assignments -/

/-- The name at the start of a text, and what follows it and the blanks behind it. -/
def splitKey (cs : List Char) : Option (List Char × List Char) :=
  if cs.head?.any isNameStart then
    let isKeyChar (c : Char) : Bool := Config.isNameChar c || c == '.'
    some (cs.takeWhile isKeyChar, trimStart (cs.dropWhile isKeyChar))
  else none

/-- Splits an assignment at its equals sign; the word `export` may stand in front. -/
def splitAssignment (cs : List Char) : Option (List Char × List Char) := do
  match ← splitKey cs with
  | (key, '=' :: rest) => some (key, trimStart rest)
  | (key, rest) =>
    if key == "export".toList then
      match ← splitKey rest with
      | (key, '=' :: rest) => some (key, trimStart rest)
      | _ => none
    else none

/-- What a line assigns, if it assigns something; missing if it is no assignment. -/
def assignment? (env : Environment) (line : List Char) : Option (Option (String × String)) := do
  let cs := trim line
  if cs.isEmpty || cs.head? = some '#' then return none
  let (key, rest) ← splitAssignment cs
  let value ← if rest.head? = some '#' then some "" else value? env rest
  return some (String.ofList key, value)

/-- An environment with one more variable, unless it is set. -/
def extend (env : Environment) (name value : String) : Environment := fun n =>
  env n <|> if n = name then some value else none

/-- An environment with the variables that lines assign, up to the first line that is no
assignment. -/
def extendAll (env : Environment) : List (Option (List Char)) → Environment
  | [] => env
  | none :: _ => env
  | some line :: rest =>
    match assignment? env line with
    | none => env
    | some none => extendAll env rest
    | some (some (name, value)) => extendAll (extend env name value) rest

/-- The lines in some bytes that are text, up to the first line that is none. -/
def readable (bytes : List UInt8) : List Char :=
  let lines := (bytes.splitOn 0x0A).map utf8?
  let good := (lines.takeWhile Option.isSome).filterMap id
  let text := "\n".intercalate good
  if good.length = lines.length then text.toList else (text ++ "\n").toList

/-- An environment with the variables that a file assigns. -/
def load (env : Environment) (bytes : List UInt8) : Environment :=
  let cs := readable bytes
  let cs := if cs.head? = some '\ufeff' then cs.drop 1 else cs
  extendAll env (joinLines .plain [] (breakLines cs))

end FeedSync.Config.EnvFile
