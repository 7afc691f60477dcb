import FeedSync.Yaml.Node

/-!
# Values read from YAML documents

A `Reader` makes a value of a node, or refuses it. Only plain scalars are numbers, truth values or
null; a scalar of any style is a text. A record is read from a mapping: entries with unknown keys
are passed over, each known key may stand once, and all fields have defaults. Where nothing is
written, that is a record without entries.
-/

namespace FeedSync.Yaml

/-- Makes a value of a node of a document, or refuses it. -/
abbrev Reader (α : Type) := Document → Node → Option α

/-! ### Scalars -/

/-- The text of a scalar. -/
def text : Reader String := fun document node =>
  match document.resolve node with
  | some (.scalar _ text _) => some text
  | _ => none

/-- The text of a scalar that may denote a value of a kind: it is plain, or literal with the tag of
the kind. -/
def bare (kind : String) : Reader String := fun document node =>
  match document.resolve node with
  | some (.scalar _ text .plain) => some text
  | some (.scalar (some tag) text .literal) =>
    if tag == "tag:yaml.org,2002:" ++ kind then some text else none
  | _ => none

/-- A truth value. -/
def boolean : Reader Bool := fun document node => do
  let text ← bare "bool" document node
  if ["true", "True", "TRUE"].contains text then some true
  else if ["false", "False", "FALSE"].contains text then some false
  else none

/-- The number that some digits of a base denote, of which there is at least one. -/
def numberIn? (base : Nat) (digits : List Char) : Option Nat :=
  if digits.isEmpty then none else Text.numberIn? base digits

/-- An unsigned integer up to a bound: hexadecimal, octal or binary after `0x`, `0o` or `0b`, else
decimal without zeros before other digits. A plus may stand before it. -/
def unsigned? (greatest : Nat) (text : String) : Option Nat := do
  let digits := match text.toList with
    | '+' :: digits => digits
    | digits => digits
  let n ← match digits with
    | '0' :: 'x' :: digits => numberIn? 16 digits
    | '0' :: 'o' :: digits => numberIn? 8 digits
    | '0' :: 'b' :: digits => numberIn? 2 digits
    | ['0'] => some 0
    | '0' :: _ => none
    | digits => numberIn? 10 digits
  if n ≤ greatest then some n else none

/-- An unsigned integer up to a bound. -/
def unsigned (greatest : Nat) : Reader Nat := fun document node => do
  unsigned? greatest (← bare "int" document node)

/-- Whether a plain text denotes null. -/
def isNull (text : String) : Bool := ["~", "null", "Null", "NULL"].contains text

/-- A value that may be null or left out. -/
def nullable {α : Type} (reader : Reader α) : Reader (Option α) := fun document node =>
  match document.resolve node with
  | some (.scalar none text .plain) =>
    if text.isEmpty || isNull text then some none else some <$> reader document node
  | some (.scalar (some tag) text .plain) =>
    if tag == "tag:yaml.org,2002:null" then (if isNull text then some none else none)
    else some <$> reader document node
  | _ => some <$> reader document node

/-- One of some named values: its name, or its name as the tag of nothing. -/
def choice {α : Type} (values : List (String × α)) : Reader α := fun document node =>
  match document.resolve node with
  | some (.scalar tag text style) =>
    match (tag.getD "").toList with
    | '!' :: name =>
      let isNothing := style == .plain && (text.isEmpty || isNull text)
      if isNothing then values.lookup (String.ofList name) else none
    | _ => values.lookup text
  | _ => none

/-! ### Records -/

/-- The fields of a record, and how it is built from the nodes at their keys. -/
structure Record (α : Type) where
  keys : List String
  build : Document → (String → Option Node) → Option α

namespace Record

/-- A record without fields. -/
def pure {α : Type} (a : α) : Record α := ⟨[], fun _ _ => some a⟩

/-- The fields of two records. -/
def seq {α β : Type} (f : Record (α → β)) (a : Record α) : Record β :=
  ⟨f.keys ++ a.keys, fun document entry =>
    (f.build document entry).bind fun f => (a.build document entry).map f⟩

instance : Applicative Record where
  pure := pure
  seq f a := seq f (a ())

/-- A field that takes a default where its key is missing. -/
def field {α : Type} (key : String) (reader : Reader α) (default : α) : Record α where
  keys := [key]
  build document entry :=
    match entry key with
    | some node => reader document node
    | none => some default

/-- The entries of a mapping with known keys, none of which may stand twice. -/
def takeEntries (document : Document) (keys : List String) :
    (seen : List (String × Node)) → List (Node × Node) → Option (List (String × Node))
  | seen, [] => some seen
  | seen, (key, value) :: entries => do
    let key ← text document key
    if !keys.contains key then takeEntries document keys seen entries
    else if (seen.lookup key).isSome then none
    else takeEntries document keys ((key, value) :: seen) entries

/-- Reads a record. -/
def reader {α : Type} (record : Record α) : Reader α := fun document node =>
  match document.resolve node with
  | some (.mapping _ entries) => do
    let seen ← takeEntries document record.keys [] entries
    record.build document (seen.lookup ·)
  | some (.scalar _ text .plain) =>
    if text.isEmpty then record.build document fun _ => none else none
  | _ => none

/-- Reads a record from a whole text. -/
def ofText? {α : Type} (record : Record α) (text : String) : Option α := do
  match ← Content.ofText? text with
  | .nothing => record.build ⟨.empty, []⟩ fun _ => none
  | .document document => record.reader document document.root

end Record

end FeedSync.Yaml
