import FeedSync.Json.Numeral

/-!
# JSON texts as trees

A text is read into a tree that goes as far as the text can be read: a text that is no JSON gives
a tree with a `broken` node or a container that stops with a fault. Whoever decodes a tree from
left to right thus meets the faults of the text and the values of a wrong kind in the order in
which they stand in the text. Leaves carry both what reading them gives and, by being there at all,
that they can be skipped.
-/

namespace FeedSync.Json

open FeedSync.Text

/-- What is written in a JSON text, up to its first fault. -/
inductive Tree where
  | null
  | bool (value : Bool)
  /-- A number that can be skipped, and what reading it gives. -/
  | number (read : Except Fault Numeral)
  /-- A string that can be skipped, and what reading it gives. -/
  | text (read : Except Fault String)
  /-- The elements of an array, and the fault after the last one if the array is not closed. -/
  | array (elements : List Tree) (stop : Option Fault)
  /-- The members of an object, and the fault after the last one if the object is not closed. A
  name is missing if it can only be skipped. -/
  | object (members : List (Option String × Tree)) (stop : Option Fault)
  /-- No value: the fault that reading meets, and the one that skipping meets. -/
  | broken (read skipped : Fault)
  deriving Inhabited

/-! ### From text to tree -/

/-- The blanks between the tokens of a JSON text. -/
def isJsonBlank (c : Char) : Bool := c == ' ' || c == '\n' || c == '\t' || c == '\r'

/-- Skips the blanks before a token. -/
def skipJsonBlanks (cs : List Char) : List Char := cs.dropWhile isJsonBlank

/-- Takes the remaining letters of `null`, `true` or `false`. -/
def takeLetters : (letters : List Char) → List Char → Except Fault (List Char)
  | [], cs => .ok cs
  | _ :: _, [] => .error .truncated
  | l :: letters, c :: cs => if c == l then takeLetters letters cs else .error .malformed

/-- What was read, and what follows it if reading can go on. -/
abbrev Reading (α : Type) := α × Option (List Char)

/-- A node whose reading ends with a fault. -/
def stopped (fault : Fault) : Reading Tree := (.broken fault fault, none)

/-- A fixed word as a node. -/
def wordNode (node : Tree) (letters cs : List Char) : Reading Tree :=
  match takeLetters letters cs with
  | .ok rest => (node, some rest)
  | .error fault => stopped fault

/-- A string as a node. -/
def textNode (cs : List Char) : Reading Tree :=
  let read := (unescape cs).map fun (chars, _) => String.ofList chars
  match skipString cs with
  | .ok rest => (.text read, some rest)
  | .error fault =>
    (.broken (match read with | .error first => first | .ok _ => fault) fault, none)

/-- A number as a node. -/
def numberNode (cs : List Char) : Reading Tree :=
  let read := (readNumeral cs).map Prod.fst
  match skipNumeral cs with
  | .ok rest => (.number read, some rest)
  | .error fault =>
    (.broken (match read with | .error first => first | .ok _ => fault) fault, none)

mutual

/-- Reads a value. The fuel bounds the number of steps; three for each character suffice. -/
def readValue : (fuel : Nat) → List Char → Reading Tree
  | 0, _ => stopped .truncated
  | fuel + 1, cs =>
    match skipJsonBlanks cs with
    | [] => stopped .truncated
    | c :: cs =>
      if c == '{' then
        match readMembers fuel true cs with
        | (members, .ok rest) => (.object members none, some rest)
        | (members, .error fault) => (.object members fault, none)
      else if c == '[' then
        match readElements fuel true cs with
        | (elements, .ok rest) => (.array elements none, some rest)
        | (elements, .error fault) => (.array elements fault, none)
      else if c == '"' then textNode cs
      else if c == 'n' then wordNode .null ['u', 'l', 'l'] cs
      else if c == 't' then wordNode (.bool true) ['r', 'u', 'e'] cs
      else if c == 'f' then wordNode (.bool false) ['a', 'l', 's', 'e'] cs
      else if c == '-' || c.isDigit then numberNode (c :: cs)
      else stopped .malformed

/-- Reads the elements of an array up to its bracket. The fault is missing where the last element
already has one. -/
def readElements : (fuel : Nat) → (isFirst : Bool) → List Char →
    List Tree × Except (Option Fault) (List Char)
  | 0, _, _ => ([], .error (some .truncated))
  | fuel + 1, isFirst, cs =>
    match skipJsonBlanks cs with
    | [] => ([], .error (some .truncated))
    | c :: rest =>
      if c == ']' then ([], .ok rest)
      else if isFirst then readElement fuel (c :: rest)
      else if c == ',' then
        if (skipJsonBlanks rest).head? == some ']' then ([], .error (some .malformed))
        else readElement fuel rest
      else ([], .error (some .malformed))

/-- Reads an element and the elements after it. -/
def readElement : (fuel : Nat) → List Char → List Tree × Except (Option Fault) (List Char)
  | 0, _ => ([], .error (some .truncated))
  | fuel + 1, cs =>
    match readValue fuel cs with
    | (element, none) => ([element], .error none)
    | (element, some rest) =>
      let (elements, ending) := readElements fuel false rest
      (element :: elements, ending)

/-- Reads the members of an object up to its brace. The fault is missing where the last member
already has one. -/
def readMembers : (fuel : Nat) → (isFirst : Bool) → List Char →
    List (Option String × Tree) × Except (Option Fault) (List Char)
  | 0, _, _ => ([], .error (some .truncated))
  | fuel + 1, isFirst, cs =>
    match skipJsonBlanks cs with
    | [] => ([], .error (some .truncated))
    | c :: rest =>
      if c == '}' then ([], .ok rest)
      else if isFirst then readMember fuel (c :: rest)
      else if c == ',' then readMember fuel rest
      else ([], .error (some .malformed))

/-- Reads a member and the members after it. -/
def readMember : (fuel : Nat) → List Char →
    List (Option String × Tree) × Except (Option Fault) (List Char)
  | 0, _ => ([], .error (some .truncated))
  | fuel + 1, cs =>
    match skipJsonBlanks cs with
    | [] => ([], .error (some .truncated))
    | '"' :: cs =>
      let name := (unescape cs).map fun (chars, _) => String.ofList chars
      match skipString cs with
      | .error fault =>
        if name matches .error .malformed then ([(none, .broken fault fault)], .error none)
        else ([], .error (some fault))
      | .ok rest =>
        match skipJsonBlanks rest with
        | [] => ([(name.toOption, .broken .truncated .truncated)], .error none)
        | ':' :: rest =>
          match readValue fuel rest with
          | (value, none) => ([(name.toOption, value)], .error none)
          | (value, some rest) =>
            let (members, ending) := readMembers fuel false rest
            ((name.toOption, value) :: members, ending)
        | _ => ([(name.toOption, .broken .malformed .malformed)], .error none)
    | _ => ([], .error (some .malformed))

end

/-- The tree of a whole text, and what follows its value. -/
def readText (text : String) : Reading Tree :=
  let cs := text.toList
  readValue (3 * cs.length + 3) cs

/-! ### Faults of a tree -/

mutual

/-- The first fault that skipping a node meets. -/
def Tree.skip : Tree → Except Fault Unit
  | .array elements stop => do
    skipAll elements
    match stop with
    | some fault => .error fault
    | none => .ok ()
  | .object members stop => do
    skipMembers members
    match stop with
    | some fault => .error fault
    | none => .ok ()
  | .broken _ fault => .error fault
  | _ => .ok ()

/-- The first fault that skipping some elements meets. -/
def skipAll : List Tree → Except Fault Unit
  | [] => .ok ()
  | element :: elements => do element.skip; skipAll elements

/-- The first fault that skipping some members meets. -/
def skipMembers : List (Option String × Tree) → Except Fault Unit
  | [] => .ok ()
  | (_, value) :: members => do value.skip; skipMembers members

end

mutual

/-- The first fault that reading a node meets where any value is allowed. Containers may be nested
only so deep; the first one beyond that depth is refused at its bracket. -/
def Tree.readAny : (depth : Nat) → Tree → Except Fault Unit
  | _, .number read => discard read
  | _, .text read => discard read
  | 0, .array _ _ => .error .malformed
  | depth + 1, .array elements stop => do
    readAnyElements depth elements
    match stop with
    | some fault => .error fault
    | none => .ok ()
  | 0, .object _ _ => .error .malformed
  | depth + 1, .object members stop => do
    readAnyMembers depth members
    match stop with
    | some fault => .error fault
    | none => .ok ()
  | _, .broken fault _ => .error fault
  | _, _ => .ok ()

/-- The first fault that reading some elements meets. -/
def readAnyElements : (depth : Nat) → List Tree → Except Fault Unit
  | _, [] => .ok ()
  | depth, element :: elements => do element.readAny depth; readAnyElements depth elements

/-- The first fault that reading some members meets. -/
def readAnyMembers : (depth : Nat) → List (Option String × Tree) → Except Fault Unit
  | _, [] => .ok ()
  | _, (none, _) :: _ => .error .malformed
  | depth, (some _, value) :: members => do value.readAny depth; readAnyMembers depth members

end

/-- The fault of a node where a value of another kind is asked for: a leaf is still read, a
container is refused at its first character. -/
def Tree.mismatch : Tree → Fault
  | .number (.error fault) => fault
  | .text (.error fault) => fault
  | .broken fault _ => fault
  | _ => .mismatched

end FeedSync.Json
