/-!
# Media types

The parameters of a media type: after the type and the subtype, names with values that may stand in
quotes. A text that is no media type has no parameters.
-/

namespace FeedSync.Http

/-- A character of which names and plain values are made. -/
def isTokenChar (c : Char) : Bool :=
  c.isAlphanum ||
    c ∈ ['!', '#', '$', '%', '&', '\x27', '*', '+', '-', '.', '^', '_', '\x60', '|', '~']

/-- A character that may stand in quotes. -/
def isQuotable (c : Char) : Bool := c.toNat > 31 && c.toNat != 127

/-- The text after the blanks and the semicolon that follow a value in quotes. -/
def afterQuoted (cs : List Char) : Option (List Char) :=
  match cs.dropWhile (· == ' ') with
  | [] => some []
  | ';' :: rest => some rest
  | _ => none

/-- Splits a value from what follows it. -/
def splitValue (cs : List Char) : Option (List Char × List Char) :=
  match cs with
  | '"' :: cs =>
    match cs.dropWhile fun c => isQuotable c && c != '"' with
    | '"' :: rest => do
      let value := cs.takeWhile fun c => isQuotable c && c != '"'
      if value.isEmpty then none
      return (value, ← afterQuoted rest)
    | _ => none
  | _ =>
    let value := cs.takeWhile isTokenChar
    match cs.dropWhile isTokenChar with
    | [] => some (value, [])
    | ';' :: rest => if value.isEmpty then none else some (value, rest)
    | _ => none

/-- The parameters in a text, at most so many. -/
def parameters : (most : Nat) → List Char → Option (List (String × String))
  | 0, _ => some []
  | most + 1, cs =>
    let cs := cs.dropWhile (· == ' ')
    if cs.isEmpty then some []
    else
      let name := cs.takeWhile isTokenChar
      match cs.dropWhile isTokenChar with
      | '=' :: rest => do
        if name.isEmpty then none
        let (value, rest) ← splitValue rest
        let others ← parameters most rest
        return (String.ofList (name.map Char.toLower), String.ofList value) :: others
      | _ => none

/-- The parameters of a media type. -/
def mediaTypeParameters (text : String) : Option (List (String × String)) :=
  let cs := text.toList
  match cs.dropWhile isTokenChar with
  | '/' :: rest =>
    let subtype := rest.takeWhile isTokenChar
    if (cs.takeWhile isTokenChar).isEmpty || subtype.isEmpty then none
    else
      match rest.dropWhile isTokenChar with
      | [] => some []
      | c :: rest => if c == ';' || c == ' ' then parameters text.length rest else none
  | _ => none

/-- The character set that a media type names. -/
def charsetName? (text : String) : Option String :=
  (mediaTypeParameters text).bind (·.lookup "charset")

end FeedSync.Http
