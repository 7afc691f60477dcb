import FeedSync.Url.Host

/-!
# Addresses

Addresses of the web, of databases and of brokers, read as browsers read them: blanks at the ends
and line breaks do not count, backslashes count as slashes in web addresses, dots among the segments
of a path are resolved, and characters that may not stand are percent-encoded. A text without a
scheme is a **reference**, which has a meaning only relative to another address.
-/

namespace FeedSync

open FeedSync.Text

/-- The path of an address. -/
inductive Url.Path where
  /-- Segments, each after a slash. -/
  | segments (segments : List (List Char))
  /-- Any text, in an address that is no place in a hierarchy. -/
  | opaqueText (text : List Char)
  deriving DecidableEq, Repr

/-- An address. Its parts are percent-encoded. -/
structure Url where
  scheme : String
  username : List Char := []
  password : List Char := []
  host : Option (List Char) := none
  /-- The port, unless it is the usual one. -/
  port : Option Nat := none
  path : Url.Path
  query : Option (List Char) := none
  fragment : Option (List Char) := none
  deriving DecidableEq, Repr

namespace Url

/-! ### Schemes -/

/-- The port that is usual for a web scheme. -/
def usualPort? : String → Option Nat
  | "http" | "ws" => some 80
  | "https" | "wss" => some 443
  | "ftp" => some 21
  | _ => none

/-- Whether a scheme follows the rules of the web. -/
def isWebScheme (scheme : String) : Bool := (usualPort? scheme).isSome

/-- Whether an address follows the rules of the web. -/
def isWeb (url : Url) : Bool := isWebScheme url.scheme

/-- The scheme in front of a text, in lower case, and what follows its colon. -/
def splitScheme (cs : List Char) : Option (String × List Char) :=
  let isSchemeChar (c : Char) : Bool := c.isAlphanum || c == '+' || c == '-' || c == '.'
  match cs.head?, cs.dropWhile isSchemeChar with
  | some c, ':' :: rest =>
    if c.isAlpha then some (String.ofList ((cs.takeWhile isSchemeChar).map Char.toLower), rest)
    else none
  | _, _ => none

/-! ### Character sets -/

/-- What is encoded in a query; an apostrophe only in web addresses. -/
def isEncodedInQuery (isWeb : Bool) (c : Char) : Bool :=
  isControl c || c ∈ " \"#<>".toList || (isWeb && c == '\x27')

/-- What is encoded in a fragment. -/
def isEncodedInFragment (c : Char) : Bool := isControl c || c ∈ " \"<>\x60".toList

/-- What is encoded in a path. -/
def isEncodedInPath (c : Char) : Bool := isControl c || c ∈ " \"#<>?\x60\x7b\x7d".toList

/-- What is encoded in a name or a password. -/
def isEncodedInUser (c : Char) : Bool := isEncodedInPath c || c ∈ "/:;=@[\\]^|".toList

/-! ### Paths -/

/-- Whether a character separates segments. -/
def isSlash (isWeb : Bool) (c : Char) : Bool := c == '/' || (isWeb && c == '\\')

/-- A segment with encoded dots written as dots. -/
def plainDots : List Char → List Char
  | '%' :: '2' :: 'e' :: rest | '%' :: '2' :: 'E' :: rest => '.' :: plainDots rest
  | c :: rest => c :: plainDots rest
  | [] => []

/-- Adds segments to a path, resolving dots: a single dot stays where it is, a double dot goes back.
Where one of them is last, an empty segment stands for it. -/
def addSegments : (path : List (List Char)) → List (List Char) → List (List Char)
  | path, [] => path
  | path, segment :: rest =>
    let dots := plainDots segment
    if dots == ['.', '.'] then
      addSegments (if rest.isEmpty then path.dropLast ++ [[]] else path.dropLast) rest
    else if dots == ['.'] then addSegments (if rest.isEmpty then path ++ [[]] else path) rest
    else addSegments (path ++ [percentEncode isEncodedInPath segment]) rest

/-- The path of a text that follows a given path. -/
def readPath (isWeb : Bool) (before : List (List Char)) (cs : List Char) : Path :=
  match cs with
  | [] => .segments (if isWeb then addSegments before [[]] else before)
  | c :: rest =>
    let rest := if isSlash isWeb c then rest else c :: rest
    .segments (addSegments before (rest.splitOnP (isSlash isWeb)))

/-! ### Authorities -/

/-- The port in a text, missing if it is empty or the usual one. -/
def readPort (scheme : String) (cs : List Char) : Option (Option Nat) :=
  if cs.isEmpty then some none
  else if cs.all Char.isDigit && digitsValue cs ≤ 65535 then
    let port := digitsValue cs
    some (if usualPort? scheme = some port then none else some port)
  else none

/-- Splits a text at the last occurrence of a character. -/
def atLast (c : Char) (cs : List Char) : Option (List Char × List Char) :=
  let back := cs.reverse.takeWhile (· != c)
  if back.length < cs.length then
    some (cs.take (cs.length - back.length - 1), back.reverse)
  else none

/-- Splits a host from its port at the colon that is not in brackets. -/
def splitPort (cs : List Char) : List Char × Option (List Char) :=
  let bracketed := if cs.head? = some '[' then cs.takeWhile (· != ']') else []
  let rest := cs.drop bracketed.length
  match rest.dropWhile (· != ':') with
  | _ :: port => (bracketed ++ rest.takeWhile (· != ':'), some port)
  | [] => (cs, none)

/-- An address with the authority of a text and an empty path. -/
def readAuthority (scheme : String) (cs : List Char) : Option Url := do
  let (user, place) := (atLast '@' cs).getD ([], cs)
  let hasUser := (atLast '@' cs).isSome
  let (name, port) := splitPort place
  if name.isEmpty && (isWebScheme scheme || hasUser || port.isSome) then none
  let host ← host? (isWebScheme scheme) name
  let port ← readPort scheme (port.getD [])
  some {
    scheme
    username := percentEncode isEncodedInUser (user.takeWhile (· != ':'))
    password := percentEncode isEncodedInUser ((user.dropWhile (· != ':')).drop 1)
    host := some host
    port
    path := .segments [] }

/-! ### Whole addresses -/

/-- Splits a text at the first occurrence of a character. -/
def atFirst (c : Char) (cs : List Char) : List Char × Option (List Char) :=
  match cs.dropWhile (· != c) with
  | _ :: back => (cs.takeWhile (· != c), some back)
  | [] => (cs, none)

/-- An address with the query and the path of a text, in the authority of another one. -/
def withPath (url : Url) (before : List (List Char)) (cs : List Char) : Url :=
  let (path, query) := atFirst '?' cs
  { url with
    path := readPath url.isWeb before path
    query := query.map (percentEncode (isEncodedInQuery url.isWeb)) }

/-- The address of a text after the slashes in front of the authority. -/
def readFromAuthority (scheme : String) (cs : List Char) : Option Url := do
  let isEnd (c : Char) : Bool := isSlash (isWebScheme scheme) c || c == '?'
  let url ← readAuthority scheme (cs.takeWhile fun c => !isEnd c)
  some (url.withPath [] (cs.dropWhile fun c => !isEnd c))

/-- The address of a reference, seen from another address. -/
def resolve (base : Url) (cs : List Char) : Option Url :=
  match base.path with
  | .opaqueText _ => none
  | .segments segments =>
    let base := { base with fragment := none }
    let isSlash := isSlash base.isWeb
    match cs with
    | [] => some base
    | '?' :: query =>
      some { base with query := some (percentEncode (isEncodedInQuery base.isWeb) query) }
    | c :: rest =>
      if !isSlash c then some (base.withPath segments.dropLast cs)
      else if !rest.head?.any isSlash then some (base.withPath [] cs)
      else
        let place := rest.drop 1
        readFromAuthority base.scheme (if base.isWeb then place.dropWhile isSlash else place)

/-- The address of a text without its fragment. -/
def readPlace (base : Option Url) (cs : List Char) : Option Url :=
  match splitScheme cs with
  | none => base.bind (resolve · cs)
  | some (scheme, rest) =>
    if isWebScheme scheme then
      let isRelative := !(rest.take 2).all (isSlash true) || rest.length < 2
      match base with
      | some base =>
        if base.scheme == scheme && isRelative then base.resolve rest
        else readFromAuthority scheme (rest.dropWhile (isSlash true))
      | none => readFromAuthority scheme (rest.dropWhile (isSlash true))
    else
      match rest with
      | '/' :: '/' :: rest => readFromAuthority scheme rest
      | '/' :: _ => some (({ scheme, path := .segments [] } : Url).withPath [] rest)
      | _ =>
        let (text, query) := atFirst '?' rest
        some {
          scheme
          path := .opaqueText (percentEncode isControl text)
          query := query.map (percentEncode (isEncodedInQuery false)) }

/-- A text without blanks at its ends and without line breaks and tabs. -/
def clean (cs : List Char) : List Char :=
  let isEnd (c : Char) : Bool := c.toNat ≤ 0x20
  let inner := ((cs.dropWhile isEnd).reverse.dropWhile isEnd).reverse
  inner.filter fun c => !(c == '\t' || c == '\n' || c == '\r')

/-- The address of a text, which may be a reference seen from another address. -/
def parse? (base : Option Url) (text : String) : Option Url := do
  let (place, fragment) := atFirst '#' (clean text.toList)
  let url ← readPlace base place
  some { url with fragment := fragment.map (percentEncode isEncodedInFragment) }

/-! ### Parts of addresses -/

/-- The path of an address as text. -/
def pathText (url : Url) : List Char :=
  match url.path with
  | .segments segments => segments.flatMap ('/' :: ·)
  | .opaqueText text => text

/-- The path and the query of an address: what a server is asked for. -/
def target (url : Url) : String :=
  let query := (url.query.map ('?' :: ·)).getD []
  String.ofList (url.pathText ++ query)

/-- The port of an address, or the usual one. -/
def portOrUsual (url : Url) : Option Nat := url.port <|> usualPort? url.scheme

end Url

end FeedSync
