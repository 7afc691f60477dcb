import FeedSync.Error
import FeedSync.Http.MediaType
import FeedSync.Program
import FeedSync.Text.Charset
import FeedSync.Url

/-!
# Getting texts from the web

How the text at a web address is asked for: redirects are followed, up to a limit, an answer with
the status of an error is an error, and the body is read in the character set that the answer names.
-/

namespace FeedSync.Http

/-- A request to a server. -/
structure Request where
  /-- The scheme, which tells how to talk to the server. -/
  scheme : String
  /-- The host and the port of the server. -/
  server : String × Nat
  /-- What is asked for. -/
  target : String
  /-- The kind of content that is wanted. -/
  accept : String
  /-- Who asks. -/
  userAgent : String
  deriving DecidableEq, Repr

/-- An answer of a server. -/
structure Response where
  status : Nat
  headers : List (String × List UInt8) := []
  body : List UInt8 := []
  /-- Whether the connection was cut within the body. -/
  isCut : Bool := false
  deriving DecidableEq, Repr

/-- The web: it answers requests. -/
abbrev Web : Interface := ⟨Request, fun _ => Except HttpFault Response⟩

/-- Sends a request. -/
abbrev send (r : Request) : Program Web (Except HttpFault Response) := @Program.request Web r

/-! ### Addresses in requests -/

/-- A character of the name of a server, with its user and its port. Characters beyond ASCII count,
because they are spelled in ASCII letters when it comes to it. -/
def isServerChar (c : Char) : Bool :=
  c.isAlphanum || 0x80 ≤ c.toNat || c ∈ "!$%&\x27()*+,-.:;=@_~".toList

/-- Whether a text has the form of a server's name: a user may stand in front, a port behind. -/
def isServerName (text : List Char) : Bool :=
  let place := ((Url.atLast '@' text).map (·.2)).getD text
  text.all isServerChar && !place.isEmpty && place.count ':' ≤ 1 && !place.contains '%'

/-- Whether a request can name an address: by its server, or, where it has none, as if it were one
itself. -/
def canBeNamed (url : Url) : Bool :=
  match url.host, url.path with
  | some host, _ => host.head? = some '[' || isServerName host
  | none, .opaqueText text =>
    url.query.isNone && url.fragment.isNone && isServerName (url.scheme.toList ++ ':' :: text)
  | none, .segments _ => false

/-- Whether an address is one of the web. -/
def isOfWeb (url : Url) : Bool := url.scheme ∈ ["http", "https"]

/-! ### Answers -/

namespace Response

/-- The first header with a name; case does not count. -/
def header? (r : Response) (name : String) : Option (List UInt8) :=
  (r.headers.find? fun (key, _) => key.toLower == name).map (·.2)

/-- Whether an answer tells to look elsewhere. -/
def isRedirect (r : Response) : Bool := r.status ∈ [301, 302, 303, 307, 308]

/-- The address to which an answer from an address redirects. -/
def redirectTarget? (r : Response) (url : Url) : Option Url :=
  if r.isRedirect then do
    let location ← r.header? "location"
    let target ← Url.parse? (some url) (← Text.utf8? location)
    if canBeNamed target then some target else none
  else none

/-- The text of a header, if it is plain ASCII. -/
def asciiHeader? (r : Response) (name : String) : Option String := do
  let bytes ← r.header? name
  if bytes.all fun b => b = 0x09 || (0x20 ≤ b && b < 0x7f) then Text.utf8? bytes else none

/-- The character set of a body. -/
def charset (r : Response) : Text.Charset :=
  let named := do
    Text.Charset.ofLabel? (← charsetName? (← r.asciiHeader? "content-type"))
  named.getD .utf8

/-- The text of an answer. -/
def text (r : Response) : Except HttpFault String :=
  if 400 ≤ r.status && r.status < 600 then .error (.status r.status)
  else if r.isCut then .error .body
  else .ok (r.charset.decode r.body)

end Response

/-! ### Asking -/

/-- How many redirects are followed. -/
def maxRedirects : Nat := 9

/-- The request for an address. -/
def requestFor (url : Url) : Request where
  scheme := url.scheme
  server := (String.ofList (url.host.getD []), url.portOrUsual.getD 0)
  target := url.target
  accept := "application/json"
  userAgent := "news-syncer/0.1.0"

/-- Gets the answer at an address, following at most so many redirects. -/
def follow : (redirects : Nat) → Url → Program Web (Except HttpFault Response)
  | redirects, url => do
    match ← send (requestFor url) with
    | .error fault => return .error fault
    | .ok response =>
      match response.redirectTarget? url, redirects with
      | none, _ => return .ok response
      | some _, 0 => return .error .redirect
      | some next, redirects + 1 =>
        if isOfWeb next then follow redirects next else return .error .address

/-- Gets the text at an address. -/
def get (url : String) : Program Web (Except InfraError String) := do
  match Url.parse? none url with
  | none => return .error (.http url .address)
  | some parsed =>
    if isOfWeb parsed && canBeNamed parsed then
      match ← follow maxRedirects parsed with
      | .error fault => return .error (.http url fault)
      | .ok response => return response.text.mapError (.http url)
    else return .error (.http url .address)

end FeedSync.Http
