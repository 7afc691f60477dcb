import FeedSync.Error
import FeedSync.Feed.Page
import FeedSync.Program

/-!
# Fetching from the content API

Pages are fetched in order, each with some attempts, until a page says that it is the last one or
enough pages are fetched. Between two attempts at a page the fetch waits, each time twice as long as
before, up to a limit.
-/

namespace FeedSync.Feed

/-- How the content API is asked. -/
structure Settings where
  baseUrl : String
  pageSize : UInt32
  /-- How often a page is tried; zero counts as one. -/
  maxAttempts : UInt32
  /-- The wait after the first attempt in milliseconds. -/
  initialBackoff : Nat
  /-- The longest wait in milliseconds. -/
  maxBackoff : Nat
  deriving DecidableEq, Repr

/-- What a fetch asks of its surroundings. -/
inductive Call where
  /-- Get the text at an address. -/
  | get (url : String)
  /-- Let some milliseconds pass. -/
  | wait (millis : Nat)
  /-- Read the clock. -/
  | now
  /-- Report an event. -/
  | log (event : Event)

/-- The reply to a call. -/
@[reducible]
def Call.Reply : Call → Type
  | .get _ => Except InfraError String
  | .wait _ => Unit
  | .now => Instant
  | .log _ => Unit

/-- The interface of a fetch to its surroundings. -/
abbrev Web : Interface := ⟨Call, Call.Reply⟩

/-- Calls the surroundings of a fetch. -/
abbrev call (c : Call) : Program Web c.Reply := @Program.request Web c

namespace Settings

/-- The address of a page. -/
def pageUrl (settings : Settings) (page : Nat) : String :=
  let separator := if settings.baseUrl.contains '?' then "&" else "?"
  s!"{settings.baseUrl}{separator}pageSize={settings.pageSize.toNat}&page={page}"

/-- How many attempts a page has. -/
def attempts (settings : Settings) : UInt32 := max settings.maxAttempts 1

/-- The wait after an attempt, counted from one: the initial wait, doubled for each attempt before
as long as the factor has 32 bits, and at most the longest wait. -/
def backoff (settings : Settings) (attempt : Nat) : Nat :=
  let factor := min (Nat.pow 2 (attempt - 1)) (UInt32.size - 1)
  min (settings.initialBackoff * factor) settings.maxBackoff

end Settings

/-- One attempt at the page with an address. -/
def attemptPage (url : String) : Program Web (Except InfraError Page) := do
  match ← call (.get url) with
  | .error e => return .error e
  | .ok text =>
    match Page.ofText text with
    | .error fault => return .error (.decoding s!"ECBレスポンスの解析: {url}" fault)
    | .ok page => return .ok page

/-- Attempts at a page from the given one on, with so many retries left. -/
def retryPage (settings : Settings) (page : Nat) :
    (retries : Nat) → (attempt : Nat) → Program Web (Except InfraError Page)
  | 0, _ => do
    match ← attemptPage (settings.pageUrl page) with
    | .ok p => return .ok p
    | .error e => return .error (.retriesExhausted settings.attempts e)
  | retries + 1, attempt => do
    match ← attemptPage (settings.pageUrl page) with
    | .ok p => return .ok p
    | .error e =>
      let backoff := settings.backoff attempt
      call <| .log {
        part := .feed
        level := .warn
        message := "リクエストに失敗したため再試行します"
        fields := [("page", .integer page), ("attempt", .integer attempt),
          ("backoff_ms", .integer backoff), ("error", .text e.message)] }
      call (.wait backoff)
      retryPage settings page retries (attempt + 1)

/-- All attempts at a page. -/
def fetchPage (settings : Settings) (page : Nat) : Program Web (Except InfraError Page) :=
  retryPage settings page (settings.attempts.toNat - 1) 1

/-- The records of at most so many pages from the given one on, after those fetched so far. -/
def fetchPages (settings : Settings) : (pages : Nat) → (page : Nat) → (fetched : List Content) →
    Program Web (Except InfraError (List Content))
  | 0, _, fetched => return .ok fetched
  | pages + 1, page, fetched => do
    match ← fetchPage settings page with
    | .error e => return .error e
    | .ok p =>
      let fetched := fetched ++ p.content
      call <| .log {
        part := .feed
        level := .debug
        message := "ページを取得しました"
        fields := [("page", .integer page), ("articles", .integer p.content.length),
          ("total", .integer fetched.length)] }
      if page + 1 ≥ p.info.numPages.toNat then return .ok fetched
      else fetchPages settings pages (page + 1) fetched

/-- The articles of some records; those left out are reported. -/
def toArticles (now : Instant) : List Content → Program Web (List Article)
  | [] => return []
  | c :: rest => do
    match c.toArticle now with
    | .ok a => return a :: (← toArticles now rest)
    | .error omission =>
      call (.log omission.event)
      toArticles now rest

/-- The articles of at most so many pages. -/
def fetch (settings : Settings) (maxPages : UInt32) :
    Program Web (Except InfraError (List Article)) := do
  match ← fetchPages settings maxPages.toNat 0 [] with
  | .error e => return .error e
  | .ok contents => return .ok (← toArticles (← call .now) contents)

end FeedSync.Feed
