import FeedSync.Cycle
import FeedSync.Proofs.Program
import FeedSync.Proofs.Store.Desk

/-!
# The scene of a cycle

A cycle runs against a store in memory, the replies of its other collaborators, and whatever other
writers do in between. `Scene.answer` puts the three together: before every call the others may
act, then the call is answered, and it is written down. The calls so far tell which articles were
committed and which were published.

## Main definitions

* `Replies` — what the source, the clock and the publisher reply, whatever it is.
* `Scene` — a desk with the calls of the cycle so far.
* `alone`, `amid` — a cycle that no one disturbs, and one amid the moves of other writers.
* `selection` — the articles that a cycle is going to save.
-/

namespace FeedSync

/-! ### Answering calls -/

/-- What the collaborators of a cycle reply that are no stores. Nothing else is known of them. -/
structure Replies where
  fetch : UInt32 → Except InfraError (List Article)
  /-- The readings of the clock, in order. -/
  clock : Nat → Instant
  /-- The clock does not know leap seconds. -/
  regular : ∀ n, (clock n).nanos < nanosPerSecond
  /-- The stopwatch, when so many calls were made. -/
  stopwatch : Nat → Nat
  /-- The reply of the publisher, when so many calls were made. -/
  publish : Nat → Article → Bool → Except InfraError Unit

/-- An instant after the start of 1970. -/
def Instant.sooner : Instant where
  seconds := 1
  nanos := 0

/-- An instant after `sooner`. -/
def Instant.later : Instant where
  seconds := 2
  nanos := 0

/-- An article of which only the key, the last modification and the tags matter. -/
def Article.bare (externalId : Int64) (lastModified : Instant) (tags : List Tag) : Article where
  sourceId := "ecb"
  externalId := externalId
  title := ""
  canonicalUrl := ""
  publishedAt := .epoch
  lastModified := lastModified
  tags := tags

/-- A cycle that publishes the articles of the last day. -/
def Cycle.Settings.daily : Cycle.Settings where
  sourceId := "ecb"
  sourceName := ""
  maxPages := 1
  historyDays := 1
  publishes := true

/-- A source that delivers a list at the start of 1970, and a publisher that takes everything. -/
def Replies.listing (articles : List Article) : Replies where
  fetch _ := .ok articles
  clock _ := .epoch
  regular _ := by decide
  stopwatch _ := 0
  publish _ _ _ := .ok ()

namespace Call

/-- Whether a call reads the clock. -/
def isReading : Call Transaction → Bool
  | .external .now => true
  | _ => false

/-- Whether a call is an existence query. -/
def isQuery : Call Transaction → Bool
  | .held _ _ => true
  | _ => false

/-- The article whose unit of work a call commits. -/
def committed? : Call Transaction → Option Article
  | .commit (.article _ a :: _) => some a
  | _ => none

/-- The article that a call publishes. -/
def published? : Call Transaction → Option Article
  | .external (.publish a _) => some a
  | _ => none

/-- The sync state that a call writes. -/
def writtenState? : Call Transaction → Option SyncState
  | .writeState state => some state
  | _ => none

end Call

/-- The reply to a call that is not about the store, after some calls. -/
def Replies.external (w : Replies) (calls : List (Call Transaction)) : (c : External) → c.Reply
  | .fetch maxPages => w.fetch maxPages
  | .now => w.clock (calls.countP Call.isReading)
  | .stopwatch => w.stopwatch calls.length
  | .publish a isNew => w.publish calls.length a isNew
  | .log _ => ()

/-- The reply of a store in memory to a call, where others reply to what is not about it. -/
def Store.answer (external : (c : External) → c.Reply) :
    (c : Call Transaction) → StateM Store c.Reply
  | .held sourceId ids => Store.held sourceId ids
  | .begin => fun s => (.ok [], s)
  | .upsert tx a => Store.upsert tx a
  | .upsertTags tx tags => fun s => (Store.upsertTags tx tags, s)
  | .link tx id tagIds => fun s => (s.link tx id tagIds, s)
  | .commit tx => fun s => (.ok (), s.commit tx)
  | .rollback _ => fun s => (.ok (), s.rollback)
  | .readState sourceId => fun s => (.ok (s.stateOf sourceId), s)
  | .writeState state => Store.writeState state
  | .external c => fun s => (external c, s)

/-- A desk, and the calls that a cycle has made so far. -/
structure Scene extends Desk where
  calls : List (Call Transaction) := []

/-- What other writers do to a desk before the next call, given the calls so far. -/
abbrev Others := List (Call Transaction) → Desk → Desk

/-- No one else is there. -/
def alone : Others := fun _ d => d

/-- The calls from the batch query on, which is the first existence query of a cycle. -/
def sinceBatch (calls : List (Call Transaction)) : List (Call Transaction) :=
  calls.dropWhile fun c => !c.isQuery

/-- The moves that are due before the next call, of moves listed by how many calls were made since
the batch query. None is due before that query: up to there a cycle does not look at the store, so
what others do then is done before the cycle. -/
def due (moves : Nat → List Move) (calls : List (Call Transaction)) : List Move :=
  match (sinceBatch calls).length with
  | 0 => []
  | n + 1 => moves n

/-- Other writers make moves after the batch query. -/
def amid (moves : Nat → List Move) : Others := fun calls d => d.performAll (due moves calls)

namespace Scene

/-- The scene when the others have acted before the next call. -/
def met (sc : Scene) (others : Others) : Scene := { sc with toDesk := others sc.calls sc.toDesk }

/-- The scene after a call that left a store. -/
def called (sc : Scene) (c : Call Transaction) (store : Store) : Scene :=
  { sc with store, calls := sc.calls ++ [c] }

/-- The reply to a call: the others act, the call is answered, and it is written down. -/
def answer (w : Replies) (others : Others) (c : Call Transaction) : StateM Scene c.Reply :=
  fun sc =>
    let (reply, store) := (sc.met others).store.answer (w.external sc.calls) c
    (reply, (sc.met others).called c store)

/-- The scene before the first call. -/
def start (s : Store) : Scene := { store := s }

/-- How often the clock was read. -/
def readings (sc : Scene) : Nat := sc.calls.countP Call.isReading

/-- The articles whose units of work were committed, in order. -/
def committed (sc : Scene) : List Article := sc.calls.filterMap Call.committed?

/-- The articles that were published, in order. -/
def published (sc : Scene) : List Article := sc.calls.filterMap Call.published?

/-- The sync states that were written, in order. -/
def writtenStates (sc : Scene) : List SyncState := sc.calls.filterMap Call.writtenState?

end Scene

namespace Cycle

/-- The end of a cycle without other writers: its result, and what it leaves behind. -/
def outcome (w : Replies) (settings : Settings) (s : Store) : Except CycleFault Stats × Scene :=
  Program.run (Scene.answer w alone) (cycle settings) (Scene.start s)

/-! ### What a cycle selects -/

/-- The articles of the source inside the window, if they could be fetched. -/
def window (w : Replies) (settings : Settings) : List Article :=
  match w.fetch settings.maxPages with
  | .ok fetched => insideWindow (historyCutoff (w.clock 0) settings.historyDays) fetched
  | .error _ => []

/-- The articles that a cycle is going to save: none if the batch query is refused. -/
def selection (w : Replies) (settings : Settings) (s : Store) : List Article :=
  if s.plan.refuses (s.counts.queries + 1) then []
  else selectForSync (window w settings) (s.intruded.lastModified? settings.sourceId)

/-- What a cycle selects if no other writer intrudes into its batch query. -/
theorem selection_of_undisturbed {s : Store} (h : s.Undisturbed) (w : Replies)
    (settings : Settings) : selection w settings s =
      if s.plan.refuses (s.counts.queries + 1) then []
      else selectForSync (window w settings) (s.lastModified? settings.sourceId) := by
  rw [selection, h.intruded_eq]
  rfl

end Cycle

end FeedSync
