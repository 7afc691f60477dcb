import FeedSync.Cycle.Call

/-!
# The store in memory

A store that keeps everything in tables. Writes of a transaction are **pending** until it commits:
the transaction is the list of them, and a transaction that is rolled back or forgotten leaves
nothing behind except the internal ids it used up.

The store counts its calls, and failures can be **planned** for them.
-/

namespace FeedSync

/-- A stored article. -/
structure StoredArticle where
  /-- The internal id of the article. -/
  id : Int64
  article : Article
  deriving DecidableEq, Repr

/-- A write that waits for its transaction to commit. -/
inductive Write where
  /-- An article, with the internal id it gets if its key is not stored by then. -/
  | article (id : Int64) (article : Article)
  | tags (tags : List Tag)
  | links (articleId : Int64) (tagIds : List Int64)
  deriving DecidableEq, Repr

/-- A transaction of the store in memory: its writes so far, in order. -/
abbrev Transaction := List Write

/-- Which calls of a store fail, and what another writer does in between. -/
structure FaultPlan where
  /-- The numbers of the articles whose upserts fail. -/
  upserts : List Int64 := []
  /-- Whether all existence queries fail. -/
  queries : Bool := false
  /-- The existence queries that fail, counted from one. -/
  queriesAt : List Nat := []
  /-- Articles that another writer stores right before an existence query, counted from one. -/
  intrusions : List (Nat × Article) := []
  /-- Whether all updates of sync states fail. -/
  states : Bool := false
  /-- Whether all links fail. -/
  links : Bool := false
  deriving DecidableEq, Repr

/-- How often a store was called. -/
structure CallCounts where
  /-- The numbers of the articles that were to be upserted, in order. -/
  upserts : List Int64 := []
  queries : Nat := 0
  stateUpdates : Nat := 0
  commits : Nat := 0
  rollbacks : Nat := 0
  deriving DecidableEq, Repr

/-- A store in memory. -/
structure Store where
  articles : Table Article.Key StoredArticle := .empty
  /-- The internal id that was given out last. -/
  lastId : Int64 := 0
  /-- The tag vocabulary. -/
  tags : Table Int64 String := .empty
  /-- The ids of each article's tags, by internal id. -/
  links : Table Int64 (List Int64) := .empty
  states : Table String SyncState := .empty
  counts : CallCounts := {}
  plan : FaultPlan := {}
  deriving Inhabited

namespace Store

/-! ### Reading -/

/-- The stored row of a key. -/
def row? (s : Store) (key : Article.Key) : Option StoredArticle := s.articles.get? key

/-- The tags that an article is linked to and the vocabulary knows, in the order of their ids. -/
def tagsFor (s : Store) (articleId : Int64) : List Tag :=
  let linked := (s.links.get? articleId).getD []
  let known := linked.filterMap fun id => (s.tags.get? id).map fun label => { id, label : Tag }
  known.mergeSort fun a b => a.id ≤ b.id

/-- What the store holds of some articles of a source. -/
def heldOf (s : Store) (sourceId : String) (externalIds : List Int64) : Held :=
  .ofEntries <| externalIds.filterMap fun id =>
    (s.row? (sourceId, id)).map fun row => (id, row.article.lastModified)

/-! ### Writing -/

/-- Writes words of the vocabulary; the label written last counts. -/
def writeTags (s : Store) (tags : List Tag) : Store :=
  { s with tags := tags.foldl (fun t tag => t.set tag.id tag.label) s.tags }

/-- Makes a pending write permanent. An article is written only if its key is not stored or the
stored version is strictly earlier. -/
def apply (s : Store) : Write → Store
  | .article id a =>
    match s.row? a.key with
    | some row =>
      if a.lastModified ≤ row.article.lastModified then s
      else { s with articles := s.articles.set a.key { row with article := a } }
    | none => { s with articles := s.articles.set a.key ⟨id, a⟩ }
  | .tags tags => s.writeTags tags
  | .links articleId tagIds => { s with links := s.links.set articleId (Tag.distinctIds tagIds) }

/-- The internal id for a key: the one it is stored under, else the given one, else a fresh one. -/
def idFor (key : Article.Key) (pending : Option Int64) : StateM Store Int64 := fun s =>
  match (s.row? key).map StoredArticle.id <|> pending with
  | some id => (id, s)
  | none => (s.lastId + 1, { s with lastId := s.lastId + 1 })

/-- Stores an article at once, whatever is stored already. -/
def insert (a : Article) : StateM Store Int64 := fun s =>
  let (id, s) := idFor a.key none s
  let s := s.writeTags a.tags
  (id, { s with
    links := s.links.set id a.tagIds
    articles := s.articles.set a.key ⟨id, a⟩ })

/-- What another writer does right before the existence query with a number. -/
def intrude (n : Nat) (s : Store) : Store :=
  (s.plan.intrusions.filter (·.1 = n)).foldl (fun s intrusion => (insert intrusion.2 s).2) s

/-! ### The calls of a cycle -/

/-- The internal id under which a transaction has an article pending. -/
def pendingId? (tx : Transaction) (key : Article.Key) : Option Int64 :=
  tx.findSome? fun
    | .article id a => if a.key = key then some id else none
    | _ => none

/-- Adds an article to a transaction. -/
def upsert (tx : Transaction) (a : Article) :
    StateM Store (Transaction × Except InfraError Int64) := fun s =>
  let s := { s with counts.upserts := s.counts.upserts ++ [a.externalId] }
  if a.externalId ∈ s.plan.upserts then
    ((tx, .error (.backend s!"記事のUPSERTに失敗: external_id={a.externalId.toInt}")), s)
  else
    let (id, s) := idFor a.key (pendingId? tx a.key) s
    ((tx ++ [.article id a], .ok id), s)

/-- Adds words of the vocabulary to a transaction. -/
def upsertTags (tx : Transaction) (tags : List Tag) : Transaction × Except InfraError Unit :=
  (if tags.isEmpty then tx else tx ++ [.tags tags], .ok ())

/-- Adds the tags of an article to a transaction. -/
def link (s : Store) (tx : Transaction) (articleId : Int64) (tagIds : List Int64) :
    Transaction × Except InfraError Unit :=
  if s.plan.links then
    (tx, .error (.backend s!"記事タグ関連の保存に失敗: article_id={articleId.toInt}"))
  else (tx ++ [.links articleId tagIds], .ok ())

/-- Asks which articles are stored. -/
def held (sourceId : String) (externalIds : List Int64) :
    StateM Store (Except InfraError Held) := fun s =>
  let n := s.counts.queries + 1
  let s := { s with counts.queries := n }
  if s.plan.queries || n ∈ s.plan.queriesAt then (.error (.backend "既存記事の照会に失敗"), s)
  else
    let s := s.intrude n
    (.ok (s.heldOf sourceId externalIds), s)

/-- Makes the writes of a transaction permanent, in order. -/
def commit (tx : Transaction) (s : Store) : Store :=
  let s := tx.foldl apply s
  { s with counts.commits := s.counts.commits + 1 }

/-- Takes a transaction back. -/
def rollback (s : Store) : Store := { s with counts.rollbacks := s.counts.rollbacks + 1 }

/-- The sync state of a source. -/
def stateOf (s : Store) (sourceId : String) : SyncState :=
  (s.states.get? sourceId).getD (.initial sourceId)

/-- Writes the sync state of a source. -/
def writeState (state : SyncState) : StateM Store (Except InfraError Unit) := fun s =>
  let s := { s with counts.stateUpdates := s.counts.stateUpdates + 1 }
  if s.plan.states then (.error (.backend "同期状態の更新に失敗"), s)
  else (.ok (), { s with states := s.states.set state.sourceId state })

end Store

end FeedSync
