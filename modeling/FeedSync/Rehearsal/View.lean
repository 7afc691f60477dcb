import FeedSync.Rehearsal.Steps
import FeedSync.Store.Memory

/-!
# What is seen of a store

A store is looked at through the things that have been mentioned: keys of articles, tags, internal
ids and sources.
-/

namespace FeedSync.Rehearsal

/-- What has been mentioned. -/
structure Mentions where
  articles : List Article.Key := []
  tags : List Int64 := []
  ids : List Int64 := []
  sources : List String := []

namespace Mentions

instance : Append Mentions where
  append m n := {
    articles := m.articles ++ n.articles
    tags := m.tags ++ n.tags
    ids := m.ids ++ n.ids
    sources := m.sources ++ n.sources }

/-- What an article mentions. -/
def ofArticle (a : Article) : Mentions := { articles := [a.key], tags := a.tagIds }

/-- What articles mention. -/
def ofArticles (articles : List Article) : Mentions :=
  { articles := articles.map Article.key, tags := articles.flatMap Article.tagIds }

/-- What a write mentions. -/
def ofWrite : WriteStep → Mentions
  | .upsert a => ofArticle a
  | .upsertTags tags => { tags := tags.map Tag.id }
  | .link articleId _ => { ids := [articleId] }

/-- What a step mentions. -/
def ofStep : StoreStep → Mentions
  | .write _ w => ofWrite w
  | .run ws => (ws.map ofWrite).foldl (· ++ ·) {}
  | .readState sourceId => { sources := [sourceId] }
  | .writeState state => { sources := [state.sourceId] }
  | _ => {}

/-- The internal ids in the result of a step. -/
def ofResult (r : StepResult) : Mentions where
  ids := (r.value :: r.writes).filterMap fun
    | .ok (.id id) => some id
    | _ => none

end Mentions

/-- What is seen of a store, each kind of thing in its order. -/
structure View where
  rows : List (Article.Key × StoredArticle)
  /-- The ids of the known tags of each article that has some, by internal id. -/
  links : List (Int64 × List Int64)
  tags : List (Int64 × String)
  states : List SyncState

/-- Distinct things in order. -/
def inOrder {α : Type} [BEq α] (le : α → α → Bool) (xs : List α) : List α :=
  xs.eraseDups.mergeSort le

/-- The order of keys: by source, then by number. -/
def keyLe (a b : Article.Key) : Bool := a.1 < b.1 || (a.1 = b.1 && a.2 ≤ b.2)

/-- What is seen of a store through some mentions. -/
def Mentions.view (m : Mentions) (s : Store) : View :=
  let rows := (inOrder keyLe m.articles).filterMap fun key => (s.row? key).map (key, ·)
  let ids := inOrder (· ≤ ·) (m.ids ++ rows.map fun (_, row) => row.id)
  { rows
    links := ids.filterMap fun id =>
      match s.tagsFor id with
      | [] => none
      | tags => some (id, tags.map Tag.id)
    tags := (inOrder (· ≤ ·) m.tags).filterMap fun id => (s.tags.get? id).map (id, ·)
    states := (inOrder (· ≤ ·) m.sources).filterMap s.states.get? }

end FeedSync.Rehearsal
