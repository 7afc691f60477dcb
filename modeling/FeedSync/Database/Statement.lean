import FeedSync.Article
import FeedSync.Database.Insert
import FeedSync.Sync.State

/-!
# Statements

Everything that is asked of the database, by its purpose, and the SQL that asks it.
-/

namespace FeedSync.Database

/-- A statement. -/
inductive Statement where
  /-- Insert an article, or overwrite the version that is there if it is earlier. -/
  | upsertArticle (article : Article)
  /-- The internal id of an article. -/
  | articleId (sourceId : String) (externalId : Int64)
  /-- Which of some articles of a source are there, with the times of their last modifications. -/
  | heldArticles (sourceId : String) (externalIds : List Int64)
  /-- Insert tags, or give those that are there new labels. -/
  | upsertTags (tags : List Tag)
  /-- Remove all tags from an article. -/
  | unlinkTags (articleId : Int64)
  /-- Add tags to an article. -/
  | linkTags (articleId : Int64) (tagIds : List Int64)
  /-- The tags of an article. -/
  | tagsOf (articleId : Int64)
  /-- The sync state of a source. -/
  | readState (sourceId : String)
  /-- Write the sync state of a source. -/
  | writeState (state : SyncState)
  /-- Set up the tables. -/
  | migrate (sql : String)
  deriving DecidableEq, Repr

namespace Statement

/-- The statement that writes an article. The time of publication is that of the first version. -/
def articleInsert (a : Article) : Insert where
  table := "articles"
  columns := ["source_id", "external_id", "title", "description", "summary", "body", "author",
    "canonical_url", "image_url", "published_at", "last_modified", "duration"]
  rows := [[.text a.sourceId, .ofInt64 a.externalId, .text a.title, .ofText? a.description,
    .ofText? a.summary, .ofText? a.body, .ofText? a.author, .text a.canonicalUrl,
    .ofText? a.imageUrl, .ofInstant a.publishedAt, .ofInstant a.lastModified,
    .integer a.duration.toInt]]
  key := ["source_id", "external_id"]
  overwritten := ["title", "description", "summary", "body", "author", "canonical_url",
    "image_url", "last_modified", "duration"]
  stamped := ["updated_at"]
  rising := some "last_modified"
  returning := some "id"

/-- The statement that writes tags. -/
def tagInsert (tags : List Tag) : Insert where
  table := "tags"
  columns := ["id", "label"]
  rows := tags.map fun tag => [.ofInt64 tag.id, .text tag.label]
  key := ["id"]
  overwritten := ["label"]

/-- The statement that writes a sync state. -/
def stateInsert (state : SyncState) : Insert where
  table := "sync_state"
  columns := ["source_id", "last_synced_at", "last_article_id", "total_synced"]
  rows := [[.text state.sourceId, .ofInstant? state.lastSyncedAt, .ofInt64 state.lastArticleId,
    .ofInt64 state.totalSynced]]
  key := ["source_id"]
  overwritten := ["last_synced_at", "last_article_id", "total_synced"]

/-- The SQL of a statement. -/
def text : Statement → String
  | .upsertArticle a => (articleInsert a).text
  | .articleId _ _ => "SELECT id FROM articles WHERE source_id = $1 AND external_id = $2"
  | .heldArticles _ _ =>
    "SELECT external_id, last_modified FROM articles " ++
      "WHERE source_id = $1 AND external_id = ANY($2)"
  | .upsertTags tags => (tagInsert tags).text
  | .unlinkTags _ => "DELETE FROM article_tags WHERE article_id = $1"
  | .linkTags _ _ =>
    "INSERT INTO article_tags (article_id, tag_id)\n" ++
      "SELECT $1, UNNEST($2::BIGINT[])\n" ++
      "ON CONFLICT DO NOTHING"
  | .tagsOf _ =>
    "SELECT t.id, t.label\n" ++
      "FROM tags t\n" ++
      "JOIN article_tags l ON l.tag_id = t.id\n" ++
      "WHERE l.article_id = $1\n" ++
      "ORDER BY t.id"
  | .readState _ =>
    "SELECT source_id, last_synced_at, last_article_id, total_synced\n" ++
      "FROM sync_state\n" ++
      "WHERE source_id = $1"
  | .writeState state => (stateInsert state).text
  | .migrate sql => sql

/-- The values for the placeholders of a statement, in order. -/
def parameters : Statement → List Value
  | .upsertArticle a => (articleInsert a).parameters
  | .articleId sourceId externalId => [.text sourceId, .ofInt64 externalId]
  | .heldArticles sourceId externalIds => [.text sourceId, .integers externalIds]
  | .upsertTags tags => (tagInsert tags).parameters
  | .unlinkTags id => [.ofInt64 id]
  | .linkTags id tagIds => [.ofInt64 id, .integers tagIds]
  | .tagsOf id => [.ofInt64 id]
  | .readState sourceId => [.text sourceId]
  | .writeState state => (stateInsert state).parameters
  | .migrate _ => []

end Statement

end FeedSync.Database
