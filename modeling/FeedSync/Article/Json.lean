import FeedSync.Article
import FeedSync.Json.Shape
import FeedSync.Json.Value
import FeedSync.Time.Rfc3339

/-!
# Articles as JSON

The JSON form of tags and articles: how it is written, and the shape in which it is read.
-/

namespace FeedSync

open FeedSync.Json (Shape Decoder)

/-- A time as JSON: its text in the format of RFC 3339. -/
def Instant.toJson (t : Instant) : Json.Value := .string t.toRfc3339

/-- Reads a time from a JSON string. -/
def Instant.decoder : Decoder Instant := Json.parsed Instant.ofRfc3339?

/-- A tag as JSON. -/
def Tag.toJson (tag : Tag) : Json.Value :=
  .object [("id", .integer tag.id.toInt), ("label", .string tag.label)]

/-- The JSON form of a tag. -/
def Tag.shape : Shape Tag :=
  Tag.mk <$> .required "id" Json.int64 <*> .required "label" Json.string

/-- An article as JSON, with all its fields. -/
def Article.toJson (a : Article) : Json.Value :=
  .object [
    ("source_id", .string a.sourceId),
    ("external_id", .integer a.externalId.toInt),
    ("title", .string a.title),
    ("description", .ofOption .string a.description),
    ("summary", .ofOption .string a.summary),
    ("body", .ofOption .string a.body),
    ("author", .ofOption .string a.author),
    ("canonical_url", .string a.canonicalUrl),
    ("image_url", .ofOption .string a.imageUrl),
    ("published_at", a.publishedAt.toJson),
    ("last_modified", a.lastModified.toJson),
    ("duration", .integer a.duration.toInt),
    ("tags", .array (a.tags.map Tag.toJson))]

/-- The JSON form of an article. Only duration and tags may be left out besides the texts that may
be missing. -/
def Article.shape : Shape Article :=
  Article.mk
    <$> .required "source_id" Json.string
    <*> .required "external_id" Json.int64
    <*> .required "title" Json.string
    <*> .optional "description" Json.string
    <*> .optional "summary" Json.string
    <*> .optional "body" Json.string
    <*> .optional "author" Json.string
    <*> .required "canonical_url" Json.string
    <*> .optional "image_url" Json.string
    <*> .required "published_at" Instant.decoder
    <*> .required "last_modified" Instant.decoder
    <*> .defaulted "duration" Json.int32 0
    <*> .defaulted "tags" (Json.list Tag.shape.decoder) []

/-- The article that a JSON text holds. -/
def Article.ofText (text : String) : Except Json.Fault Article := Article.shape.decoder.decode text

/-- What is told about an article that was stored: whether it is new there or was updated. -/
inductive Change where
  | create
  | update
  deriving DecidableEq, Repr

/-- The change of an article that is new to the store, or not. -/
def Change.ofIsNew (isNew : Bool) : Change := if isNew then .create else .update

/-- The word for a change in a notice. -/
def Change.word : Change → String
  | .create => "create"
  | .update => "update"

/-- The notice of a change of an article. -/
structure Notice where
  change : Change
  article : Article
  timestamp : Instant
  deriving DecidableEq, Repr

/-- A notice as JSON. -/
def Notice.toJson (notice : Notice) : Json.Value :=
  .object [
    ("action", .string notice.change.word),
    ("article", notice.article.toJson),
    ("timestamp", notice.timestamp.toJson)]

end FeedSync
