import FeedSync.Time.Instant

/-!
# Articles and tags

An article is identified by its source and the number that the source gives it. Which of two
versions of an article wins is decided by `lastModified` alone: the strictly later one.
-/

namespace FeedSync

/-- A word of the tag vocabulary, which all sources share. The label written last is the valid
one. -/
structure Tag where
  id : Int64
  label : String
  deriving DecidableEq, Repr, Inhabited

namespace Tag

/-- Ids without repetitions, in the order of their first occurrences. -/
def distinctIds (ids : List Int64) : List Int64 :=
  ids.foldl (fun kept id => if id ∈ kept then kept else kept ++ [id]) []

/-- Tags with each id once: in the order of the first occurrences, as the last occurrences say. -/
def distinct (tags : List Tag) : List Tag :=
  (distinctIds (tags.map Tag.id)).filterMap fun id => tags.reverse.find? (·.id = id)

end Tag

/-- A version of an article. -/
structure Article where
  /-- The source that the article comes from. -/
  sourceId : String
  /-- The article's number in its source. -/
  externalId : Int64
  title : String
  description : Option String := none
  summary : Option String := none
  body : Option String := none
  author : Option String := none
  canonicalUrl : String
  imageUrl : Option String := none
  publishedAt : Instant
  lastModified : Instant
  /-- The playing time in seconds, for articles that have one. -/
  duration : Int32 := 0
  tags : List Tag := []
  deriving DecidableEq, Repr, Inhabited

namespace Article

/-- What identifies an article among the articles of all sources. -/
abbrev Key := String × Int64

/-- The key of an article. -/
def key (a : Article) : Key := (a.sourceId, a.externalId)

/-- The ids of an article's tags, in order and with repetitions. -/
def tagIds (a : Article) : List Int64 := a.tags.map Tag.id

end Article

end FeedSync
