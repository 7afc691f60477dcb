import FeedSync.Article
import FeedSync.Json.Shape
import FeedSync.Log
import FeedSync.Time.DateText

/-!
# Pages of the content API

The form in which the content API delivers articles, and what becomes of a record: an article, if
both of its times can be read, and otherwise a reason to leave it out.
-/

namespace FeedSync.Feed

open FeedSync.Json (Shape)

/-- The id of the source behind the content API. -/
def sourceId : String := "ecb"

/-- The name of the source behind the content API. -/
def sourceName : String := "ECB Cricket"

/-! ### The JSON form -/

/-- What a page says about itself and the other pages. -/
structure PageInfo where
  page : UInt32 := 0
  numPages : UInt32 := 0
  pageSize : UInt32 := 0
  numEntries : UInt64 := 0
  deriving DecidableEq, Repr

/-- A picture of a record. -/
structure LeadMedia where
  imageUrl : Option String
  deriving DecidableEq, Repr

/-- A record of the content API. -/
structure Content where
  id : Int64
  title : String
  description : Option String
  /-- When it was published, in one of many formats. -/
  date : String
  canonicalUrl : String
  body : Option String
  tags : Option (List Tag)
  leadMedia : Option LeadMedia
  summary : Option String
  author : Option String
  duration : Int32
  /-- When it was modified last, in milliseconds from the epoch. -/
  lastModified : Int64
  deriving DecidableEq, Repr

/-- A page of records. -/
structure Page where
  info : PageInfo
  content : List Content
  deriving DecidableEq, Repr

/-- The JSON form of `PageInfo`. -/
def PageInfo.shape : Shape PageInfo :=
  PageInfo.mk
    <$> .defaulted "page" Json.uint32 0
    <*> .defaulted "numPages" Json.uint32 0
    <*> .defaulted "pageSize" Json.uint32 0
    <*> .defaulted "numEntries" Json.uint64 0

/-- The JSON form of a record's tag, whose label may be left out. -/
def tagShape : Shape Tag :=
  Tag.mk <$> .required "id" Json.int64 <*> .defaulted "label" Json.string ""

/-- The JSON form of `LeadMedia`. -/
def LeadMedia.shape : Shape LeadMedia := LeadMedia.mk <$> .optional "imageUrl" Json.string

/-- The JSON form of a record. -/
def Content.shape : Shape Content :=
  Content.mk
    <$> .required "id" Json.int64
    <*> .defaulted "title" Json.string ""
    <*> .optional "description" Json.string
    <*> .defaulted "date" Json.string ""
    <*> .defaulted "canonicalUrl" Json.string ""
    <*> .optional "body" Json.string
    <*> .optional "tags" (Json.list tagShape.decoder)
    <*> .optional "leadMedia" LeadMedia.shape.decoder
    <*> .optional "summary" Json.string
    <*> .optional "author" Json.string
    <*> .defaulted "duration" Json.int32 0
    <*> .defaulted "lastModified" Json.int64 0

/-- The JSON form of a page. -/
def Page.shape : Shape Page :=
  Page.mk
    <$> .defaulted "pageInfo" PageInfo.shape.decoder {}
    <*> .defaulted "content" (Json.list Content.shape.decoder) []

/-- The page that a JSON text holds. -/
def Page.ofText (text : String) : Except Json.Fault Page := Page.shape.decoder.decode text

/-! ### From records to articles -/

/-- Why a record gives no article. -/
inductive Omission where
  | publishedAt (externalId : Int64) (date : String)
  | lastModified (externalId : Int64) (millis : Int64)
  deriving DecidableEq, Repr

/-- The event that reports an omission. -/
def Omission.event : Omission → Event
  | .publishedAt id date => {
      part := .feed
      level := .warn
      message := "公開日時の解析に失敗したため記事をスキップします"
      fields := [("external_id", .integer id.toInt), ("date", .text date)] }
  | .lastModified id millis => {
      part := .feed
      level := .warn
      message := "更新日時の解析に失敗したため記事をスキップします"
      fields := [("external_id", .integer id.toInt), ("last_modified", .integer millis.toInt)] }

/-- The address of a record's picture, unless it is empty. -/
def Content.imageUrl (c : Content) : Option String :=
  (c.leadMedia.bind LeadMedia.imageUrl).filter (!·.isEmpty)

/-- The article that a record describes. Dates that do not say the year or the day take it from
`now`. -/
def Content.toArticle (now : Instant) (c : Content) : Except Omission Article :=
  match Instant.ofDateText? now c.date, Instant.ofEpochMillis? c.lastModified with
  | none, _ => .error (.publishedAt c.id c.date)
  | some _, none => .error (.lastModified c.id c.lastModified)
  | some publishedAt, some lastModified => .ok {
      sourceId
      externalId := c.id
      title := c.title
      description := c.description
      summary := c.summary
      body := c.body
      author := c.author
      canonicalUrl := c.canonicalUrl
      imageUrl := c.imageUrl
      publishedAt
      lastModified
      duration := c.duration
      tags := c.tags.getD [] }

end FeedSync.Feed
