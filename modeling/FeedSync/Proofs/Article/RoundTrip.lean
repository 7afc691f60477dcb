import FeedSync.Proofs.Json.Records
import FeedSync.Proofs.Time.Rfc3339
import FeedSync.Sync.State

/-!
# Articles and sync states read back

What is written of articles, sync states and notices is read as it was. An article is also read
from every text that says the same: with the members of the article and of its tags in any order,
without texts that are missing, a duration of zero or an empty list of tags, and with members of
other names.

## Main definitions

* `Article.fields`, `Tag.fields`, `SyncState.fields` — the members that they are written with.

## Main statements

* `articles_read_back` — what is written reads back, and so does all that says the same.
-/

namespace FeedSync

open FeedSync.Json FeedSync.Text

/-! ### Values of fields -/

section Values

variable {α : Type} {decoder : Decoder α} {name : String} {a : α} {value : Value}

theorem sound_always (h : Spells (fun tree => decoder tree = .ok a) value.write) :
    (Field.always name decoder a value).Sound := by
  rintro _ rfl
  exact h

theorem sound_unlessIs {default : α} (h : Spells (fun tree => decoder tree = .ok a) value.write) :
    (Field.unlessIs default name decoder a value).Sound := by
  rintro _ rfl
  exact h

/-- A value that may be missing is written as `null` where it is, and no other value is. -/
theorem spells_ofOption {toJson : α → Value} (hnull : ∀ a, decoder .null ≠ .ok a)
    (h : ∀ a, Spells (fun tree => decoder tree = .ok a) (toJson a).write) (a : Option α) :
    Spells (fun tree => nullable decoder tree = .ok a) (Value.ofOption toJson a).write := by
  cases a with
  | none => exact spells_null.mono (by rintro _ rfl; rfl)
  | some a =>
      refine (h a).mono fun tree htree => ?_
      cases tree with
      | null => exact absurd htree (hnull a)
      | _ => simp only [nullable, htree]; rfl

theorem spells_stringValue (s : String) :
    Spells (fun tree => string tree = .ok s) (Value.string s).write := by
  rw [Value.write]
  exact (spells_written_string s).mono (by rintro _ rfl; rfl)

/-- An integer between two bounds is read from its text. -/
theorem spells_integer {least greatest i : Int} (hleast : Int64.minValue.toInt ≤ least)
    (hgreatest : greatest ≤ greatestWord) (hi : least ≤ i ∧ i ≤ greatest) :
    Spells (fun tree => integer least greatest tree = .ok i) (Value.integer i).write := by
  rw [Value.write]
  refine (spells_written_integer (hleast.trans hi.1) (hi.2.trans hgreatest)).mono ?_
  rintro _ rfl
  exact if_pos hi

theorem spells_int64 (i : Int64) :
    Spells (fun tree => int64 tree = .ok i) (Value.integer i.toInt).write := by
  refine (spells_integer (Int.le_refl _) (by decide) ⟨i.minValue_le_toInt, i.toInt_le⟩).mono ?_
  intro tree htree
  rw [int64, htree]
  exact congrArg Except.ok (Int64.ofInt_toInt i)

theorem spells_int32 (i : Int32) :
    Spells (fun tree => int32 tree = .ok i) (Value.integer i.toInt).write := by
  refine (spells_integer (by decide) (by decide) ⟨i.minValue_le_toInt, i.toInt_le⟩).mono ?_
  intro tree htree
  rw [int32, htree]
  exact congrArg Except.ok (Int32.ofInt_toInt i)

/-- A string that denotes a value is read as it. -/
theorem parsed_eq {parse : String → Option α} {tree : Tree} {s : String}
    (htree : string tree = .ok s) (hparse : parse s = some a) : parsed parse tree = .ok a := by
  simp only [parsed, htree, bind, Except.bind, hparse]

/-- `null` is no string. -/
theorem parsed_null_ne {parse : String → Option α} : parsed parse .null ≠ .ok a := nofun

theorem spells_instant (t : Instant) :
    Spells (fun tree => Instant.decoder tree = .ok t) t.toJson.write :=
  (spells_stringValue t.toRfc3339).mono fun _ htree =>
    parsed_eq htree t.ofRfc3339?_toRfc3339

end Values

/-! ### Tags -/

/-- The members that a tag is written with. -/
def Tag.fields (tag : Tag) : List Field := [
  .always "id" int64 tag.id (.integer tag.id.toInt),
  .always "label" string tag.label (.string tag.label)]

/-- A tag is read from every text that says the same. -/
theorem Tag.spells {tag : Tag} {text : List Char} (h : IsObjectOf tag.fields text) :
    Spells (fun tree => Tag.shape.decoder tree = .ok tag) text := by
  refine spells_record h ?_ rfl ?_ fun find hfound => ?_
  · simp only [Tag.fields, List.forall_mem_cons]
    exact ⟨sound_always (spells_int64 _), sound_always (spells_stringValue _), nofun⟩
  · change ["id", "label"].Nodup
    decide
  · simp only [Tag.fields, List.forall_mem_cons] at hfound
    obtain ⟨hid, hlabel, -⟩ := hfound
    exact (Shape.Reads.map (Shape.reads_required hid)).seq (Shape.reads_required hlabel)

/-- A tag as it is written says the same as itself. -/
theorem Tag.isObjectOf_write (tag : Tag) : IsObjectOf tag.fields tag.toJson.write :=
  Json.isObjectOf_write (.cons ⟨rfl, rfl⟩ (.cons ⟨rfl, rfl⟩ .nil))

/-- The texts of a list of tags. -/
def IsTagsText (tags : List Tag) (text : List Char) : Prop :=
  ∃ texts, List.Forall₂ (fun tag text => IsObjectOf tag.fields text) tags texts ∧
    text = arrayText texts

/-- What is decoded of each element is decoded of an array. -/
theorem list_eq_of_forall₂ {α : Type} {decoder : Decoder α} {as : List α} {trees : List Tree}
    (h : List.Forall₂ (fun a tree => decoder tree = .ok a) as trees) :
    list decoder (.array trees none) = .ok as := by
  have hmap : trees.mapM decoder = .ok as := by
    induction h with
    | nil => rfl
    | cons htree _ ih => rw [List.mapM_cons, htree, ih]; rfl
  rw [list, hmap]
  rfl

/-- Tags are read from every text that says the same. -/
theorem spells_tags {tags : List Tag} {text : List Char} (h : IsTagsText tags text) :
    Spells (fun tree => list Tag.shape.decoder tree = .ok tags) text := by
  obtain ⟨texts, htags, rfl⟩ := h
  refine (spells_arrayText (htags.imp fun tag text => Tag.spells)).mono ?_
  rintro _ ⟨trees, htrees, rfl⟩
  exact list_eq_of_forall₂ htrees

/-- Tags as they are written say the same as themselves. -/
theorem isTagsText_write (tags : List Tag) :
    IsTagsText tags (Value.array (tags.map Tag.toJson)).write := by
  refine ⟨(tags.map Tag.toJson).map Value.write, ?_, write_array _⟩
  rw [List.map_map, List.forall₂_map_right_iff, List.forall₂_same]
  exact fun tag _ => tag.isObjectOf_write

/-! ### Articles -/

/-- The members that an article is written with. -/
def Article.fields (a : Article) : List Field := [
  .always "source_id" string a.sourceId (.string a.sourceId),
  .always "external_id" int64 a.externalId (.integer a.externalId.toInt),
  .always "title" string a.title (.string a.title),
  .unlessIs none "description" (nullable string) a.description (.ofOption .string a.description),
  .unlessIs none "summary" (nullable string) a.summary (.ofOption .string a.summary),
  .unlessIs none "body" (nullable string) a.body (.ofOption .string a.body),
  .unlessIs none "author" (nullable string) a.author (.ofOption .string a.author),
  .always "canonical_url" string a.canonicalUrl (.string a.canonicalUrl),
  .unlessIs none "image_url" (nullable string) a.imageUrl (.ofOption .string a.imageUrl),
  .always "published_at" Instant.decoder a.publishedAt a.publishedAt.toJson,
  .always "last_modified" Instant.decoder a.lastModified a.lastModified.toJson,
  .unlessIs 0 "duration" int32 a.duration (.integer a.duration.toInt),
  { name := "tags"
    isValue := IsTagsText a.tags
    denotes tree := list Tag.shape.decoder tree = .ok a.tags
    omissible := a.tags = [] }]

/-- The text of a string that may be missing. -/
theorem spells_optionalString (s : Option String) :
    Spells (fun tree => nullable string tree = .ok s) (Value.ofOption .string s).write :=
  spells_ofOption nofun spells_stringValue s

/-- **An article is read from every text that says the same.** -/
theorem Article.spells {a : Article} {text : List Char} (h : IsObjectOf a.fields text) :
    Spells (fun tree => Article.shape.decoder tree = .ok a) text := by
  refine spells_record h ?_ rfl ?_ fun find hfound => ?_
  · simp only [Article.fields, List.forall_mem_cons]
    exact ⟨sound_always (spells_stringValue _), sound_always (spells_int64 _),
      sound_always (spells_stringValue _), sound_unlessIs (spells_optionalString _),
      sound_unlessIs (spells_optionalString _), sound_unlessIs (spells_optionalString _),
      sound_unlessIs (spells_optionalString _), sound_always (spells_stringValue _),
      sound_unlessIs (spells_optionalString _), sound_always (spells_instant _),
      sound_always (spells_instant _), sound_unlessIs (spells_int32 _),
      fun _ => spells_tags, nofun⟩
  · change ["source_id", "external_id", "title", "description", "summary", "body", "author",
      "canonical_url", "image_url", "published_at", "last_modified", "duration", "tags"].Nodup
    decide
  · simp only [Article.fields, List.forall_mem_cons] at hfound
    obtain ⟨hsource, hnumber, htitle, hdescription, hsummary, hbody, hauthor, hurl, himage,
      hpublished, hmodified, hduration, htags, -⟩ := hfound
    have htags : (Field.unlessIs [] "tags" (list Tag.shape.decoder) a.tags .null).Found find :=
      htags
    exact Shape.Reads.map (f := Article.mk) (Shape.reads_required hsource)
      |>.seq (Shape.reads_required hnumber) |>.seq (Shape.reads_required htitle)
      |>.seq (Shape.reads_optional hdescription) |>.seq (Shape.reads_optional hsummary)
      |>.seq (Shape.reads_optional hbody) |>.seq (Shape.reads_optional hauthor)
      |>.seq (Shape.reads_required hurl) |>.seq (Shape.reads_optional himage)
      |>.seq (Shape.reads_required hpublished) |>.seq (Shape.reads_required hmodified)
      |>.seq (Shape.reads_defaulted hduration) |>.seq (Shape.reads_defaulted htags)

/-- An article as it is written says the same as itself. -/
theorem Article.isObjectOf_write (a : Article) : IsObjectOf a.fields a.toJson.write :=
  Json.isObjectOf_write <|
    .cons ⟨rfl, rfl⟩ <| .cons ⟨rfl, rfl⟩ <| .cons ⟨rfl, rfl⟩ <| .cons ⟨rfl, rfl⟩ <|
    .cons ⟨rfl, rfl⟩ <| .cons ⟨rfl, rfl⟩ <| .cons ⟨rfl, rfl⟩ <| .cons ⟨rfl, rfl⟩ <|
    .cons ⟨rfl, rfl⟩ <| .cons ⟨rfl, rfl⟩ <| .cons ⟨rfl, rfl⟩ <| .cons ⟨rfl, rfl⟩ <|
    .cons ⟨rfl, isTagsText_write a.tags⟩ .nil

/-- An article is decoded from every text that says the same. -/
theorem Article.ofText_eq {a : Article} {text : List Char} (h : IsObjectOf a.fields text) :
    Article.ofText (String.ofList text) = .ok a :=
  decode_of_spells (by rw [String.toList_ofList]; exact Article.spells h)

/-! ### Sync states -/

/-- The members that a sync state is written with. -/
def SyncState.fields (s : SyncState) : List Field := [
  .always "source_id" string s.sourceId (.string s.sourceId),
  .unlessIs none "last_synced_at" (nullable Instant.decoder) s.lastSyncedAt
    (.ofOption Instant.toJson s.lastSyncedAt),
  .always "last_article_id" int64 s.lastArticleId (.integer s.lastArticleId.toInt),
  .always "total_synced" int64 s.totalSynced (.integer s.totalSynced.toInt)]

/-- **A sync state is read from every text that says the same.** -/
theorem SyncState.spells {s : SyncState} {text : List Char} (h : IsObjectOf s.fields text) :
    Spells (fun tree => SyncState.shape.decoder tree = .ok s) text := by
  refine spells_record h ?_ rfl ?_ fun find hfound => ?_
  · simp only [SyncState.fields, List.forall_mem_cons]
    exact ⟨sound_always (spells_stringValue _),
      sound_unlessIs (spells_ofOption (fun _ => parsed_null_ne) spells_instant _),
      sound_always (spells_int64 _), sound_always (spells_int64 _), nofun⟩
  · change ["source_id", "last_synced_at", "last_article_id", "total_synced"].Nodup
    decide
  · simp only [SyncState.fields, List.forall_mem_cons] at hfound
    obtain ⟨hsource, hsynced, hnumber, htotal, -⟩ := hfound
    exact Shape.Reads.map (f := SyncState.mk) (Shape.reads_required hsource)
      |>.seq (Shape.reads_optional hsynced) |>.seq (Shape.reads_required hnumber)
      |>.seq (Shape.reads_required htotal)

/-- A sync state as it is written says the same as itself. -/
theorem SyncState.isObjectOf_write (s : SyncState) : IsObjectOf s.fields s.toJson.write :=
  Json.isObjectOf_write <|
    .cons ⟨rfl, rfl⟩ <| .cons ⟨rfl, rfl⟩ <| .cons ⟨rfl, rfl⟩ <| .cons ⟨rfl, rfl⟩ .nil

/-- A sync state is decoded from every text that says the same. -/
theorem SyncState.ofText_eq {s : SyncState} {text : List Char} (h : IsObjectOf s.fields text) :
    SyncState.ofText (String.ofList text) = .ok s :=
  decode_of_spells (by rw [String.toList_ofList]; exact SyncState.spells h)

/-! ### Notices -/

/-- The members that a notice is written with. -/
def Notice.fields (notice : Notice) : List Field := [
  .always "action" string notice.change.word (.string notice.change.word),
  .always "article" Article.shape.decoder notice.article notice.article.toJson,
  .always "timestamp" Instant.decoder notice.timestamp notice.timestamp.toJson]

/-- Which trees a text of a notice has under the names of its members. -/
theorem Notice.readText_compact (notice : Notice) :
    ∃ action article timestamp after,
      readText notice.toJson.compact =
        (.object [(some "action", action), (some "article", article),
          (some "timestamp", timestamp)] none, some after) ∧
      Blanks after ∧ string action = .ok notice.change.word ∧
      Article.shape.decoder article = .ok notice.article ∧
      Instant.decoder timestamp = .ok notice.timestamp := by
  have hsound : ∀ field ∈ notice.fields, field.Sound := by
    simp only [Notice.fields, List.forall_mem_cons]
    exact ⟨sound_always (spells_stringValue _),
      sound_always (Article.spells notice.article.isObjectOf_write),
      sound_always (spells_instant _), nofun⟩
  have hentries : List.Forall₂ Field.IsEntry notice.fields (writtenEntries [
      ("action", .string notice.change.word), ("article", notice.article.toJson),
      ("timestamp", notice.timestamp.toJson)]) :=
    isEntry_writtenEntries <| .cons ⟨rfl, rfl⟩ <| .cons ⟨rfl, rfl⟩ <| .cons ⟨rfl, rfl⟩ .nil
  have hspells := spells_members hsound hentries
  rw [← write_object, ← String.toList_ofList (l := Value.write _)] at hspells
  obtain ⟨tree, after, ⟨members, hsays, rfl⟩, hafter, hread⟩ := readText_of_spells hspells
  obtain ⟨⟨_, action⟩, _, ⟨rfl, haction⟩, hmore, rfl⟩ := List.forall₂_cons_left_iff.mp hsays
  obtain ⟨⟨_, article⟩, _, ⟨rfl, harticle⟩, hlast, rfl⟩ := List.forall₂_cons_left_iff.mp hmore
  obtain ⟨⟨_, timestamp⟩, _, ⟨rfl, htimestamp⟩, hnone, rfl⟩ := List.forall₂_cons_left_iff.mp hlast
  obtain rfl := List.forall₂_nil_left_iff.mp hnone
  exact ⟨action, article, timestamp, after, hread, hafter, haction, harticle, htimestamp⟩

/-- The word for a change tells whether the article is new. -/
theorem Change.word_eq_create_iff (isNew : Bool) :
    (Change.ofIsNew isNew).word = "create" ↔ isNew = true := by
  cases isNew <;> decide

/-! ### Round trips -/

/-- **What is written reads back**, and an article and a sync state are read from every text that
says the same as what is written of them. A notice is an object, from whose members the article and
the time are read back, and whose action is a creation exactly if the article is new. -/
theorem articles_read_back (a : Article) (s : SyncState) (isNew : Bool) (now : Instant) :
    Article.ofText a.toJson.compact = .ok a ∧
    (∀ text, IsObjectOf a.fields text → Article.ofText (String.ofList text) = .ok a) ∧
    SyncState.ofText s.toJson.compact = .ok s ∧
    (∀ text, IsObjectOf s.fields text → SyncState.ofText (String.ofList text) = .ok s) ∧
    ∃ action article timestamp after word,
      readText (Notice.toJson ⟨.ofIsNew isNew, a, now⟩).compact =
        (.object [(some "action", action), (some "article", article),
          (some "timestamp", timestamp)] none, some after) ∧ Blanks after ∧
      Article.shape.decoder article = .ok a ∧ Instant.decoder timestamp = .ok now ∧
      string action = .ok word ∧ (word = "create" ↔ isNew = true) := by
  obtain ⟨action, article, timestamp, after, hread, hafter, haction, harticle, htimestamp⟩ :=
    Notice.readText_compact ⟨.ofIsNew isNew, a, now⟩
  exact ⟨Article.ofText_eq a.isObjectOf_write, fun _ => Article.ofText_eq,
    SyncState.ofText_eq s.isObjectOf_write, fun _ => SyncState.ofText_eq, action, article,
    timestamp, after, _, hread, hafter, harticle, htimestamp, haction,
    Change.word_eq_create_iff isNew⟩

/-! ### An article in another order -/

/-- An article that was published in a leap second after the year 9999. -/
def leapArticle : Article where
  sourceId := "ecb"
  externalId := -9223372036854775808
  title := "a\"\n\u0001"
  canonicalUrl := "https://example.com/1"
  publishedAt := ⟨253402300859, 1250000000, by decide, by decide, by decide⟩
  lastModified := ⟨-62198755201, 1000, by decide, by decide, by decide⟩
  tags := [⟨7, "x"⟩]

/-- The members are in the opposite order, those that may be left out are, and there are others,
one of them with a text that denotes no characters. -/
def leapText : List Char :=
  "\x7b\"more\":[1.5E3,\x7b\"k\": \"\\ud800\"\x7d],".toList ++
  "\"tags\":[\x7b\"by\":null,\"label\":\"x\",\"id\":7\x7d],".toList ++
  "\"last_modified\":\"-0002-12-31T23:59:59.000001Z\",".toList ++
  "\"published_at\":\"+10000-01-01T00:00:60.250Z\",".toList ++
  "\"canonical_url\":\"https://example.com/1\",\"title\":\"a\\\"\\n\\u0001\",".toList ++
  "\"external_id\":-9223372036854775808,\"source_id\":\"ecb\"\x7d".toList

/-- The value of the foreign member is in the grammar. -/
theorem isJson_more : IsJson "[1.5E3,\x7b\"k\": \"\\ud800\"\x7d]".toList := by
  have hdigit (c : Char) (h : c.isDigit = true) : AllDigits [c] := List.forall_mem_singleton.mpr h
  have hnumber : IsJson "1.5E3".toList :=
    .number ⟨[], ['1'], ['.', '5'], ['E', '3'], rfl, by decide,
      .inr ⟨'1', [], rfl, rfl, by decide, nofun⟩, .inr ⟨['5'], rfl, by decide, hdigit _ rfl⟩,
      .inr ⟨'E', [], ['3'], rfl, by decide, by decide, by decide, hdigit _ rfl⟩⟩
  have hstring : IsJson " \"\\ud800\"".toList :=
    .blankBefore rfl (.string (.unit (List.all_eq_true.mp (by decide)) .nil))
  have hname : IsName "\"k\"".toList :=
    ⟨[], ['k'], [], rfl, nofun, .plain (by decide) (by decide) (by decide) .nil, nofun⟩
  have hobject : IsJson "\x7b\"k\": \"\\ud800\"\x7d".toList :=
    @IsJson.object [⟨"\"k\"".toList, " \"\\ud800\"".toList⟩]
      (List.forall_mem_singleton.mpr hname) (List.forall_mem_singleton.mpr hstring)
  exact IsJson.array (List.forall_mem_cons.mpr ⟨hnumber, List.forall_mem_singleton.mpr hobject⟩)

/-- The tag of the text says the same as the tag. -/
theorem isObjectOf_leapTag : IsObjectOf (Tag.fields ⟨7, "x"⟩)
    "\x7b\"by\":null,\"label\":\"x\",\"id\":7\x7d".toList := by
  refine ⟨Tag.fields ⟨7, "x"⟩, [], (Tag.fields ⟨7, "x"⟩ ++ [Field.foreign "by"]).reverse, ["by"],
    [⟨quote "by", "null".toList⟩, ⟨quote "label", (Value.string "x").write⟩,
      ⟨quote "id", (Value.integer 7).write⟩], by simp, nofun, ?_, List.reverse_perm _, ?_,
    by decide +kernel⟩
  · simp [Tag.fields, Field.always]
  · exact .cons (Field.isEntry_quote .null) <| .cons (Field.isEntry_quote rfl) <|
      .cons (Field.isEntry_quote rfl) .nil

/-- The text says the same as the article. -/
theorem isObjectOf_leapText : IsObjectOf leapArticle.fields leapText := by
  let isKept (field : Field) : Bool := !(["description", "summary", "body", "author", "image_url",
    "duration"].contains field.name)
  refine ⟨leapArticle.fields.filter isKept, leapArticle.fields.filter (!isKept ·),
    (leapArticle.fields.filter isKept ++ [Field.foreign "more"]).reverse, ["more"],
    [⟨quote "more", "[1.5E3,\x7b\"k\": \"\\ud800\"\x7d]".toList⟩,
      ⟨quote "tags", "[\x7b\"by\":null,\"label\":\"x\",\"id\":7\x7d]".toList⟩,
      ⟨quote "last_modified", leapArticle.lastModified.toJson.write⟩,
      ⟨quote "published_at", leapArticle.publishedAt.toJson.write⟩,
      ⟨quote "canonical_url", (Value.string leapArticle.canonicalUrl).write⟩,
      ⟨quote "title", (Value.string leapArticle.title).write⟩,
      ⟨quote "external_id", (Value.integer leapArticle.externalId.toInt).write⟩,
      ⟨quote "source_id", (Value.string leapArticle.sourceId).write⟩],
    (List.filter_append_perm isKept _).symm, ?_, ?_, List.reverse_perm _, ?_, by decide +kernel⟩
  · simp [isKept, Article.fields, Field.always, Field.unlessIs, leapArticle]
  · simp [Article.fields, Field.always, Field.unlessIs]
  · exact .cons (Field.isEntry_quote isJson_more) <|
      .cons (Field.isEntry_quote ⟨_, .cons isObjectOf_leapTag .nil, rfl⟩) <|
      .cons (Field.isEntry_quote rfl) <| .cons (Field.isEntry_quote rfl) <|
      .cons (Field.isEntry_quote rfl) <| .cons (Field.isEntry_quote rfl) <|
      .cons (Field.isEntry_quote rfl) <| .cons (Field.isEntry_quote rfl) .nil

/-- The text is read as the article. -/
theorem articles_read_back_in_other_order :
    IsObjectOf leapArticle.fields leapText ∧
      Article.ofText (String.ofList leapText) = .ok leapArticle :=
  ⟨isObjectOf_leapText,
    (articles_read_back leapArticle (.initial "ecb") true .epoch).2.1 _ isObjectOf_leapText⟩

end FeedSync
