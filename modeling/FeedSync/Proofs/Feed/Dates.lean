import FeedSync.Proofs.Feed.Paging
import FeedSync.Proofs.Json.Places

/-!
# Records whose date cannot be read

The date of a record is a text as far as the page is concerned: whatever text stands there, or if
none does, the page is read, and every other record of it becomes the article that it becomes
anyway. Only the record itself is left out, if its date cannot be read. What is no text is another
matter: `null`, or a string with half of a surrogate pair, costs the whole page.

## Main definitions

* `Content.DateEdit`, `Page.DateEdit` — an edit of the date of a record, or of one of a page.
* `articlesOf` — the articles of some records.
* `twoRecords` — a page of two records, one of which may have anything for its date.

## Main statements

* `exists_dateEdit` — every date of a page can be edited.
* `one_date_costs_no_other_record` — what such an edit does to the articles of the page.
* `no_text_for_a_date_costs_the_page` — what is no text.
-/

namespace FeedSync.Feed

open Program FeedSync.Json FeedSync.Text

/-- **An edit of the date of a record**: any string that denotes the given text takes its place, or
the member is taken out, which leaves the empty text. -/
def Content.DateEdit (date : String) : Edit := fun old new =>
  Content.shape.InField "date" (fun part part' => IsJson part ∧ IsStringOf date part') old new ∨
    date = "" ∧ WithoutMember "date" old new

/-- **An edit of the date of one record of a page**; the records are counted from 0. -/
def Page.DateEdit (index : Nat) (date : String) : Edit :=
  Page.shape.InField "content" (InElement index (Content.DateEdit date))

/-- The articles of some records: of those whose times can both be read, in order. -/
def articlesOf (now : Instant) (contents : List Content) : List Article :=
  contents.filterMap fun c => (c.toArticle now).toOption

/-! ### What records and pages are built from -/

/-- A page is built from its two fields. -/
theorem Page.build_eq_ok_iff {find : String → Option Tree} {page : Page} :
    Page.shape.build find = .ok page ↔
      (Shape.defaulted "pageInfo" PageInfo.shape.decoder {}).build find = .ok page.info ∧
      (Shape.defaulted "content" (list Content.shape.decoder) []).build find =
        .ok page.content := by
  simp only [Page.shape, Shape.build_seq_eq_ok, Shape.build_map_eq_ok]
  constructor
  · rintro ⟨_, ⟨info, hinfo, rfl⟩, content, hcontent, rfl⟩
    exact ⟨hinfo, hcontent⟩
  · rintro ⟨hinfo, hcontent⟩
    exact ⟨_, ⟨page.info, hinfo, rfl⟩, page.content, hcontent, rfl⟩

/-- **The date of a record comes from its field**, and a record with another date is the same
record otherwise. -/
theorem Content.build_date {find : String → Option Tree} {c : Content}
    (h : Content.shape.build find = .ok c) :
    (Shape.defaulted "date" string "").build find = .ok c.date ∧
      ∀ tree date,
        (Shape.defaulted "date" string "").build (Function.update find "date" tree) = .ok date →
          Content.shape.build (Function.update find "date" tree) = .ok { c with date := date } := by
  simp only [Content.shape, Shape.build_seq_eq_ok, Shape.build_map_eq_ok] at h ⊢
  obtain ⟨_, ⟨_, ⟨_, ⟨_, ⟨_, ⟨_, ⟨_, ⟨_, ⟨_, ⟨_, ⟨_, ⟨id, hid, rfl⟩, title, htitle, rfl⟩,
    description, hdescription, rfl⟩, old, hold, rfl⟩, canonicalUrl, hcanonicalUrl, rfl⟩, body,
    hbody, rfl⟩, tags, htags, rfl⟩, leadMedia, hleadMedia, rfl⟩, summary, hsummary, rfl⟩, author,
    hauthor, rfl⟩, duration, hduration, rfl⟩, lastModified, hlastModified, rfl⟩ := h
  refine ⟨hold, fun tree date hdate => ?_⟩
  simp (disch := decide) only [Shape.required_update, Shape.optional_update,
    Shape.defaulted_update, hid, htitle, hdescription, hdate, hcanonicalUrl, hbody, htags,
    hleadMedia, hsummary, hauthor, hduration, hlastModified, Except.ok.injEq, exists_eq_left']

/-! ### What an edit does -/

/-- Any string takes the place of a date. -/
theorem carries_string (date : String) :
    Carries string (fun part part' => IsJson part ∧ IsStringOf date part') fun _ b => b = date := by
  rintro old new ⟨hold, hnew⟩
  obtain ⟨tree, htree⟩ := hold.exists_tree
  exact ⟨tree, _, htree, hnew.hasTree, fun _ _ => ⟨date, rfl, rfl⟩⟩

/-- **An edit of its date changes a record in nothing else.** -/
theorem carries_date (date : String) :
    Carries Content.shape.decoder (Content.DateEdit date) fun c c' =>
      c' = { c with date := date } := by
  rintro old new (hedit | ⟨rfl, hedit⟩)
  · refine Shape.carries_field (carries_string date) rfl ?_ old new hedit
    intro find tree tree' b b' c hfind hb hb' hdate hc
    refine ⟨_, (Content.build_date hc).2 _ _ ?_, rfl⟩
    simp only [Shape.defaulted, Function.update_self]
    rw [hb', hdate]
  · refine Shape.carries_withoutMember rfl ?_ old new hedit
    intro find tree c hfind hc
    refine ⟨_, (Content.build_date hc).2 _ _ ?_, rfl⟩
    simp only [Shape.defaulted, Function.update_self]

/-- **An edit of one date changes a page in nothing else.** -/
theorem carries_dateEdit (index : Nat) (date : String) :
    Carries Page.shape.decoder (Page.DateEdit index date) fun page page' => ∃ before c after,
      before.length = index ∧ page.content = before ++ c :: after ∧
        page' = { page with content := before ++ { c with date := date } :: after } := by
  refine Shape.carries_field ((carries_date date).element index) rfl ?_
  rintro find tree tree' _ _ page hfind hold hnew ⟨before, c, _, after, hindex, rfl, rfl, rfl⟩ hpage
  obtain ⟨hinfo, hcontent⟩ := Page.build_eq_ok_iff.mp hpage
  have hrecords : page.content = before ++ c :: after := by
    simp only [Shape.defaulted, hfind] at hcontent
    exact Except.ok.inj (hcontent.symm.trans hold)
  refine ⟨_, Page.build_eq_ok_iff.mpr ⟨?_, ?_⟩, before, c, after, hindex, hrecords, rfl⟩
  · rwa [Shape.defaulted_update (by decide)]
  · simp only [Shape.defaulted, Function.update_self]
    exact hnew

/-- **Any date of a page can be edited**: whatever the page looks like, there is an edit that puts
another text in the place of the date. -/
theorem exists_dateEdit {text : String} {page : Page} {before after : List Content} {c : Content}
    (hjson : IsJson text.toList) (hpage : Page.ofText text = .ok page)
    (hcontent : page.content = before ++ c :: after) (hdate : c.date ≠ "") (date : String) :
    ∃ new : String, Page.DateEdit before.length date text.toList new.toList := by
  obtain ⟨tree, htree⟩ := hjson.exists_tree
  rw [Page.ofText, decode_of_hasTree htree] at hpage
  obtain ⟨find, hbuild, hfields⟩ := Shape.exists_inField hjson htree hpage
  have hrecords := (Page.build_eq_ok_iff.mp hbuild).2
  rw [hcontent] at hrecords
  obtain ⟨trees, hfind, htrees⟩ := Shape.exists_of_defaulted hrecords (by simp)
  obtain ⟨array, harray, hasTrees, hpages⟩ := hfields _ _ hfind
  obtain ⟨tree, ⟨record, hrecord, hasTree, harrays⟩, hc⟩ :=
    exists_inElement_of_list harray hasTrees htrees
  obtain ⟨find, hbuild, hfields⟩ := Shape.exists_inField hrecord hasTree hc
  obtain ⟨tree, hfind, -⟩ := Shape.exists_of_defaulted (Content.build_date hbuild).1 hdate
  obtain ⟨part, hpart, -, hrecords⟩ := hfields _ _ hfind
  obtain ⟨record', hrecord'⟩ := hrecords (fun part part' => IsJson part ∧ IsStringOf date part')
    (quote date) ⟨hpart, isStringOf_quote date⟩
  obtain ⟨array', harray'⟩ := harrays (Content.DateEdit date) record' (.inl hrecord')
  obtain ⟨new, hnew⟩ := hpages (InElement before.length (Content.DateEdit date)) array' harray'
  refine ⟨String.ofList new, ?_⟩
  rw [String.toList_ofList]
  exact hnew

/-! ### Articles -/

/-- Some records become their articles. -/
theorem articles_eq_of_yields {now : Instant} {contents : List Content} {articles : List Article}
    {t : Trace Web} (h : Yields (toArticles now contents) t articles) :
    articles = articlesOf now contents := by
  induction contents generalizing t articles with
  | nil => exact h.2
  | cons c contents ih =>
      rw [toArticles] at h
      rw [articlesOf, List.filterMap_cons]
      cases hc : c.toArticle now with
      | ok a =>
          rw [hc] at h
          obtain ⟨_, _, rest, rfl, hrest, -, rfl⟩ := yields_bind.mp h
          exact congrArg (List.cons a) (ih hrest)
      | error omission =>
          rw [hc] at h
          obtain ⟨_, rest, rfl, hrest⟩ := yields_request_bind.mp h
          exact ih hrest

theorem articlesOf_around (now : Instant) (before after : List Content) (c : Content) :
    articlesOf now (before ++ c :: after) =
      articlesOf now before ++ ((c.toArticle now).toOption.toList ++ articlesOf now after) := by
  rw [articlesOf, List.filterMap_append, List.filterMap_cons]
  cases (c.toArticle now).toOption <;> rfl

/-- An empty date cannot be read. -/
theorem ofDateText?_empty (now : Instant) : Instant.ofDateText? now "" = none := rfl

theorem toArticle_of_unreadable {now : Instant} {c : Content}
    (h : Instant.ofDateText? now c.date = none) :
    c.toArticle now = .error (.publishedAt c.id c.date) := by
  rw [Content.toArticle, h]

/-! ### A page of two records -/

/-- A record with a number for its id and any text for its date. -/
def recordText (id : Int) (date : List Char) : List Char :=
  objectText [⟨quote "id", signedDecimal id⟩, ⟨quote "date", date⟩]

/-- A page of two records. The date of the first one has the given text. -/
def twoRecords (date : List Char) : String := String.ofList <|
  objectText [⟨quote "content", arrayText [recordText 1 date, recordText 2 (quote "2024-05-02")]⟩]

theorem isMember_id (id : Int) : Entry.IsMember ⟨quote "id", signedDecimal id⟩ :=
  ⟨(isStringOf_quote "id").isName, .number (isNumber_signedDecimal id)⟩

/-- The date of a record is edited. -/
theorem inField_recordText {edit : Edit} {date date' : List Char} (h : edit date date') (id : Int) :
    Content.shape.InField "date" edit (recordText id date) (recordText id date') :=
  .inl ⟨[], [⟨quote "id", signedDecimal id⟩], quote "date", date, date', [], [],
    List.forall_mem_nil _, List.forall_mem_nil _, isStringOf_quote "date",
    List.forall_mem_singleton.mpr (isMember_id id), h, by simp [recordText], by simp [recordText]⟩

/-- The first of the two records is edited. -/
theorem inField_twoRecords {edit : Edit} {date date' : List Char}
    (h : edit (recordText 1 date) (recordText 1 date')) :
    Page.shape.InField "content" (InElement 0 edit) (twoRecords date).toList
      (twoRecords date').toList := by
  have hdate : Entry.IsMember ⟨quote "date", quote "2024-05-02"⟩ :=
    ⟨(isStringOf_quote "date").isName, .string (isStringBody_escape _)⟩
  have hother : IsJson (recordText 2 (quote "2024-05-02")) :=
    isJson_objectText (List.forall_mem_cons.mpr
      ⟨isMember_id 2, List.forall_mem_singleton.mpr hdate⟩)
  refine .inl ⟨[], [], quote "content", _, _, [], [], List.forall_mem_nil _, List.forall_mem_nil _,
    isStringOf_quote "content", List.forall_mem_nil _, ⟨[], [], _, _, [_], [],
      List.forall_mem_nil _, List.forall_mem_nil _, rfl, List.forall_mem_singleton.mpr hother, h,
      rfl, rfl⟩, ?_, ?_⟩
  · simp [twoRecords]
  · simp [twoRecords]

/-- A record with an id and a date. -/
def bareRecord (id : Int64) (date : String) : Content where
  id
  title := ""
  description := none
  date
  canonicalUrl := ""
  body := none
  tags := none
  leadMedia := none
  summary := none
  author := none
  duration := 0
  lastModified := 0

/-- Surroundings in which every page has the same text. -/
def alwaysServing (text : String) : (q : Web.Request) → StateM Unit (Web.Reply q)
  | .get _ => pure (.ok text)
  | .wait _ => pure ()
  | .now => pure .epoch
  | .log _ => pure ()

/-- The ids of the articles that are fetched there from one page, if the fetch succeeds. -/
def fetchedIds (text : String) : Option (List Int64) :=
  (run (alwaysServing text) (fetch ⟨"https://example.com", 2, 2, 1000, 30000⟩ 1) ()).1.toOption.map
    (List.map Article.externalId)

/-! ### Any text, and what is no text -/

/-- **One date costs no other record.** Where any string takes the place of a record's date in a
page that can be read, or the date is taken out, the page can still be read; the articles of the
other records are what they were, and the record is left out if its date cannot be read. -/
theorem one_date_costs_no_other_record {index : Nat} {date old new : String} {page : Page}
    (hedit : Page.DateEdit index date old.toList new.toList) (hpage : Page.ofText old = .ok page) :
    ∃ before c after, before.length = index ∧ page.content = before ++ c :: after ∧
      Page.ofText new = .ok { page with content := before ++ { c with date := date } :: after } ∧
      ∀ {σ : Type} (handle : (q : Web.Request) → StateM σ (Web.Reply q)) (s s' : σ) (now : Instant),
        (run handle (toArticles now page.content) s).1 =
          articlesOf now before ++ ((c.toArticle now).toOption.toList ++ articlesOf now after) ∧
        (run handle (toArticles now (before ++ { c with date := date } :: after)) s').1 =
          articlesOf now before ++ (({ c with date := date }.toArticle now).toOption.toList ++
            articlesOf now after) ∧
        (date = "" ∨ Instant.ofDateText? now date = none →
          { c with date := date }.toArticle now = .error (.publishedAt c.id date)) := by
  obtain ⟨page', hnew, before, c, after, hindex, hcontent, rfl⟩ :=
    (carries_dateEdit index date).decode hedit hpage
  refine ⟨before, c, after, hindex, hcontent, hnew, fun handle s s' now => ⟨?_, ?_, ?_⟩⟩
  · rw [articles_eq_of_yields (yields_trace _ _).1, hcontent, articlesOf_around]
  · rw [articles_eq_of_yields (yields_trace _ _).1, articlesOf_around]
  · rintro (rfl | hdate)
    · exact toArticle_of_unreadable (ofDateText?_empty now)
    · exact toArticle_of_unreadable hdate

/-- A date that is none, in the first of two records: the second one stays. -/
theorem two_records_with_one_unreadable_date :
    Page.DateEdit 0 "not a date" (twoRecords (quote "2024-05-01")).toList
      (twoRecords (quote "not a date")).toList ∧
    Page.ofText (twoRecords (quote "2024-05-01")) =
      .ok ⟨{}, [bareRecord 1 "2024-05-01", bareRecord 2 "2024-05-02"]⟩ ∧
    Page.ofText (twoRecords (quote "not a date")) =
      .ok ⟨{}, [bareRecord 1 "not a date", bareRecord 2 "2024-05-02"]⟩ ∧
    ∀ now, (run (alwaysServing "") (toArticles now
      [bareRecord 1 "not a date", bareRecord 2 "2024-05-02"]) ()).1 =
        articlesOf now [bareRecord 2 "2024-05-02"] := by
  have hedit : Page.DateEdit 0 "not a date" (twoRecords (quote "2024-05-01")).toList
      (twoRecords (quote "not a date")).toList :=
    inField_twoRecords (.inl (inField_recordText
      ⟨.string (isStringBody_escape _), isStringOf_quote "not a date"⟩ 1))
  have hpage : Page.ofText (twoRecords (quote "2024-05-01")) =
      .ok ⟨{}, [bareRecord 1 "2024-05-01", bareRecord 2 "2024-05-02"]⟩ := by decide +kernel
  obtain ⟨before, c, after, hindex, hcontent, hnew, harticles⟩ :=
    one_date_costs_no_other_record hedit hpage
  obtain rfl := List.length_eq_zero_iff.mp hindex
  obtain ⟨rfl, rfl⟩ := List.cons.inj hcontent
  refine ⟨hedit, hpage, hnew, fun now => ?_⟩
  obtain ⟨-, hkept, hleft⟩ := harticles (alwaysServing "") () () now
  have hdate : Instant.ofDateText? now "not a date" = none := by rfl
  have hempty (articles : List Article) : articlesOf now [] ++ ([] ++ articles) = articles := rfl
  rw [hleft (.inr hdate)] at hkept
  exact hkept.trans (hempty _)

/-- A value in the place of the first record's date costs the page. -/
def CostsPage (date : List Char) : Prop :=
  Page.shape.InField "content" (InElement 0 (Content.shape.InField "date" fun _ new => new = date))
    (twoRecords (quote "2024-05-01")).toList (twoRecords date).toList ∧ IsJson date ∧
  (Page.ofText (twoRecords date)).toOption = none ∧ fetchedIds (twoRecords date) = none

/-- **What is no text costs the page**: `null` in the place of a date, and a string with one half of
a surrogate pair. With a date there, both records are fetched. -/
theorem no_text_for_a_date_costs_the_page :
    fetchedIds (twoRecords (quote "2024-05-01")) = some [1, 2] ∧
      CostsPage "null".toList ∧ CostsPage "\"\\ud800\"".toList := by
  have hhex : ∀ x ∈ ['d', '8', '0', '0'], (hexValue? x).isSome = true :=
    List.all_eq_true.mp (by decide)
  have hhalf : IsStringBody ['\\', 'u', 'd', '8', '0', '0'] := .unit hhex .nil
  refine ⟨?_, ⟨inField_twoRecords (inField_recordText ?_ 1), .null, ?_, ?_⟩,
    ⟨inField_twoRecords (inField_recordText ?_ 1), .string hhalf, ?_, ?_⟩⟩
  · decide +kernel
  · rfl
  · decide +kernel
  · decide +kernel
  · rfl
  · decide +kernel
  · decide +kernel

end FeedSync.Feed
