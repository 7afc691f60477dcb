import FeedSync.Feed.Page
import FeedSync.Proofs.Article.RoundTrip
import FeedSync.Proofs.Database.Articles

/-!
# When records were modified

The content API counts in milliseconds when a record was modified last; an article has an instant
instead. All that is decided by comparing articles — which version of a list is selected, whether it
is news, whether a store takes it in the place of another — is decided as the milliseconds compare.

## Main definitions

* `IsNewestRecord` — the newest record of its number, as the milliseconds tell.
* `TellsMillis` — what a store holds of each number, told in milliseconds.

## Main statements

* `mem_selectForSync_iff_millis` — the selection, told in milliseconds.
* `row?_commit_iff_grew`, `updates_iff_grew` — what the stores take in the place of another version.
* `milliseconds_keep_order` — milliseconds denote the points that can be represented, in order, and
  changes are seen exactly where they grew.
-/

namespace FeedSync.Feed

/-- What milliseconds denote is a point of time of whole microseconds. -/
theorem isWhole_of_ofEpochMillis? {millis : Int64} {t : Instant}
    (h : Instant.ofEpochMillis? millis = some t) : t.IsWhole := by
  refine ⟨Instant.isRegular_of_ofEpochMillis? h, ?_⟩
  rw [Instant.nanos_of_mk? h]
  omega

/-- An instant is read as it was from the JSON text that is written of it. -/
theorem decode_instant (t : Instant) :
    Json.Decoder.decode Instant.decoder t.toJson.compact = .ok t :=
  Json.decode_of_spells ((String.toList_ofList (l := t.toJson.write)).symm ▸ spells_instant t)

variable {now now' : Instant} {c c' : Content} {a a' : Article} {contents : List Content}
  {articles : List Article}

/-- The number of a record's article, and when it was modified. -/
theorem lastModified_of_toArticle (h : c.toArticle now = .ok a) :
    a.sourceId = sourceId ∧ a.externalId = c.id ∧
      Instant.ofEpochMillis? c.lastModified = some a.lastModified := by
  rw [Content.toArticle] at h
  split at h
  · nomatch h
  · nomatch h
  · next hmodified =>
      obtain rfl := Except.ok.inj h
      exact ⟨rfl, rfl, hmodified⟩

/-- Articles were modified in the order of the milliseconds of their records. -/
theorem lastModified_lt_iff (h : c.toArticle now = .ok a) (h' : c'.toArticle now' = .ok a') :
    a.lastModified < a'.lastModified ↔ c.lastModified < c'.lastModified :=
  Instant.lt_iff_of_ofEpochMillis? (lastModified_of_toArticle h).2.2
    (lastModified_of_toArticle h').2.2

/-- One article was modified no later than another if its record was. -/
theorem lastModified_le_iff (h : c.toArticle now = .ok a) (h' : c'.toArticle now' = .ok a') :
    a.lastModified ≤ a'.lastModified ↔ c.lastModified ≤ c'.lastModified := by
  rw [← not_lt, lastModified_lt_iff h' h, Int64.not_lt]

/-! ### The selection -/

/-- A record is the **newest of its number** in a list: those before it were modified strictly
earlier, and those after it no later, as milliseconds count. -/
def IsNewestRecord (contents : List Content) (c : Content) : Prop :=
  ∃ before after, contents = before ++ c :: after ∧
    (∀ b ∈ before, b.id = c.id → b.lastModified < c.lastModified) ∧
    ∀ b ∈ after, b.id = c.id → b.lastModified ≤ c.lastModified

/-- What holds of the articles of some records holds of the records, told of them. -/
theorem forall_mem_iff_of_map_eq {P : Article → Prop} {Q : Content → Prop}
    (h : contents.map (·.toArticle now) = articles.map .ok)
    (hiff : ∀ c a, c.toArticle now = .ok a → (P a ↔ Q c)) :
    (∀ a ∈ articles, P a) ↔ ∀ c ∈ contents, Q c := by
  constructor
  · intro hall c hc
    have hmem : c.toArticle now ∈ articles.map .ok := h ▸ List.mem_map_of_mem hc
    obtain ⟨a, ha, hmade⟩ := List.mem_map.mp hmem
    exact (hiff c a hmade.symm).mp (hall a ha)
  · intro hall a ha
    have hmem : .ok a ∈ contents.map (·.toArticle now) := h ▸ List.mem_map_of_mem ha
    obtain ⟨c, hc, hmade⟩ := List.mem_map.mp hmem
    exact (hiff c a hmade).mpr (hall c hc)

/-- **The latest versions are those of the newest records.** -/
theorem isLatest_iff_isNewestRecord (h : contents.map (·.toArticle now) = articles.map .ok) :
    IsLatest articles a ↔ ∃ c, IsNewestRecord contents c ∧ c.toArticle now = .ok a := by
  have hids {c d : Content} {b : Article} (hc : c.toArticle now = .ok a)
      (hb : d.toArticle now = .ok b) : b.externalId = a.externalId ↔ d.id = c.id := by
    rw [(lastModified_of_toArticle hb).2.1, (lastModified_of_toArticle hc).2.1]
  constructor
  · rintro ⟨before, after, rfl, hbefore, hafter⟩
    rw [List.map_append, List.map_cons, List.map_eq_append_iff] at h
    obtain ⟨earlier, rest, rfl, hearlier, hrest⟩ := h
    obtain ⟨c, later, rfl, hc, hlater⟩ := List.map_eq_cons_iff.mp hrest
    refine ⟨c, ⟨earlier, later, rfl, ?_, ?_⟩, hc⟩
    · exact (forall_mem_iff_of_map_eq hearlier fun d b hb =>
        imp_congr (hids hc hb) (lastModified_lt_iff hb hc)).mp hbefore
    · exact (forall_mem_iff_of_map_eq hlater fun d b hb =>
        imp_congr (hids hc hb) (lastModified_le_iff hb hc)).mp hafter
  · rintro ⟨c, ⟨earlier, later, rfl, hearlier, hlater⟩, hc⟩
    rw [List.map_append, List.map_cons, eq_comm, List.map_eq_append_iff] at h
    obtain ⟨before, rest, rfl, hbefore, hrest⟩ := h
    obtain ⟨a', after, rfl, ha', hafter⟩ := List.map_eq_cons_iff.mp hrest
    obtain rfl : a' = a := Except.ok.inj (ha'.trans hc)
    refine ⟨before, after, rfl, ?_, ?_⟩
    · exact (forall_mem_iff_of_map_eq hbefore.symm fun d b hb =>
        imp_congr (hids hc hb) (lastModified_lt_iff hb hc)).mpr hearlier
    · exact (forall_mem_iff_of_map_eq hafter.symm fun d b hb =>
        imp_congr (hids hc hb) (lastModified_le_iff hb hc)).mpr hlater

/-- What a store holds of some numbers, told in milliseconds. -/
def TellsMillis (held : Int64 → Option Int64) (stored : Int64 → Option Instant) : Prop :=
  ∀ id, Option.Rel (fun millis t => Instant.ofEpochMillis? millis = some t) (held id) (stored id)

/-- **An article is news if its record's milliseconds grew.** -/
theorem isNews_iff_grew {held : Int64 → Option Int64} {stored : Int64 → Option Instant}
    (hstored : TellsMillis held stored) (hc : c.toArticle now = .ok a) :
    isNews stored a = true ↔ ∀ millis, held c.id = some millis → millis < c.lastModified := by
  obtain ⟨-, hid, hmodified⟩ := lastModified_of_toArticle hc
  rw [isNews_iff, hid]
  have htells := hstored c.id
  revert htells
  generalize held c.id = millis, stored c.id = t
  rintro (htold | _)
  · simp only [Option.some.injEq, forall_eq']
    exact Instant.lt_iff_of_ofEpochMillis? htold hmodified
  · exact ⟨fun _ _ h => (nomatch h), fun _ _ h => (nomatch h)⟩

/-- **The selection in milliseconds**: selected are the articles of the newest records of each
number whose milliseconds grew, if the number was stored. -/
theorem mem_selectForSync_iff_millis {held : Int64 → Option Int64}
    {stored : Int64 → Option Instant} (h : contents.map (·.toArticle now) = articles.map .ok)
    (hstored : TellsMillis held stored) :
    a ∈ selectForSync articles stored ↔ ∃ c, IsNewestRecord contents c ∧ c.toArticle now = .ok a ∧
      ∀ millis, held c.id = some millis → millis < c.lastModified := by
  rw [mem_selectForSync, isLatest_iff_isNewestRecord h]
  constructor
  · rintro ⟨⟨c, hnewest, hc⟩, hnews⟩
    exact ⟨c, hnewest, hc, (isNews_iff_grew hstored hc).mp hnews⟩
  · rintro ⟨c, hnewest, hc, hgrew⟩
    exact ⟨⟨c, hnewest, hc⟩, (isNews_iff_grew hstored hc).mpr hgrew⟩

/-! ### The stores -/

/-- The articles of records with one number have one key. -/
theorem key_eq_of_id_eq (h : c.toArticle now = .ok a) (h' : c'.toArticle now' = .ok a')
    (hid : c.id = c'.id) : a.key = a'.key := by
  obtain ⟨hsource, hnumber, -⟩ := lastModified_of_toArticle h
  obtain ⟨hsource', hnumber', -⟩ := lastModified_of_toArticle h'
  rw [Article.key, Article.key, hsource, hsource', hnumber, hnumber', hid]

/-- **The store in memory takes the article of a record in the place of another** if the
milliseconds grew, and else keeps the row. -/
theorem row?_commit_iff_grew {s : Store} {row : StoredArticle} (id : Int64)
    (h : c.toArticle now = .ok row.article) (h' : c'.toArticle now' = .ok a')
    (hrow : s.row? a'.key = some row) :
    (s.commit (a'.writes id)).row? a'.key =
      some (if c.lastModified < c'.lastModified then { row with article := a' } else row) := by
  rw [Store.row?_commit_writes, if_pos rfl, hrow, StoredArticle.winner]
  simp only [lastModified_le_iff h' h, ← Int64.not_lt, ite_not]

/-- **The database updates the row of one version with that of another** if the milliseconds
grew. -/
theorem updates_iff_grew {old row : Database.Record} (h : c.toArticle now = .ok a)
    (h' : c'.toArticle now' = .ok a') (hold : Database.Shows old a) (hnew : Database.Shows row a') :
    (Database.Statement.articleInsert a').updates old row =
      decide (c.lastModified < c'.lastModified) :=
  (Database.updates_eq hold hnew (isWhole_of_ofEpochMillis? (lastModified_of_toArticle h).2.2)
    (isWhole_of_ofEpochMillis? (lastModified_of_toArticle h').2.2)).trans
      (decide_eq_decide.mpr (lastModified_lt_iff h h'))

/-! ### Order and identity -/

/-- **Milliseconds keep their order and identity.** They denote an instant exactly if their point
lies between the first and the last instant, and then the instant at this point, also when it was
written as JSON text and read back. Instants are ordered as the milliseconds that denote them, and
equal if these are. So a version is seen as later exactly where the milliseconds of its record grew:
when versions are selected from records, in any order and with repetitions; when the unit of work of
an article is committed in memory; and when its statement meets the row of another version in the
database, which moreover tells the instant as it was. -/
theorem milliseconds_keep_order :
    (∀ millis, (Instant.ofEpochMillis? millis).isSome = true ↔
      Instant.first.sinceEpoch ≤ millis.toInt * nanosPerMilli ∧
        millis.toInt * nanosPerMilli ≤ Instant.last.sinceEpoch) ∧
    (∀ millis t, Instant.ofEpochMillis? millis = some t →
      t.IsRegular ∧ t.sinceEpoch = millis.toInt * nanosPerMilli ∧
        Json.Decoder.decode Instant.decoder t.toJson.compact = .ok t ∧
        (Database.Timestamp.ofInstant t).toInstant? = some t) ∧
    (∀ millis millis' t t', Instant.ofEpochMillis? millis = some t →
      Instant.ofEpochMillis? millis' = some t' →
        (t < t' ↔ millis < millis') ∧ (t = t' ↔ millis = millis')) ∧
    (∀ (now : Instant) (c : Content) (a : Article), c.toArticle now = .ok a →
      Article.ofText a.toJson.compact = .ok a ∧
        a.lastModified.sinceEpoch = c.lastModified.toInt * nanosPerMilli) ∧
    (∀ (now : Instant) (contents : List Content) (articles : List Article) held stored,
      contents.map (·.toArticle now) = articles.map .ok → TellsMillis held stored →
        ∀ a, a ∈ selectForSync articles stored ↔
          ∃ c, IsNewestRecord contents c ∧ c.toArticle now = .ok a ∧
            ∀ millis, held c.id = some millis → millis < c.lastModified) ∧
    ∀ (now now' : Instant) (c c' : Content) (a a' : Article),
      c.toArticle now = .ok a → c'.toArticle now' = .ok a' → c.id = c'.id →
        (∀ (s : Store) (row : StoredArticle) (id : Int64), s.row? a.key = some row →
          row.article = a → (s.commit (a'.writes id)).row? a.key =
            some (if c.lastModified < c'.lastModified then { row with article := a' } else row)) ∧
        ∀ old row, Database.Shows old a → Database.Shows row a' →
          (Database.Statement.articleInsert a').updates old row =
            decide (c.lastModified < c'.lastModified) := by
  refine ⟨Instant.isSome_ofEpochMillis?_iff, fun millis t h => ?_,
    fun millis millis' t t' h h' => ?_, fun now c a h => ?_,
    fun now contents articles held stored h hstored a => ?_,
    fun now now' c c' a a' h h' hid => ⟨fun s row id hrow hrowa => ?_, fun old row hold hnew => ?_⟩⟩
  · exact ⟨Instant.isRegular_of_ofEpochMillis? h, Instant.sinceEpoch_of_ofEpochMillis? h,
      decode_instant t, Database.Timestamp.toInstant?_ofInstant (isWhole_of_ofEpochMillis? h)⟩
  · exact ⟨Instant.lt_iff_of_ofEpochMillis? h h', Instant.eq_iff_of_ofEpochMillis? h h'⟩
  · exact ⟨Article.ofText_eq a.isObjectOf_write,
      Instant.sinceEpoch_of_ofEpochMillis? (lastModified_of_toArticle h).2.2⟩
  · exact mem_selectForSync_iff_millis h hstored
  · subst hrowa
    rw [key_eq_of_id_eq h h' hid] at hrow ⊢
    exact row?_commit_iff_grew id h h' hrow
  · exact updates_iff_grew h h' hold hnew

/-! ### A millisecond before the year 0 -/

/-- A record of which only the milliseconds matter. -/
def recordModifiedAt (millis : Int64) : Content where
  id := 1
  title := ""
  description := none
  date := "2024-05-01T00:00:00Z"
  canonicalUrl := ""
  body := none
  tags := none
  leadMedia := none
  summary := none
  author := none
  duration := 0
  lastModified := millis

/-- The article of such a record. -/
def articleModifiedAt (t : Instant) : Article where
  sourceId := sourceId
  externalId := 1
  title := ""
  canonicalUrl := ""
  publishedAt := ⟨1714521600, 0, by decide, by decide, by decide⟩
  lastModified := t

/-- The first instant of 31 December of the year −2. -/
def beforeYearZero : Instant := ⟨-62198841600, 0, by decide, by decide, by decide⟩

/-- A millisecond before that. -/
def millisecondEarlier : Instant := ⟨-62198841601, 999000000, by decide, by decide, by decide⟩

/-- A store that holds the article of the earlier millisecond. -/
def storeOfEarlier : Store where
  articles := Table.empty.set (sourceId, 1) ⟨1, articleModifiedAt millisecondEarlier⟩

/-- Of two records that were modified a millisecond apart in the year −2, the later one is selected,
whether the earlier one is stored or stands in the same list, and the store takes it. -/
theorem milliseconds_before_year_zero :
    Instant.ofEpochMillis? (-62198841600001) = some millisecondEarlier ∧
    Instant.ofEpochMillis? (-62198841600000) = some beforeYearZero ∧
    millisecondEarlier < beforeYearZero ∧
    Json.Decoder.decode Instant.decoder millisecondEarlier.toJson.compact =
      .ok millisecondEarlier ∧
    articleModifiedAt beforeYearZero ∈
      selectForSync [articleModifiedAt millisecondEarlier, articleModifiedAt beforeYearZero]
        (fun _ => some millisecondEarlier) ∧
    (storeOfEarlier.commit ((articleModifiedAt beforeYearZero).writes 1)).row? (sourceId, 1) =
      some ⟨1, articleModifiedAt beforeYearZero⟩ := by
  obtain ⟨-, hdenoted, horder, -, hselected, hstored⟩ := milliseconds_keep_order
  have hearlier : Instant.ofEpochMillis? (-62198841600001) = some millisecondEarlier := rfl
  have hlater : Instant.ofEpochMillis? (-62198841600000) = some beforeYearZero := rfl
  have hrecord : (recordModifiedAt (-62198841600001)).toArticle .epoch =
      .ok (articleModifiedAt millisecondEarlier) := by decide +kernel
  have hrecord' : (recordModifiedAt (-62198841600000)).toArticle .epoch =
      .ok (articleModifiedAt beforeYearZero) := by decide +kernel
  refine ⟨hearlier, hlater, (horder _ _ _ _ hearlier hlater).1.mpr (by decide),
    (hdenoted _ _ hearlier).2.2.1, ?_, ?_⟩
  · refine (hselected .epoch
      [recordModifiedAt (-62198841600001), recordModifiedAt (-62198841600000)]
      [articleModifiedAt millisecondEarlier, articleModifiedAt beforeYearZero]
      (fun _ => some (-62198841600001)) _ (congrArg₂ (fun a b => [a, b]) hrecord hrecord')
      (fun _ => .some hearlier) _).mpr
        ⟨recordModifiedAt (-62198841600000), ⟨[_], [], rfl, ?_, nofun⟩, hrecord', ?_⟩
    · exact List.forall_mem_singleton.mpr fun _ => by decide
    · rintro _ ⟨⟩
      decide
  · exact ((hstored _ _ _ _ _ _ hrecord hrecord' rfl).1 storeOfEarlier _ 1 rfl rfl).trans
      (congrArg some (if_pos (by decide)))

end FeedSync.Feed
