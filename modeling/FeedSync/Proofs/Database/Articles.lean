import FeedSync.Cycle.Save
import FeedSync.Proofs.Cycle.Scene
import FeedSync.Proofs.Database.Meaning
import FeedSync.Proofs.Store.Merging

/-!
# Articles in the database and in memory

Both stores keep one version of each article and take a later one in its place. The store in memory
replaces the article as a whole. The database names each column that takes a new value, and the
publication is not among them: its rows tell of each article when its first version was published.

The comparison is about points of time of whole microseconds, since a database keeps no finer ones.

## Main definitions

* `Shows` — a row shows an article.
* `retain` — what the table holds of an article when a version of it is written.
* `Mirrors` — a row shows the article that is stored, or there is neither.
* `writeArticle` — the writing of an article in a unit of work of its own.

## Main statements

* `run_upsert` — what the upsert of an article does in the database.
* `foldl_retain` — versions that are retained one after the other are those of a merge, but for the
  publication.
* `stores_agree_but_for_publication` — after the same articles were written, both stores hold the
  same of each article but the publication.
-/

namespace FeedSync

open Program

/-! ### Points of time of whole microseconds -/

/-- A point of time of whole microseconds, which a database keeps as it is. -/
def Instant.IsWhole (t : Instant) : Prop := t.nanos < nanosPerSecond ∧ t.nanos % 1000 = 0
  deriving Decidable

/-- An article with points of time of whole microseconds. -/
def Article.IsWhole (a : Article) : Prop := a.publishedAt.IsWhole ∧ a.lastModified.IsWhole
  deriving Decidable

namespace Database

/-- What a database keeps of a point of time of whole microseconds. -/
theorem Timestamp.micros_ofInstant {t : Instant} (h : t.IsWhole) :
    (ofInstant t).micros = (t.seconds - origin) * 1000000 + t.nanos / 1000 := by
  obtain ⟨k, hk⟩ := Nat.dvd_of_mod_eq_zero h.2
  have hsplit : (t.seconds - origin) * nanosPerSecond + t.nanos =
      1000 * ((t.seconds - origin) * 1000000 + k) := by
    have hnanos : (nanosPerSecond : Int) = 1000000000 := rfl
    rw [hnanos, hk]
    omega
  have hmicros : (ofInstant t).micros = (t.seconds - origin) * 1000000 + k :=
    (congrArg (·.tdiv 1000) hsplit).trans (Int.mul_tdiv_cancel_left _ (by decide))
  rw [hmicros, hk]
  omega

/-- A database compares points of time of whole microseconds as they are. -/
theorem Timestamp.ofInstant_lt {t u : Instant} (ht : t.IsWhole) (hu : u.IsWhole) :
    ofInstant t < ofInstant u ↔ t < u := by
  have htm := micros_ofInstant ht
  have hum := micros_ofInstant hu
  obtain ⟨htn, htw⟩ := ht
  obtain ⟨hun, huw⟩ := hu
  change (ofInstant t).micros < (ofInstant u).micros ↔ _
  rw [nanosPerSecond] at htn hun
  rw [htm, hum, Instant.lt_def]
  omega

/-- A database tells points of time of whole microseconds apart. -/
theorem Timestamp.ofInstant_inj {t u : Instant} (ht : t.IsWhole) (hu : u.IsWhole)
    (h : ofInstant t = ofInstant u) : t = u := by
  have htm := micros_ofInstant ht
  have hum := micros_ofInstant hu
  obtain ⟨htn, htw⟩ := ht
  obtain ⟨hun, huw⟩ := hu
  rw [h, hum] at htm
  rw [nanosPerSecond] at htn hun
  exact Instant.ext (by omega) (by omega)

/-- A database tells a point of time of whole microseconds as it was. -/
theorem Timestamp.toInstant?_ofInstant {t : Instant} (h : t.IsWhole) :
    (ofInstant t).toInstant? = some t := by
  have hmicros := micros_ofInstant h
  obtain ⟨hnanos, hwhole⟩ := h
  rw [nanosPerSecond] at hnanos
  rw [toInstant?, Instant.mk?_eq_some_iff, hmicros]
  omega

/-! ### Rows that show an article -/

open Statement (articleInsert)

/-- **A row shows an article**: it has an internal id, and in the columns that are written for an
article the values of this one. -/
structure Shows (row : Record) (a : Article) : Prop where
  id : ∃ id : Int64, row "id" = .ofInt64 id
  values : (articleInsert a).columns.map row = (articleInsert a).parameters

variable {row old : Record} {a b : Article} {now : Timestamp} {defaults : Record} {content : Keyed}
  {key : Article.Key}

/-- What is told of a text that may be missing tells which one it is. -/
theorem ofText?_injective : Function.Injective Value.ofText? := by
  rintro (_ | x) (_ | y) h
  · rfl
  · nomatch h
  · nomatch h
  · exact congrArg some (Value.text.inj h)

/-- **A row shows one article only**, up to its tags, if points of time are of whole
microseconds. -/
theorem Shows.unique (ha : Shows row a) (hb : Shows row b) (hwa : a.IsWhole) (hwb : b.IsWhole) :
    { a with tags := b.tags } = b := by
  have hsame : (articleInsert a).parameters = (articleInsert b).parameters :=
    ha.values.symm.trans hb.values
  obtain ⟨hsource, hid, htitle, hdescription, hsummary, hbody, hauthor, hurl, himage, hpublished,
      hmodified, hduration⟩ :
      a.sourceId = b.sourceId ∧ Value.ofInt64 a.externalId = .ofInt64 b.externalId ∧
        a.title = b.title ∧ Value.ofText? a.description = .ofText? b.description ∧
        Value.ofText? a.summary = .ofText? b.summary ∧ Value.ofText? a.body = .ofText? b.body ∧
        Value.ofText? a.author = .ofText? b.author ∧ a.canonicalUrl = b.canonicalUrl ∧
        Value.ofText? a.imageUrl = .ofText? b.imageUrl ∧
        Value.ofInstant a.publishedAt = .ofInstant b.publishedAt ∧
        Value.ofInstant a.lastModified = .ofInstant b.lastModified ∧
        a.duration.toInt = b.duration.toInt := by
    simpa [articleInsert, Insert.parameters] using hsame
  obtain ⟨sourceId, externalId, title, description, summary, body, author, canonicalUrl, imageUrl,
    publishedAt, lastModified, duration, tags⟩ := a
  obtain rfl := hsource
  obtain rfl := Int64.toInt_inj.mp (Value.integer.inj hid)
  obtain rfl := htitle
  obtain rfl := ofText?_injective hdescription
  obtain rfl := ofText?_injective hsummary
  obtain rfl := ofText?_injective hbody
  obtain rfl := ofText?_injective hauthor
  obtain rfl := hurl
  obtain rfl := ofText?_injective himage
  obtain rfl := Timestamp.ofInstant_inj hwa.1 hwb.1 (Value.time.inj hpublished)
  obtain rfl := Timestamp.ofInstant_inj hwa.2 hwb.2 (Value.time.inj hmodified)
  obtain rfl := Int32.toInt_inj.mp hduration
  rfl

/-- A row that shows an article has its key. -/
theorem Shows.keyOf_eq (h : Shows row b) : (articleInsert a).keyOf row = keyValues b.key :=
  congrArg (List.take 2) h.values

/-- A row that shows an article tells when it was modified. -/
theorem Shows.lastModified (h : Shows row a) : row "last_modified" = .ofInstant a.lastModified :=
  Option.some.inj (congrArg (·[10]?) h.values)

/-- In the columns of a statement the row that it proposes has the values of the statement. -/
theorem map_proposed (columns : List String) (values : List Value) (defaults : Record)
    (hlength : columns.length = values.length) (hnodup : columns.Nodup) :
    columns.map (fun column => ((columns.zip values).lookup column).getD (defaults column)) =
      values := by
  induction columns generalizing values with
  | nil => exact (List.eq_nil_of_length_eq_zero hlength.symm).symm
  | cons column columns ih =>
      obtain _ | ⟨value, values⟩ := values
      · nomatch hlength
      · obtain ⟨hfirst, hrest⟩ := List.nodup_cons.mp hnodup
        have hothers : columns.map (fun c =>
            (((column, value) :: columns.zip values).lookup c).getD (defaults c)) =
            columns.map fun c => ((columns.zip values).lookup c).getD (defaults c) := by
          refine List.map_congr_left fun c hc => ?_
          have hne : (c == column) = false := beq_false_of_ne fun h => hfirst (h ▸ hc)
          rw [List.lookup_cons, hne]
        rw [List.zip_cons_cons, List.map_cons, hothers, ih values (Nat.succ.inj hlength) hrest,
          List.lookup_cons, beq_self_eq_true]
        rfl

/-- **The row that is proposed for an article shows it.** -/
theorem shows_proposed (hid : ∃ id : Int64, defaults "id" = .ofInt64 id) :
    Shows ((articleInsert a).proposed defaults) a where
  id := hid
  values := map_proposed _ _ defaults rfl (by simp [articleInsert])

/-- A row is updated if it shows an earlier version. -/
theorem updates_eq (hold : Shows old b) (hnew : Shows row a) (hwb : b.lastModified.IsWhole)
    (hwa : a.lastModified.IsWhole) :
    (articleInsert a).updates old row = decide (b.lastModified < a.lastModified) := by
  change (old "last_modified").isBefore (row "last_modified") = _
  rw [hold.lastModified, hnew.lastModified]
  exact decide_eq_decide.mpr (Timestamp.ofInstant_lt hwb hwa)

/-- **A row that is updated shows the new version, but as it was first published.** -/
theorem shows_updated (hold : Shows old b) (hnew : Shows row a) (hkey : b.key = a.key) :
    Shows ((articleInsert a).updated now old row) { a with publishedAt := b.publishedAt } where
  id := hold.id
  values := by
    obtain ⟨hsource, hid⟩ := Prod.mk.inj hkey
    -- the columns that are not overwritten: the key, which is the same, and the publication
    have hkept : [old "source_id", old "external_id", old "published_at"] =
        [.text a.sourceId, .ofInt64 a.externalId, .ofInstant b.publishedAt] := by
      rw [← hsource, ← hid]
      exact congrArg (fun l => l.take 2 ++ (l.drop 9).take 1) hold.values
    have hnew := hnew.values
    simp only [articleInsert, Insert.parameters, List.map_cons, List.map_nil, List.cons.injEq,
      List.flatten_cons, List.flatten_nil, List.append_nil, and_true] at hkept hnew ⊢
    obtain ⟨hsource, hid, hpublished⟩ := hkept
    obtain ⟨-, -, htitle, hdescription, hsummary, hbody, hauthor, hurl, himage, -, hmodified,
      hduration⟩ := hnew
    exact ⟨hsource, hid, htitle, hdescription, hsummary, hbody, hauthor, hurl, himage, hpublished,
      hmodified, hduration⟩

/-! ### What the table holds of an article -/

/-- What the table holds of an article when a version of it is written: as in a merge, but the
publication of the version that was there stays. -/
def retain (stored : Option Article) (a : Article) : Article :=
  match stored with
  | some b => if a.lastModified ≤ b.lastModified then b else { a with publishedAt := b.publishedAt }
  | none => a

variable {stored : Option Article} {versions : List Article}

/-- What is retained is the version that was there, or has the key and the last modification of the
one that is written. -/
theorem retain_cases (stored : Option Article) (a : Article) :
    stored = some (retain stored a) ∨
      (retain stored a).key = a.key ∧ (retain stored a).lastModified = a.lastModified := by
  cases stored with
  | none => exact .inr ⟨rfl, rfl⟩
  | some b =>
      simp only [retain]
      split
      · exact .inl rfl
      · exact .inr ⟨rfl, rfl⟩

/-- A row of a table shows the article that is stored, or there is neither. -/
abbrev Mirrors (row : Option Record) (stored : Option Article) : Prop := Option.Rel Shows row stored

/-- Where a row shows an article, it has an internal id. -/
theorem exists_id_of_mirrors (h : Mirrors (some row) stored) :
    ∃ id : Int64, row "id" = .ofInt64 id := by
  cases h with
  | some h => exact h.id

/-- The statement that writes an article says where its row stands. -/
theorem put_keyValues (hnew : Shows row a) : (articleInsert a).put now row content (keyValues key) =
    if key = a.key then ((articleInsert a).written now row content).or (content (keyValues key))
    else content (keyValues key) := by
  rw [Insert.put, hnew.keyOf_eq]
  by_cases hkey : key = a.key
  · rw [if_pos (congrArg keyValues hkey), if_pos hkey]
  · rw [if_neg fun h => hkey (keyValues_injective h), if_neg hkey]

/-- **What writing an article makes of the table**: its row shows what is retained, and all other
rows stay. -/
theorem mirrors_put (h : Mirrors (content (keyValues key)) stored)
    (hstored : ∀ b, stored = some b → b.key = key ∧ b.lastModified.IsWhole)
    (hnew : Shows row a) (hwhole : a.lastModified.IsWhole) :
    Mirrors ((articleInsert a).put now row content (keyValues key))
      (if a.key = key then some (retain stored a) else stored) := by
  rw [put_keyValues hnew]
  by_cases hkey : key = a.key
  · subst hkey
    rw [if_pos rfl, if_pos rfl, Insert.written, hnew.keyOf_eq]
    cases hrow : content (keyValues a.key) with
    | none =>
        rw [hrow] at h
        cases h
        exact .some hnew
    | some old =>
        rw [hrow] at h
        cases h with
        | @some _ b hold =>
            obtain ⟨hbkey, hbwhole⟩ := hstored b rfl
            simp only [updates_eq hold hnew hbwhole hwhole, retain]
            by_cases hle : a.lastModified ≤ b.lastModified
            · rw [if_pos hle, if_neg (by simpa using hle)]
              exact .some hold
            · rw [if_neg hle, if_pos (by simpa using hle)]
              exact .some (shows_updated hold hnew hbkey)
  · rw [if_neg hkey, if_neg fun h => hkey h.symm]
    exact h

/-- Versions that are retained one after the other are those of a merge, as they were first
published. -/
theorem foldl_retain (stored : Option Article) (versions : List Article) :
    versions.foldl (fun stored a => some (retain stored a)) stored =
      (mergeAll stored versions).map fun b =>
        { b with publishedAt := ((stored.or versions.head?).getD b).publishedAt } := by
  have hsome : ∀ (versions : List Article) (b : Article) (publishedAt : Instant),
      versions.foldl (fun stored a => some (retain stored a)) (some { b with publishedAt }) =
        (mergeAll (some b) versions).map fun b => { b with publishedAt } := by
    intro versions
    induction versions with
    | nil => exact fun b publishedAt => rfl
    | cons a versions ih =>
        intro b publishedAt
        have hstep : retain (some { b with publishedAt }) a =
            { merge (some b) a with publishedAt } := by
          rw [retain, merge]
          split <;> rfl
        rw [List.foldl_cons, hstep, ih]
        rfl
  cases stored with
  | some b => exact hsome versions b b.publishedAt
  | none =>
      cases versions with
      | nil => rfl
      | cons a versions => exact hsome versions a a.publishedAt

/-! ### Writing an article -/

variable {Tx σ : Type} {server : (q : Request Tx) → StateM σ q.Reply} {table : σ → Keyed}
  {t : σ} {s : Store}

/-- A statement of which the first row is read. -/
theorem run_readFirst {α : Type} (purpose : String) {tx : Option Tx} {statement : Statement}
    (read : Row → Except DatabaseFault α) {rows : List Row} {t t' : σ}
    (h : server (.run tx statement) t = (.ok rows, t')) :
    run server (readFirst purpose tx statement read) t =
      ((rows.head?.mapM read).mapError (.query purpose), t') := by
  have hrun : run server (ask (.run tx statement)) t = (.ok rows, t') := h
  rw [readFirst, run_bind_of_run hrun]
  rfl

/-- The internal id in an answer of one row. -/
theorem mapM_idRow (h : ∃ id : Int64, row "id" = .ofInt64 id) :
    ∃ id, ((some [row "id"] : Option Row).mapM idRow) = .ok (some id) := by
  obtain ⟨id, hid⟩ := h
  refine ⟨id, ?_⟩
  rw [hid]
  change (some <$> Except.ok (Int64.ofInt id.toInt) : Except DatabaseFault _) = _
  rw [Int64.ofInt_toInt]
  rfl

/-- A statement that writes an article writes its row, or leaves the one that is there. -/
theorem written_cases (hnew : Shows row a) (h : Mirrors (content (keyValues a.key)) stored) :
    (∃ row', (articleInsert a).written now row content = some row' ∧
      ∃ id : Int64, row' "id" = .ofInt64 id) ∨
    ((articleInsert a).written now row content = none ∧
      ∃ old, content (keyValues a.key) = some old ∧ ∃ id : Int64, old "id" = .ofInt64 id) := by
  rw [Insert.written, hnew.keyOf_eq]
  cases hrow : content (keyValues a.key) with
  | none => exact .inl ⟨row, rfl, hnew.id⟩
  | some old =>
      rw [hrow] at h
      have hid := exists_id_of_mirrors h
      simp only
      split
      · exact .inl ⟨_, rfl, hid⟩
      · exact .inr ⟨rfl, old, rfl, hid⟩

/-- **An upsert in the database succeeds**, and is one statement that writes its article: where the
version that is there stays, its internal id is asked for. -/
theorem run_upsert (hserver : KeepsArticles server table) (tx : Tx)
    (h : Mirrors (table t (keyValues a.key)) stored) :
    ∃ id now row t', Shows row a ∧ run server (upsert tx a) t = (.ok id, t') ∧
      table t' = (articleInsert a).put now row (table t) := by
  obtain ⟨now, defaults, t₁, hid, hwrite, htable⟩ := hserver.upsert tx a t
  obtain ⟨t₂, hselect, htable'⟩ := hserver.articleId tx a.key t₁
  generalize hproposed : (articleInsert a).proposed defaults = new at hwrite htable
  have hnew : Shows new a := hproposed ▸ shows_proposed hid
  have hfirst := run_readFirst "記事のUPSERT" idRow hwrite
  rcases written_cases hnew h with ⟨row, hwritten, hrow⟩ | ⟨hwritten, old, hold, hrow⟩
  · obtain ⟨id, hread⟩ := mapM_idRow hrow
    have hanswer : (articleInsert a).answer now new (table t) = [[row "id"]] := by
      rw [Insert.answer, hwritten]
      rfl
    rw [hanswer, List.head?_cons, hread] at hfirst
    refine ⟨id, now, new, t₁, hnew, ?_, htable⟩
    rw [upsert, run_bind_of_run hfirst]
    rfl
  · obtain ⟨id, hread⟩ := mapM_idRow hrow
    have hanswer : (articleInsert a).answer now new (table t) = [] := by
      rw [Insert.answer, hwritten]
      rfl
    have hrows : idRows (table t₁) a.key = [[old "id"]] := by
      rw [idRows, htable, put_keyValues hnew, if_pos rfl, hwritten, hold]
      rfl
    change server (.run (some tx) (.articleId a.sourceId a.externalId)) t₁ = _ at hselect
    have hsecond := run_readFirst "既存記事IDの取得" idRow hselect
    rw [hanswer] at hfirst
    rw [hrows, List.head?_cons, hread] at hsecond
    refine ⟨id, now, new, t₂, hnew, ?_, htable'.trans htable⟩
    rw [upsert, run_bind_of_run hfirst]
    change run server (readFirst _ _ _ _ >>= _) t₁ = _
    rw [run_bind_of_run hsecond]
    rfl

/-- Writes an article in a unit of work of its own. -/
def writeArticle (a : Article) : Calls Tx (Except InfraError Int64) :=
  unitOfWork fun tx => call (.upsert tx a)

/-- **An article is written to the database.** -/
theorem run_writeArticle (hserver : KeepsArticles server table)
    (others : (c : External) → StateM σ c.Reply) (h : Mirrors (table t (keyValues a.key)) stored) :
    ∃ id now row t', Shows row a ∧ run (answer server others) (writeArticle a) t = (.ok id, t') ∧
      table t' = (articleInsert a).put now row (table t) := by
  obtain ⟨tx, t₁, hbegin, htable₁⟩ := hserver.begin t
  rw [← htable₁] at h
  obtain ⟨id, now, row, t₂, hnew, hupsert, htable₂⟩ := run_upsert hserver tx h
  obtain ⟨t₃, hcommit, htable₃⟩ := hserver.commit tx t₂
  refine ⟨id, now, row, t₃, hnew, ?_, ?_⟩
  · have hwritten : run (answer server others) (call (.upsert tx a)) t₁ = ((tx, .ok id), t₂) := by
      change ((tx, (run server (upsert tx a) t₁).1), (run server (upsert tx a) t₁).2) = _
      rw [hupsert]
    exact run_unitOfWork hbegin hwritten hcommit
  · rw [htable₃, htable₂, htable₁]

/-- **An article is written to a store in memory.** -/
theorem run_writeArticle_memory (external : (c : External) → c.Reply)
    (hmem : a.externalId ∉ s.plan.upserts) :
    ∃ id s', run (Store.answer external) (writeArticle a) s = (.ok id, s') ∧ s'.plan = s.plan ∧
      ∀ key, s'.articleOf key =
        if a.key = key then some (merge (s.articleOf key) a) else s.articleOf key := by
  let s₁ := (Store.upsert [] a s).2
  let tx : Transaction := [.article (s.idOf a.key) a]
  have hs₁ : s₁ = { s with lastId := _, counts.upserts := _ } := Store.upsert_snd [] a s
  have hupsert : run (Store.answer external) (call (.upsert [] a)) s =
      ((tx, .ok (s.idOf a.key)), s₁) := by
    change ((Store.upsert [] a s).1, s₁) = _
    rw [Store.upsert_of_not_mem hmem]
    rfl
  refine ⟨s.idOf a.key, s₁.commit tx, ?_, ?_, fun key => ?_⟩
  · rw [writeArticle, unitOfWork]
    change run (Store.answer external) (call (.upsert [] a) >>= _) s = _
    rw [run_bind_of_run hupsert]
    rfl
  · rw [Store.commit_eq, hs₁]
  · have hrow : ∀ k, s₁.row? k = s.row? k := fun k => by rw [hs₁]; rfl
    change ((s₁.apply (.article _ a)).row? key).map _ = _
    rw [Store.row?_apply_article, hrow, hrow]
    by_cases hkey : key = a.key
    · subst hkey
      rw [if_pos rfl, if_pos rfl, Option.map_some, StoredArticle.article_winner]
      rfl
    · rw [if_neg hkey, if_neg fun h => hkey h.symm]
      rfl

/-! ### Writing many articles -/

variable {articles : List Article}

/-- One more version of an article in a list. -/
theorem versionsOf_cons (key : Article.Key) (a : Article) (articles : List Article) :
    versionsOf key (a :: articles) =
      if a.key = key then a :: versionsOf key articles else versionsOf key articles := by
  rw [versionsOf, List.filter_cons]
  by_cases hkey : a.key = key
  · rw [if_pos hkey, if_pos (decide_eq_true hkey)]
    rfl
  · rw [if_neg hkey, if_neg (by simpa using hkey)]
    rfl

/-- What is stored of each key when an article is written, and is combined with what is stored of
its key. -/
def write (combine : Option Article → Article → Article) (shown : Article.Key → Option Article)
    (a : Article) : Article.Key → Option Article :=
  fun key => if a.key = key then some (combine (shown key) a) else shown key

/-- Articles that are written one after the other are combined key by key. -/
theorem foldl_write (combine : Option Article → Article → Article) (articles : List Article)
    (shown : Article.Key → Option Article) (key : Article.Key) :
    articles.foldl (write combine) shown key =
      (versionsOf key articles).foldl (fun stored a => some (combine stored a)) (shown key) := by
  induction articles generalizing shown with
  | nil => rfl
  | cons a articles ih =>
      rw [List.foldl_cons, ih, versionsOf_cons, write]
      split <;> rfl

/-- **Articles are written to the database one after the other**: what the table holds of each key
are the versions of this key, retained in order. -/
theorem run_writeArticles (hserver : KeepsArticles server table)
    (others : (c : External) → StateM σ c.Reply) (hwhole : ∀ a ∈ articles, a.lastModified.IsWhole)
    {shown : Article.Key → Option Article}
    (hshown : ∀ key b, shown key = some b → b.key = key ∧ b.lastModified.IsWhole)
    (h : ∀ key, Mirrors (table t (keyValues key)) (shown key)) :
    let r := run (answer server others) (articles.mapM writeArticle) t
    (∀ reply ∈ r.1, reply.isOk = true) ∧ ∀ key, Mirrors (table r.2 (keyValues key))
      ((versionsOf key articles).foldl (fun stored a => some (retain stored a)) (shown key)) := by
  -- the table shows articles of their keys, with points of time that the database can compare
  let known (t : σ) (shown : Article.Key → Option Article) : Prop :=
    (∀ key b, shown key = some b → b.key = key ∧ b.lastModified.IsWhole) ∧
      ∀ key, Mirrors (table t (keyValues key)) (shown key)
  have hstep : ∀ a ∈ articles, ∀ t shown, known t shown → ∃ id t',
      run (answer server others) (writeArticle a) t = (.ok id, t') ∧
        known t' (write retain shown a) := by
    rintro a ha t shown ⟨hshown, h⟩
    obtain ⟨id, now, row, t₁, hnew, hrun, htable⟩ := run_writeArticle hserver others (h a.key)
    refine ⟨id, t₁, hrun, fun key b hb => ?_, fun key =>
      htable ▸ mirrors_put (h key) (hshown key) hnew (hwhole a ha)⟩
    rw [write] at hb
    split at hb
    · next hkey =>
        obtain rfl := Option.some.inj hb
        rcases retain_cases (shown key) a with hstays | ⟨hsame, hlast⟩
        · exact hshown key _ hstays
        · exact ⟨hsame.trans hkey, hlast ▸ hwhole a ha⟩
    · exact hshown key b hb
  obtain ⟨hreplies, -, htables⟩ := run_mapM_of_forall hstep (v := shown) ⟨hshown, h⟩
  exact ⟨hreplies, fun key => foldl_write retain articles shown key ▸ htables key⟩

/-- **Articles are written to a store in memory one after the other**: their versions are merged. -/
theorem run_writeArticles_memory (external : (c : External) → c.Reply)
    (hmem : ∀ a ∈ articles, a.externalId ∉ s.plan.upserts) :
    let r := run (Store.answer external) (articles.mapM writeArticle) s
    (∀ reply ∈ r.1, reply.isOk = true) ∧
      ∀ key, r.2.articleOf key = mergeAll (s.articleOf key) (versionsOf key articles) := by
  have hstep : ∀ a ∈ articles, ∀ (s' : Store) (shown : Article.Key → Option Article),
      s'.plan = s.plan ∧ (∀ key, s'.articleOf key = shown key) → ∃ id s₁,
        run (Store.answer external) (writeArticle a) s' = (.ok id, s₁) ∧
          s₁.plan = s.plan ∧ ∀ key, s₁.articleOf key = write merge shown a key := by
    rintro a ha s' shown ⟨hplan, hshown⟩
    obtain ⟨id, s₁, hrun, hplan₁, harticles⟩ :=
      run_writeArticle_memory external (hplan ▸ hmem a ha)
    refine ⟨id, s₁, hrun, hplan₁.trans hplan, fun key => ?_⟩
    rw [harticles, hshown]
    rfl
  obtain ⟨hreplies, -, harticles⟩ :=
    run_mapM_of_forall hstep (v := s.articleOf) ⟨rfl, fun key => rfl⟩
  exact ⟨hreplies, fun key => (harticles key).trans (foldl_write merge articles _ key)⟩

/-- The version of an article that is there first: the one that is stored, or the first of those
that are written. -/
def firstVersion (s : Store) (articles : List Article) (key : Article.Key) : Option Article :=
  (s.articleOf key).or (versionsOf key articles).head?

/-- What is merged from points of time of whole microseconds has only such. -/
theorem isWhole_of_mergeAll {versions : List Article} (h : mergeAll stored versions = some b)
    (hstored : ∀ c, stored = some c → c.IsWhole) (hversions : ∀ c ∈ versions, c.IsWhole) :
    b.IsWhole := by
  rcases (isNewest_of_mergeAll h).origin with hold | ⟨hnew, -⟩
  · exact hstored b hold
  · exact hversions b hnew

/-- A row that shows an article with some publication shows the article itself if this is its
own. -/
theorem mirrors_iff_publishedAt {row : Option Record} {publishedAt : Instant}
    (h : Mirrors row (some { b with publishedAt })) (hb : b.IsWhole)
    (hpublished : publishedAt.IsWhole) : Mirrors row (some b) ↔ b.publishedAt = publishedAt := by
  constructor
  · intro hsame
    cases h with
    | some hshows =>
        cases hsame with
        | some hsame =>
            exact (congrArg Article.publishedAt
              (hshows.unique hsame ⟨hpublished, hb.2⟩ hb)).symm
  · rintro rfl
    exact h

/-- **The stores agree on everything but the publication.** Where a database and a store in memory
hold the same articles, and the same articles are written to both, each in a unit of work of its
own, all of them are committed, and a row shows what the store in memory holds of its key, but with
the publication of the version that was there first. So the stores agree on a key if and only if the
version that has won was published when the first one was. -/
theorem stores_agree_but_for_publication (hserver : KeepsArticles server table)
    (others : (c : External) → StateM σ c.Reply) (external : (c : External) → c.Reply)
    (hreachable : s.Reachable)
    (hagree : ∀ key, Mirrors (table t (keyValues key)) (s.articleOf key))
    (hstored : ∀ key b, s.articleOf key = some b → b.IsWhole)
    (hwhole : ∀ a ∈ articles, a.IsWhole)
    (hmem : ∀ a ∈ articles, a.externalId ∉ s.plan.upserts) :
    let r := run (answer server others) (articles.mapM writeArticle) t
    let r' := run (Store.answer external) (articles.mapM writeArticle) s
    let published (key : Article.Key) (b : Article) : Instant :=
      ((firstVersion s articles key).getD b).publishedAt
    (∀ reply ∈ r.1, reply.isOk = true) ∧ (∀ reply ∈ r'.1, reply.isOk = true) ∧
      (∀ key, Mirrors (table r.2 (keyValues key)) ((r'.2.articleOf key).map fun b =>
        { b with publishedAt := published key b })) ∧
      ∀ key b, r'.2.articleOf key = some b →
        (Mirrors (table r.2 (keyValues key)) (some b) ↔ b.publishedAt = published key b) := by
  intro r r' published
  obtain ⟨_, hreachable⟩ := hreachable
  have hshown : ∀ key b, s.articleOf key = some b → b.key = key ∧ b.lastModified.IsWhole := by
    intro key b hb
    obtain ⟨row, hrow, rfl⟩ := Option.map_eq_some_iff.mp hb
    exact ⟨hreachable.sound.keyed key row hrow, (hstored key _ hb).2⟩
  obtain ⟨hreplies, htable⟩ :=
    run_writeArticles hserver others (fun a ha => (hwhole a ha).2) hshown hagree
  obtain ⟨hreplies', harticles⟩ := run_writeArticles_memory external hmem
  have hmirrors : ∀ key, Mirrors (table r.2 (keyValues key)) ((r'.2.articleOf key).map fun b =>
      { b with publishedAt := published key b }) := fun key => by
    have hkey := htable key
    rw [foldl_retain, ← harticles key] at hkey
    exact hkey
  refine ⟨hreplies, hreplies', hmirrors, fun key b hb => ?_⟩
  have hshows := hmirrors key
  rw [hb, Option.map_some] at hshows
  rw [harticles key] at hb
  have hversions : ∀ a ∈ versionsOf key articles, a.IsWhole := fun a ha =>
    hwhole a (mem_versionsOf.mp ha).1
  have hb : b.IsWhole := isWhole_of_mergeAll hb (hstored key) hversions
  have hfirst : (published key b).IsWhole := by
    simp only [published]
    cases hc : firstVersion s articles key with
    | none => exact hb.1
    | some c =>
        rcases Option.or_eq_some_iff.mp hc with hold | ⟨-, hnew⟩
        · exact (hstored key c hold).1
        · exact (hversions c (List.mem_of_mem_head? hnew)).1
  exact mirrors_iff_publishedAt hshows hb hfirst

/-- A later version of an article tells another publication: the store in memory holds it, and the
row does not show it. -/
theorem stores_differ_on_later_publication :
    let earlier := Article.bare 1 .sooner []
    let later := { Article.bare 1 .later [] with publishedAt := .later }
    let external := (Replies.listing []).external []
    let server := ArticleTable.answer (.ofInstant .later)
    let r := run (answer server fun c => return external c) ([earlier, later].mapM writeArticle) {}
    let r' := run (Store.answer external) ([earlier, later].mapM writeArticle) {}
    (∀ reply ∈ r.1, reply.isOk = true) ∧ r'.2.articleOf later.key = some later ∧
      ¬ Mirrors (r.2.rows (keyValues later.key)) (some later) := by
  intro earlier later external server r r'
  have hwhole : ∀ a ∈ [earlier, later], a.IsWhole := by decide
  obtain ⟨hreplies, -, -, hagree⟩ :=
    stores_agree_but_for_publication (keepsArticles_articleTable _) (fun c => return external c)
      external (t := {}) (s := {}) ⟨fun _ => [], .start {}⟩ (fun _ => .none) (fun _ _ => nofun)
      hwhole (by decide)
  have hlater : r'.2.articleOf later.key = some later := by decide +kernel
  refine ⟨hreplies, hlater, fun h => ?_⟩
  have hpublished : later.publishedAt = earlier.publishedAt := (hagree later.key later hlater).mp h
  exact absurd hpublished (by decide)

end Database

end FeedSync
