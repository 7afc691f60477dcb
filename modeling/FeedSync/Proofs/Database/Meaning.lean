import FeedSync.Cycle.Save
import FeedSync.Database.Store
import FeedSync.Proofs.Program

/-!
# What inserting or updating a row means

The statement that inserts a row, or updates the one with the same key, has the meaning that the
documentation of the database gives it: the values of the new row that the statement does not tell
are defaults; where a row has its key, some columns of that row take the new values, some the time
of the statement, and all others stay, if the condition of the statement holds of the two rows; the
answer has one row for the row that was inserted or updated, and none if the condition did not hold.

A server is not described any further than that. `KeepsArticles` says of one that it gives the
statements about articles this meaning, as a program sees it that no one else disturbs.

## Main definitions

* `Keyed` — a table, by the keys of its rows.
* `Insert.proposed`, `Insert.written`, `Insert.put`, `Insert.answer` — what a statement with one row
  does.
* `KeepsArticles` — a server that keeps articles.
* `ArticleTable` — one such server.

## Main statements

* `keepsArticles_articleTable` — that it is one.
* `run_unitOfWork` — a unit of work that nothing goes wrong in.
-/

namespace FeedSync.Database

open Program

/-- A row of a table, by the names of its columns. -/
abbrev Record := String → Value

/-- **A table**, by the values of the columns that identify a row: there is one row for them at
most. -/
abbrev Keyed := List Value → Option Record

/-- Whether a point of time is before another. -/
def Value.isBefore : Value → Value → Bool
  | .time s, .time t => s < t
  | _, _ => false

namespace Insert

variable (i : Insert)

/-- The value that a statement with one row tells for a column. -/
def given? (column : String) : Option Value := (i.columns.zip i.parameters).lookup column

/-- The row that a statement with one row proposes, given the defaults of the columns. -/
def proposed (defaults : Record) : Record := fun column => (i.given? column).getD (defaults column)

/-- The values of a row in the columns that identify it. -/
def keyOf (row : Record) : List Value := i.key.map row

/-- Whether a row that is there is updated. -/
def updates (old new : Record) : Bool :=
  match i.rising with
  | some column => (old column).isBefore (new column)
  | none => true

/-- A row that is there, when it was updated. -/
def updated (now : Timestamp) (old new : Record) : Record := fun column =>
  if column ∈ i.overwritten then new column
  else if column ∈ i.stamped then .time now
  else old column

/-- The row that is inserted or updated, if there is one. -/
def written (now : Timestamp) (new : Record) (table : Keyed) : Option Record :=
  match table (i.keyOf new) with
  | some old => if i.updates old new then some (i.updated now old new) else none
  | none => some new

/-- **What a table holds after a statement with one row.** -/
def put (now : Timestamp) (new : Record) (table : Keyed) : Keyed := fun key =>
  if key = i.keyOf new then (i.written now new table).or (table key) else table key

/-- The answer to a statement with one row. -/
def answer (now : Timestamp) (new : Record) (table : Keyed) : List Row :=
  match i.returning with
  | some column => (i.written now new table).toList.map fun row => [row column]
  | none => []

end Insert

/-- The values that identify the row of an article. -/
def keyValues (key : Article.Key) : List Value := [.text key.1, .ofInt64 key.2]

/-- Keys with the same values are the same. -/
theorem keyValues_injective : Function.Injective keyValues := by
  rintro ⟨sourceId, externalId⟩ ⟨sourceId', externalId'⟩ h
  obtain ⟨hsource, hid, -⟩ : Value.text sourceId = .text sourceId' ∧
      Value.ofInt64 externalId = .ofInt64 externalId' ∧ True := by simpa [keyValues] using h
  obtain rfl := Value.text.inj hsource
  obtain rfl := Int64.toInt_inj.mp (Value.integer.inj hid)
  rfl

/-- The answer to the question for the internal id of an article. -/
def idRows (table : Keyed) (key : Article.Key) : List Row :=
  (table (keyValues key)).toList.map fun row => [row "id"]

variable {Tx σ : Type}

/-- **A server that keeps articles**, where `table` tells the rows that it has in a state: it begins
and commits transactions, and the statements about single articles have their documented meaning. A
row that is inserted gets an internal id from the server. -/
structure KeepsArticles (server : (q : Request Tx) → StateM σ q.Reply) (table : σ → Keyed) :
    Prop where
  begin (t : σ) : ∃ tx t', server .begin t = (.ok tx, t') ∧ table t' = table t
  commit (tx : Tx) (t : σ) : ∃ t', server (.commit tx) t = (.ok (), t') ∧ table t' = table t
  upsert (tx : Tx) (a : Article) (t : σ) : ∃ (now : Timestamp) (defaults : Record) (t' : σ),
    let i := Statement.articleInsert a
    let new := i.proposed defaults
    (∃ id : Int64, defaults "id" = .ofInt64 id) ∧
      server (.run (some tx) (.upsertArticle a)) t = (.ok (i.answer now new (table t)), t') ∧
      table t' = i.put now new (table t)
  articleId (tx : Tx) (key : Article.Key) (t : σ) : ∃ t',
    server (.run (some tx) (.articleId key.1 key.2)) t = (.ok (idRows (table t) key), t') ∧
      table t' = table t

/-! ### A unit of work -/

/-- **A unit of work that nothing goes wrong in** is its work between the beginning of a transaction
and its commit. -/
theorem run_unitOfWork {α : Type} {server : (q : Request Tx) → StateM σ q.Reply}
    {others : (c : External) → StateM σ c.Reply} {work : Tx → Calls Tx (Tx × Except InfraError α)}
    {tx tx' : Tx} {answered : α} {t t₁ t₂ t₃ : σ} (hbegin : server .begin t = (.ok tx, t₁))
    (hwork : run (answer server others) (work tx) t₁ = ((tx', .ok answered), t₂))
    (hcommit : server (.commit tx') t₂ = (.ok (), t₃)) :
    run (answer server others) (unitOfWork work) t = (.ok answered, t₃) := by
  have hbegun : run (answer server others) (call .begin) t = (.ok tx, t₁) := by
    change ((server .begin t).1.mapError _, (server .begin t).2) = _
    rw [hbegin]
    rfl
  have hdone : run (answer server others) (call (.commit tx')) t₂ = (.ok (), t₃) := by
    change ((server (.commit tx') t₂).1.mapError _, (server (.commit tx') t₂).2) = _
    rw [hcommit]
    rfl
  rw [unitOfWork, run_bind_of_run hbegun]
  change run (answer server others) (work tx >>= _) t₁ = _
  rw [run_bind_of_run hwork]
  change run (answer server others) (call (.commit tx') >>= _) t₂ = _
  rw [run_bind_of_run hdone]
  rfl

/-! ### A server -/

/-- A database with nothing but articles, for one program at a time. -/
structure ArticleTable where
  rows : Keyed := fun _ => none
  /-- The internal id that was given out last. -/
  lastId : Int64 := 0
  /-- The rows when the transaction was begun. -/
  saved : Keyed := fun _ => none

namespace ArticleTable

/-- The defaults of a row that is inserted at some time. -/
def defaults (t : ArticleTable) (now : Timestamp) : Record := fun column =>
  if column = "id" then .ofInt64 (t.lastId + 1)
  else if column = "created_at" ∨ column = "updated_at" then .time now
  else .null

/-- Answers a request at some time. -/
def answer (now : Timestamp) : (q : Request Unit) → StateM ArticleTable q.Reply
  | .begin => fun t => (.ok (), { t with saved := t.rows })
  | .commit _ => fun t => (.ok (), t)
  | .rollback _ => fun t => (.ok (), { t with rows := t.saved })
  | .run _ (.upsertArticle a) => fun t =>
    let i := Statement.articleInsert a
    let new := i.proposed (t.defaults now)
    (.ok (i.answer now new t.rows), { t with rows := i.put now new t.rows, lastId := t.lastId + 1 })
  | .run _ (.articleId sourceId externalId) => fun t =>
    (.ok (idRows t.rows (sourceId, externalId)), t)
  | .run _ _ => fun t => (.error (.server "relation does not exist"), t)
  | .ledger => fun t => (.ok {}, t)
  | .record _ _ => fun t => (.ok (), t)

end ArticleTable

/-- The database with nothing but articles keeps them. -/
theorem keepsArticles_articleTable (now : Timestamp) :
    KeepsArticles (ArticleTable.answer now) ArticleTable.rows where
  begin _ := ⟨(), _, rfl, rfl⟩
  commit _ _ := ⟨_, rfl, rfl⟩
  upsert _ _ t := ⟨now, t.defaults now, _, ⟨_, if_pos rfl⟩, rfl, rfl⟩
  articleId _ _ _ := ⟨_, rfl, rfl⟩

end FeedSync.Database
