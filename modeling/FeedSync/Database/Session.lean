import FeedSync.Database.Migration
import FeedSync.Database.Statement
import FeedSync.Program

/-!
# Talking to a database

What programs ask a database. Statements run either on any free connection or in a transaction, of
which a program holds the handle.
-/

namespace FeedSync.Database

/-- What is known of the migrations that were applied. -/
structure Ledger where
  /-- The versions that were applied, each with the digest of its text. -/
  applied : List (Int64 × String) := []
  /-- A version of which only a part was applied. -/
  dirty : Option Int64 := none
  deriving DecidableEq, Repr

/-- A request to a database. -/
inductive Request (Tx : Type) where
  /-- Begin a transaction. -/
  | begin
  /-- Make a transaction permanent. -/
  | commit (tx : Tx)
  /-- Take a transaction back. -/
  | rollback (tx : Tx)
  /-- Run a statement, in a transaction or outside of all. -/
  | run (tx : Option Tx) (statement : Statement)
  /-- Tell which migrations were applied. -/
  | ledger
  /-- Note in a transaction that a migration was applied. -/
  | record (tx : Tx) (migration : Migration)
  deriving DecidableEq, Repr

/-- The reply to a request. -/
@[reducible]
def Request.Reply {Tx : Type} : Request Tx → Type
  | .begin => Except DatabaseFault Tx
  | .commit _ => Except DatabaseFault Unit
  | .rollback _ => Except DatabaseFault Unit
  | .run _ _ => Except DatabaseFault (List Row)
  | .ledger => Except DatabaseFault Ledger
  | .record _ _ => Except DatabaseFault Unit

/-- The interface of a database. -/
abbrev Server (Tx : Type) : Interface := ⟨Request Tx, Request.Reply⟩

/-- A computation that asks a database. -/
abbrev Session (Tx : Type) (α : Type) := Program (Server Tx) α

/-- Asks a database. -/
abbrev ask {Tx : Type} (q : Request Tx) : Session Tx q.Reply := @Program.request (Server Tx) q

/-! ### Migrating -/

/-- Refuses a ledger that does not fit the known migrations. -/
def Ledger.check (ledger : Ledger) (known : List Migration) : Except MigrationFault Unit :=
  match ledger.dirty with
  | some version => .error (.dirty version)
  | none =>
    match ledger.applied.find? fun entry => known.all (·.version != entry.1) with
    | some entry => .error (.versionMissing entry.1)
    | none =>
      match known.find? fun m => ledger.applied.any fun entry =>
          entry.1 == m.version && entry.2 != m.digest with
      | some m => .error (.versionMismatch m.version)
      | none => .ok ()

/-- Applies one migration in a transaction. One that fails is left to the server to take back. -/
def applyMigration {Tx : Type} (m : Migration) : Session Tx (Except MigrationFault Unit) := do
  match ← ask .begin with
  | .error _ => return .error .execute
  | .ok tx =>
    match ← ask (.run (some tx) (.migrate m.sql)) with
    | .error _ => return .error .execute
    | .ok _ =>
      match ← ask (.record tx m) with
      | .error _ => return .error .execute
      | .ok () =>
        match ← ask (.commit tx) with
        | .error _ => return .error .execute
        | .ok () => return .ok ()

/-- Applies migrations in order until one fails. -/
def applyMigrations {Tx : Type} : List Migration → Session Tx (Except MigrationFault Unit)
  | [] => return .ok ()
  | m :: rest => do
    match ← applyMigration m with
    | .error fault => return .error fault
    | .ok () => applyMigrations rest

/-- Brings the tables up to date. -/
def migrate {Tx : Type} : Session Tx (Except InfraError Unit) := do
  let failed (fault : MigrationFault) : Except InfraError Unit :=
    .error (.query "データベースマイグレーション実行" (.migration fault))
  match ← ask .ledger with
  | .error _ => return failed .execute
  | .ok ledger =>
    match ledger.check Migration.all with
    | .error fault => return failed fault
    | .ok () =>
      let missing := Migration.all.filter fun m => ledger.applied.all (·.1 != m.version)
      match ← applyMigrations missing with
      | .error fault => return failed fault
      | .ok () => return .ok ()

end FeedSync.Database
