import FeedSync.Error
import FeedSync.Time.Instant

/-!
# Values of a database

What statements hand to the database and what rows hold. The database keeps points of time as whole
microseconds counted from the start of 2000; what is finer is cut off towards that moment.
-/

namespace FeedSync.Database

/-- A point of time as the database keeps it. -/
structure Timestamp where
  /-- Microseconds from 1 January 2000 00:00:00 UTC. -/
  micros : Int
  deriving DecidableEq, Repr

namespace Timestamp

/-- The start of 2000 in seconds from the start of 1970. -/
def origin : Int := 946684800

/-- An instant as the database keeps it. A leap second counts as the second after it. -/
def ofInstant (t : Instant) : Timestamp :=
  ⟨((t.seconds - origin) * nanosPerSecond + t.nanos).tdiv 1000⟩

/-- The instant of a timestamp, if it can be represented. -/
def toInstant? (t : Timestamp) : Option Instant :=
  Instant.mk? (origin + t.micros / 1000000) ((t.micros % 1000000).toNat * 1000)

instance : LT Timestamp := ⟨fun s t => s.micros < t.micros⟩

instance (s t : Timestamp) : Decidable (s < t) := inferInstanceAs (Decidable (s.micros < t.micros))

end Timestamp

/-- A value. -/
inductive Value where
  | null
  | text (value : String)
  | integer (value : Int)
  | integers (values : List Int64)
  | time (value : Timestamp)
  deriving DecidableEq, Repr

namespace Value

/-- A text that may be missing. -/
def ofText? : Option String → Value
  | some value => .text value
  | none => .null

/-- A 64-bit integer. -/
def ofInt64 (i : Int64) : Value := .integer i.toInt

/-- An instant. -/
def ofInstant (t : Instant) : Value := .time (.ofInstant t)

/-- An instant that may be missing. -/
def ofInstant? : Option Instant → Value
  | some t => .ofInstant t
  | none => .null

end Value

/-- A row of a result. -/
abbrev Row := List Value

namespace Row

/-- The 64-bit integer in a column; errors call the column by the given name. -/
def int64 (row : Row) (column : Nat) (name : String) : Except DatabaseFault Int64 :=
  match row[column]? with
  | some (.integer i) => .ok (Int64.ofInt i)
  | _ => .error (.columnDecode name)

/-- The text in a column. -/
def text (row : Row) (column : Nat) (name : String) : Except DatabaseFault String :=
  match row[column]? with
  | some (.text value) => .ok value
  | _ => .error (.columnDecode name)

/-- The instant in a column that may be empty. -/
def time? (row : Row) (column : Nat) (name : String) : Except DatabaseFault (Option Instant) :=
  match row[column]? with
  | some .null => .ok none
  | some (.time t) =>
    match t.toInstant? with
    | some t => .ok (some t)
    | none => .error (.columnDecode name)
  | _ => .error (.columnDecode name)

/-- The instant in a column. -/
def time (row : Row) (column : Nat) (name : String) : Except DatabaseFault Instant := do
  match ← row.time? column name with
  | some t => .ok t
  | none => .error (.columnDecode name)

end Row

end FeedSync.Database
