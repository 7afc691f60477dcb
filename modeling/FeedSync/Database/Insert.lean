import FeedSync.Database.Value

/-!
# Inserting or updating rows

The statement that inserts rows and, where a row with the same key is there already, overwrites
some of its columns instead. It is kept as data, so that its text and its meaning come from the same
value.
-/

namespace FeedSync.Database

/-- A statement that inserts rows or updates those that are there. -/
structure Insert where
  table : String
  columns : List String
  /-- The new rows, in the order of the columns. -/
  rows : List (List Value)
  /-- The columns that identify a row. -/
  key : List String
  /-- The columns of a row that is there which take the values of the new row. -/
  overwritten : List String
  /-- The columns of a row that is there which take the time of the statement. -/
  stamped : List String := []
  /-- A row that is there is updated only if its value in this column is less than the new one. -/
  rising : Option String := none
  /-- The column that is answered for each row inserted or updated. -/
  returning : Option String := none
  deriving DecidableEq, Repr

namespace Insert

/-- The placeholders of so many parameters after the given number of others. -/
def placeholders (before count : Nat) : List String :=
  (List.range count).map fun i => s!"${before + i + 1}"

/-- Words in parentheses. -/
def parenthesized (words : List String) : String := "(" ++ ", ".intercalate words ++ ")"

/-- The longest list of columns that stands on one line. -/
def shortList : Nat := 6

/-- Names of columns in parentheses; a long list stands on lines of its own. -/
def columnList (columns : List String) : String :=
  if columns.length ≤ shortList then parenthesized columns
  else "(\n    " ++ ", ".intercalate columns ++ "\n)"

/-- The placeholders of some rows, each in parentheses, after so many other parameters. -/
def rowList : (before : Nat) → List (List Value) → List String
  | _, [] => []
  | before, row :: rows =>
    parenthesized (placeholders before row.length) :: rowList (before + row.length) rows

/-- What a row that is there takes over. -/
def assignments (i : Insert) : List String :=
  i.overwritten.map (fun column => s!"{column} = EXCLUDED.{column}") ++
    i.stamped.map fun column => s!"{column} = NOW()"

/-- The text of the statement, with placeholders for the values. -/
def text (i : Insert) : String :=
  let lines := [
    s!"INSERT INTO {i.table} {columnList i.columns}",
    "VALUES " ++ ", ".intercalate (rowList 0 i.rows),
    s!"ON CONFLICT {parenthesized i.key} DO UPDATE SET",
    "    " ++ ",\n    ".intercalate i.assignments]
  let condition := i.rising.map fun column => s!"WHERE {i.table}.{column} < EXCLUDED.{column}"
  let answer := i.returning.map fun column => s!"RETURNING {column}"
  "\n".intercalate (lines ++ condition.toList ++ answer.toList)

/-- The values for the placeholders, in order. -/
def parameters (i : Insert) : List Value := i.rows.flatten

end Insert

end FeedSync.Database
