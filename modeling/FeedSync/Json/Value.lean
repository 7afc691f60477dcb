import FeedSync.Json.Text
import FeedSync.Text.Digits

/-!
# JSON values and their compact text

The values that the library writes as JSON. Their text has no blanks, members stand in the order in
which they are given, and integers have no leading zeros.
-/

namespace FeedSync.Json

open FeedSync.Text

/-- A value to be written as JSON. -/
inductive Value where
  | null
  | bool (value : Bool)
  | integer (value : Int)
  | string (value : String)
  | array (elements : List Value)
  | object (members : List (String × Value))
  deriving Inhabited

namespace Value

mutual

/-- The compact text of a value. -/
def write : Value → List Char
  | .null => ['n', 'u', 'l', 'l']
  | .bool true => ['t', 'r', 'u', 'e']
  | .bool false => ['f', 'a', 'l', 's', 'e']
  | .integer i => signedDecimal i
  | .string s => quote s
  | .array elements => '[' :: writeElements elements ++ [']']
  | .object members => '{' :: writeMembers members ++ ['}']

/-- The elements of an array, with commas between them. -/
def writeElements : List Value → List Char
  | [] => []
  | [element] => element.write
  | element :: elements => element.write ++ ',' :: writeElements elements

/-- The members of an object, with commas between them. -/
def writeMembers : List (String × Value) → List Char
  | [] => []
  | [(name, value)] => quote name ++ ':' :: value.write
  | (name, value) :: members => quote name ++ ':' :: value.write ++ ',' :: writeMembers members

end

/-- The compact text of a value, as a string. -/
def compact (value : Value) : String := String.ofList value.write

/-- A value that may be missing. -/
def ofOption {α : Type} (toJson : α → Value) : Option α → Value
  | some a => toJson a
  | none => .null

end Value

end FeedSync.Json
