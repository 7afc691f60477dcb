import FeedSync.Json.Tree

/-!
# Values read from JSON trees

A `Decoder` makes a value of a tree. Records are described by a `Shape`, the list of their fields:
the same shape reads the object form, whose members come in any order, and the list form, whose
elements are the fields in the order of the shape. Both forms are read from the left and refused at
their first fault.

* **Object form.** A member with an unknown name is skipped, a second one with a known name is
  refused, and a field without a member takes its default if it has one.
* **List form.** Elements beyond the last field are refused as no JSON; a field without an element
  takes its default only where the shape says that it may be omitted from lists.
-/

namespace FeedSync.Json

/-- Makes a value of a tree, or tells the first fault. -/
abbrev Decoder (α : Type) := Tree → Except Fault α

/-- What a decoder makes of a whole text, which must end after the value. -/
def Decoder.decode {α : Type} (decoder : Decoder α) (text : String) : Except Fault α := do
  let (tree, rest) := readText text
  let a ← decoder tree
  match rest with
  | some cs => if (skipJsonBlanks cs).isEmpty then .ok a else .error .malformed
  | none => .ok a

/-- Any value, nested at most 127 deep. -/
def anyValue : Decoder Unit := Tree.readAny 127

/-! ### Leaves -/

/-- A string. -/
def string : Decoder String
  | .text read => read
  | tree => .error tree.mismatch

/-- An integer between two bounds. -/
def integer (least greatest : Int) : Decoder Int
  | .number (.ok (.integer i)) =>
    if least ≤ i ∧ i ≤ greatest then .ok i else .error .mismatched
  | tree => .error tree.mismatch

/-- A signed integer of 64 bits. -/
def int64 : Decoder Int64 := fun tree => Int64.ofInt <$>
  integer Int64.minValue.toInt Int64.maxValue.toInt tree

/-- A signed integer of 32 bits. -/
def int32 : Decoder Int32 := fun tree => Int32.ofInt <$>
  integer Int32.minValue.toInt Int32.maxValue.toInt tree

/-- An unsigned integer of 32 bits. -/
def uint32 : Decoder UInt32 := fun tree =>
  (fun i => UInt32.ofNat i.toNat) <$> integer 0 (UInt32.size - 1 : Nat) tree

/-- An unsigned integer of 64 bits. -/
def uint64 : Decoder UInt64 := fun tree =>
  (fun i => UInt64.ofNat i.toNat) <$> integer 0 (UInt64.size - 1 : Nat) tree

/-- A string that has to denote a value. -/
def parsed {α : Type} (parse : String → Option α) : Decoder α := fun tree => do
  match parse (← string tree) with
  | some a => .ok a
  | none => .error .mismatched

/-- `null`, or a value. -/
def nullable {α : Type} (decoder : Decoder α) : Decoder (Option α)
  | .null => .ok none
  | tree => some <$> decoder tree

/-- The fault at which a container stops, if it is not closed. -/
def unlessStopped {α : Type} (a : α) : Option Fault → Except Fault α
  | some fault => .error fault
  | none => .ok a

/-- An array of values of one kind. -/
def list {α : Type} (decoder : Decoder α) : Decoder (List α)
  | .array elements stop => do unlessStopped (← elements.mapM decoder) stop
  | tree => .error tree.mismatch

/-! ### Records -/

/-- A field of a record, as far as it decides whether a tree can be read. -/
structure Slot where
  name : String
  /-- Refuses what is no value of the field. -/
  check : Tree → Except Fault Unit
  /-- Whether the list form may end before the field. -/
  omissible : Bool

/-- The fields of a record, and how the record is built from their trees. -/
structure Shape (α : Type) where
  slots : List Slot
  build : (String → Option Tree) → Except Fault α

namespace Shape

/-- A record without fields. -/
def pure {α : Type} (a : α) : Shape α := ⟨[], fun _ => .ok a⟩

/-- The fields of two shapes, in order. -/
def seq {α β : Type} (f : Shape (α → β)) (a : Shape α) : Shape β :=
  ⟨f.slots ++ a.slots, fun tree => do return (← f.build tree) (← a.build tree)⟩

instance : Applicative Shape where
  pure := pure
  seq f a := seq f (a ())

/-- A field that must be there. -/
def required {α : Type} (name : String) (decoder : Decoder α) : Shape α where
  slots := [⟨name, fun tree => discard (decoder tree), false⟩]
  build tree :=
    match tree name with
    | some t => decoder t
    | none => .error .mismatched

/-- A field that is missing, `null` or a value. The list form must have it. -/
def optional {α : Type} (name : String) (decoder : Decoder α) : Shape (Option α) where
  slots := [⟨name, fun tree => discard (nullable decoder tree), false⟩]
  build tree :=
    match tree name with
    | some t => nullable decoder t
    | none => .ok none

/-- A field that takes a default where it is missing. -/
def defaulted {α : Type} (name : String) (decoder : Decoder α) (default : α) : Shape α where
  slots := [⟨name, fun tree => discard (decoder tree), true⟩]
  build tree :=
    match tree name with
    | some t => decoder t
    | none => .ok default

/-- Goes through the members of an object from the left and gives those of the shape. -/
def takeMembers (slots : List Slot) : (seen : List (String × Tree)) →
    List (Option String × Tree) → Except Fault (List (String × Tree))
  | seen, [] => .ok seen
  | _, (none, _) :: _ => .error .malformed
  | seen, (some name, value) :: members =>
    match slots.find? (·.name == name) with
    | some slot =>
      if (seen.lookup name).isSome then .error .mismatched
      else do
        slot.check value
        takeMembers slots ((name, value) :: seen) members
    | none => do
      value.skip
      takeMembers slots seen members

/-- Goes through the elements of a list from the left and gives each its name. -/
def takeElements : List Slot → List Tree → (stop : Option Fault) →
    Except Fault (List (String × Tree))
  | [], [], stop => unlessStopped [] stop
  | [], _ :: _, _ => .error .malformed
  | slot :: slots, [], stop => do
    unlessStopped () stop
    if slot.omissible then takeElements slots [] stop else .error .mismatched
  | slot :: slots, element :: elements, stop => do
    slot.check element
    return (slot.name, element) :: (← takeElements slots elements stop)

/-- Reads a record in its object form or its list form. -/
def decoder {α : Type} (shape : Shape α) : Decoder α
  | .object members stop => do
    let seen ← takeMembers shape.slots [] members
    unlessStopped () stop
    shape.build (seen.lookup ·)
  | .array elements stop => do
    let seen ← takeElements shape.slots elements stop
    shape.build (seen.lookup ·)
  | tree => .error tree.mismatch

end Shape

end FeedSync.Json
