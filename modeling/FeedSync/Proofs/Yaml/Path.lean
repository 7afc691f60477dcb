import FeedSync.Proofs.Yaml.Field

/-!
# Fields of records and what stands at their keys

A record that was read tells what its document says: whatever stands at the key of a field is read
as the value that the record has in the field. A path of keys leads through mappings, and through
aliases to the nodes that they stand for.

## Main definitions

* `Document.valueAt?` — the node at the end of a path of keys.
* `Record.HasField` — a field of a record: its key, its reader, its default and its value.
* `Record.HasFieldAt` — the same for a field of a field, at a path of keys.

## Main statements

* `Record.HasField.read_valueAt?` — what stands at the key of a field is read as its value.
* `Record.HasField.under` — fields of records that are fields themselves.
-/

namespace FeedSync.Yaml

variable {α β : Type}

namespace Document

/-- The entries of a mapping, or of an alias of one. Other nodes have none. -/
def entriesOf (document : Document) (node : Node) : List (Node × Node) :=
  match document.resolve node with
  | some (.mapping _ entries) => entries
  | _ => []

/-- The node at the end of a path of keys, each of which leads to the value of the first entry that
has it. -/
def valueAt? (document : Document) : List String → Node → Option Node
  | [], node => some node
  | key :: path, node =>
    ((document.entriesOf node).find? fun entry => text document entry.1 == some key).bind
      fun entry => document.valueAt? path entry.2

end Document

namespace Record

variable {document : Document} {node : Node} {key : String} {reader : Reader β} {default : β}

/-- What is read from a node is built from its entries. -/
theorem exists_build_of_reader {record : Record α} {a : α}
    (h : record.reader document node = some a) :
    ∃ seen, takeEntries document record.keys [] (document.entriesOf node) = some seen ∧
      record.build document (seen.lookup ·) = some a := by
  rw [Record.reader] at h
  rw [Document.entriesOf]
  cases hnode : document.resolve node with
  | none =>
    rw [hnode] at h
    cases h
  | some resolved =>
    rw [hnode] at h
    cases resolved with
    | mapping tag entries => exact Option.bind_eq_some_iff.mp h
    | scalar tag text style =>
      refine ⟨[], rfl, ?_⟩
      cases style with
      | plain =>
        simp only at h
        split at h
        · exact h
        · cases h
      | quoted | literal | folded => cases h
    | _ => cases h

/-- The first entry with a known key is taken. -/
theorem lookup_of_find? {keys : List String} {entries : List (Node × Node)} {entry : Node × Node}
    {seen : List (String × Node)} (hkey : key ∈ keys)
    (hfind : entries.find? (fun entry => text document entry.1 == some key) = some entry)
    (h : takeEntries document keys [] entries = some seen) : seen.lookup key = some entry.2 := by
  obtain ⟨hname, before, after, rfl, -⟩ := List.find?_eq_some_iff_append.mp hfind
  rw [takeEntries_append] at h
  obtain ⟨taken, -, h⟩ := Option.bind_eq_some_iff.mp h
  rw [takeEntries_cons, eq_of_beq hname, Option.bind_some] at h
  split_ifs at h with hknown htwice
  · simp [hkey] at hknown
  · exact lookup_of_takeEntries (List.lookup_cons_self ..) h

/-- **A field of a record**: whenever the record is built, its value is what the field's reader
makes of the node at the field's key, or the default where there is none. -/
structure HasField (record : Record α) (key : String) (reader : Reader β) (default : β)
    (get : α → β) : Prop where
  mem : key ∈ record.keys
  build : ∀ {document entry a}, record.build document entry = some a →
    (field key reader default).build document entry = some (get a)

/-- The value of a field under a function. -/
theorem HasField.map {γ : Type} {record : Record α} {get : α → β}
    (hfield : record.HasField key reader default get) (f : β → γ) :
    record.HasField key (fun document node => (reader document node).map f) (f default)
      (fun a => f (get a)) where
  mem := hfield.mem
  build {document entry a} h := by
    have hbuild := hfield.build h
    simp only [field] at hbuild ⊢
    cases hentry : entry key with
    | none =>
      rw [hentry] at hbuild
      exact congrArg (Option.map f) hbuild
    | some node =>
      rw [hentry] at hbuild
      exact congrArg (Option.map f) hbuild

/-- **A field of a record at a path**: what stands there is read as the value of the field, which is
the default or has been read from some node. -/
structure HasFieldAt (record : Record α) (path : List String) (reader : Reader β) (default : β)
    (get : α → β) : Prop where
  read : ∀ {document node inner a}, record.reader document node = some a →
    document.valueAt? path node = some inner → reader document inner = some (get a)
  origin : ∀ {document entry a}, record.build document entry = some a →
    get a = default ∨ ∃ node, reader document node = some (get a)

variable {record : Record α} {get : α → β}

/-- What stands at the key of a field is read as its value, and a path goes on from there. -/
theorem HasField.read_valueAt? {a : α} {path : List String} {inner : Node}
    (hfield : record.HasField key reader default get)
    (h : record.reader document node = some a)
    (hat : document.valueAt? (key :: path) node = some inner) :
    ∃ value, reader document value = some (get a) ∧
      document.valueAt? path value = some inner := by
  obtain ⟨seen, htaken, hbuild⟩ := exists_build_of_reader h
  obtain ⟨entry, hfind, hinner⟩ := Option.bind_eq_some_iff.mp hat
  have hlookup := lookup_of_find? hfield.mem hfind htaken
  exact ⟨entry.2, (field_of_some hlookup).symm.trans (hfield.build hbuild), hinner⟩

/-- The value of a field is the default or has been read from some node. -/
theorem HasField.origin {entry : String → Option Node} {a : α}
    (hfield : record.HasField key reader default get)
    (h : record.build document entry = some a) :
    get a = default ∨ ∃ node, reader document node = some (get a) := by
  have hvalue := hfield.build h
  simp only [field] at hvalue
  cases hentry : entry key with
  | none =>
    rw [hentry] at hvalue
    exact .inl (Option.some.inj hvalue).symm
  | some node =>
    rw [hentry] at hvalue
    exact .inr ⟨node, hvalue⟩

/-- A field is a field at the path of its key. -/
theorem HasFieldAt.single (hfield : record.HasField key reader default get) :
    record.HasFieldAt [key] reader default get where
  read h hat := by
    obtain ⟨value, hread, hend⟩ := hfield.read_valueAt? h hat
    obtain rfl := Option.some.inj hend
    exact hread
  origin := hfield.origin

/-- **A field of a record that is a field itself** is a field at the longer path. -/
theorem HasField.under {γ : Type} {section' : Record β} {path : List String} {reader : Reader γ}
    {default' : γ} {get' : β → γ} (hfield : record.HasField key section'.reader default get)
    (hinner : section'.HasFieldAt path reader default' get') (hdefault : get' default = default') :
    record.HasFieldAt (key :: path) reader default' (fun a => get' (get a)) where
  read h hat := by
    obtain ⟨value, hread, hrest⟩ := hfield.read_valueAt? h hat
    exact hinner.read hread hrest
  origin h := by
    rcases hfield.origin h with heq | ⟨node, hread⟩
    · exact .inl ((congrArg get' heq).trans hdefault)
    · obtain ⟨seen, -, hbuild⟩ := exists_build_of_reader hread
      exact hinner.origin hbuild

end Record

end FeedSync.Yaml
