import FeedSync.Proofs.Yaml.Rename

/-!
# A text in a field of a document

A plain text that stands once in a document, at the end of a path of keys, is read by one field
only: with another text in its place the records that are read are the same but for that field.

## Main definitions

* `Node.at?`: the node at the end of a path of keys.
* `Node.plainTexts`: the texts of the plain scalars in a node.
* `Document.HoldsAt`: a document that holds a text once, at the end of a path.

## Main statements

* `Record.reader_of_entry`: a record that is read with another value at one of its keys.
-/

namespace FeedSync.Yaml

variable {α β : Type} {f : String → String}

/-! ### Plain texts -/

mutual

/-- The texts of the plain scalars in a node. -/
def Node.plainTexts : Node → List String
  | .scalar _ text .plain => [text]
  | .scalar .. => []
  | .sequence _ items => itemTexts items
  | .mapping _ entries => entryTexts entries
  | .alias _ => []

/-- The texts of the plain scalars in some nodes. -/
def itemTexts : List Node → List String
  | [] => []
  | item :: items => item.plainTexts ++ itemTexts items

/-- The texts of the plain scalars in some keys and values. -/
def entryTexts : List (Node × Node) → List String
  | [] => []
  | (key, value) :: entries => key.plainTexts ++ value.plainTexts ++ entryTexts entries

end

theorem entryTexts_append (entries entries' : List (Node × Node)) :
    entryTexts (entries ++ entries') = entryTexts entries ++ entryTexts entries' := by
  induction entries with
  | nil => rfl
  | cons entry entries ih => simp [entryTexts, ih]

theorem renameEntries_append (entries entries' : List (Node × Node)) :
    renameEntries f (entries ++ entries') =
      renameEntries f entries ++ renameEntries f entries' := by
  induction entries with
  | nil => rfl
  | cons entry entries ih => simp [renameEntries, ih]

mutual

/-- Renaming does nothing where it leaves all plain texts as they are. -/
theorem Node.rename_eq_self : (node : Node) → (∀ text ∈ node.plainTexts, f text = text) →
    node.rename f = node
  | .scalar tag text .plain, h => by rw [Node.rename, h text (by simp [Node.plainTexts])]
  | .scalar _ _ .quoted, _ => rfl
  | .scalar _ _ .literal, _ => rfl
  | .scalar _ _ .folded, _ => rfl
  | .sequence tag items, h => by rw [Node.rename, renameItems_eq_self items h]
  | .mapping tag entries, h => by rw [Node.rename, renameEntries_eq_self entries h]
  | .alias _, _ => rfl

theorem renameItems_eq_self : (items : List Node) → (∀ text ∈ itemTexts items, f text = text) →
    renameItems f items = items
  | [], _ => rfl
  | item :: items, h => by
    rw [itemTexts, List.forall_mem_append] at h
    rw [renameItems, item.rename_eq_self h.1, renameItems_eq_self items h.2]

theorem renameEntries_eq_self : (entries : List (Node × Node)) →
    (∀ text ∈ entryTexts entries, f text = text) → renameEntries f entries = entries
  | [], _ => rfl
  | (key, value) :: entries, h => by
    rw [entryTexts, List.forall_mem_append, List.forall_mem_append] at h
    rw [renameEntries, key.rename_eq_self h.1.1, value.rename_eq_self h.1.2,
      renameEntries_eq_self entries h.2]

end

/-! ### Paths -/

/-- The node at the end of a path of keys. -/
def Node.at? (document : Document) : List String → Node → Option Node
  | [], node => some node
  | key :: path, .mapping _ entries =>
    (entries.find? fun entry => text document entry.1 == some key).bind fun entry =>
      entry.2.at? document path
  | _, _ => none

variable {document : Document} {value : String}

/-- The entry that a path goes through. -/
theorem exists_entry_of_at? {key : String} {path : List String} {node : Node} {tag : Option String}
    {entries : List (Node × Node)}
    (h : (Node.mapping tag entries).at? document (key :: path) = some node) :
    ∃ before name inner after, entries = before ++ (name, inner) :: after ∧
      text document name = some key ∧ inner.at? document path = some node := by
  rw [Node.at?] at h
  obtain ⟨⟨name, inner⟩, hfind, hinner⟩ := Option.bind_eq_some_iff.mp h
  obtain ⟨hname, before, after, hentries, -⟩ := List.find?_eq_some_iff_append.mp hfind
  exact ⟨before, name, inner, after, hentries, eq_of_beq hname, hinner⟩

theorem mem_plainTexts_of_at? {path : List String} {node : Node}
    (h : node.at? document path = some (.scalar none value .plain)) : value ∈ node.plainTexts := by
  induction path generalizing node with
  | nil =>
    cases h
    simp [Node.plainTexts]
  | cons key path ih =>
    cases node with
    | mapping tag entries =>
      obtain ⟨before, name, inner, after, rfl, -, hinner⟩ := exists_entry_of_at? h
      simp [Node.plainTexts, entryTexts_append, entryTexts, ih hinner]
    | _ => cases h

/-- Renaming a text that a mapping holds once changes the entry on the way to it, and no other. -/
theorem rename_of_at? {key : String} {path : List String} {node : Node}
    (h : node.at? document (key :: path) = some (.scalar none value .plain))
    (honce : node.plainTexts.count value = 1) (hf : ∀ text, text ≠ value → f text = text) :
    ∃ tag before name inner after, node = .mapping tag (before ++ (name, inner) :: after) ∧
      text document name = some key ∧
      inner.at? document path = some (.scalar none value .plain) ∧
      inner.plainTexts.count value = 1 ∧
      node.rename f = .mapping tag (before ++ (name, inner.rename f) :: after) := by
  cases node with
  | mapping tag entries =>
    obtain ⟨before, name, inner, after, rfl, hname, hinner⟩ := exists_entry_of_at? h
    have hmem := List.count_pos_iff.mpr (mem_plainTexts_of_at? hinner)
    simp only [Node.plainTexts, entryTexts_append, entryTexts, List.count_append] at honce
    have hkeep {texts : List String} (hcount : texts.count value = 0) :
        ∀ text ∈ texts, f text = text :=
      fun text htext => hf text (by rintro rfl; exact List.count_eq_zero.mp hcount htext)
    refine ⟨tag, before, name, inner, after, rfl, hname, hinner, by omega, ?_⟩
    rw [Node.rename, renameEntries_append, renameEntries, name.rename_eq_self (hkeep (by omega)),
      renameEntries_eq_self before (hkeep (by omega)),
      renameEntries_eq_self after (hkeep (by omega))]
  | _ => cases h

/-- **A document that holds a plain text once**, at the end of a path of keys, and not in a node
that an alias could stand for. -/
structure Document.HoldsAt (document : Document) (path : List String) (value : String) : Prop where
  at_path : document.root.at? document path = some (.scalar none value .plain)
  once : document.root.plainTexts.count value = 1
  not_anchored : ∀ x ∈ document.anchored, value ∉ x.2.plainTexts

instance (value : String) : (node : Node) → Decidable (node = .scalar none value .plain)
  | .scalar tag text style =>
    decidable_of_iff (tag = none ∧ text = value ∧ style = .plain) (by simp)
  | .sequence _ _ | .mapping _ _ | .alias _ => isFalse (by simp)

instance (value : String) :
    (node : Option Node) → Decidable (node = some (.scalar none value .plain))
  | none => isFalse (by simp)
  | some node => decidable_of_iff (node = .scalar none value .plain) (by simp)

instance (document : Document) (path : List String) (value : String) :
    Decidable (document.HoldsAt path value) :=
  decidable_of_iff (_ ∧ _ ∧ _) ⟨fun ⟨h₁, h₂, h₃⟩ => ⟨h₁, h₂, h₃⟩, fun ⟨h₁, h₂, h₃⟩ => ⟨h₁, h₂, h₃⟩⟩

/-! ### Records -/

namespace Record

variable {document : Document} {keys : List String} {name : String} {value value' : Node}
variable {seen seen' : List (String × Node)} {entries : List (Node × Node)}

theorem takeEntries_cons (entry : Node × Node) :
    takeEntries document keys seen (entry :: entries) =
      (text document entry.1).bind fun key =>
        if !keys.contains key then takeEntries document keys seen entries
        else if (seen.lookup key).isSome then none
        else takeEntries document keys ((key, entry.2) :: seen) entries := rfl

theorem takeEntries_append (entries entries' : List (Node × Node)) :
    takeEntries document keys seen (entries ++ entries') =
      (takeEntries document keys seen entries).bind (takeEntries document keys · entries') := by
  induction entries generalizing seen with
  | nil => rfl
  | cons entry entries ih =>
    rw [List.cons_append, takeEntries_cons, takeEntries_cons, Option.bind_assoc]
    refine Option.bind_congr fun key _ => ?_
    split_ifs
    · exact ih
    · rfl
    · exact ih

/-- The entries that were taken, with another value at a key. -/
def setKey (name : String) (value : Node) (seen : List (String × Node)) : List (String × Node) :=
  seen.map fun entry => (entry.1, if entry.1 = name then value else entry.2)

theorem lookup_setKey (key : String) :
    (setKey name value seen).lookup key =
      (seen.lookup key).map fun node => if key = name then value else node := by
  induction seen with
  | nil => rfl
  | cons entry seen ih =>
    rw [setKey, List.map_cons, List.lookup_cons, List.lookup_cons]
    cases hkey : key == entry.1 with
    | false => exact ih
    | true => rw [eq_of_beq hkey]; rfl

theorem setKey_of_lookup_eq_none (h : seen.lookup name = none) : setKey name value seen = seen := by
  induction seen with
  | nil => rfl
  | cons entry seen ih =>
    rw [List.lookup_cons] at h
    cases hkey : name == entry.1 with
    | false =>
      rw [hkey] at h
      rw [setKey, List.map_cons, if_neg (ne_of_beq_false hkey).symm]
      exact congrArg _ (ih h)
    | true =>
      rw [hkey] at h
      cases h

/-- What comes after an entry does not depend on its value. -/
theorem takeEntries_setKey (hname : (seen.lookup name).isSome) (entries : List (Node × Node)) :
    takeEntries document keys (setKey name value seen) entries =
      (takeEntries document keys seen entries).map (setKey name value) := by
  induction entries generalizing seen with
  | nil => rfl
  | cons entry entries ih =>
    rw [takeEntries_cons, takeEntries_cons, Option.map_bind]
    refine Option.bind_congr fun key _ => ?_
    dsimp only [Function.comp]
    rw [lookup_setKey, Option.isSome_map]
    split_ifs with hknown htwice
    · exact ih hname
    · rfl
    · have hkey : key ≠ name := by
        rintro rfl
        exact htwice hname
      rw [← ih (by rw [List.lookup_cons, beq_false_of_ne hkey.symm]; exact hname), setKey,
        setKey, List.map_cons, if_neg hkey]

/-- An entry that was taken stays. -/
theorem lookup_of_takeEntries (hname : seen.lookup name = some value)
    (h : takeEntries document keys seen entries = some seen') : seen'.lookup name = some value := by
  induction entries generalizing seen with
  | nil =>
    cases h
    exact hname
  | cons entry entries ih =>
    rw [takeEntries_cons] at h
    obtain ⟨key, -, h⟩ := Option.bind_eq_some_iff.mp h
    split_ifs at h with hknown htwice
    · exact ih hname h
    · refine ih ?_ h
      have hkey : name ≠ key := by
        rintro rfl
        exact htwice (by rw [hname]; rfl)
      rw [List.lookup_cons, beq_false_of_ne hkey]
      exact hname

theorem reader_mapping (record : Record α) (tag : Option String) (entries : List (Node × Node)) :
    record.reader document (.mapping tag entries) =
      (takeEntries document record.keys [] entries).bind fun seen =>
        record.build document (seen.lookup ·) := rfl

/-- The nodes at the keys of a mapping, with another one at a key. -/
def swap (name : String) (node : Node) (entry : String → Option Node) : String → Option Node :=
  fun key => (entry key).map fun other => if key = name then node else other

theorem field_of_some {reader : Reader α} {default : α} {entry : String → Option Node}
    (h : entry name = some value) :
    (field name reader default).build document entry = reader document value := by
  simp [field, h]

theorem field_swap {reader : Reader α} {default : α} {entry : String → Option Node}
    (h : entry name = some value) :
    (field name reader default).build document (swap name value' entry) =
      reader document value' := by
  simp [field, swap, h]

theorem field_swap_of_ne {key : String} {reader : Reader α} {default : α}
    {entry : String → Option Node} (h : key ≠ name) :
    (field key reader default).build document (swap name value' entry) =
      (field key reader default).build document entry := by
  simp [field, swap, h]

/-- **A record that is read with another value at one of its keys**, where building it from the
other value puts something else into it. -/
theorem reader_of_entry {record : Record α} {tag : Option String}
    {before after : List (Node × Node)} {key : Node} {change : α → α}
    (hkey : text document key = some name) (hname : name ∈ record.keys)
    (hbuild : ∀ entry, entry name = some value →
      record.build document (swap name value' entry) = (record.build document entry).map change) :
    record.reader document (.mapping tag (before ++ (key, value') :: after)) =
      (record.reader document (.mapping tag (before ++ (key, value) :: after))).map change := by
  rw [reader_mapping, reader_mapping, takeEntries_append, takeEntries_append, Option.bind_assoc,
    Option.bind_assoc, Option.map_bind]
  refine Option.bind_congr fun seen _ => ?_
  have hknown : (!record.keys.contains name) = false := by simpa using hname
  dsimp only [Function.comp]
  rw [takeEntries_cons, takeEntries_cons, hkey, Option.bind_some, Option.bind_some, hknown,
    if_neg Bool.false_ne_true, if_neg Bool.false_ne_true]
  split_ifs with htwice
  · rfl
  · have hnone : seen.lookup name = none := Option.not_isSome_iff_eq_none.mp htwice
    have hset : (name, value') :: seen = setKey name value' ((name, value) :: seen) := by
      rw [setKey, List.map_cons, if_pos rfl]
      exact congrArg _ (setKey_of_lookup_eq_none hnone).symm
    have hhead : List.lookup name ((name, value) :: seen) = some value := by simp
    dsimp only
    rw [hset, takeEntries_setKey (by rw [hhead]; rfl), Option.bind_map, Option.map_bind]
    refine Option.bind_congr fun seen' htaken => ?_
    dsimp only [Function.comp]
    rw [← hbuild _ (lookup_of_takeEntries hhead htaken)]
    exact congrArg _ (funext lookup_setKey)

/-- The same for a text that the record's node holds once, in the entry with a key. -/
theorem reader_of_at? {record : Record α} {path : List String} {node : Node} {text : String}
    {change : α → α} (hat : node.at? document (name :: path) = some (.scalar none text .plain))
    (honce : node.plainTexts.count text = 1) (hf : ∀ other, other ≠ text → f other = other)
    (hname : name ∈ record.keys)
    (hbuild : ∀ inner, inner.at? document path = some (.scalar none text .plain) →
      inner.plainTexts.count text = 1 → ∀ entry, entry name = some inner →
        record.build document (swap name (inner.rename f) entry) =
          (record.build document entry).map change) :
    record.reader document (node.rename f) = (record.reader document node).map change := by
  obtain ⟨tag, before, key, inner, after, rfl, hkey, hinner, honce, heq⟩ :=
    rename_of_at? hat honce hf
  rw [heq]
  exact reader_of_entry hkey hname (hbuild inner hinner honce)

/-- The same where the text is the value at the key. -/
theorem reader_of_leaf {record : Record α} {node : Node} {text : String} {change : α → α}
    (hat : node.at? document [name] = some (.scalar none text .plain))
    (honce : node.plainTexts.count text = 1) (hf : ∀ other, other ≠ text → f other = other)
    (hname : name ∈ record.keys)
    (hbuild : ∀ entry, entry name = some (.scalar none text .plain) →
      record.build document (swap name (.scalar none (f text) .plain) entry) =
        (record.build document entry).map change) :
    record.reader document (node.rename f) = (record.reader document node).map change := by
  refine reader_of_at? hat honce hf hname fun inner hinner _ entry hentry => ?_
  obtain rfl := Option.some.inj hinner
  exact hbuild entry hentry

end Record

/-- **A document with another text in a field** differs only in the root. -/
theorem Document.HoldsAt.rename_eq {document : Document} {path : List String} {value : String}
    (h : document.HoldsAt path value) (hf : ∀ other, other ≠ value → f other = other) :
    document.rename f = { document with root := document.root.rename f } := by
  have hanchored : (document.anchored.map fun x => (x.1, x.2.rename f)) = document.anchored := by
    refine (List.map_congr_left fun x hx => ?_).trans (List.map_id _)
    rw [x.2.rename_eq_self fun text htext =>
      hf text (by rintro rfl; exact h.not_anchored x hx htext)]
    rfl
  exact congrArg (Document.mk _) hanchored

/-! ### Roots -/

/-- A reader that looks at its node and at what aliases stand for, but not at the root. -/
structure Reader.IgnoresRoot (reader : Reader α) : Prop where
  read : ∀ document root, reader { document with root } = reader document

/-- A record with such readers for its fields. -/
structure Record.IgnoresRoot (record : Record α) : Prop where
  build : ∀ document root, record.build { document with root } = record.build document

namespace Reader.IgnoresRoot

theorem text : Reader.IgnoresRoot text := ⟨fun _ _ => rfl⟩

theorem boolean : Reader.IgnoresRoot boolean := ⟨fun _ _ => rfl⟩

theorem unsigned (greatest : Nat) : Reader.IgnoresRoot (unsigned greatest) := ⟨fun _ _ => rfl⟩

theorem choice (values : List (String × α)) : Reader.IgnoresRoot (choice values) :=
  ⟨fun _ _ => rfl⟩

theorem nullable {reader : Reader α} (h : reader.IgnoresRoot) :
    Reader.IgnoresRoot (nullable reader) where
  read document root := by
    funext node
    unfold Yaml.nullable
    rw [h.read document root]
    rfl

end Reader.IgnoresRoot

namespace Record.IgnoresRoot

theorem field (key : String) {reader : Reader α} (h : reader.IgnoresRoot) (default : α) :
    (Record.field key reader default).IgnoresRoot where
  build document root := by
    unfold Record.field
    dsimp only
    rw [h.read document root]

theorem seq {f : Record (α → β)} {a : Record α} (hf : f.IgnoresRoot) (ha : a.IgnoresRoot) :
    (f <*> a).IgnoresRoot where
  build document root := by
    funext entry
    change ((f.build { document with root } entry).bind fun f =>
      (a.build { document with root } entry).map f) = _
    rw [hf.build document root, ha.build document root]
    rfl

theorem map (f : α → β) {record : Record α} (h : record.IgnoresRoot) :
    (f <$> record).IgnoresRoot := seq (f := pure f) ⟨fun _ _ => rfl⟩ h

theorem takeEntries_eq (document : Document) (root : Node) (keys : List String)
    (seen : List (String × Node)) (entries : List (Node × Node)) :
    takeEntries { document with root } keys seen entries =
      takeEntries document keys seen entries := by
  induction entries generalizing seen with
  | nil => rfl
  | cons entry entries ih =>
    rw [takeEntries_cons, takeEntries_cons]
    simp only [ih]
    rfl

theorem reader {record : Record α} (h : record.IgnoresRoot) : record.reader.IgnoresRoot where
  read document root := by
    funext node
    unfold Record.reader
    simp only [takeEntries_eq, h.build document root]
    rfl

end Record.IgnoresRoot

end FeedSync.Yaml
