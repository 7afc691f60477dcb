import FeedSync.Proofs.Json.Reading
import Mathlib.Data.List.Nodup

/-!
# Records read from rearranged objects

A record is written as an object, member by member. The texts that say the same have its members in
any order, may leave out those that say what is taken anyway, and may have members of other names,
with any values. A record is read from all of these alike.

## Main definitions

* `Field` — a member that a record is written with.
* `IsObjectOf` — the texts that say the same as an object with some fields.
* `Shape.Reads` — what a record is, given the trees of its fields.

## Main statements

* `spells_record` — a record is read from every text that says the same.
-/

namespace FeedSync.Json

open FeedSync.Text

/-! ### Texts that say the same -/

/-- **A member that a record is written with**: its name, the texts of its value, what is read from
the tree of one, and whether it may be left out. -/
structure Field where
  name : String
  isValue : List Char → Prop
  denotes : Tree → Prop
  omissible : Prop

namespace Field

/-- A field that is always there, written in one way. -/
def always {α : Type} (name : String) (decoder : Decoder α) (a : α) (value : Value) : Field where
  name := name
  isValue cs := cs = value.write
  denotes tree := decoder tree = .ok a
  omissible := False

/-- A field that may be left out where it has a certain value. -/
def unlessIs {α : Type} (default : α) (name : String) (decoder : Decoder α) (a : α)
    (value : Value) : Field where
  name := name
  isValue cs := cs = value.write
  denotes tree := decoder tree = .ok a
  omissible := a = default

/-- A member of another name, which may have any value. -/
def foreign (name : String) : Field where
  name := name
  isValue := IsJson
  denotes tree := tree.skip = .ok ()
  omissible := False

/-- **The member as it may be written**: its name, with any escapes and with blanks around it, and
one of its values. -/
def IsEntry (field : Field) (entry : Entry) : Prop :=
  (∃ front body back, entry.name = front ++ '"' :: (body ++ '"' :: back) ∧ Blanks front ∧
    IsStringBody body ∧ Blanks back ∧
      ∀ rest, unescape (body ++ '"' :: rest) = .ok (field.name.toList, rest)) ∧
    field.isValue entry.value

/-- Whatever text of its value stands there, the field is read from it. -/
def Sound (field : Field) : Prop := ∀ cs, field.isValue cs → Spells field.denotes cs

/-- Among some trees the field has its own, or none if it may be left out. -/
def Found (field : Field) (find : String → Option Tree) : Prop :=
  (∃ tree, find field.name = some tree ∧ field.denotes tree) ∨
    field.omissible ∧ find field.name = none

end Field

/-- **The texts that say the same as an object with some fields**: in any order, some fields that
may be left out being left out, and with members of other names. -/
def IsObjectOf (fields : List Field) (text : List Char) : Prop :=
  ∃ (kept left members : List Field) (names : List String) (entries : List Entry),
    fields.Perm (kept ++ left) ∧ (∀ field ∈ left, field.omissible) ∧
    (∀ name ∈ names, ∀ field ∈ fields, field.name ≠ name) ∧
    members.Perm (kept ++ names.map Field.foreign) ∧
    List.Forall₂ Field.IsEntry members entries ∧ text = objectText entries

/-! ### Written objects -/

/-- A name as it is written. -/
theorem Field.isEntry_quote {field : Field} {cs : List Char} (h : field.isValue cs) :
    field.IsEntry ⟨quote field.name, cs⟩ :=
  ⟨⟨[], escape field.name.toList, [], by simp [quote], nofun, isStringBody_escape _, nofun,
    unescape_escape field.name.toList⟩, h⟩

/-- Commas stand between the elements of an array. -/
theorem writeElements_eq (elements : List Value) :
    Value.writeElements elements = separated (elements.map Value.write) := by
  match elements with
  | [] => rfl
  | [element] => rfl
  | element :: next :: elements =>
      rw [Value.writeElements, writeElements_eq (next :: elements)]
      · rfl
      · nofun

/-- Commas stand between the members of an object. -/
theorem writeMembers_eq (members : List (String × Value)) :
    Value.writeMembers members =
      separated (members.map fun member => quote member.1 ++ ':' :: member.2.write) := by
  match members with
  | [] => rfl
  | [(name, value)] => rfl
  | (name, value) :: next :: members =>
      rw [Value.writeMembers, writeMembers_eq (next :: members)]
      · simp [separated]
      · exact fun h => List.cons_ne_nil _ _ h

/-- The text of an array. -/
theorem write_array (elements : List Value) :
    (Value.array elements).write = arrayText (elements.map Value.write) := by
  rw [Value.write, writeElements_eq, arrayText]

/-- The members of an object as they are written. -/
def writtenEntries (members : List (String × Value)) : List Entry :=
  members.map fun member => ⟨quote member.1, member.2.write⟩

/-- The text of an object. -/
theorem write_object (members : List (String × Value)) :
    (Value.object members).write = objectText (writtenEntries members) := by
  rw [Value.write, writeMembers_eq, objectText, writtenEntries, List.map_map]
  rfl

/-- Fields are entered as they are written. -/
theorem isEntry_writtenEntries {fields : List Field} {members : List (String × Value)}
    (h : List.Forall₂ (fun field member => field.name = member.1 ∧ field.isValue member.2.write)
      fields members) : List.Forall₂ Field.IsEntry fields (writtenEntries members) := by
  rw [writtenEntries, List.forall₂_map_right_iff]
  refine h.imp fun field member hmember => ?_
  rw [← hmember.1]
  exact Field.isEntry_quote hmember.2

/-- **An object says the same as itself.** -/
theorem isObjectOf_write {fields : List Field} {members : List (String × Value)}
    (h : List.Forall₂ (fun field member => field.name = member.1 ∧ field.isValue member.2.write)
      fields members) : IsObjectOf fields (Value.object members).write :=
  ⟨fields, [], fields, [], _, by simp, nofun, nofun, by simp, isEntry_writtenEntries h,
    write_object members⟩

/-! ### Reading fields -/

namespace Shape

/-- **What a record is, given the trees of its fields**; all of them pass their checks. -/
structure Reads {α : Type} (shape : Shape α) (find : String → Option Tree) (a : α) : Prop where
  build : shape.build find = .ok a
  check : ∀ slot ∈ shape.slots, ∀ tree, find slot.name = some tree → slot.check tree = .ok ()

section Reads

variable {α β : Type} {find : String → Option Tree} {name : String} {decoder : Decoder α} {a : α}
  {value : Value}

theorem Reads.map {f : α → β} {shape : Shape α} (h : shape.Reads find a) :
    (f <$> shape).Reads find (f a) where
  build := by
    change (do return (← Except.ok f) (← shape.build find)) = _
    rw [h.build]
    rfl
  check := h.check

theorem Reads.seq {f : Shape (α → β)} {shape : Shape α} {g : α → β} (hf : f.Reads find g)
    (h : shape.Reads find a) : (f <*> shape).Reads find (g a) where
  build := by
    change (do return (← f.build find) (← shape.build find)) = _
    rw [hf.build, h.build]
    rfl
  check slot hslot := (List.mem_append.mp hslot).elim (hf.check slot) (h.check slot)

/-- Whoever checks a value decodes it. -/
theorem discard_eq_ok {result : Except Fault α} (h : result = .ok a) : discard result = .ok () := by
  rw [h]
  rfl

/-- One slot is checked on the tree that is found under its name, if it is. -/
theorem check_singleton {slot : Slot} {tree : Tree} (hfind : find slot.name = some tree)
    (hcheck : slot.check tree = .ok ()) :
    ∀ slot' ∈ [slot], ∀ t, find slot'.name = some t → slot'.check t = .ok () := by
  intro slot' hslot t ht
  obtain rfl := List.mem_singleton.mp hslot
  obtain rfl := Option.some.inj (hfind.symm.trans ht)
  exact hcheck

theorem reads_required (h : (Field.always name decoder a value).Found find) :
    (required name decoder).Reads find a := by
  obtain ⟨tree, hfind, htree⟩ | ⟨hfalse, -⟩ := h
  · change find name = some tree at hfind
    refine ⟨?_, check_singleton hfind (discard_eq_ok htree)⟩
    simp only [required, hfind]
    exact htree
  · exact hfalse.elim

theorem reads_defaulted {default : α}
    (h : (Field.unlessIs default name decoder a value).Found find) :
    (defaulted name decoder default).Reads find a := by
  obtain ⟨tree, hfind, htree⟩ | ⟨rfl, hfind⟩ := h
  · change find name = some tree at hfind
    refine ⟨?_, check_singleton hfind (discard_eq_ok htree)⟩
    simp only [defaulted, hfind]
    exact htree
  · change find name = none at hfind
    refine ⟨?_, fun slot hslot t ht => ?_⟩
    · simp only [defaulted, hfind]
    · obtain rfl := List.mem_singleton.mp hslot
      nomatch hfind.symm.trans ht

/-- A field that may be missing or null is one with a default. -/
theorem reads_optional {a : Option α}
    (h : (Field.unlessIs none name (nullable decoder) a value).Found find) :
    (optional name decoder).Reads find a := by
  obtain ⟨hbuild, hcheck⟩ := reads_defaulted h
  refine ⟨hbuild, fun slot hslot => ?_⟩
  obtain rfl := List.mem_singleton.mp hslot
  exact hcheck ⟨name, _, true⟩ (List.mem_singleton_self _)

end Reads

/-! ### Taking members -/

/-- A tree is found under its name. -/
theorem lookup_of_mem {members : List (String × Tree)} (hdistinct : (members.map Prod.fst).Nodup)
    {name : String} {tree : Tree} (h : (name, tree) ∈ members) :
    members.lookup name = some tree := by
  obtain ⟨front, back, rfl⟩ := List.append_of_mem h
  rw [List.map_append, List.map_cons, List.nodup_middle, List.nodup_cons] at hdistinct
  refine List.lookup_eq_some_iff.mpr ⟨front, back, rfl, fun member hmember => bne_iff_ne.mpr ?_⟩
  rintro rfl
  exact hdistinct.1 (List.mem_append_left _ (List.mem_map.mpr ⟨member, hmember, rfl⟩))

/-- Under other names nothing is found. -/
theorem lookup_eq_none {members : List (String × Tree)} {name : String}
    (h : name ∉ members.map Prod.fst) : members.lookup name = none := by
  refine List.lookup_eq_none_iff.mpr fun member hmember => bne_iff_ne.mpr ?_
  rintro rfl
  exact h (List.mem_map_of_mem hmember)

/-- The slot of a name, if a shape has one. -/
def slot? (slots : List Slot) (name : String) : Option Slot := slots.find? (·.name == name)

theorem isSome_slot?_iff {slots : List Slot} {name : String} :
    (slot? slots name).isSome = true ↔ name ∈ slots.map Slot.name := by
  simp [slot?, List.find?_isSome]

theorem mem_of_slot? {slots : List Slot} {name : String} {slot : Slot}
    (h : slot? slots name = some slot) : slot ∈ slots ∧ slot.name = name :=
  ⟨List.mem_of_find?_eq_some h, by simpa using List.find?_some h⟩

/-- The members of an object whose names a shape has. -/
def known (slots : List Slot) (members : List (String × Tree)) : List (String × Tree) :=
  members.filter fun member => (slot? slots member.1).isSome

theorem mem_known {slots : List Slot} {members : List (String × Tree)} {member : String × Tree} :
    member ∈ known slots members ↔ member ∈ members ∧ member.1 ∈ slots.map Slot.name := by
  rw [known, List.mem_filter, isSome_slot?_iff]

/-- **Members are taken in order**, if those of the shape have different names and pass their
checks, and the others can be skipped. -/
theorem takeMembers_eq {slots : List Slot} {seen members : List (String × Tree)}
    (hknown : ∀ member ∈ members, ∀ slot, slot? slots member.1 = some slot →
      slot.check member.2 = .ok ())
    (hforeign : ∀ member ∈ members, slot? slots member.1 = none → member.2.skip = .ok ())
    (hdistinct : ((known slots members).map Prod.fst ++ seen.map Prod.fst).Nodup) :
    takeMembers slots seen (members.map fun member => (some member.1, member.2)) =
      .ok ((known slots members).reverse ++ seen) := by
  induction members generalizing seen with
  | nil => rfl
  | cons member members ih =>
      obtain ⟨name, tree⟩ := member
      obtain ⟨hcheck, hknown⟩ := List.forall_mem_cons.mp hknown
      obtain ⟨hskip, hforeign⟩ := List.forall_mem_cons.mp hforeign
      rw [List.map_cons, takeMembers, ← slot?]
      cases hslot : slot? slots name with
      | none =>
          have hfilter : known slots ((name, tree) :: members) = known slots members :=
            List.filter_cons_of_neg (by rw [hslot]; nofun)
          rw [hfilter] at hdistinct ⊢
          rw [hskip hslot]
          exact ih hknown hforeign hdistinct
      | some slot =>
          have hfilter : known slots ((name, tree) :: members) =
              (name, tree) :: known slots members :=
            List.filter_cons_of_pos (by rw [hslot]; rfl)
          rw [hfilter, List.map_cons, List.cons_append] at hdistinct
          have hunseen : seen.lookup name = none :=
            lookup_eq_none fun hmem =>
              (List.nodup_cons.mp hdistinct).1 (List.mem_append_right _ hmem)
          rw [hfilter, List.reverse_cons, List.append_assoc]
          simp only [hunseen, Option.isSome_none, Bool.false_eq_true, if_false, hcheck slot hslot]
          exact ih hknown hforeign (List.nodup_middle.mpr hdistinct)

/-- **An object form is read** as what the record is for the trees of its known members. -/
theorem decoder_object {α : Type} {shape : Shape α} {members : List (String × Tree)} {a : α}
    (hdistinct : ((known shape.slots members).map Prod.fst).Nodup)
    (hforeign : ∀ member ∈ members, member.1 ∉ shape.slots.map Slot.name →
      member.2.skip = .ok ())
    (hreads : shape.Reads ((known shape.slots members).reverse.lookup ·) a) :
    shape.decoder (.object (members.map fun member => (some member.1, member.2)) none) = .ok a := by
  have hknown : ∀ member ∈ members, ∀ slot, slot? shape.slots member.1 = some slot →
      slot.check member.2 = .ok () := by
    intro member hmember slot hslot
    obtain ⟨hmem, hname⟩ := mem_of_slot? hslot
    refine hreads.check slot hmem member.2 (lookup_of_mem ?_ ?_)
    · rw [List.map_reverse]
      exact List.nodup_reverse.mpr hdistinct
    · rw [List.mem_reverse, mem_known, hname]
      exact ⟨hmember, hname ▸ List.mem_map_of_mem hmem⟩
  have hskip : ∀ member ∈ members, slot? shape.slots member.1 = none →
      member.2.skip = .ok () := by
    intro member hmember hslot
    refine hforeign member hmember fun hname => ?_
    rw [← isSome_slot?_iff, hslot] at hname
    nomatch hname
  have htake : takeMembers shape.slots [] (members.map fun member => (some member.1, member.2)) =
      .ok (known shape.slots members).reverse := by
    rw [takeMembers_eq hknown hskip (by rwa [List.map_nil, List.append_nil]), List.append_nil]
  rw [decoder, htake]
  exact hreads.build

end Shape

/-! ### Records -/

/-- What a member of an object says about a field. -/
def Field.Says (field : Field) (member : String × Tree) : Prop :=
  member.1 = field.name ∧ field.denotes member.2

section Says

variable {fields : List Field} {members : List (String × Tree)}

theorem map_fst_of_says (h : List.Forall₂ Field.Says fields members) :
    members.map Prod.fst = fields.map Field.name := by
  induction h with
  | nil => rfl
  | cons hmember _ ih => rw [List.map_cons, List.map_cons, ih, hmember.1]

/-- Every member says something about a field. -/
theorem exists_field_of_says (h : List.Forall₂ Field.Says fields members) {member : String × Tree}
    (hmember : member ∈ members) : ∃ field ∈ fields, field.Says member := by
  induction h with
  | nil => nomatch hmember
  | cons hsays _ ih =>
      rcases List.mem_cons.mp hmember with rfl | hmember
      · exact ⟨_, List.mem_cons_self, hsays⟩
      · obtain ⟨field, hfield, hsays⟩ := ih hmember
        exact ⟨field, List.mem_cons_of_mem _ hfield, hsays⟩

/-- About every field something is said. -/
theorem exists_member_of_says (h : List.Forall₂ Field.Says fields members) {field : Field}
    (hfield : field ∈ fields) : ∃ member ∈ members, field.Says member := by
  induction h with
  | nil => nomatch hfield
  | cons hsays _ ih =>
      rcases List.mem_cons.mp hfield with rfl | hfield
      · exact ⟨_, List.mem_cons_self, hsays⟩
      · obtain ⟨member, hmember, hsays⟩ := ih hfield
        exact ⟨member, List.mem_cons_of_mem _ hmember, hsays⟩

end Says

/-- The members of an object that says the same are read as what they denote. -/
theorem spells_members {members : List Field} {entries : List Entry}
    (hsound : ∀ field ∈ members, field.Sound) (h : List.Forall₂ Field.IsEntry members entries) :
    Spells (fun tree => ∃ trees : List (String × Tree), List.Forall₂ Field.Says members trees ∧
      tree = .object (trees.map fun member => (some member.1, member.2)) none)
      (objectText entries) := by
  have hspells : List.Forall₂ (fun (field : Field) entry => SpellsMember
      (fun member => member.1 = some field.name ∧ field.denotes member.2) entry)
      members entries := by
    refine ((List.forall₂_and_left _ _).mpr ⟨hsound, h⟩).imp ?_
    rintro field entry ⟨hsound, ⟨front, body, back, hname, hfront, hbody, hback, hread⟩, hvalue⟩
    refine ⟨front, body, back, hname, hfront, hbody, hback, (hsound _ hvalue).mono ?_⟩
    intro tree htree rest
    rw [hread]
    exact ⟨congrArg some (String.ofList_toList), htree⟩
  refine (spells_objectText hspells).mono ?_
  rintro _ ⟨trees, htrees, rfl⟩
  have hpairs : ∃ pairs : List (String × Tree), List.Forall₂ Field.Says members pairs ∧
      trees = pairs.map fun member => (some member.1, member.2) := by
    clear h hspells hsound
    induction htrees with
    | nil => exact ⟨[], .nil, rfl⟩
    | @cons field member _ _ hmember _ ih =>
        obtain ⟨pairs, hpairs, rfl⟩ := ih
        refine ⟨(field.name, member.2) :: pairs, .cons ⟨rfl, hmember.2⟩ hpairs, ?_⟩
        rw [List.map_cons, ← hmember.1]
  obtain ⟨pairs, hpairs, rfl⟩ := hpairs
  exact ⟨pairs, hpairs, rfl⟩

/-- **A record is read from every text that says the same.** -/
theorem spells_record {α : Type} {shape : Shape α} {fields : List Field} {text : List Char} {a : α}
    (h : IsObjectOf fields text) (hsound : ∀ field ∈ fields, field.Sound)
    (hnames : shape.slots.map Slot.name = fields.map Field.name)
    (hdistinct : (fields.map Field.name).Nodup)
    (hreads : ∀ find, (∀ field ∈ fields, field.Found find) → shape.Reads find a) :
    Spells (fun tree => shape.decoder tree = .ok a) text := by
  obtain ⟨kept, left, members, names, entries, hfields, hleft, hforeign, hmembers, hentries,
    rfl⟩ := h
  have hslots {name : String} : name ∈ shape.slots.map Slot.name ↔
      ∃ field ∈ fields, field.name = name := by
    rw [hnames, List.mem_map]
  have hmember {field : Field} : field ∈ members ↔
      field ∈ kept ∨ ∃ name ∈ names, Field.foreign name = field := by
    rw [hmembers.mem_iff, List.mem_append, List.mem_map]
  have hkept {field : Field} (h : field ∈ kept) : field ∈ fields :=
    hfields.mem_iff.mpr (List.mem_append_left _ h)
  have hmembersSound : ∀ field ∈ members, field.Sound := by
    intro field hfield
    rcases hmember.mp hfield with hfield | ⟨name, -, rfl⟩
    · exact hsound field (hkept hfield)
    · exact fun cs hcs => IsJson.spells hcs
  refine (spells_members hmembersSound hentries).mono ?_
  rintro _ ⟨trees, hsays, rfl⟩
  have hknown : ((Shape.known shape.slots trees).map Prod.fst).Perm (kept.map Field.name) := by
    have hall : ((kept.map Field.name).filter fun name =>
        (Shape.slot? shape.slots name).isSome) = kept.map Field.name := by
      refine List.filter_eq_self.mpr fun name hname => ?_
      obtain ⟨field, hfield, rfl⟩ := List.mem_map.mp hname
      exact Shape.isSome_slot?_iff.mpr (hslots.mpr ⟨field, hkept hfield, rfl⟩)
    have hnone : (names.filter fun name => (Shape.slot? shape.slots name).isSome) = [] := by
      refine List.filter_eq_nil_iff.mpr fun name hname hslot => ?_
      obtain ⟨field, hfield, heq⟩ := hslots.mp (Shape.isSome_slot?_iff.mp hslot)
      exact hforeign name hname field hfield heq
    have hperm := (hmembers.map Field.name).filter fun name =>
      (Shape.slot? shape.slots name).isSome
    rw [List.map_append, List.filter_append, hall, List.map_map] at hperm
    have hid : Field.name ∘ Field.foreign = id := rfl
    rw [hid, List.map_id, hnone, List.append_nil, ← map_fst_of_says hsays, List.filter_map] at hperm
    exact hperm
  have hpartition : (kept.map Field.name ++ left.map Field.name).Nodup := by
    rw [← List.map_append]
    exact (hfields.map Field.name).nodup_iff.mp hdistinct
  have hknownDistinct : ((Shape.known shape.slots trees).map Prod.fst).Nodup :=
    hknown.nodup_iff.mpr hpartition.of_append_left
  refine Shape.decoder_object hknownDistinct ?_ (hreads _ ?_)
  · intro tree htree hname
    obtain ⟨field, hfield, htreeName, hdenotes⟩ := exists_field_of_says hsays htree
    rcases hmember.mp hfield with hfield | ⟨name, -, rfl⟩
    · exact absurd (hslots.mpr ⟨field, hkept hfield, htreeName.symm⟩) hname
    · exact hdenotes
  · intro field hfield
    rcases List.mem_append.mp (hfields.mem_iff.mp hfield) with hin | hout
    · obtain ⟨tree, htree, htreeName, hdenotes⟩ :=
        exists_member_of_says hsays (hmember.mpr (.inl hin))
      refine .inl ⟨tree.2, Shape.lookup_of_mem ?_ ?_, hdenotes⟩
      · rw [List.map_reverse]
        exact List.nodup_reverse.mpr hknownDistinct
      · rw [List.mem_reverse, Shape.mem_known, ← htreeName]
        exact ⟨htree, htreeName ▸ hslots.mpr ⟨field, hfield, rfl⟩⟩
    · refine .inr ⟨hleft field hout, Shape.lookup_eq_none fun hmem => ?_⟩
      rw [List.map_reverse, List.mem_reverse, hknown.mem_iff] at hmem
      exact (List.nodup_append.mp hpartition).2.2 _ hmem _ (List.mem_map_of_mem hout) rfl

end FeedSync.Json
