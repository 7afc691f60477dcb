import FeedSync.Proofs.Json.Records
import FeedSync.Proofs.Json.Trees
import Mathlib.Logic.Function.Basic

/-!
# Edits of texts and the values that are decoded

An edit puts another text in the place of a text. It is made at a place of a larger text: at an
element of an array, at a member of an object, or at a field of a record, which is a member of its
object form and an element of its list form. What an edit does to the decoded value is known for the
larger text if it is known for the place, since a decoder takes every part by itself.

## Main definitions

* `Edit` — which texts may take the place of a text.
* `InElement`, `InMember`, `Shape.InField` — an edit at a place of a larger text.
* `WithoutMember` — a member that is taken out.
* `Carries` — what an edit does to the value that a decoder makes.

## Main statements

* `Carries.element`, `Shape.carries_field` — edits at places.
* `Shape.carries_withoutMember` — a member that is taken out.
-/

namespace FeedSync.Json

/-! ### Edits -/

/-- Which texts may take the place of a text. -/
abbrev Edit := List Char → List Char → Prop

/-- **The texts of a string**, with any escapes and with blanks around it. -/
def IsStringOf (s : String) (cs : List Char) : Prop :=
  ∃ front body back, cs = front ++ '"' :: (body ++ '"' :: back) ∧ Blanks front ∧
    IsStringBody body ∧ Blanks back ∧ ∀ rest, unescape (body ++ '"' :: rest) = .ok (s.toList, rest)

/-- **An edit of one element of an array**, counted from 0. -/
def InElement (index : Nat) (edit : Edit) : Edit := fun old new =>
  ∃ front before part part' after back, Blanks front ∧ Blanks back ∧ before.length = index ∧
    (∀ text ∈ before ++ after, IsJson text) ∧ edit part part' ∧
    old = front ++ (arrayText (before ++ part :: after) ++ back) ∧
    new = front ++ (arrayText (before ++ part' :: after) ++ back)

/-- **An edit of the value of one member of an object.** -/
def InMember (name : String) (edit : Edit) : Edit := fun old new =>
  ∃ front before key part part' after back, Blanks front ∧ Blanks back ∧ IsStringOf name key ∧
    (∀ entry ∈ before ++ after, entry.IsMember) ∧ edit part part' ∧
    old = front ++ (objectText (before ++ ⟨key, part⟩ :: after) ++ back) ∧
    new = front ++ (objectText (before ++ ⟨key, part'⟩ :: after) ++ back)

/-- **One member of an object is taken out.** -/
def WithoutMember (name : String) : Edit := fun old new =>
  ∃ front before key part after back, Blanks front ∧ Blanks back ∧ IsStringOf name key ∧
    (∀ entry ∈ before ++ after, entry.IsMember) ∧ IsJson part ∧
    old = front ++ (objectText (before ++ ⟨key, part⟩ :: after) ++ back) ∧
    new = front ++ (objectText (before ++ after) ++ back)

/-- **An edit of one field of a record**, in its object form or in its list form. -/
def Shape.InField {α : Type} (shape : Shape α) (name : String) (edit : Edit) : Edit :=
  fun old new => InMember name edit old new ∨
    InElement ((shape.slots.map Slot.name).idxOf name) edit old new

/-! ### Texts of strings and members -/

/-- A string is one of its texts. -/
theorem isStringOf_quote (s : String) : IsStringOf s (quote s) :=
  ⟨[], escape s.toList, [], by simp [quote], List.forall_mem_nil _, isStringBody_escape _,
    List.forall_mem_nil _, unescape_escape s.toList⟩

theorem IsStringOf.isName {s : String} {cs : List Char} (h : IsStringOf s cs) : IsName cs := by
  obtain ⟨front, body, back, hcs, hfront, hbody, hback, -⟩ := h
  exact ⟨front, body, back, hcs, hfront, hbody, hback⟩

/-- The tree of a text of a string is the string. -/
theorem IsStringOf.hasTree {s : String} {cs : List Char} (h : IsStringOf s cs) :
    HasTree cs (.text (.ok s)) := by
  obtain ⟨front, body, back, rfl, hfront, hbody, hback, hread⟩ := h
  have htree := (hasTree_string hbody hread).blanks hfront hback
  rw [String.ofList_toList] at htree
  have htext : front ++ '"' :: (body ++ '"' :: back) =
      front ++ ('"' :: body ++ ['"'] ++ back) := by simp
  rwa [htext]

theorem isJson_objectText {entries : List Entry} (h : ∀ entry ∈ entries, entry.IsMember) :
    IsJson (objectText entries) :=
  .object (fun entry hentry => (h entry hentry).1) fun entry hentry => (h entry hentry).2

/-! ### What edits do -/

/-- **What an edit does to the value that a decoder makes.** -/
def Carries {α : Type} (decoder : Decoder α) (edit : Edit) (R : α → α → Prop) : Prop :=
  ∀ old new, edit old new → ∃ tree tree', HasTree old tree ∧ HasTree new tree' ∧
    ∀ a, decoder tree = .ok a → ∃ b, decoder tree' = .ok b ∧ R a b

/-- A text that is decoded is still decoded after the edit. -/
theorem Carries.decode {α : Type} {decoder : Decoder α} {edit : Edit} {R : α → α → Prop}
    (h : Carries decoder edit R) {old new : String} (hedit : edit old.toList new.toList) {a : α}
    (ha : decoder.decode old = .ok a) : ∃ b, decoder.decode new = .ok b ∧ R a b := by
  obtain ⟨tree, tree', hold, hnew, hcarries⟩ := h _ _ hedit
  rw [decode_of_hasTree hold] at ha
  rw [decode_of_hasTree hnew]
  exact hcarries a ha

/-- Two steps succeed if each of them does. -/
theorem bind_eq_ok {α β : Type} {x : Except Fault α} {f : α → Except Fault β} {b : β} :
    x >>= f = .ok b ↔ ∃ a, x = .ok a ∧ f a = .ok b := by
  constructor
  · intro h
    cases x with
    | error fault => cases h
    | ok a => exact ⟨a, rfl, h⟩
  · rintro ⟨a, rfl, h⟩
    exact h

/-- The parts of a list and what belongs to each of them. -/
theorem exists_forall₂_around {α β : Type} {R : α → β → Prop} {before after : List α} {part : α}
    {bs : List β} (h : List.Forall₂ R (before ++ part :: after) bs) :
    ∃ bs₁ b bs₂, bs = bs₁ ++ b :: bs₂ ∧ List.Forall₂ R before bs₁ ∧ R part b ∧
      List.Forall₂ R after bs₂ := by
  induction before generalizing bs with
  | nil =>
      obtain ⟨b, bs₂, hpart, hafter, rfl⟩ := List.forall₂_cons_left_iff.mp h
      exact ⟨[], b, bs₂, rfl, .nil, hpart, hafter⟩
  | cons a before ih =>
      obtain ⟨b, others, ha, hothers, rfl⟩ := List.forall₂_cons_left_iff.mp h
      obtain ⟨bs₁, c, bs₂, rfl, hbefore, hpart, hafter⟩ := ih hothers
      exact ⟨b :: bs₁, c, bs₂, rfl, .cons ha hbefore, hpart, hafter⟩

/-! ### Elements of arrays -/

section Elements

variable {α : Type} {decoder : Decoder α} {edit : Edit} {R : α → α → Prop}

/-- An edit of an element changes one tree of an array. -/
theorem InElement.exists_trees {index : Nat} {old new : List Char} {change : Tree → Tree → Prop}
    (hchange : ∀ part part', edit part part' → ∃ tree tree', HasTree part tree ∧
      HasTree part' tree' ∧ change tree tree')
    (h : InElement index edit old new) : ∃ before tree tree' after, before.length = index ∧
      change tree tree' ∧ HasTree old (.array (before ++ tree :: after) none) ∧
      HasTree new (.array (before ++ tree' :: after) none) := by
  obtain ⟨front, before, part, part', after, back, hfront, hback, hindex, hothers, hpart, rfl,
    rfl⟩ := h
  obtain ⟨hbefore, hafter⟩ := List.forall_mem_append.mp hothers
  obtain ⟨trees, htrees⟩ := exists_forall₂ fun text htext => (hbefore text htext).exists_tree
  obtain ⟨others, hothers⟩ := exists_forall₂ fun text htext => (hafter text htext).exists_tree
  obtain ⟨tree, tree', hold, hnew, htree⟩ := hchange part part' hpart
  have harray {part : List Char} {tree : Tree} (h : HasTree part tree) :
      HasTree (front ++ (arrayText (before ++ part :: after) ++ back))
        (.array (trees ++ tree :: others) none) :=
    (hasTree_arrayText (List.rel_append htrees (.cons h hothers))).blanks hfront hback
  exact ⟨trees, tree, tree', others, htrees.length_eq.symm.trans hindex, htree, harray hold,
    harray hnew⟩

/-- Elements are decoded one by one. -/
theorem mapM_eq_ok_iff {trees : List Tree} {as : List α} :
    trees.mapM decoder = .ok as ↔ List.Forall₂ (fun tree a => decoder tree = .ok a) trees as := by
  induction trees generalizing as with
  | nil =>
      rw [List.mapM_nil, List.forall₂_nil_left_iff]
      exact ⟨fun h => (Except.ok.inj h).symm, fun h => congrArg Except.ok h.symm⟩
  | cons tree trees ih =>
      simp only [List.mapM_cons, bind_eq_ok, ih, List.forall₂_cons_left_iff]
      constructor
      · rintro ⟨a, ha, as, has, h⟩
        exact ⟨a, as, ha, has, (Except.ok.inj h).symm⟩
      · rintro ⟨a, as, ha, has, rfl⟩
        exact ⟨a, ha, as, has, rfl⟩

theorem list_array_eq_ok_iff {trees : List Tree} {as : List α} :
    list decoder (.array trees none) = .ok as ↔
      List.Forall₂ (fun tree a => decoder tree = .ok a) trees as := by
  rw [list, bind_eq_ok, ← mapM_eq_ok_iff]
  refine ⟨?_, fun h => ⟨as, h, rfl⟩⟩
  rintro ⟨bs, h, hbs⟩
  rwa [← Except.ok.inj hbs]

/-- **An edit of an element changes one value of a list.** -/
theorem Carries.element (h : Carries decoder edit R) (index : Nat) :
    Carries (list decoder) (InElement index edit) fun as bs => ∃ before a b after,
      before.length = index ∧ as = before ++ a :: after ∧ bs = before ++ b :: after ∧ R a b := by
  intro old new hedit
  obtain ⟨before, tree, tree', after, hindex, hcarries, hold, hnew⟩ := hedit.exists_trees h
  refine ⟨_, _, hold, hnew, fun as has => ?_⟩
  obtain ⟨as₁, a, as₂, rfl, hbefore, ha, hafter⟩ :=
    exists_forall₂_around (list_array_eq_ok_iff.mp has)
  obtain ⟨b, hb, hR⟩ := hcarries a ha
  exact ⟨as₁ ++ b :: as₂,
    list_array_eq_ok_iff.mpr (List.rel_append hbefore (.cons hb hafter)),
    as₁, a, b, as₂, hbefore.length_eq.symm.trans hindex, rfl, rfl, hR⟩

end Elements

/-! ### Members of objects -/

/-- A member that is edited has its name and the tree of its value. -/
theorem IsStringOf.hasTree_entry {name : String} {key value : List Char} {tree : Tree}
    (hkey : IsStringOf name key) (hvalue : HasTree value tree) :
    Entry.HasTree ⟨key, value⟩ (some name, tree) := by
  obtain ⟨front, body, back, rfl, hfront, hbody, hback, hread⟩ := hkey
  have h := Json.hasTree_entry hfront hbody hback hread hvalue
  rwa [String.ofList_toList] at h

/-- Every member of the grammar has a tree, before a place and after it. -/
theorem exists_trees_of_isMember {before after : List Entry}
    (h : ∀ entry ∈ before ++ after, entry.IsMember) : ∃ members others,
      List.Forall₂ Entry.HasTree before members ∧ List.Forall₂ Entry.HasTree after others := by
  obtain ⟨hbefore, hafter⟩ := List.forall_mem_append.mp h
  obtain ⟨members, hmembers⟩ := exists_forall₂ fun entry hentry =>
    exists_tree_of_isName (hbefore entry hentry).1 (hbefore entry hentry).2.exists_tree
  obtain ⟨others, hothers⟩ := exists_forall₂ fun entry hentry =>
    exists_tree_of_isName (hafter entry hentry).1 (hafter entry hentry).2.exists_tree
  exact ⟨members, others, hmembers, hothers⟩

/-- An edit of a member changes one tree of an object. -/
theorem InMember.exists_trees {name : String} {edit : Edit} {old new : List Char}
    {change : Tree → Tree → Prop}
    (hchange : ∀ part part', edit part part' → ∃ tree tree', HasTree part tree ∧
      HasTree part' tree' ∧ change tree tree')
    (h : InMember name edit old new) : ∃ before tree tree' after, change tree tree' ∧
      HasTree old (.object (before ++ (some name, tree) :: after) none) ∧
      HasTree new (.object (before ++ (some name, tree') :: after) none) := by
  obtain ⟨front, before, key, part, part', after, back, hfront, hback, hkey, hothers, hpart, rfl,
    rfl⟩ := h
  obtain ⟨members, others, hmembers, hothers⟩ := exists_trees_of_isMember hothers
  obtain ⟨tree, tree', hold, hnew, htree⟩ := hchange part part' hpart
  have hobject {part : List Char} {tree : Tree} (h : HasTree part tree) :
      HasTree (front ++ (objectText (before ++ ⟨key, part⟩ :: after) ++ back))
        (.object (members ++ (some name, tree) :: others) none) :=
    (hasTree_objectText (List.rel_append hmembers (.cons (hkey.hasTree_entry h) hothers))).blanks
      hfront hback
  exact ⟨members, tree, tree', others, htree, hobject hold, hobject hnew⟩

/-- A member that is taken out is missing among the trees. -/
theorem WithoutMember.exists_trees {name : String} {old new : List Char}
    (h : WithoutMember name old new) : ∃ before tree after,
      HasTree old (.object (before ++ (some name, tree) :: after) none) ∧
      HasTree new (.object (before ++ after) none) := by
  obtain ⟨front, before, key, part, after, back, hfront, hback, hkey, hothers, hpart, rfl,
    rfl⟩ := h
  obtain ⟨members, others, hmembers, hothers⟩ := exists_trees_of_isMember hothers
  obtain ⟨tree, htree⟩ := hpart.exists_tree
  have hold := List.rel_append hmembers (.cons (hkey.hasTree_entry htree) hothers)
  have hnew := List.rel_append hmembers hothers
  exact ⟨members, tree, others, (hasTree_objectText hold).blanks hfront hback,
    (hasTree_objectText hnew).blanks hfront hback⟩

/-! ### Fields of records -/

namespace Shape

variable {slots : List Slot} {seen found : List (String × Tree)} {name : String}

/-- Members are taken in two stretches. -/
theorem takeMembers_append (before after : List (Option String × Tree)) :
    takeMembers slots seen (before ++ after) =
      takeMembers slots seen before >>= fun seen => takeMembers slots seen after := by
  induction before generalizing seen with
  | nil => rfl
  | cons member before ih =>
      obtain ⟨name, value⟩ := member
      cases name with
      | none => rfl
      | some name =>
          simp only [List.cons_append, takeMembers, ih]
          split
          · split
            · rfl
            · rw [bind_assoc]
          · rw [bind_assoc]

/-- Names that are seen are still seen with another one. -/
theorem isSome_lookup_cons {others seen : List (String × Tree)} (x y : Tree)
    (h : ∀ other, (others.lookup other).isSome = true → (seen.lookup other).isSome = true)
    (other : String) (hother : (((name, y) :: others).lookup other).isSome = true) :
    (((name, x) :: seen).lookup other).isSome = true := by
  rw [List.lookup_cons] at hother ⊢
  split
  · rfl
  · next hne =>
      rw [hne] at hother
      exact h other hother

/-- **Members are taken alike whatever was seen**, as long as not more names were. -/
theorem takeMembers_frame {members : List (Option String × Tree)}
    (h : takeMembers slots seen members = .ok found) :
    ∃ own, found = own ++ seen ∧
      (∀ name, (seen.lookup name).isSome = true → own.lookup name = none) ∧
      ∀ others, (∀ name, (others.lookup name).isSome = true → (seen.lookup name).isSome = true) →
        takeMembers slots others members = .ok (own ++ others) := by
  -- A member of the shape is seen by those after it, so both kinds of seen names grow alike.
  induction members generalizing seen found with
  | nil => exact ⟨[], (Except.ok.inj h).symm, fun _ _ => rfl, fun _ _ => rfl⟩
  | cons member members ih =>
      obtain ⟨name, value⟩ := member
      cases name with
      | none => cases h
      | some name =>
          rw [takeMembers] at h
          cases hslot : slots.find? (·.name == name) with
          | none =>
              rw [hslot] at h
              obtain ⟨_, hskip, hmembers⟩ := bind_eq_ok.mp h
              obtain ⟨own, hfound, hown, hothers⟩ := ih hmembers
              refine ⟨own, hfound, hown, fun others hseen => ?_⟩
              rw [takeMembers, hslot]
              exact bind_eq_ok.mpr ⟨_, hskip, hothers others hseen⟩
          | some slot =>
              rw [hslot] at h
              simp only at h
              split at h
              · cases h
              next hunseen =>
                obtain ⟨_, hcheck, hmembers⟩ := bind_eq_ok.mp h
                obtain ⟨own, rfl, hown, hothers⟩ := ih hmembers
                refine ⟨own ++ [(name, value)], by simp, fun other hother => ?_,
                  fun others hseen => ?_⟩
                · have hne : other ≠ name := by
                    rintro rfl
                    exact hunseen hother
                  have hnone : (other == name) = false := beq_false_of_ne hne
                  rw [List.lookup_append, hown other (by rwa [List.lookup_cons, hnone])]
                  simp [List.lookup_cons, hnone]
                · rw [takeMembers, hslot]
                  simp only
                  rw [if_neg fun h => hunseen (hseen name h), List.append_assoc]
                  exact bind_eq_ok.mpr ⟨_, hcheck, hothers _ (isSome_lookup_cons _ _ hseen)⟩

/-- Members around the one of a field are taken alike, whatever stands in it or if it is missing. -/
theorem takeMembers_around {before after : List (Option String × Tree)} {slot : Slot} {x : Tree}
    (hslot : slot? slots name = some slot)
    (h : takeMembers slots [] (before ++ (some name, x) :: after) = .ok found) :
    slot.check x = .ok () ∧ ∃ own seen, own.lookup name = none ∧ seen.lookup name = none ∧
      found = own ++ (name, x) :: seen ∧
      (∀ y, slot.check y = .ok () →
        takeMembers slots [] (before ++ (some name, y) :: after) = .ok (own ++ (name, y) :: seen)) ∧
      takeMembers slots [] (before ++ after) = .ok (own ++ seen) := by
  rw [takeMembers_append] at h
  obtain ⟨seen, hbefore, h⟩ := bind_eq_ok.mp h
  rw [takeMembers, ← slot?, hslot] at h
  simp only at h
  split at h
  · cases h
  next hunseen =>
    obtain ⟨_, hcheck, hafter⟩ := bind_eq_ok.mp h
    obtain ⟨own, rfl, hown, hothers⟩ := takeMembers_frame hafter
    have hname : seen.lookup name = none := Option.not_isSome_iff_eq_none.mp hunseen
    refine ⟨hcheck, own, seen, hown name (by simp), hname, rfl, fun y hy => ?_, ?_⟩
    · rw [takeMembers_append]
      refine bind_eq_ok.mpr ⟨seen, hbefore, ?_⟩
      rw [takeMembers, ← slot?, hslot]
      simp only
      rw [if_neg hunseen]
      exact bind_eq_ok.mpr ⟨_, hy, hothers _ (isSome_lookup_cons _ _ fun _ h => h)⟩
    · rw [takeMembers_append]
      refine bind_eq_ok.mpr ⟨seen, hbefore, hothers _ fun other hother => ?_⟩
      rw [List.lookup_cons]
      split
      · rfl
      · exact hother

/-- Elements around the one of a field are taken alike, whatever stands in it. -/
theorem takeElements_around {front back : List Slot} {before after : List Tree} {slot : Slot}
    {x : Tree} {stop : Option Fault} (hlength : before.length = front.length)
    (h : takeElements (front ++ slot :: back) (before ++ x :: after) stop = .ok found) :
    slot.check x = .ok () ∧ ∃ own seen, own.map Prod.fst = front.map Slot.name ∧
      found = own ++ (slot.name, x) :: seen ∧
      ∀ y, slot.check y = .ok () →
        takeElements (front ++ slot :: back) (before ++ y :: after) stop =
          .ok (own ++ (slot.name, y) :: seen) := by
  induction front generalizing before found with
  | nil =>
      obtain rfl := List.length_eq_zero_iff.mp hlength
      obtain ⟨_, hcheck, h⟩ := bind_eq_ok.mp h
      obtain ⟨seen, hafter, hfound⟩ := bind_eq_ok.mp h
      refine ⟨hcheck, [], seen, rfl, (Except.ok.inj hfound).symm, fun y hy => ?_⟩
      exact bind_eq_ok.mpr ⟨_, hy, bind_eq_ok.mpr ⟨seen, hafter, rfl⟩⟩
  | cons first front ih =>
      obtain ⟨tree, before, rfl⟩ := List.exists_cons_of_length_eq_add_one hlength
      obtain ⟨_, hfirst, h⟩ := bind_eq_ok.mp h
      obtain ⟨others, hothers, hfound⟩ := bind_eq_ok.mp h
      obtain ⟨hcheck, own, seen, hown, rfl, hput⟩ := ih (by simpa using hlength) hothers
      refine ⟨hcheck, (first.name, tree) :: own, seen, by simp [hown],
        (Except.ok.inj hfound).symm, fun y hy => ?_⟩
      exact bind_eq_ok.mpr ⟨_, hfirst, bind_eq_ok.mpr ⟨_, hput y hy, rfl⟩⟩

/-- Another tree under a name is found there, and everything else as before. -/
theorem lookup_around {own seen : List (String × Tree)} (hown : own.lookup name = none)
    (x y : Tree) : ((own ++ (name, y) :: seen).lookup ·) =
      Function.update ((own ++ (name, x) :: seen).lookup ·) name (some y) := by
  funext other
  by_cases heq : other = name
  · rw [heq, Function.update_self, List.lookup_append, hown]
    simp
  · have hnone : (other == name) = false := beq_false_of_ne heq
    rw [Function.update_of_ne heq]
    simp [List.lookup_append, List.lookup_cons, hnone]

/-- A tree that is taken out is not found, and everything else as before. -/
theorem lookup_without {own seen : List (String × Tree)} (hown : own.lookup name = none)
    (hseen : seen.lookup name = none) (x : Tree) : ((own ++ seen).lookup ·) =
      Function.update ((own ++ (name, x) :: seen).lookup ·) name none := by
  funext other
  by_cases heq : other = name
  · rw [heq, Function.update_self, List.lookup_append, hown, hseen]
    rfl
  · have hnone : (other == name) = false := beq_false_of_ne heq
    rw [Function.update_of_ne heq]
    simp [List.lookup_append, List.lookup_cons, hnone]

section Holes

variable {α : Type} {shape : Shape α} {slot : Slot}

/-- **A tree of a record with a hole for one field**: what is put there decides about the record by
its check and by what is built from it. -/
def IsHole (shape : Shape α) (slot : Slot) (hole : Tree → Tree) : Prop :=
  ∀ x a, shape.decoder (hole x) = .ok a → slot.check x = .ok () ∧ ∃ find, find slot.name = some x ∧
    shape.build find = .ok a ∧ ∀ y, slot.check y = .ok () →
      shape.decoder (hole y) = shape.build (Function.update find slot.name (some y))

theorem isHole_member (hslot : slot? shape.slots slot.name = some slot)
    (before after : List (Option String × Tree)) :
    shape.IsHole slot fun x => .object (before ++ (some slot.name, x) :: after) none := by
  intro x a h
  obtain ⟨found, hfound, h⟩ := bind_eq_ok.mp h
  obtain ⟨_, -, h⟩ := bind_eq_ok.mp h
  obtain ⟨hcheck, own, seen, hown, -, rfl, hput, -⟩ := takeMembers_around hslot hfound
  refine ⟨hcheck, _, ?_, h, fun y hy => ?_⟩
  · simp [List.lookup_append, hown]
  · rw [← lookup_around hown, decoder, hput y hy]
    rfl

theorem isHole_element {front back : List Slot} (hslots : shape.slots = front ++ slot :: back)
    (hname : slot.name ∉ front.map Slot.name) {before : List Tree}
    (hlength : before.length = front.length) (after : List Tree) :
    shape.IsHole slot fun x => .array (before ++ x :: after) none := by
  intro x a h
  obtain ⟨found, hfound, h⟩ := bind_eq_ok.mp h
  rw [hslots] at hfound
  obtain ⟨hcheck, own, seen, hnames, rfl, hput⟩ := takeElements_around hlength hfound
  have hown : own.lookup slot.name = none := lookup_eq_none (hnames ▸ hname)
  refine ⟨hcheck, _, ?_, h, fun y hy => ?_⟩
  · simp [List.lookup_append, hown]
  · rw [← lookup_around hown, decoder, hslots, hput y hy]
    rfl

/-- **A record without a member** is built as if nothing were found under its name. -/
theorem decoder_without_member (hslot : slot? shape.slots slot.name = some slot)
    {before after : List (Option String × Tree)} {x : Tree} {a : α}
    (h : shape.decoder (.object (before ++ (some slot.name, x) :: after) none) = .ok a) :
    ∃ find, find slot.name = some x ∧ shape.build find = .ok a ∧
      shape.decoder (.object (before ++ after) none) =
        shape.build (Function.update find slot.name none) := by
  obtain ⟨found, hfound, h⟩ := bind_eq_ok.mp h
  obtain ⟨_, -, h⟩ := bind_eq_ok.mp h
  obtain ⟨-, own, seen, hown, hseen, rfl, -, hwithout⟩ := takeMembers_around hslot hfound
  refine ⟨_, ?_, h, ?_⟩
  · simp [List.lookup_append, hown]
  · rw [← lookup_without hown hseen, decoder, hwithout]
    rfl

end Holes

/-! ### What is built -/

section Building

variable {α β : Type} {find : String → Option Tree} {b : β}

theorem build_seq_eq_ok {f : Shape (α → β)} {shape : Shape α} :
    (f <*> shape).build find = .ok b ↔
      ∃ g, f.build find = .ok g ∧ ∃ a, shape.build find = .ok a ∧ g a = b := by
  change (do return (← f.build find) (← shape.build find)) = _ ↔ _
  simp only [bind_eq_ok]
  constructor
  · rintro ⟨g, hg, a, ha, h⟩
    exact ⟨g, hg, a, ha, Except.ok.inj h⟩
  · rintro ⟨g, hg, a, ha, rfl⟩
    exact ⟨g, hg, a, ha, rfl⟩

theorem build_map_eq_ok {f : α → β} {shape : Shape α} :
    (f <$> shape).build find = .ok b ↔ ∃ a, shape.build find = .ok a ∧ f a = b := by
  change (do return (← Except.ok f) (← shape.build find)) = _ ↔ _
  simp only [bind_eq_ok]
  constructor
  · rintro ⟨g, hg, a, ha, h⟩
    obtain rfl := Except.ok.inj hg
    exact ⟨a, ha, Except.ok.inj h⟩
  · rintro ⟨a, ha, rfl⟩
    exact ⟨f, rfl, a, ha, rfl⟩

variable {name other : String} {tree : Option Tree}

/-- A field is built from what is found under its name. -/
theorem required_update (h : name ≠ other) (decoder : Decoder α) :
    (required name decoder).build (Function.update find other tree) =
      (required name decoder).build find := by
  simp only [required, Function.update_of_ne h]

theorem optional_update (h : name ≠ other) (decoder : Decoder α) :
    (optional name decoder).build (Function.update find other tree) =
      (optional name decoder).build find := by
  simp only [optional, Function.update_of_ne h]

theorem defaulted_update (h : name ≠ other) (decoder : Decoder α) (default : α) :
    (defaulted name decoder default).build (Function.update find other tree) =
      (defaulted name decoder default).build find := by
  simp only [defaulted, Function.update_of_ne h]

end Building

/-! ### Edits of fields -/

section Fields

variable {α β : Type} {shape : Shape α} {name : String} {decoder : Decoder β} {R : α → α → Prop}
  {isOmissible : Bool}

/-- Another tree in a hole changes what the record is built from in one field. -/
theorem IsHole.carries {hole : Tree → Tree} {tree tree' : Tree} {S : β → β → Prop}
    (h : shape.IsHole ⟨name, fun tree => discard (decoder tree), isOmissible⟩ hole)
    (htree : ∀ b, decoder tree = .ok b → ∃ b', decoder tree' = .ok b' ∧ S b b')
    (hbuild : ∀ find b b' a, find name = some tree → decoder tree = .ok b →
      decoder tree' = .ok b' → S b b' → shape.build find = .ok a →
        ∃ a', shape.build (Function.update find name (some tree')) = .ok a' ∧ R a a')
    {a : α} (ha : shape.decoder (hole tree) = .ok a) :
    ∃ a', shape.decoder (hole tree') = .ok a' ∧ R a a' := by
  obtain ⟨hcheck, find, hfind, hfound, hput⟩ := h tree a ha
  obtain ⟨b, hb⟩ : ∃ b, decoder tree = .ok b := by
    cases hdecoder : decoder tree with
    | error fault =>
        simp only [hdecoder] at hcheck
        cases hcheck
    | ok b => exact ⟨b, rfl⟩
  obtain ⟨b', hb', hS⟩ := htree b hb
  rw [hput tree' (discard_eq_ok hb')]
  exact hbuild find b b' a hfind hb hb' hS hfound

/-- **An edit of a field changes what the record is built from** in this field, and nothing else. -/
theorem carries_field {edit : Edit} {S : β → β → Prop} (h : Carries decoder edit S)
    (hslot : slot? shape.slots name =
      some ⟨name, fun tree => discard (decoder tree), isOmissible⟩)
    (hbuild : ∀ find tree tree' b b' a, find name = some tree → decoder tree = .ok b →
      decoder tree' = .ok b' → S b b' → shape.build find = .ok a →
        ∃ a', shape.build (Function.update find name (some tree')) = .ok a' ∧ R a a') :
    Carries shape.decoder (shape.InField name edit) R := by
  rintro old new (hedit | hedit)
  · obtain ⟨before, tree, tree', after, htree, hold, hnew⟩ := hedit.exists_trees h
    refine ⟨_, _, hold, hnew, fun a => ?_⟩
    exact (isHole_member hslot before after).carries htree fun find => hbuild find tree tree'
  · obtain ⟨before, tree, tree', after, hindex, htree, hold, hnew⟩ := hedit.exists_trees h
    obtain ⟨-, front, back, hslots, hfront⟩ := List.find?_eq_some_iff_append.mp hslot
    have hname : name ∉ front.map Slot.name := by
      intro hmem
      obtain ⟨slot, hmem, heq⟩ := List.mem_map.mp hmem
      simpa [heq] using hfront slot hmem
    have hlength : before.length = front.length := by
      rw [hindex, hslots, List.map_append, List.map_cons, List.idxOf_append_of_notMem hname,
        List.idxOf_cons_self, List.length_map, Nat.add_zero]
    refine ⟨_, _, hold, hnew, fun a => ?_⟩
    exact (isHole_element hslots hname hlength after).carries htree
      fun find => hbuild find tree tree'

/-- **A member that is taken out** leaves the rest of the record as it is. -/
theorem carries_withoutMember {slot : Slot} (hslot : slot? shape.slots name = some slot)
    (hbuild : ∀ find tree a, find name = some tree → shape.build find = .ok a →
        ∃ a', shape.build (Function.update find name none) = .ok a' ∧ R a a') :
    Carries shape.decoder (WithoutMember name) R := by
  obtain ⟨-, rfl⟩ := mem_of_slot? hslot
  intro old new hedit
  obtain ⟨before, tree, after, hold, hnew⟩ := hedit.exists_trees
  refine ⟨_, _, hold, hnew, fun a ha => ?_⟩
  obtain ⟨find, hfind, hfound, hwithout⟩ := decoder_without_member hslot ha
  rw [hwithout]
  exact hbuild find tree a hfind hfound

end Fields

end Shape

end FeedSync.Json
