import FeedSync.Proofs.Json.Edits

/-!
# Places in texts

What a decoder takes from a tree stands somewhere in the text: every element of an array, every
member of an object and every field that a record was read with has a text of its own, and each of
them can be edited there.

## Main definitions

* `CanEdit` — a part of a text can be edited.

## Main statements

* `exists_inElement`, `exists_inMember` — parts of containers have their places.
* `Shape.exists_inField` — so has a field that a record was read with.
-/

namespace FeedSync.Json

/-- **A part of a text can be edited**: whatever takes its place makes an edited text. -/
def CanEdit (place : Edit → Edit) (text : List Char) (tree : Tree) : Prop :=
  ∃ part, IsJson part ∧ HasTree part tree ∧
    ∀ (edit : Edit) (part' : List Char), edit part part' → ∃ new, place edit text new

/-- Every element of an array has its place. -/
theorem exists_inElement {text : List Char} {before after : List Tree} {tree : Tree}
    (h : IsJson text) (htree : HasTree text (.array (before ++ tree :: after) none)) :
    CanEdit (InElement before.length) text tree := by
  have hparts := h.hasParts htree
  generalize hwhole : Tree.array (before ++ tree :: after) none = whole at hparts
  cases hparts with
  | @array front back texts trees hfront hback htexts htrees =>
      obtain ⟨rfl, -⟩ := Tree.array.inj hwhole
      obtain ⟨texts₁, part, texts₂, rfl, hbefore, hpart, -⟩ := exists_forall₂_around htrees.flip
      obtain ⟨htexts₁, hpartJson, htexts₂⟩ :
          (∀ t ∈ texts₁, IsJson t) ∧ IsJson part ∧ ∀ t ∈ texts₂, IsJson t := by
        rwa [List.forall_mem_append, List.forall_mem_cons] at htexts
      refine ⟨part, hpartJson, hpart, fun edit part' hedit => ?_⟩
      exact ⟨_, front, texts₁, part, part', texts₂, back, hfront, hback, hbefore.length_eq.symm,
        List.forall_mem_append.mpr ⟨htexts₁, htexts₂⟩, hedit, rfl, rfl⟩
  | object => cases hwhole
  | bare harray => cases List.append_eq_nil_iff.mp (harray _ _ hwhole.symm) |>.2

/-- Every value of a list has its place. -/
theorem exists_inElement_of_list {α : Type} {decoder : Decoder α} {text : List Char} {tree : Tree}
    {before after : List α} {a : α} (h : IsJson text) (htree : HasTree text tree)
    (ha : list decoder tree = .ok (before ++ a :: after)) :
    ∃ element, CanEdit (InElement before.length) text element ∧ decoder element = .ok a := by
  cases tree with
  | array elements stop =>
      cases stop with
      | some fault =>
          obtain ⟨_, -, hstop⟩ := bind_eq_ok.mp ha
          cases hstop
      | none =>
          obtain ⟨trees₁, element, trees₂, rfl, hbefore, helement, -⟩ :=
            exists_forall₂_around (list_array_eq_ok_iff.mp ha).flip
          exact ⟨element, hbefore.length_eq ▸ exists_inElement h htree, helement⟩
  | _ => cases ha

/-- An array with elements is closed. -/
theorem HasTree.stop_eq_none {text : List Char} {before after : List Tree} {tree : Tree}
    {stop : Option Fault} (htree : HasTree text (.array (before ++ tree :: after) stop))
    (h : IsJson text) : stop = none := by
  have hparts := h.hasParts htree
  generalize hwhole : Tree.array (before ++ tree :: after) stop = whole at hparts
  cases hparts with
  | array => exact (Tree.array.inj hwhole).2
  | object => cases hwhole
  | bare harray => cases List.append_eq_nil_iff.mp (harray _ _ hwhole.symm) |>.2

/-- A member with a name that denotes characters has a text of this string for its name. -/
theorem isStringOf_of_hasTree {entry : Entry} {name : String} {tree : Tree}
    (h : entry.HasTree (some name, tree)) :
    IsStringOf name entry.name ∧ HasTree entry.value tree := by
  obtain ⟨front, body, back, hname, hfront, hbody, hback, hvalue⟩ := h
  obtain ⟨result, hresult⟩ := hbody.unescape_append
  refine ⟨⟨front, body, back, hname, hfront, hbody, hback, fun rest => ?_⟩,
    hvalue.mono fun _ h => (Prod.mk.inj (h [])).2⟩
  obtain ⟨_, -, hmember, -⟩ := hvalue _ [] (Nat.le_refl _) endsNumber_nil
  have hread := (Prod.mk.inj (hmember rest)).1
  rw [hresult] at hread ⊢
  cases result with
  | error fault => cases hread
  | ok chars =>
      obtain rfl : name = String.ofList chars := Option.some.inj hread
      rw [String.toList_ofList]
      rfl

/-- Every member of an object has its place. -/
theorem exists_inMember {text : List Char} {before after : List (Option String × Tree)}
    {name : String} {tree : Tree} (h : IsJson text)
    (htree : HasTree text (.object (before ++ (some name, tree) :: after) none)) :
    CanEdit (InMember name) text tree := by
  have hparts := h.hasParts htree
  generalize hwhole : Tree.object (before ++ (some name, tree) :: after) none = whole at hparts
  cases hparts with
  | array => cases hwhole
  | @object front back entries members hfront hback hentries hmembers =>
      obtain ⟨rfl, -⟩ := Tree.object.inj hwhole
      obtain ⟨entries₁, ⟨key, part⟩, entries₂, rfl, -, hentry, -⟩ :=
        exists_forall₂_around hmembers.flip
      obtain ⟨hentries₁, hmember, hentries₂⟩ :
          (∀ e ∈ entries₁, e.IsMember) ∧ Entry.IsMember ⟨key, part⟩ ∧
            ∀ e ∈ entries₂, e.IsMember := by
        rwa [List.forall_mem_append, List.forall_mem_cons] at hentries
      obtain ⟨hkey, hpart⟩ := isStringOf_of_hasTree hentry
      refine ⟨part, hmember.2, hpart, fun edit part' hedit => ?_⟩
      exact ⟨_, front, entries₁, key, part, part', entries₂, back, hfront, hback, hkey,
        List.forall_mem_append.mpr ⟨hentries₁, hentries₂⟩, hedit, rfl, rfl⟩
  | bare _ hobject => cases List.append_eq_nil_iff.mp (hobject _ _ hwhole.symm) |>.2

namespace Shape

variable {slots : List Slot} {seen found : List (String × Tree)} {name : String} {tree : Tree}

/-- What is found under a name was a member with this name. -/
theorem mem_of_takeMembers {members : List (Option String × Tree)}
    (h : takeMembers slots seen members = .ok found) (htree : found.lookup name = some tree) :
    (some name, tree) ∈ members ∨ seen.lookup name = some tree := by
  induction members generalizing seen with
  | nil => exact .inr (Except.ok.inj h ▸ htree)
  | cons member members ih =>
      obtain ⟨other, value⟩ := member
      cases other with
      | none => cases h
      | some other =>
          rw [takeMembers] at h
          split at h
          · split at h
            · cases h
            obtain ⟨_, -, h⟩ := bind_eq_ok.mp h
            rcases ih h with hmem | hseen
            · exact .inl (List.mem_cons_of_mem _ hmem)
            · rw [List.lookup_cons] at hseen
              split at hseen
              · next heq =>
                  obtain rfl := eq_of_beq heq
                  obtain rfl := Option.some.inj hseen
                  exact .inl List.mem_cons_self
              · exact .inr hseen
          · obtain ⟨_, -, h⟩ := bind_eq_ok.mp h
            exact (ih h).imp (List.mem_cons_of_mem _) id

/-- What is found under a name was the element at its place. -/
theorem exists_element_of_lookup {elements : List Tree} {stop : Option Fault}
    (h : takeElements slots elements stop = .ok found) (htree : found.lookup name = some tree) :
    ∃ before after, elements = before ++ tree :: after ∧
      before.length = (slots.map Slot.name).idxOf name := by
  induction slots generalizing elements found with
  | nil =>
      cases elements with
      | nil =>
          rw [takeElements] at h
          cases stop with
          | none =>
              obtain rfl := Except.ok.inj h
              cases htree
          | some fault => cases h
      | cons element elements => cases h
  | cons slot slots ih =>
      cases elements with
      | nil =>
          obtain ⟨_, -, h⟩ := bind_eq_ok.mp h
          split at h
          · obtain ⟨before, after, heq, -⟩ := ih h htree
            cases List.append_eq_nil_iff.mp heq.symm |>.2
          · cases h
      | cons element elements =>
          obtain ⟨_, -, h⟩ := bind_eq_ok.mp h
          obtain ⟨others, hothers, hfound⟩ := bind_eq_ok.mp h
          obtain rfl := Except.ok.inj hfound
          rw [List.lookup_cons] at htree
          split at htree
          · next heq =>
              obtain rfl := eq_of_beq heq
              obtain rfl := Option.some.inj htree
              exact ⟨[], elements, rfl, by simp⟩
          · next hne =>
              obtain ⟨before, after, rfl, hlength⟩ := ih hothers htree
              have hname : slot.name ≠ name := by
                rintro rfl
                simp at hne
              refine ⟨element :: before, after, rfl, ?_⟩
              rw [List.map_cons, List.idxOf_cons_ne _ hname, List.length_cons, hlength]

/-- A field that is not left to its default was found. -/
theorem exists_of_defaulted {α : Type} {decoder : Decoder α} {default a : α}
    {find : String → Option Tree} (h : (defaulted name decoder default).build find = .ok a)
    (hne : a ≠ default) : ∃ t, find name = some t ∧ decoder t = .ok a := by
  rw [defaulted] at h
  cases hfind : find name with
  | none =>
      simp only [hfind] at h
      exact absurd (Except.ok.inj h).symm hne
  | some t =>
      simp only [hfind] at h
      exact ⟨t, rfl, h⟩

/-- **Every field that a record was read with has its place** in the text of the record. -/
theorem exists_inField {α : Type} {shape : Shape α} {text : List Char} {a : α} (h : IsJson text)
    (htree : HasTree text tree) (ha : shape.decoder tree = .ok a) :
    ∃ find, shape.build find = .ok a ∧
      ∀ name t, find name = some t → CanEdit (shape.InField name) text t := by
  cases tree with
  | object members stop =>
      obtain ⟨found, hfound, ha⟩ := bind_eq_ok.mp ha
      obtain ⟨_, hstop, ha⟩ := bind_eq_ok.mp ha
      refine ⟨_, ha, fun name t ht => ?_⟩
      obtain rfl : stop = none := by
        cases stop with
        | none => rfl
        | some fault => cases hstop
      rcases mem_of_takeMembers hfound ht with hmem | hnone
      · obtain ⟨before, after, rfl⟩ := List.append_of_mem hmem
        obtain ⟨part, hpart, htree, hedits⟩ := exists_inMember h htree
        exact ⟨part, hpart, htree, fun edit part' hedit => (hedits edit part' hedit).imp
          fun _ => .inl⟩
      · cases hnone
  | array elements stop =>
      obtain ⟨found, hfound, ha⟩ := bind_eq_ok.mp ha
      refine ⟨_, ha, fun name t ht => ?_⟩
      obtain ⟨before, after, rfl, hlength⟩ := exists_element_of_lookup hfound ht
      obtain rfl := htree.stop_eq_none h
      obtain ⟨part, hpart, htree, hedits⟩ := exists_inElement h htree
      rw [hlength] at hedits
      exact ⟨part, hpart, htree, fun edit part' hedit => (hedits edit part' hedit).imp
        fun _ => .inr⟩
  | _ => cases ha

end Shape

end FeedSync.Json
