import Mathlib.Data.List.Basic
import Mathlib.Data.List.TakeWhile
import Mathlib.Tactic.Common
import FeedSync.Config.Expand

/-!
# Expanding references in one pass

Expanding takes references from the left. It might depend on that order which of the references in a
text are replaced, if references could overlap, and it might depend on the values, if these were
looked at again. This module shows that neither is so. A reference has no `$` but its first
character, so that two references in a text never overlap, and a text can be **cut** at all its
references in exactly one way. Expanding puts the values into the gaps of this cut, whatever the
values are.

## Main definitions

* `IsName`, `spell` — the name of a variable, and a reference to it.
* `HasReference` — a reference stands somewhere in a text.
* `Cut` — references with what stands around them.
* `Cut.Cuts` — a cut at all references of a text.

## Main statements

* `reference?_eq_some_iff` — what is read as a reference at the start of a text.
* `pieces_append_dollar` — every `$` begins a piece.
* `cuts_ofPieces`, `Cut.Cuts.unique` — every text has exactly one cut.
* `expansion_fills_cut` — what expanding does to a text.
-/

namespace FeedSync.Config

variable {cs name rest before after : List Char} {env : Environment}

/-! ### References -/

/-- The name of a variable: a letter or an underscore, and then any letters, digits and
underscores. -/
def IsName : List Char → Prop
  | [] => False
  | c :: cs => isNameStart c = true ∧ ∀ x ∈ cs, isNameChar x = true

/-- A reference as it is written. -/
def spell (name : List Char) : List Char := '$' :: '{' :: name ++ ['}']

/-- The value that is put in for a name: nothing if the variable is not set. -/
def valueOf (env : Environment) (name : List Char) : List Char :=
  ((env (String.ofList name)).getD "").toList

/-- **A reference stands somewhere in a text.** -/
def HasReference (cs : List Char) : Prop :=
  ∃ before name after, IsName name ∧ cs = before ++ spell name ++ after

/-- A name holds only characters of names. -/
theorem IsName.isNameChar (h : IsName name) {c : Char} (hc : c ∈ name) : isNameChar c = true := by
  obtain _ | ⟨first, name⟩ := name
  · exact h.elim
  · rcases List.mem_cons.mp hc with rfl | hc
    · have hstart : (c.isAlpha || c == '_') = true := h.1
      rw [Config.isNameChar, Char.isAlphanum]
      rcases Bool.or_eq_true_iff.mp hstart with halpha | hunderscore
      · rw [halpha]
        rfl
      · rw [hunderscore, Bool.or_true]
    · exact h.2 c hc

/-- **The only `$` of a reference is its first character.** -/
theorem dollar_notMem_tail_spell (h : IsName name) : '$' ∉ (spell name).tail := by
  intro hmem
  rcases List.mem_cons.mp hmem with heq | hmem
  · exact absurd heq (by decide)
  · rcases List.mem_append.mp hmem with hname | hend
    · exact absurd (h.isNameChar hname) (by decide)
    · exact absurd (List.mem_singleton.mp hend) (by decide)

/-- **What is read as a reference at the start of a text** is a reference. -/
theorem reference?_eq_some_iff :
    reference? cs = some (name, rest) ↔ IsName name ∧ cs = spell name ++ rest := by
  constructor
  · intro h
    unfold reference? at h
    split at h
    · next c cs =>
        split at h
        · next hstart =>
            split at h
            · next rest' hdrop =>
                obtain ⟨rfl, rfl⟩ := Prod.mk.inj (Option.some.inj h)
                refine ⟨⟨hstart, fun x hx => List.mem_takeWhile_imp hx⟩, ?_⟩
                have hsplit := List.takeWhile_append_dropWhile (p := isNameChar) (l := cs)
                rw [hdrop] at hsplit
                rw [spell, List.append_assoc]
                exact congrArg (fun cs => '$' :: '{' :: c :: cs) hsplit.symm
            · nomatch h
        · nomatch h
    · nomatch h
  · rintro ⟨hname, rfl⟩
    obtain _ | ⟨c, name⟩ := name
    · exact hname.elim
    · obtain ⟨hstart, hrest⟩ := hname
      have htext : spell (c :: name) ++ rest = '$' :: '{' :: c :: (name ++ '}' :: rest) := by
        simp [spell]
      have hend : isNameChar '}' = false := by decide
      rw [htext, reference?, if_pos hstart, List.dropWhile_append_of_pos hrest,
        List.takeWhile_append_of_pos hrest, List.dropWhile_cons_of_neg (by simp [hend]),
        List.takeWhile_cons_of_neg (by simp [hend]), List.append_nil]
      rfl

/-- A reference at the start of a text. -/
theorem reference?_spell (h : IsName name) (rest : List Char) :
    reference? (spell name ++ rest) = some (name, rest) :=
  reference?_eq_some_iff.mpr ⟨h, rfl⟩

/-- **A `$` behind it does not change what is read at the start of a text.** -/
theorem reference?_append_dollar (c : Char) (cs after : List Char) :
    reference? (c :: (cs ++ '$' :: after)) =
      (reference? (c :: cs)).map fun (n, rest) => (n, rest ++ '$' :: after) := by
  cases hhere : reference? (c :: cs) with
  | some found =>
      obtain ⟨n, rest⟩ := found
      obtain ⟨hn, htext⟩ := reference?_eq_some_iff.mp hhere
      rw [← List.cons_append, htext, List.append_assoc, reference?_spell hn]
      rfl
  | none =>
      refine Option.eq_none_iff_forall_ne_some.mpr fun ⟨n, rest⟩ hfound => ?_
      obtain ⟨hn, htext⟩ := reference?_eq_some_iff.mp hfound
      rw [← List.cons_append] at htext
      rcases List.append_eq_append_iff.mp htext with ⟨middle, hspell, hrest⟩ | ⟨middle, hcs, -⟩
      · obtain _ | ⟨x, middle⟩ := middle
        · rw [List.append_nil] at hspell
          have hstart := reference?_spell hn []
          rw [List.append_nil, hspell, hhere] at hstart
          nomatch hstart
        · -- the reference that is found would hold a second `$`
          obtain rfl : '$' = x := (List.cons.inj hrest).1
          refine dollar_notMem_tail_spell hn ?_
          rw [hspell]
          exact List.mem_append_right cs List.mem_cons_self
      · have hstart := reference?_spell hn middle
        rw [← hcs, hhere] at hstart
        nomatch hstart

/-! ### Pieces -/

/-- The pieces of a text that begins with a reference. -/
theorem pieces_of_reference {cs : List Char} (h : reference? cs = some (name, rest)) :
    pieces cs = .reference name :: pieces rest := by
  cases cs with
  | nil => exact (Option.some_ne_none _ h.symm).elim
  | cons c cs =>
      rw [pieces]
      split
      · next found =>
          obtain ⟨rfl, rfl⟩ := Prod.mk.inj (Option.some.inj (found.symm.trans h))
          rfl
      · next hnone => exact (Option.some_ne_none _ (h.symm.trans hnone)).elim

/-- The pieces of a text that does not begin with a reference. -/
theorem pieces_of_none {c : Char} (h : reference? (c :: cs) = none) :
    pieces (c :: cs) = .other c :: pieces cs := by
  rw [pieces]
  split
  · next found => exact (Option.some_ne_none _ (found.symm.trans h)).elim
  · rfl

/-- **Every `$` begins a piece.** -/
theorem pieces_append_dollar (before after : List Char) :
    pieces (before ++ '$' :: after) = pieces before ++ pieces ('$' :: after) := by
  induction before using pieces.induct with
  | case1 =>
      rw [pieces.eq_def []]
      rfl
  | case2 c cs n rest hfound hle ih =>
      have hfound' := reference?_append_dollar c cs after
      rw [hfound, Option.map_some] at hfound'
      rw [List.cons_append, pieces_of_reference hfound', ih, pieces_of_reference hfound,
        List.cons_append]
  | case3 c cs hnone ih =>
      have hnone' := reference?_append_dollar c cs after
      rw [hnone, Option.map_none] at hnone'
      rw [List.cons_append, pieces_of_none hnone', ih, pieces_of_none hnone, List.cons_append]

/-- **A reference is a piece of its own, wherever it stands**, and splits the pieces of its text. -/
theorem pieces_append_spell (h : IsName name) (before after : List Char) :
    pieces (before ++ (spell name ++ after)) =
      pieces before ++ .reference name :: pieces after := by
  rw [← pieces_of_reference (reference?_spell h after)]
  exact pieces_append_dollar before _

/-- A text without a reference consists of other characters. -/
theorem pieces_of_not_hasReference (h : ¬ HasReference cs) : pieces cs = cs.map .other := by
  induction cs with
  | nil => rw [pieces, List.map_nil]
  | cons c cs ih =>
      have hnone : reference? (c :: cs) = none := by
        refine Option.eq_none_iff_forall_ne_some.mpr fun found hfound => h ?_
        obtain ⟨hn, htext⟩ := reference?_eq_some_iff.mp hfound
        exact ⟨[], found.1, found.2, hn, htext⟩
      have hrest : ¬ HasReference cs := by
        rintro ⟨before, n, after, hn, rfl⟩
        exact h ⟨c :: before, n, after, hn, rfl⟩
      rw [pieces_of_none hnone, ih hrest, List.map_cons]

/-! ### Cuts -/

/-- **A text cut at references**: what stands before the first one, and the name of each with what
stands between it and the next one. -/
structure Cut where
  front : List Char
  references : List (List Char × List Char)

namespace Cut

/-- The text that was cut. -/
def text (k : Cut) : List Char :=
  k.front ++ k.references.flatMap fun (name, gap) => spell name ++ gap

/-- The text with the values of the variables in the places of the references. -/
def fill (env : Environment) (k : Cut) : List Char :=
  k.front ++ k.references.flatMap fun (name, gap) => valueOf env name ++ gap

/-- Two cuts with a reference between them. -/
def join (k : Cut) (name : List Char) (k' : Cut) : Cut where
  front := k.front
  references := k.references ++ (name, k'.front) :: k'.references

/-- **A cut at all references of a text**: it cuts at references only, and no reference is left in
what stands around them. -/
structure Cuts (k : Cut) (cs : List Char) : Prop where
  text : k.text = cs
  names : ∀ r ∈ k.references, IsName r.1
  front : ¬ HasReference k.front
  gaps : ∀ r ∈ k.references, ¬ HasReference r.2

/-- The pieces of the text that was cut. -/
def pieces (k : Cut) : List Piece :=
  k.front.map .other ++ k.references.flatMap fun (name, gap) => .reference name :: gap.map .other

/-- The cut with some pieces. -/
def ofPieces : List Piece → Cut
  | [] => ⟨[], []⟩
  | .other c :: ps => ⟨c :: (ofPieces ps).front, (ofPieces ps).references⟩
  | .reference name :: ps => ⟨[], (name, (ofPieces ps).front) :: (ofPieces ps).references⟩

variable {k k' : Cut}

/-- The text of a cut with a first reference. -/
theorem text_cons (front name gap : List Char) (references : List (List Char × List Char)) :
    Cut.text ⟨front, (name, gap) :: references⟩ =
      front ++ (spell name ++ Cut.text ⟨gap, references⟩) := by
  rw [text, text, List.flatMap_cons, List.append_assoc]

/-- The pieces of a cut with a first reference. -/
theorem pieces_cons (front name gap : List Char) (references : List (List Char × List Char)) :
    Cut.pieces ⟨front, (name, gap) :: references⟩ =
      front.map .other ++ .reference name :: Cut.pieces ⟨gap, references⟩ :=
  rfl

/-- **The pieces of a text are those of a cut at all its references.** -/
theorem Cuts.pieces_eq (h : k.Cuts cs) : Config.pieces cs = k.pieces := by
  obtain ⟨front, references⟩ := k
  obtain ⟨rfl, hnames, hfront, hgaps⟩ := h
  induction references generalizing front with
  | nil =>
      rw [Cut.text, Cut.pieces, List.flatMap_nil, List.flatMap_nil, List.append_nil,
        List.append_nil]
      exact pieces_of_not_hasReference hfront
  | cons r references ih =>
      obtain ⟨name, gap⟩ := r
      obtain ⟨hname, hnames⟩ := List.forall_mem_cons.mp hnames
      obtain ⟨hgap, hgaps⟩ := List.forall_mem_cons.mp hgaps
      rw [text_cons, pieces_append_spell hname, pieces_of_not_hasReference hfront,
        ih gap hnames hgap hgaps, pieces_cons]

/-- A cut is the one with its pieces. -/
theorem ofPieces_pieces (k : Cut) : ofPieces k.pieces = k := by
  have hfront : ∀ (front : List Char) (ps : List Piece), ofPieces (front.map .other ++ ps) =
      ⟨front ++ (ofPieces ps).front, (ofPieces ps).references⟩ := by
    intro front ps
    induction front with
    | nil => rfl
    | cons c front ih => rw [List.map_cons, List.cons_append, ofPieces, ih, List.cons_append]
  obtain ⟨front, references⟩ := k
  induction references generalizing front with
  | nil => rw [pieces, List.flatMap_nil, hfront, ofPieces, List.append_nil]
  | cons r references ih =>
      obtain ⟨name, gap⟩ := r
      rw [pieces_cons, hfront, ofPieces, ih, List.append_nil]

/-- **A text is cut at all its references in one way only.** -/
theorem Cuts.unique (h : k.Cuts cs) (h' : k'.Cuts cs) : k = k' := by
  rw [← ofPieces_pieces k, ← h.pieces_eq, h'.pieces_eq, ofPieces_pieces]

/-- **Cuts with a reference between them** are a cut of the texts with the reference between
them. -/
theorem Cuts.join (h : k.Cuts before) (hname : IsName name) (h' : k'.Cuts after) :
    (k.join name k').Cuts (before ++ (spell name ++ after)) where
  text := by
    rw [← h.text, ← h'.text, Cut.text, Cut.text, Cut.text, Cut.join, List.flatMap_append,
      List.flatMap_cons]
    simp only [List.append_assoc]
  names := List.forall_mem_append.mpr ⟨h.names, List.forall_mem_cons.mpr ⟨hname, h'.names⟩⟩
  front := h.front
  gaps := List.forall_mem_append.mpr ⟨h.gaps, List.forall_mem_cons.mpr ⟨h'.front, h'.gaps⟩⟩

/-- What is filled into a cut around a reference. -/
theorem fill_join (env : Environment) (k : Cut) (name : List Char) (k' : Cut) :
    (k.join name k').fill env = k.fill env ++ (valueOf env name ++ k'.fill env) := by
  rw [fill, fill, fill, join, List.flatMap_append, List.flatMap_cons]
  simp only [List.append_assoc]

/-- Filling a cut is expanding its pieces. -/
theorem fill_eq (env : Environment) (k : Cut) :
    k.fill env = k.pieces.flatMap (Piece.expand env) := by
  have hother : ∀ cs : List Char, (cs.map Piece.other).flatMap (Piece.expand env) = cs := by
    intro cs
    rw [List.flatMap_map]
    exact List.flatMap_singleton' cs
  rw [fill, pieces, List.flatMap_append, hother, List.flatMap_assoc]
  refine congrArg (k.front ++ ·) (List.flatMap_congr fun (name, gap) _ => ?_)
  rw [List.flatMap_cons, hother]
  rfl

end Cut

/-- No reference stands in an empty text. -/
theorem not_hasReference_nil : ¬ HasReference [] := by
  rintro ⟨before, name, after, -, htext⟩
  simp [spell] at htext

/-- **Every text is cut at all its references** where its pieces are. -/
theorem cuts_ofPieces (cs : List Char) : (Cut.ofPieces (pieces cs)).Cuts cs := by
  have hempty : Cut.Cuts ⟨[], []⟩ [] := ⟨rfl, nofun, not_hasReference_nil, nofun⟩
  induction cs using pieces.induct with
  | case1 =>
      rw [pieces]
      exact hempty
  | case2 c cs name rest hfound hle ih =>
      obtain ⟨hname, htext⟩ := reference?_eq_some_iff.mp hfound
      rw [pieces_of_reference hfound, htext]
      exact hempty.join hname ih
  | case3 c cs hnone ih =>
      rw [pieces_of_none hnone]
      refine ⟨congrArg (c :: ·) ih.text, ih.names, ?_, ih.gaps⟩
      rintro ⟨before, name, after, hname, hfront⟩
      obtain _ | ⟨x, before⟩ := before
      · -- the text would begin with a reference
        have htext : c :: cs = spell name ++ (after ++ _) :=
          (congrArg (c :: ·) ih.text.symm).trans ((congrArg (· ++ _) hfront).trans
            (List.append_assoc ..))
        rw [htext, reference?_spell hname] at hnone
        nomatch hnone
      · obtain ⟨-, hfront⟩ := List.cons.inj hfront
        exact ih.front ⟨before, name, after, hname, hfront⟩

/-! ### Expanding -/

/-- **Expanding fills a cut** at all references of the text. -/
theorem toList_expand {text : String} {k : Cut} (h : k.Cuts text.toList) :
    (expand env text).toList = k.fill env := by
  rw [expand, String.toList_ofList, h.pieces_eq, k.fill_eq]

/-- **What expanding does to a text.** Every text is cut at all its references in one way only, and
this does not depend on any values; a reference that stands anywhere in the text is one of them.
Expanding puts the values into the cut and leaves what stands around the references as it is. So it
expands what stands before and behind a reference as if they were texts of their own, whatever value
is put in between, and a text without a reference stays as it is. -/
theorem expansion_fills_cut (text : String) : ∃ k : Cut, k.Cuts text.toList ∧
    (∀ k' : Cut, k'.Cuts text.toList → k' = k) ∧
    (∀ before name after, IsName name → text.toList = before ++ (spell name ++ after) →
      ∃ b a : Cut, b.Cuts before ∧ a.Cuts after ∧ k = b.join name a) ∧
    ∀ env, (expand env text).toList = k.fill env ∧
      (∀ before name after, IsName name → text.toList = before ++ (spell name ++ after) →
        (expand env text).toList = (expand env (.ofList before)).toList ++
          (valueOf env name ++ (expand env (.ofList after)).toList)) ∧
      (¬ HasReference text.toList → expand env text = text) := by
  have hcut := cuts_ofPieces text.toList
  have hjoin : ∀ before name after, IsName name → text.toList = before ++ (spell name ++ after) →
      Cut.ofPieces (pieces text.toList) =
        (Cut.ofPieces (pieces before)).join name (Cut.ofPieces (pieces after)) := by
    intro before name after hname htext
    refine hcut.unique ?_
    rw [htext]
    exact (cuts_ofPieces before).join hname (cuts_ofPieces after)
  have hexpand : ∀ env (cs : List Char), (expand env (.ofList cs)).toList =
      (Cut.ofPieces (pieces cs)).fill env := fun env cs =>
    toList_expand ((String.toList_ofList (l := cs)).symm ▸ cuts_ofPieces cs)
  refine ⟨_, hcut, fun k' hk' => hk'.unique hcut, fun before name after hname htext =>
    ⟨_, _, cuts_ofPieces before, cuts_ofPieces after, hjoin before name after hname htext⟩,
    fun env => ⟨toList_expand hcut, fun before name after hname htext => ?_, fun hnone => ?_⟩⟩
  · rw [toList_expand hcut, hjoin before name after hname htext, Cut.fill_join, hexpand, hexpand]
  · have hwhole : Cut.Cuts ⟨text.toList, []⟩ text.toList :=
      ⟨List.append_nil _, nofun, hnone, nofun⟩
    have hsame : (expand env text).toList = _ := toList_expand hwhole
    rw [Cut.fill, List.flatMap_nil, List.append_nil] at hsame
    exact String.toList_injective hsame

/-- Of nested references the inner one is replaced, a value that spells a reference stays, and so
does what spells none. -/
example :
    let env : Environment := fun name => if name = "A" then some "$\x7bB\x7d" else some "b"
    expand env "$\x7b$\x7bA\x7d\x7d" = "$\x7b$\x7bB\x7d\x7d" ∧
      expand env "$\x7bA\x7d$\x7bB\x7d" = "$\x7bB\x7db" ∧
      expand env "$ $\x7b\x7d $\x7b1\x7d $\x7bA" = "$ $\x7b\x7d $\x7b1\x7d $\x7bA" := by
  decide +kernel

end FeedSync.Config
