import FeedSync.Json.Shape
import FeedSync.Proofs.Json.Skipping
import Mathlib.Data.List.Forall2

/-!
# Reading what is written

A text **spells** trees of a kind if the reader makes a tree of this kind of it, takes nothing of
what follows but blanks, and needs no more fuel than a text of its length has. Texts of arrays and
objects spell trees whose parts are of the kinds that their parts spell; so whatever kind is asked
for, it is enough to know it of the leaves.

## Main definitions

* `Spells` — what the reader makes of a text, whatever follows.
* `SpellsMember` — the same of a member of an object.

## Main statements

* `spells_arrayText`, `spells_objectText` — containers spell what their parts spell.
* `IsJson.spells` — every text of the grammar can be skipped.
* `spells_written_string`, `spells_written_integer` — strings and integers as they are written.
-/

namespace FeedSync.Json

open FeedSync.Text

/-- **What the reader makes of a text**: a tree of a kind, and what follows but for blanks. What
follows must not go on with a number. -/
def Spells (good : Tree → Prop) (text : List Char) : Prop :=
  ∀ fuel rest, 3 * text.length ≤ fuel → EndsNumber rest →
    ∃ tree after, good tree ∧ Blanks after ∧
      readValue fuel (text ++ rest) = (tree, some (after ++ rest))

/-! ### Blanks -/

theorem skipJsonBlanks_append {blanks : List Char} (h : Blanks blanks) (rest : List Char) :
    skipJsonBlanks (blanks ++ rest) = skipJsonBlanks rest :=
  List.dropWhile_append_of_pos h

theorem skipJsonBlanks_cons {c : Char} (h : isJsonBlank c = false) (cs : List Char) :
    skipJsonBlanks (c :: cs) = c :: cs := by
  rw [skipJsonBlanks, List.dropWhile_cons_of_neg (by rw [h]; nofun)]

/-- A blank does not go on with a number. -/
theorem endsNumber_of_blank {c : Char} (h : isJsonBlank c = true) (rest : List Char) :
    EndsNumber (c :: rest) := by
  have hmem : c ∈ [' ', '\n', '\t', '\r'] := by simpa [isJsonBlank, or_assoc] using h
  have hends : ∀ c ∈ [' ', '\n', '\t', '\r'], c.isDigit = false ∧ c ≠ '.' ∧ c ≠ 'e' ∧ c ≠ 'E' := by
    simp
  exact endsNumber_cons (hends c hmem) rest

/-- After blanks are skipped, none is left. -/
theorem skipJsonBlanks_skipJsonBlanks (cs : List Char) :
    skipJsonBlanks (skipJsonBlanks cs) = skipJsonBlanks cs := by
  induction cs with
  | nil => rfl
  | cons c cs ih =>
      cases hc : isJsonBlank c with
      | true =>
          have hskip := skipJsonBlanks_append (List.forall_mem_singleton.mpr hc) cs
          rwa [← hskip] at ih
      | false => rw [skipJsonBlanks_cons hc, skipJsonBlanks_cons hc]

/-- The reader skips blanks by itself. -/
theorem readValue_skipJsonBlanks (fuel : Nat) (cs : List Char) :
    readValue fuel (skipJsonBlanks cs) = readValue fuel cs := by
  cases fuel with
  | zero => rfl
  | succ fuel => rw [readValue, skipJsonBlanks_skipJsonBlanks, readValue]

/-- Where a value can be read, no bracket closes. -/
theorem head?_ne_of_readValue {fuel : Nat} {cs : List Char} {tree : Tree} {rest : List Char}
    (h : readValue fuel cs = (tree, some rest)) :
    ∃ c after, skipJsonBlanks cs = c :: after ∧ c ≠ ']' := by
  cases fuel with
  | zero => nomatch h
  | succ fuel =>
      rw [readValue] at h
      cases hcs : skipJsonBlanks cs with
      | nil => rw [hcs] at h; nomatch h
      | cons c after =>
          refine ⟨c, after, rfl, ?_⟩
          rintro rfl
          rw [hcs] at h
          nomatch h

theorem Spells.mono {good better : Tree → Prop} {text : List Char} (h : Spells good text)
    (himp : ∀ tree, good tree → better tree) : Spells better text := by
  intro fuel rest hfuel hrest
  obtain ⟨tree, after, hgood, hafter, hread⟩ := h fuel rest hfuel hrest
  exact ⟨tree, after, himp tree hgood, hafter, hread⟩

theorem Spells.blankBefore {good : Tree → Prop} {c : Char} {text : List Char}
    (hc : isJsonBlank c = true) (h : Spells good text) : Spells good (c :: text) := by
  intro fuel rest hfuel hrest
  rw [List.length_cons] at hfuel
  obtain ⟨tree, after, hgood, hafter, hread⟩ := h fuel rest (by omega) hrest
  refine ⟨tree, after, hgood, hafter, ?_⟩
  rw [← hread, ← readValue_skipJsonBlanks, ← readValue_skipJsonBlanks fuel (text ++ rest)]
  exact congrArg (readValue fuel) (skipJsonBlanks_append (List.forall_mem_singleton.mpr hc) _)

theorem Spells.blankAfter {good : Tree → Prop} {c : Char} {text : List Char}
    (hc : isJsonBlank c = true) (h : Spells good text) : Spells good (text ++ [c]) := by
  intro fuel rest hfuel hrest
  rw [List.length_append] at hfuel
  obtain ⟨tree, after, hgood, hafter, hread⟩ :=
    h fuel (c :: rest) (by omega) (endsNumber_of_blank hc rest)
  refine ⟨tree, after ++ [c], hgood, ?_, ?_⟩
  · intro x hx
    rcases List.mem_append.mp hx with hx | hx
    · exact hafter x hx
    · exact List.mem_singleton.mp hx ▸ hc
  · rw [List.append_assoc, List.append_assoc]
    exact hread

/-! ### Leaves -/

/-- A leaf is read without regard to the fuel, and nothing of what follows is taken. -/
theorem spells_leaf {good : Tree → Prop} {text : List Char} (hne : text ≠ [])
    (h : ∀ fuel rest, EndsNumber rest → ∃ tree, good tree ∧
      readValue (fuel + 1) (text ++ rest) = (tree, some rest)) : Spells good text := by
  intro fuel rest hfuel hrest
  have hlength := List.length_pos_iff.mpr hne
  obtain ⟨fuel, rfl⟩ := Nat.exists_eq_succ_of_ne_zero (by omega : fuel ≠ 0)
  obtain ⟨tree, hgood, hread⟩ := h fuel rest hrest
  exact ⟨tree, [], hgood, nofun, hread⟩

theorem spells_null : Spells (· = .null) "null".toList :=
  spells_leaf (by decide) fun fuel rest _ => ⟨.null, rfl, rfl⟩

theorem spells_true : Spells (· = .bool true) "true".toList :=
  spells_leaf (by decide) fun fuel rest _ => ⟨.bool true, rfl, rfl⟩

theorem spells_false : Spells (· = .bool false) "false".toList :=
  spells_leaf (by decide) fun fuel rest _ => ⟨.bool false, rfl, rfl⟩

/-- What is between the quotes of a string is read as far as it denotes characters. -/
theorem spells_string {body : List Char} (h : IsStringBody body) :
    Spells (fun tree => ∃ rest, tree =
      .text ((unescape (body ++ '"' :: rest)).map fun (chars, _) => String.ofList chars))
      ('"' :: body ++ ['"']) := by
  refine spells_leaf (List.cons_ne_nil _ _) fun fuel rest _ => ⟨_, ⟨rest, rfl⟩, ?_⟩
  have htext : '"' :: body ++ ['"'] ++ rest = '"' :: (body ++ '"' :: rest) := by simp
  rw [htext, readValue, skipJsonBlanks_cons (by decide)]
  change textNode (body ++ '"' :: rest) = _
  rw [textNode, skipString_append h]

/-- A number starts with its sign or a digit. -/
theorem IsNumber.head {cs : List Char} (h : IsNumber cs) :
    ∃ c ds, cs = c :: ds ∧ c ∈ "-0123456789".toList := by
  obtain ⟨sign, whole, fraction, exponent, rfl, hsign, hwhole, -, -⟩ := h
  obtain ⟨c, ds, rfl, hdigits, -⟩ := hwhole.digits
  have hc := mem_of_isDigit (hdigits c List.mem_cons_self)
  simp only [List.mem_cons, List.not_mem_nil, or_false] at hsign
  rcases hsign with rfl | rfl
  · exact ⟨c, _, rfl, List.mem_cons_of_mem _ hc⟩
  · exact ⟨'-', _, rfl, List.mem_cons_self⟩

/-- Where a number starts, nothing else is read. -/
theorem readValue_of_mem {c : Char} (hc : c ∈ "-0123456789".toList) (fuel : Nat) (cs : List Char) :
    readValue (fuel + 1) (c :: cs) = numberNode (c :: cs) := by
  have hnumber : ∀ c ∈ "-0123456789".toList, isJsonBlank c = false ∧ (c == '{') = false ∧
      (c == '[') = false ∧ (c == '"') = false ∧ (c == 'n') = false ∧ (c == 't') = false ∧
      (c == 'f') = false ∧ (c == '-' || c.isDigit) = true := by simp [isJsonBlank]
  obtain ⟨hblank, hbrace, hbracket, hquote, hn, ht, hf, hstart⟩ := hnumber c hc
  rw [readValue, skipJsonBlanks_cons hblank]
  simp only [hbrace, hbracket, hquote, hn, ht, hf, hstart, Bool.false_eq_true, if_false, if_true]

/-- A number is read as far as it is within bounds. -/
theorem spells_number {cs : List Char} (h : IsNumber cs) :
    Spells (fun tree => ∃ rest, EndsNumber rest ∧
      tree = .number ((readNumeral (cs ++ rest)).map Prod.fst)) cs := by
  obtain ⟨c, ds, rfl, hc⟩ := h.head
  refine spells_leaf (List.cons_ne_nil _ _) fun fuel rest hrest => ⟨_, ⟨rest, hrest, rfl⟩, ?_⟩
  rw [List.cons_append, readValue_of_mem hc, numberNode, ← List.cons_append,
    skipNumeral_append h hrest]

/-- A written string denotes itself. -/
theorem spells_written_string (s : String) : Spells (· = .text (.ok s)) (quote s) := by
  refine (spells_string (isStringBody_escape s.toList)).mono ?_
  rintro tree ⟨rest, rfl⟩
  rw [unescape_escape]
  simp [Except.map]

/-- A written integer within 64 bits denotes itself. -/
theorem spells_written_integer {i : Int} (hleast : Int64.minValue.toInt ≤ i)
    (hgreatest : i ≤ greatestWord) : Spells (· = .number (.ok (.integer i))) (signedDecimal i) := by
  refine (spells_number (isNumber_signedDecimal i)).mono ?_
  rintro tree ⟨rest, hrest, rfl⟩
  rw [readNumeral_signedDecimal hleast hgreatest hrest]
  rfl

/-! ### Arrays -/

section Arrays

variable {α : Type} {R : α → Tree → Prop}

/-- An element is read as its text spells it, and then the elements after it. -/
theorem readElement_of_spells {good : Tree → Prop} {text : List Char} (h : Spells good text)
    (fuel : Nat) {rest : List Char} (hfuel : 3 * text.length ≤ fuel) (hrest : EndsNumber rest) :
    ∃ tree after, good tree ∧ Blanks after ∧ readElement (fuel + 1) (text ++ rest) =
      (tree :: (readElements fuel false (after ++ rest)).1,
        (readElements fuel false (after ++ rest)).2) := by
  obtain ⟨tree, after, hgood, hafter, hread⟩ := h fuel rest hfuel hrest
  exact ⟨tree, after, hgood, hafter, by rw [readElement, hread]⟩

/-- Blanks before an element are skipped twice. -/
theorem readElement_skipJsonBlanks (fuel : Nat) (cs : List Char) :
    readElement fuel (skipJsonBlanks cs) = readElement fuel cs := by
  cases fuel with
  | zero => rfl
  | succ fuel => rw [readElement, readValue_skipJsonBlanks, readElement]

/-- The bracket ends the elements. -/
theorem readElements_close {blanks : List Char} (h : Blanks blanks) (fuel : Nat) (isFirst : Bool)
    (rest : List Char) :
    readElements (fuel + 1) isFirst (blanks ++ ']' :: rest) = ([], .ok rest) := by
  rw [readElements, skipJsonBlanks_append h, skipJsonBlanks_cons (by decide)]
  rfl

/-- After a comma comes another element, if a value can be read there. -/
theorem readElements_comma {blanks cs : List Char} (h : Blanks blanks) (fuel : Nat)
    (hcs : ∃ c after, skipJsonBlanks cs = c :: after ∧ c ≠ ']') :
    readElements (fuel + 1) false (blanks ++ ',' :: cs) = readElement fuel cs := by
  obtain ⟨c, after, hcs, hc⟩ := hcs
  rw [readElements, skipJsonBlanks_append h, skipJsonBlanks_cons (by decide)]
  simp [hcs, hc]

/-- Where a text is spelled, a value can be read. -/
theorem Spells.head {good : Tree → Prop} {text : List Char} (h : Spells good text)
    {rest : List Char} (hrest : EndsNumber rest) :
    ∃ c after, skipJsonBlanks (text ++ rest) = c :: after ∧ c ≠ ']' := by
  obtain ⟨tree, after, -, -, hread⟩ := h _ rest (Nat.le_refl _) hrest
  exact head?_ne_of_readValue hread

/-- The first of some elements stands before the bracket or before a comma. -/
theorem separated_append (text : List Char) (texts : List (List Char)) (rest : List Char) :
    ∃ tail, separated (text :: texts) ++ ']' :: rest = text ++ tail ∧ EndsNumber tail := by
  cases texts with
  | nil => exact ⟨']' :: rest, rfl, endsNumber_cons (c := ']') (by decide) rest⟩
  | cons next texts =>
      exact ⟨',' :: (separated (next :: texts) ++ ']' :: rest), by simp [separated],
        endsNumber_cons (c := ',') (by decide) _⟩

theorem length_separated_cons (text next : List Char) (texts : List (List Char)) :
    (separated (text :: next :: texts)).length =
      text.length + (separated (next :: texts)).length + 1 := by
  rw [separated, List.length_append, List.length_cons, Nat.add_assoc]
  nofun

/-- **Elements are read one after the other**, up to the bracket. -/
theorem readElement_of_forall₂ {as : List α} {text : List Char} {texts : List (List Char)}
    (h : List.Forall₂ (fun a text => Spells (R a) text) as (text :: texts)) (fuel : Nat)
    (hfuel : 3 * (separated (text :: texts)).length + 2 ≤ fuel) (rest : List Char) :
    ∃ trees, List.Forall₂ R as trees ∧
      readElement fuel (separated (text :: texts) ++ ']' :: rest) = (trees, .ok rest) := by
  induction texts generalizing text as fuel with
  | nil =>
      obtain ⟨a, others, hfirst, hothers, rfl⟩ := List.forall₂_cons_right_iff.mp h
      obtain rfl := List.forall₂_nil_right_iff.mp hothers
      rw [separated] at hfuel ⊢
      obtain ⟨fuel, rfl⟩ := Nat.exists_eq_add_of_le' (by omega : 2 ≤ fuel)
      obtain ⟨tree, after, hgood, hafter, hread⟩ := readElement_of_spells hfirst (fuel + 1)
        (by omega) (endsNumber_cons (c := ']') (by decide) rest)
      refine ⟨[tree], .cons hgood .nil, ?_⟩
      rw [hread, readElements_close hafter]
  | cons next texts ih =>
      obtain ⟨a, others, hfirst, hothers, rfl⟩ := List.forall₂_cons_right_iff.mp h
      obtain ⟨b, _, hnext, -, -⟩ := List.forall₂_cons_right_iff.mp hothers
      rw [length_separated_cons] at hfuel
      obtain ⟨fuel, rfl⟩ := Nat.exists_eq_add_of_le' (by omega : 2 ≤ fuel)
      obtain ⟨tree, after, hgood, hafter, hread⟩ := readElement_of_spells hfirst (fuel + 1)
        (by omega) (endsNumber_cons (c := ',') (by decide)
          (separated (next :: texts) ++ ']' :: rest))
      obtain ⟨trees, hgoods, hreads⟩ := ih hothers fuel (by omega)
      obtain ⟨tail, htail, hends⟩ := separated_append next texts rest
      have hcomma := readElements_comma hafter fuel (htail ▸ hnext.head hends)
      refine ⟨tree :: trees, .cons hgood hgoods, ?_⟩
      rw [hcomma, hreads] at hread
      rw [← hread, separated, List.append_assoc, List.cons_append]
      nofun

/-- What stands between brackets is read as the elements of an array. -/
theorem readValue_array {inner rest : List Char} {fuel : Nat} {trees : List Tree}
    (h : readElements fuel true (inner ++ ']' :: rest) = (trees, .ok rest)) :
    readValue (fuel + 1) ('[' :: inner ++ [']'] ++ rest) = (.array trees none, some rest) := by
  have htext : '[' :: inner ++ [']'] ++ rest = '[' :: (inner ++ ']' :: rest) := by simp
  rw [htext, readValue, skipJsonBlanks_cons (by decide)]
  simp only [h]
  rw [if_neg (by decide), if_pos (by decide)]

/-- **An array spells what its elements spell.** -/
theorem spells_arrayText {as : List α} {texts : List (List Char)}
    (h : List.Forall₂ (fun a text => Spells (R a) text) as texts) :
    Spells (fun tree => ∃ trees, List.Forall₂ R as trees ∧ tree = .array trees none)
      (arrayText texts) := by
  intro fuel rest hfuel hrest
  have hlength : (arrayText texts).length = (separated texts).length + 2 := by
    simp [arrayText]
  rw [hlength] at hfuel
  obtain ⟨fuel, rfl⟩ := Nat.exists_eq_add_of_le' (by omega : 2 ≤ fuel)
  have hread : ∃ trees, List.Forall₂ R as trees ∧
      readElements (fuel + 1) true (separated texts ++ ']' :: rest) = (trees, .ok rest) := by
    cases texts with
    | nil =>
        obtain rfl := List.forall₂_nil_right_iff.mp h
        exact ⟨[], .nil, readElements_close (List.forall_mem_nil _) fuel true rest⟩
    | cons text texts =>
        obtain ⟨a, _, hfirst, -, -⟩ := List.forall₂_cons_right_iff.mp h
        obtain ⟨trees, hgoods, hreads⟩ := readElement_of_forall₂ h fuel (by omega) rest
        obtain ⟨tail, htail, hends⟩ := separated_append text texts rest
        obtain ⟨c, after, hcs, hc⟩ := hfirst.head hends
        refine ⟨trees, hgoods, ?_⟩
        rw [← hreads, ← readElement_skipJsonBlanks, readElements, htail, hcs]
        simp [hc]
  obtain ⟨trees, hgoods, hreads⟩ := hread
  exact ⟨.array trees none, [], ⟨trees, hgoods, rfl⟩, nofun, readValue_array hreads⟩

/-- An array without elements may have blanks in it. -/
theorem spells_emptyArray {blanks : List Char} (h : Blanks blanks) :
    Spells (· = .array [] none) ('[' :: blanks ++ [']']) := by
  intro fuel rest hfuel hrest
  simp only [List.length_append, List.length_cons, List.length_nil] at hfuel
  obtain ⟨fuel, rfl⟩ := Nat.exists_eq_add_of_le' (by omega : 2 ≤ fuel)
  exact ⟨_, [], rfl, nofun, readValue_array (readElements_close h fuel true rest)⟩

end Arrays

/-! ### Objects -/

/-- **What the reader makes of a member**: its name, as far as it denotes characters, and what its
value spells. -/
def SpellsMember (good : Option String × Tree → Prop) (entry : Entry) : Prop :=
  ∃ front body back, entry.name = front ++ '"' :: (body ++ '"' :: back) ∧ Blanks front ∧
    IsStringBody body ∧ Blanks back ∧
      Spells (fun tree => ∀ rest, good (((unescape (body ++ '"' :: rest)).map fun (chars, _) =>
        String.ofList chars).toOption, tree)) entry.value

section Objects

variable {α : Type} {R : α → Option String × Tree → Prop}

/-- A member is read as its text spells it, and then the members after it. -/
theorem readMember_of_spells {good : Option String × Tree → Prop} {entry : Entry}
    (h : SpellsMember good entry) (fuel : Nat) {rest : List Char}
    (hfuel : 3 * entry.value.length ≤ fuel) (hrest : EndsNumber rest) :
    ∃ member after, good member ∧ Blanks after ∧ readMember (fuel + 1) (entry.text ++ rest) =
      (member :: (readMembers fuel false (after ++ rest)).1,
        (readMembers fuel false (after ++ rest)).2) := by
  obtain ⟨front, body, back, hname, hfront, hbody, hback, hvalue⟩ := h
  obtain ⟨tree, after, hgood, hafter, hread⟩ := hvalue fuel rest hfuel hrest
  have htext : entry.text ++ rest =
      front ++ '"' :: (body ++ '"' :: (back ++ ':' :: (entry.value ++ rest))) := by
    simp [Entry.text, hname]
  refine ⟨_, after, hgood (back ++ ':' :: (entry.value ++ rest)), hafter, ?_⟩
  rw [htext, readMember, skipJsonBlanks_append hfront, skipJsonBlanks_cons (by decide)]
  simp only [skipString_append hbody, skipJsonBlanks_append hback]
  rw [skipJsonBlanks_cons (by decide)]
  simp only [hread]

/-- Where a member stands, its name comes first. -/
theorem SpellsMember.head {good : Option String × Tree → Prop} {entry : Entry}
    (h : SpellsMember good entry) (rest : List Char) :
    ∃ after, skipJsonBlanks (entry.text ++ rest) = '"' :: after := by
  obtain ⟨front, body, back, hname, hfront, -, -, -⟩ := h
  have htext : entry.text ++ rest =
      front ++ '"' :: (body ++ '"' :: (back ++ ':' :: (entry.value ++ rest))) := by
    simp [Entry.text, hname]
  exact ⟨_, by rw [htext, skipJsonBlanks_append hfront, skipJsonBlanks_cons (by decide)]⟩

/-- Blanks before a member are skipped twice. -/
theorem readMember_skipJsonBlanks (fuel : Nat) (cs : List Char) :
    readMember fuel (skipJsonBlanks cs) = readMember fuel cs := by
  cases fuel with
  | zero => rfl
  | succ fuel => rw [readMember, skipJsonBlanks_skipJsonBlanks, readMember]

/-- The brace ends the members. -/
theorem readMembers_close {blanks : List Char} (h : Blanks blanks) (fuel : Nat) (isFirst : Bool)
    (rest : List Char) :
    readMembers (fuel + 1) isFirst (blanks ++ '}' :: rest) = ([], .ok rest) := by
  rw [readMembers, skipJsonBlanks_append h, skipJsonBlanks_cons (by decide)]
  rfl

/-- After a comma comes another member. -/
theorem readMembers_comma {blanks cs : List Char} (h : Blanks blanks) (fuel : Nat) :
    readMembers (fuel + 1) false (blanks ++ ',' :: cs) = readMember fuel cs := by
  rw [readMembers, skipJsonBlanks_append h, skipJsonBlanks_cons (by decide)]
  rfl

/-- **Members are read one after the other**, up to the brace. -/
theorem readMember_of_forall₂ {as : List α} {entry : Entry} {entries : List Entry}
    (h : List.Forall₂ (fun a entry => SpellsMember (R a) entry) as (entry :: entries)) (fuel : Nat)
    (hfuel : 3 * (separated ((entry :: entries).map Entry.text)).length + 2 ≤ fuel)
    (rest : List Char) :
    ∃ members, List.Forall₂ R as members ∧
      readMember fuel (separated ((entry :: entries).map Entry.text) ++ '}' :: rest) =
        (members, .ok rest) := by
  have hvalue (entry : Entry) : entry.value.length ≤ entry.text.length := by
    simp only [Entry.text, List.length_append, List.length_cons]
    omega
  induction entries generalizing entry as fuel with
  | nil =>
      obtain ⟨a, others, hfirst, hothers, rfl⟩ := List.forall₂_cons_right_iff.mp h
      obtain rfl := List.forall₂_nil_right_iff.mp hothers
      rw [List.map_cons, List.map_nil, separated] at hfuel ⊢
      obtain ⟨fuel, rfl⟩ := Nat.exists_eq_add_of_le' (by omega : 2 ≤ fuel)
      have := hvalue entry
      obtain ⟨member, after, hgood, hafter, hread⟩ := readMember_of_spells hfirst (fuel + 1)
        (by omega) (endsNumber_cons (c := '}') (by decide) rest)
      refine ⟨[member], .cons hgood .nil, ?_⟩
      rw [hread, readMembers_close hafter]
  | cons next entries ih =>
      obtain ⟨a, others, hfirst, hothers, rfl⟩ := List.forall₂_cons_right_iff.mp h
      rw [List.map_cons, List.map_cons, length_separated_cons, ← List.map_cons] at hfuel
      obtain ⟨fuel, rfl⟩ := Nat.exists_eq_add_of_le' (by omega : 2 ≤ fuel)
      have := hvalue entry
      obtain ⟨member, after, hgood, hafter, hread⟩ := readMember_of_spells hfirst (fuel + 1)
        (by omega) (endsNumber_cons (c := ',') (by decide)
          (separated ((next :: entries).map Entry.text) ++ '}' :: rest))
      obtain ⟨members, hgoods, hreads⟩ := ih hothers fuel (by omega)
      refine ⟨member :: members, .cons hgood hgoods, ?_⟩
      rw [readMembers_comma hafter fuel, hreads] at hread
      rw [← hread, List.map_cons, List.map_cons, separated, List.append_assoc, List.cons_append,
        ← List.map_cons]
      nofun

/-- What stands between braces is read as the members of an object. -/
theorem readValue_object {inner rest : List Char} {fuel : Nat}
    {members : List (Option String × Tree)}
    (h : readMembers fuel true (inner ++ '}' :: rest) = (members, .ok rest)) :
    readValue (fuel + 1) ('{' :: inner ++ ['}'] ++ rest) = (.object members none, some rest) := by
  have htext : '{' :: inner ++ ['}'] ++ rest = '{' :: (inner ++ '}' :: rest) := by simp
  rw [htext, readValue, skipJsonBlanks_cons (by decide)]
  simp only [h]
  rw [if_pos (by decide)]

/-- **An object spells what its members spell.** -/
theorem spells_objectText {as : List α} {entries : List Entry}
    (h : List.Forall₂ (fun a entry => SpellsMember (R a) entry) as entries) :
    Spells (fun tree => ∃ members, List.Forall₂ R as members ∧ tree = .object members none)
      (objectText entries) := by
  intro fuel rest hfuel hrest
  have hlength : (objectText entries).length =
      (separated (entries.map Entry.text)).length + 2 := by
    simp [objectText]
  rw [hlength] at hfuel
  obtain ⟨fuel, rfl⟩ := Nat.exists_eq_add_of_le' (by omega : 2 ≤ fuel)
  have hread : ∃ members, List.Forall₂ R as members ∧
      readMembers (fuel + 1) true (separated (entries.map Entry.text) ++ '}' :: rest) =
        (members, .ok rest) := by
    cases entries with
    | nil =>
        obtain rfl := List.forall₂_nil_right_iff.mp h
        exact ⟨[], .nil, readMembers_close (List.forall_mem_nil _) fuel true rest⟩
    | cons entry entries =>
        obtain ⟨a, _, hfirst, -, -⟩ := List.forall₂_cons_right_iff.mp h
        obtain ⟨members, hgoods, hreads⟩ := readMember_of_forall₂ h fuel (by omega) rest
        have htail : ∃ tail, separated ((entry :: entries).map Entry.text) ++ '}' :: rest =
            entry.text ++ tail := by
          cases entries with
          | nil => exact ⟨_, rfl⟩
          | cons next entries => exact ⟨_, by simp [separated]; rfl⟩
        obtain ⟨tail, htail⟩ := htail
        obtain ⟨after, hcs⟩ := hfirst.head tail
        refine ⟨members, hgoods, ?_⟩
        rw [← hreads, ← readMember_skipJsonBlanks, readMembers, htail, hcs]
        rfl
  obtain ⟨members, hgoods, hreads⟩ := hread
  exact ⟨.object members none, [], ⟨members, hgoods, rfl⟩, nofun, readValue_object hreads⟩

/-- An object without members may have blanks in it. -/
theorem spells_emptyObject {blanks : List Char} (h : Blanks blanks) :
    Spells (· = .object [] none) ('{' :: blanks ++ ['}']) := by
  intro fuel rest hfuel hrest
  simp only [List.length_append, List.length_cons, List.length_nil] at hfuel
  obtain ⟨fuel, rfl⟩ := Nat.exists_eq_add_of_le' (by omega : 2 ≤ fuel)
  exact ⟨_, [], rfl, nofun, readValue_object (readMembers_close h fuel true rest)⟩

end Objects

/-! ### Values that are skipped -/

theorem skipAll_of_forall₂ {α : Type} {as : List α} {trees : List Tree}
    (h : List.Forall₂ (fun _ tree => tree.skip = .ok ()) as trees) : skipAll trees = .ok () := by
  induction h with
  | nil => rfl
  | cons htree _ ih =>
      rw [skipAll, htree]
      exact ih

theorem skipMembers_of_forall₂ {α : Type} {as : List α} {members : List (Option String × Tree)}
    (h : List.Forall₂ (fun _ member => member.2.skip = .ok ()) as members) :
    skipMembers members = .ok () := by
  induction h with
  | nil => rfl
  | cons hmember _ ih =>
      rw [skipMembers, hmember]
      exact ih

/-- **Every value can be skipped**, whatever escapes are in its strings and however large its
numbers are. -/
theorem IsJson.spells {text : List Char} (h : IsJson text) :
    Spells (fun tree => tree.skip = .ok ()) text := by
  induction h with
  | null => exact spells_null.mono (by rintro _ rfl; rfl)
  | true => exact spells_true.mono (by rintro _ rfl; rfl)
  | false => exact spells_false.mono (by rintro _ rfl; rfl)
  | number h => exact (spells_number h).mono (by rintro _ ⟨_, _, rfl⟩; rfl)
  | string h => exact (spells_string h).mono (by rintro _ ⟨_, rfl⟩; rfl)
  | emptyArray h => exact (spells_emptyArray h).mono (by rintro _ rfl; rfl)
  | emptyObject h => exact (spells_emptyObject h).mono (by rintro _ rfl; rfl)
  | array _ ih =>
      refine (spells_arrayText (List.forall₂_same.mpr ih)).mono ?_
      rintro _ ⟨trees, htrees, rfl⟩
      rw [Tree.skip, skipAll_of_forall₂ htrees]
      rfl
  | @object entries hnames _ ih =>
      have hmembers : ∀ entry ∈ entries,
          SpellsMember (fun member => member.2.skip = .ok ()) entry := by
        intro entry hentry
        obtain ⟨front, body, back, hname, hfront, hbody, hback⟩ := hnames entry hentry
        exact ⟨front, body, back, hname, hfront, hbody, hback,
          (ih entry hentry).mono fun tree htree _ => htree⟩
      refine (spells_objectText (List.forall₂_same.mpr hmembers)).mono ?_
      rintro _ ⟨members, hmembers, rfl⟩
      rw [Tree.skip, skipMembers_of_forall₂ hmembers]
      rfl
  | blankBefore hc _ ih => exact ih.blankBefore hc
  | blankAfter hc _ ih => exact ih.blankAfter hc

/-! ### Whole texts -/

/-- The fuel for a whole text suffices. -/
theorem readText_of_spells {good : Tree → Prop} {text : String} (h : Spells good text.toList) :
    ∃ tree after, good tree ∧ Blanks after ∧ readText text = (tree, some after) := by
  obtain ⟨tree, after, hgood, hafter, hread⟩ := h (3 * text.toList.length + 3) []
    (Nat.le_add_right _ _) endsNumber_nil
  rw [List.append_nil, List.append_nil] at hread
  exact ⟨tree, after, hgood, hafter, hread⟩

/-- **A text is decoded as a tree that it spells.** -/
theorem exists_decode_eq {α : Type} {good : Tree → Prop} {text : String}
    (h : Spells good text.toList) (decoder : Decoder α) :
    ∃ tree, good tree ∧ decoder.decode text = decoder tree := by
  obtain ⟨tree, after, hgood, hafter, hread⟩ := readText_of_spells h
  have hend : skipJsonBlanks after = [] := by
    rw [← List.append_nil after, skipJsonBlanks_append hafter]
    rfl
  refine ⟨tree, hgood, ?_⟩
  rw [Decoder.decode, hread]
  cases hdecoder : decoder tree with
  | error fault => simp only [hdecoder]; rfl
  | ok a => simp [hdecoder, hend, bind, Except.bind]

/-- A text that spells what can be decoded is decoded. -/
theorem decode_of_spells {α : Type} {decoder : Decoder α} {text : String} {a : α}
    (h : Spells (fun tree => decoder tree = .ok a) text.toList) : decoder.decode text = .ok a := by
  obtain ⟨tree, hgood, heq⟩ := exists_decode_eq h decoder
  exact heq.trans hgood

end FeedSync.Json
