import FeedSync.Proofs.Json.Reading

/-!
# The tree of a text

What the reader makes of a text of the grammar does not depend on what surrounds it: strings and
numbers are read alike whatever follows them, also where reading them is refused, and so every
text of the grammar has one tree. Arrays and objects have the trees of their parts, and where a tree
has parts, its text is put together of theirs.

## Main definitions

* `HasTree` — a text has a tree.
* `HasParts` — how a text is put together of the texts of the parts of its tree.

## Main statements

* `hasTree_arrayText`, `hasTree_objectText` — containers have the trees of their parts.
* `IsJson.exists_parts` — every text of the grammar has a tree and is put together of its parts.
* `decode_of_hasTree` — a text that has a tree is decoded as its tree.
-/

namespace FeedSync.Json

open FeedSync.Text

/-! ### Numbers -/

/-- **Something is read alike whatever follows**, if a number does not go on there. -/
def ReadsAlike (read : List Char → Except Fault (Numeral × List Char)) : Prop :=
  ∃ result : Except Fault Numeral, ∀ rest, EndsNumber rest →
    read rest = result.map fun numeral => (numeral, rest)

theorem readsAlike_floatWithin (significand : Nat) (exponent : Int) :
    ReadsAlike (floatWithin significand exponent) := by
  unfold ReadsAlike floatWithin
  split
  · exact ⟨.ok .float, fun _ _ => rfl⟩
  · exact ⟨.error .malformed, fun _ _ => rfl⟩

/-- The digits of an exponent are read after its sign. -/
theorem readExponent_digits (significand : Nat) (exponent : Int) {ds : List Char}
    (hds : AllDigits ds) (hne : ds ≠ []) {sign : List Char} (hsign : sign ∈ [[], ['+'], ['-']])
    {rest : List Char} (hrest : EndsNumber rest) :
    readExponent significand exponent (sign ++ (ds ++ rest)) =
      if (digitsValue ds : Int) > Int32.maxValue.toInt then
        if significand ≠ 0 && !(sign == ['-']) then .error .malformed else .ok (.float, rest)
      else floatWithin significand
        (if sign == ['-'] then exponent - digitsValue ds else exponent + digitsValue ds) rest := by
  have htake := takeWhile_isDigit_append hds hrest.endsDigits
  have hdrop := dropWhile_isDigit_append hds hrest.endsDigits
  obtain ⟨d, ds, rfl⟩ := List.exists_cons_of_ne_nil hne
  have hd := hds d List.mem_cons_self
  have hplus : d ≠ '+' := fun heq => by simp [heq] at hd
  have hminus : d ≠ '-' := fun heq => by simp [heq] at hd
  rw [List.cons_append] at htake hdrop
  simp only [List.mem_cons, List.not_mem_nil, or_false] at hsign
  rcases hsign with rfl | rfl | rfl
  · simp [readExponent, hplus, hminus, hd, htake, hdrop]
  · simp [readExponent, hd, htake, hdrop]
  · simp [readExponent, hd, htake, hdrop]

theorem readsAlike_readExponent (significand : Nat) (exponent : Int) {sign ds : List Char}
    (hsign : sign ∈ [[], ['+'], ['-']]) (hne : ds ≠ []) (hds : AllDigits ds) :
    ReadsAlike fun rest => readExponent significand exponent (sign ++ (ds ++ rest)) := by
  have hread := fun rest (hrest : EndsNumber rest) =>
    readExponent_digits significand exponent hds hne hsign hrest
  unfold ReadsAlike
  split at hread
  · split at hread
    · exact ⟨.error .malformed, fun rest hrest => hread rest hrest⟩
    · exact ⟨.ok .float, fun rest hrest => hread rest hrest⟩
  · obtain ⟨result, hresult⟩ := readsAlike_floatWithin significand _
    exact ⟨result, fun rest hrest => (hread rest hrest).trans (hresult rest hrest)⟩

theorem readsAlike_readFloatEnd (significand : Nat) (exponent : Int) {text : List Char}
    (h : IsExponent text) :
    ReadsAlike fun rest => readFloatEnd significand exponent (text ++ rest) := by
  rcases h with rfl | ⟨e, sign, ds, rfl, he, hsign, hne, hds⟩
  · obtain ⟨result, hresult⟩ := readsAlike_floatWithin significand exponent
    refine ⟨result, fun rest hrest => ?_⟩
    rw [← hresult rest hrest]
    cases rest with
    | nil => rfl
    | cons c rest =>
        obtain ⟨-, -, hlower, hupper⟩ := hrest c rfl
        simp [readFloatEnd, hlower, hupper]
  · have hletter : (e == 'e' || e == 'E') = true := by simpa using he
    obtain ⟨result, hresult⟩ := readsAlike_readExponent significand exponent hsign hne hds
    refine ⟨result, fun rest hrest => ?_⟩
    rw [← hresult rest hrest]
    simp [readFloatEnd, hletter]

theorem readsAlike_readFraction (significand : Nat) (exponent : Int) {ds text : List Char}
    (hne : ds ≠ []) (hds : AllDigits ds) (h : IsExponent text) :
    ReadsAlike fun rest => readFraction significand exponent (ds ++ (text ++ rest)) := by
  obtain ⟨result, hresult⟩ := readsAlike_readFloatEnd (accumulate significand ds).1
    (exponent - (ds.length - (accumulate significand ds).2.length : Nat)) h
  refine ⟨result, fun rest hrest => Eq.trans ?_ (hresult rest hrest)⟩
  have hends := endsDigits_exponent h hrest
  have htake := takeWhile_isDigit_append hds hends
  have hdrop := dropWhile_isDigit_append hds hends
  obtain ⟨d, ds, rfl⟩ := List.exists_cons_of_ne_nil hne
  have hd := hds d List.mem_cons_self
  rw [List.cons_append] at htake hdrop
  simp only [List.cons_append, readFraction, hd, htake, hdrop, if_true]

/-- An integer is followed by a fraction, by an exponent, or by what does not go on with it. -/
theorem readsAlike_readAfterWhole (isNegative : Bool) (significand : Nat) (dropped : List Char)
    {fraction exponent : List Char} (hfraction : IsFraction fraction)
    (hexponent : IsExponent exponent) :
    ReadsAlike fun rest =>
      readAfterWhole isNegative significand dropped (fraction ++ (exponent ++ rest)) := by
  rcases hfraction with rfl | ⟨fs, rfl, hfs, hfdigits⟩
  · rcases hexponent with rfl | ⟨e, sign, es, rfl, he, hsign, hes, hedigits⟩
    · have hend {rest : List Char} (hrest : EndsNumber rest) :=
        readAfterWhole_end isNegative significand dropped hrest
      by_cases hdropped : dropped.isEmpty = true
      · refine ⟨.ok (integerOf isNegative significand), fun rest hrest => ?_⟩
        exact (hend hrest).trans (if_pos hdropped)
      · obtain ⟨result, hresult⟩ := readsAlike_floatWithin significand dropped.length
        refine ⟨result, fun rest hrest => ?_⟩
        exact ((hend hrest).trans (if_neg hdropped)).trans (hresult rest hrest)
    · obtain ⟨result, hresult⟩ :=
        readsAlike_readExponent significand dropped.length hsign hes hedigits
      refine ⟨result, fun rest hrest => Eq.trans ?_ (hresult rest hrest)⟩
      simp only [List.mem_cons, List.not_mem_nil, or_false] at he
      rcases he with rfl | rfl <;> simp [readAfterWhole]
  · exact readsAlike_readFraction significand dropped.length hfs hfdigits hexponent

/-- **A number is read alike whatever follows it.** -/
theorem IsNumber.readsAlike {cs : List Char} (h : IsNumber cs) :
    ReadsAlike fun rest => readNumeral (cs ++ rest) := by
  obtain ⟨sign, whole, fraction, exponent, rfl, hsign, hwhole, hfraction, hexponent⟩ := h
  obtain ⟨result, hresult⟩ := readsAlike_readAfterWhole (sign == ['-']) (accumulate 0 whole).1
    (accumulate 0 whole).2 hfraction hexponent
  refine ⟨result, fun rest hrest => Eq.trans ?_ (hresult rest hrest)⟩
  have hunsigned := readUnsigned_whole (sign == ['-']) hwhole
    (endsDigits_fraction hfraction (endsDigits_exponent hexponent hrest))
  obtain ⟨c, ds, rfl, hdigits, -⟩ := hwhole.digits
  have hc : c ≠ '-' := fun heq => by simpa [heq] using hdigits c List.mem_cons_self
  refine Eq.trans ?_ hunsigned
  simp only [List.mem_cons, List.not_mem_nil, or_false] at hsign
  rcases hsign with rfl | rfl
  · simp [readNumeral, hc]
  · simp [readNumeral]

/-! ### Strings -/

/-- What a numeric escape denotes depends on the escape after it, and on nothing else. -/
theorem takeUnicodeEscape_cases {a b c d : Char} {body : List Char}
    (hhex : ∀ x ∈ [a, b, c, d], (hexValue? x).isSome = true) (h : IsStringBody body) :
    (∃ char rest, IsStringBody rest ∧ rest.length ≤ body.length ∧ ∀ after,
      takeUnicodeEscape (a :: b :: c :: d :: (body ++ '"' :: after)) =
        .ok (char, rest ++ '"' :: after)) ∨
      ∃ fault, ∀ after,
        takeUnicodeEscape (a :: b :: c :: d :: (body ++ '"' :: after)) = .error fault := by
  obtain ⟨unit, hunit⟩ := exists_takeHex hhex
  by_cases hlow : 0xDC00 ≤ unit ∧ unit ≤ 0xDFFF
  · refine .inr ⟨.malformed, fun after => ?_⟩
    simp [takeUnicodeEscape, hunit, bind, Except.bind, hlow]
  by_cases hhigh : unit < 0xD800 ∨ 0xDBFF < unit
  · refine .inl ⟨Char.ofNat unit, body, h, Nat.le_refl _, fun after => ?_⟩
    simp [takeUnicodeEscape, hunit, bind, Except.bind, hlow, hhigh]
  -- The first half of a pair: the escape of the second half has to follow.
  cases h with
  | nil =>
      refine .inr ⟨.malformed, fun after => ?_⟩
      simp [takeUnicodeEscape, hunit, bind, Except.bind, hlow, hhigh]
  | @plain c cs _ hbackslash _ _ =>
      refine .inr ⟨.malformed, fun after => ?_⟩
      simp [takeUnicodeEscape, hunit, bind, Except.bind, hlow, hhigh, hbackslash]
  | @letter e cs he _ =>
      have hletter : e ≠ 'u' := by
        rintro rfl
        exact absurd he (by decide)
      refine .inr ⟨.malformed, fun after => ?_⟩
      simp [takeUnicodeEscape, hunit, bind, Except.bind, hlow, hhigh, hletter]
  | @unit x y z w cs hhex' hcs =>
      obtain ⟨low, hlowUnit⟩ := exists_takeHex hhex'
      by_cases hpair : 0xDC00 ≤ low ∧ low ≤ 0xDFFF
      · refine .inl ⟨pairedChar unit low, cs, hcs, ?_, fun after => ?_⟩
        · simp only [List.length_cons]
          omega
        · simp [takeUnicodeEscape, hunit, hlowUnit, bind, Except.bind, hlow, hhigh, hpair]
      · refine .inr ⟨.malformed, fun after => ?_⟩
        simp [takeUnicodeEscape, hunit, hlowUnit, bind, Except.bind, hlow, hhigh, hpair]

/-- **A string starts with the same piece whatever follows it**: it ends, or it goes on after a
character, or it cannot be read. -/
theorem IsStringBody.takePiece_cases {body : List Char} (h : IsStringBody body) :
    body = [] ∨
      (∃ c rest, IsStringBody rest ∧ rest.length < body.length ∧ ∀ after,
        takePiece (body ++ '"' :: after) = .ok (.char c (rest ++ '"' :: after))) ∨
      ∃ fault, ∀ after, takePiece (body ++ '"' :: after) = .error fault := by
  cases h with
  | nil => exact .inl rfl
  | @plain c cs hquote hbackslash hcontrol hcs =>
      refine .inr (.inl ⟨c, cs, hcs, Nat.lt_succ_self _, fun after => ?_⟩)
      simp [takePiece, hquote, hbackslash, hcontrol]
  | @letter e cs he hcs =>
      have hunit : e ≠ 'u' := by
        rintro rfl
        exact absurd he (by decide)
      obtain ⟨c, hc⟩ := Option.isSome_iff_exists.mp (isSome_simpleEscape? e he)
      refine .inr (.inl ⟨c, cs, hcs, by simp only [List.length_cons]; omega, fun after => ?_⟩)
      simp [takePiece, hunit, hc]
  | @unit a b c d cs hhex hcs =>
      rcases takeUnicodeEscape_cases hhex hcs with ⟨char, rest, hrest, hlength, htake⟩ | hfault
      · refine .inr (.inl ⟨char, rest, hrest, ?_, fun after => ?_⟩)
        · simp only [List.length_cons]
          omega
        · simp [takePiece, htake, Except.map]
      · obtain ⟨fault, hfault⟩ := hfault
        refine .inr (.inr ⟨fault, fun after => ?_⟩)
        simp [takePiece, hfault, Except.map]

theorem unescape_of_error {cs : List Char} {fault : Fault} (h : takePiece cs = .error fault) :
    unescape cs = .error fault := by
  rw [unescape]
  split <;> simp_all

/-- **A string is read alike whatever follows it.** -/
theorem IsStringBody.unescape_append {body : List Char} (h : IsStringBody body) :
    ∃ result : Except Fault (List Char), ∀ rest,
      unescape (body ++ '"' :: rest) = result.map fun chars => (chars, rest) := by
  induction hlength : body.length using Nat.strong_induction_on generalizing body with
  | _ n ih =>
      rcases h.takePiece_cases with rfl | ⟨c, tail, htail, hlt, hpiece⟩ | ⟨fault, hfault⟩
      · exact ⟨.ok [], fun rest => unescape_of_close (by simp [takePiece])⟩
      · obtain ⟨result, hresult⟩ := ih tail.length (hlength ▸ hlt) htail rfl
        refine ⟨result.map (List.cons c), fun rest => ?_⟩
        rw [unescape_of_char (hpiece rest), hresult]
        cases result <;> rfl
      · exact ⟨.error fault, fun rest => unescape_of_error (hfault rest)⟩

/-! ### Trees -/

/-- **The tree of a text**: what the reader makes of it, whatever surrounds it. -/
def HasTree (text : List Char) (tree : Tree) : Prop := Spells (tree = ·) text

/-- The tree of a member: its name, as far as it denotes characters, and the tree of its value. -/
def Entry.HasTree (entry : Entry) (member : Option String × Tree) : Prop :=
  SpellsMember (member = ·) entry

/-- Blanks around a text do not change its tree. -/
theorem HasTree.blanks {text front back : List Char} {tree : Tree} (h : HasTree text tree)
    (hfront : Blanks front) (hback : Blanks back) : HasTree (front ++ (text ++ back)) tree := by
  have hafter : HasTree (text ++ back) tree := by
    induction back generalizing text with
    | nil => rwa [List.append_nil]
    | cons c back ih =>
        obtain ⟨hc, hback⟩ := List.forall_mem_cons.mp hback
        rw [List.append_cons]
        exact ih (h.blankAfter hc) hback
  induction front with
  | nil => exact hafter
  | cons c front ih =>
      obtain ⟨hc, hfront⟩ := List.forall_mem_cons.mp hfront
      exact (ih hfront).blankBefore hc

/-- **An array has the trees of its elements.** -/
theorem hasTree_arrayText {texts : List (List Char)} {trees : List Tree}
    (h : List.Forall₂ HasTree texts trees) : HasTree (arrayText texts) (.array trees none) := by
  refine (spells_arrayText (R := Eq) h.flip).mono ?_
  rintro _ ⟨others, hothers, rfl⟩
  rw [List.forall₂_eq_eq_eq] at hothers
  rw [hothers]

/-- **An object has the trees of its members.** -/
theorem hasTree_objectText {entries : List Entry} {members : List (Option String × Tree)}
    (h : List.Forall₂ Entry.HasTree entries members) :
    HasTree (objectText entries) (.object members none) := by
  refine (spells_objectText (R := Eq) h.flip).mono ?_
  rintro _ ⟨others, hothers, rfl⟩
  rw [List.forall₂_eq_eq_eq] at hothers
  rw [hothers]

/-- A string that denotes characters has them in its tree. -/
theorem hasTree_string {body chars : List Char} (h : IsStringBody body)
    (hchars : ∀ rest, unescape (body ++ '"' :: rest) = .ok (chars, rest)) :
    HasTree ('"' :: body ++ ['"']) (.text (.ok (String.ofList chars))) := by
  refine (spells_string h).mono ?_
  rintro _ ⟨rest, rfl⟩
  rw [hchars]
  rfl

/-- A member whose name denotes characters has them in its tree. -/
theorem hasTree_entry {body front back chars value : List Char} {tree : Tree}
    (hfront : Blanks front) (hbody : IsStringBody body) (hback : Blanks back)
    (hchars : ∀ rest, unescape (body ++ '"' :: rest) = .ok (chars, rest))
    (hvalue : HasTree value tree) :
    Entry.HasTree ⟨front ++ '"' :: (body ++ '"' :: back), value⟩
      (some (String.ofList chars), tree) := by
  refine ⟨front, body, back, rfl, hfront, hbody, hback, hvalue.mono ?_⟩
  rintro _ rfl rest
  rw [hchars]
  rfl

/-- A member of any name has a tree, if its value has one. -/
theorem exists_tree_of_isName {entry : Entry} (hname : IsName entry.name)
    (hvalue : ∃ tree, HasTree entry.value tree) : ∃ member, entry.HasTree member := by
  obtain ⟨front, body, back, hname, hfront, hbody, hback⟩ := hname
  obtain ⟨tree, htree⟩ := hvalue
  obtain ⟨result, hresult⟩ := hbody.unescape_append
  refine ⟨((result.map String.ofList).toOption, tree), front, body, back, hname, hfront,
    hbody, hback, htree.mono ?_⟩
  rintro _ rfl rest
  rw [hresult rest]
  cases result <;> rfl

/-- What is there for each of some parts makes a list. -/
theorem exists_forall₂ {α β : Type} {R : α → β → Prop} {as : List α} (h : ∀ a ∈ as, ∃ b, R a b) :
    ∃ bs, List.Forall₂ R as bs := by
  induction as with
  | nil => exact ⟨[], .nil⟩
  | cons a as ih =>
      obtain ⟨hfirst, hothers⟩ := List.forall_mem_cons.mp h
      obtain ⟨b, hb⟩ := hfirst
      obtain ⟨bs, hbs⟩ := ih hothers
      exact ⟨b :: bs, .cons hb hbs⟩

/-! ### Parts -/

/-- A member as the grammar has it. -/
def Entry.IsMember (entry : Entry) : Prop := IsName entry.name ∧ IsJson entry.value

/-- **How a text is put together** of the texts of the elements or members of its tree. -/
inductive HasParts : List Char → Tree → Prop
  | array {front back : List Char} {texts : List (List Char)} {trees : List Tree} :
      Blanks front → Blanks back → (∀ text ∈ texts, IsJson text) →
        List.Forall₂ HasTree texts trees →
          HasParts (front ++ (arrayText texts ++ back)) (.array trees none)
  | object {front back : List Char} {entries : List Entry}
      {members : List (Option String × Tree)} :
      Blanks front → Blanks back → (∀ entry ∈ entries, entry.IsMember) →
        List.Forall₂ Entry.HasTree entries members →
          HasParts (front ++ (objectText entries ++ back)) (.object members none)
  /-- There are no parts. -/
  | bare {text : List Char} {tree : Tree} : (∀ trees stop, tree = .array trees stop → trees = []) →
      (∀ members stop, tree = .object members stop → members = []) → HasParts text tree

theorem HasParts.blankBefore {text : List Char} {tree : Tree} (h : HasParts text tree) {c : Char}
    (hc : isJsonBlank c = true) : HasParts (c :: text) tree := by
  cases h with
  | array hfront hback htexts htrees =>
      rw [← List.cons_append]
      exact .array (List.forall_mem_cons.mpr ⟨hc, hfront⟩) hback htexts htrees
  | object hfront hback hentries hmembers =>
      rw [← List.cons_append]
      exact .object (List.forall_mem_cons.mpr ⟨hc, hfront⟩) hback hentries hmembers
  | bare harray hobject => exact .bare harray hobject

theorem HasParts.blankAfter {text : List Char} {tree : Tree} (h : HasParts text tree) {c : Char}
    (hc : isJsonBlank c = true) : HasParts (text ++ [c]) tree := by
  have hback {back : List Char} (hback : Blanks back) : Blanks (back ++ [c]) :=
    List.forall_mem_append.mpr ⟨hback, List.forall_mem_singleton.mpr hc⟩
  cases h with
  | array hfront hblanks htexts htrees =>
      rw [List.append_assoc, List.append_assoc]
      exact .array hfront (hback hblanks) htexts htrees
  | object hfront hblanks hentries hmembers =>
      rw [List.append_assoc, List.append_assoc]
      exact .object hfront (hback hblanks) hentries hmembers
  | bare harray hobject => exact .bare harray hobject

/-- **Every text of the grammar has a tree**, and is put together of its parts. -/
theorem IsJson.exists_parts {text : List Char} (h : IsJson text) :
    ∃ tree, HasTree text tree ∧ HasParts text tree := by
  induction h with
  | null => exact ⟨.null, spells_null.mono fun _ => Eq.symm, .bare (by simp) (by simp)⟩
  | true => exact ⟨.bool Bool.true, spells_true.mono fun _ => Eq.symm, .bare (by simp) (by simp)⟩
  | false =>
      exact ⟨.bool Bool.false, spells_false.mono fun _ => Eq.symm, .bare (by simp) (by simp)⟩
  | @number cs h =>
      obtain ⟨result, hresult⟩ := h.readsAlike
      refine ⟨.number result, (spells_number h).mono ?_, .bare (by simp) (by simp)⟩
      rintro _ ⟨rest, hrest, rfl⟩
      have hread : readNumeral (cs ++ rest) = _ := hresult rest hrest
      rw [hread]
      cases result <;> rfl
  | @string body h =>
      obtain ⟨result, hresult⟩ := h.unescape_append
      refine ⟨.text (result.map String.ofList), (spells_string h).mono ?_,
        .bare (by simp) (by simp)⟩
      rintro _ ⟨rest, rfl⟩
      rw [hresult rest]
      cases result <;> rfl
  | emptyArray h =>
      exact ⟨.array [] none, (spells_emptyArray h).mono fun _ => Eq.symm,
        .bare (by simp +contextual) (by simp)⟩
  | emptyObject h =>
      exact ⟨.object [] none, (spells_emptyObject h).mono fun _ => Eq.symm,
        .bare (by simp) (by simp +contextual)⟩
  | @array texts htexts ih =>
      obtain ⟨trees, htrees⟩ := exists_forall₂ fun text htext =>
        (ih text htext).imp fun _ => And.left
      refine ⟨_, hasTree_arrayText htrees, ?_⟩
      have h := HasParts.array (List.forall_mem_nil _) (List.forall_mem_nil _) htexts htrees
      rwa [List.append_nil, List.nil_append] at h
  | @object entries hnames hvalues ih =>
      obtain ⟨members, hmembers⟩ := exists_forall₂ fun entry hentry =>
        exists_tree_of_isName (hnames entry hentry) ((ih entry hentry).imp fun _ => And.left)
      refine ⟨_, hasTree_objectText hmembers, ?_⟩
      have h := HasParts.object (List.forall_mem_nil _) (List.forall_mem_nil _)
        (fun entry hentry => ⟨hnames entry hentry, hvalues entry hentry⟩) hmembers
      rwa [List.append_nil, List.nil_append] at h
  | blankBefore hc _ ih =>
      obtain ⟨tree, htree, hparts⟩ := ih
      exact ⟨tree, htree.blankBefore hc, hparts.blankBefore hc⟩
  | blankAfter hc _ ih =>
      obtain ⟨tree, htree, hparts⟩ := ih
      exact ⟨tree, htree.blankAfter hc, hparts.blankAfter hc⟩

theorem IsJson.exists_tree {text : List Char} (h : IsJson text) : ∃ tree, HasTree text tree :=
  h.exists_parts.imp fun _ => And.left

/-- A text has no other tree. -/
theorem HasTree.unique {text : List Char} {tree tree' : Tree} (h : HasTree text tree)
    (h' : HasTree text tree') : tree = tree' := by
  obtain ⟨_, _, rfl, -, hread⟩ := h _ [] (Nat.le_refl _) endsNumber_nil
  obtain ⟨_, _, rfl, -, hread'⟩ := h' _ [] (Nat.le_refl _) endsNumber_nil
  exact congrArg Prod.fst (hread.symm.trans hread')

/-- Whoever knows the tree of a text knows its parts. -/
theorem IsJson.hasParts {text : List Char} {tree : Tree} (h : IsJson text)
    (htree : HasTree text tree) : HasParts text tree := by
  obtain ⟨_, hother, hparts⟩ := h.exists_parts
  rwa [htree.unique hother]

/-- **A text that has a tree is decoded as its tree.** -/
theorem decode_of_hasTree {α : Type} {text : String} {tree : Tree}
    (h : HasTree text.toList tree) (decoder : Decoder α) : decoder.decode text = decoder tree := by
  obtain ⟨_, rfl, heq⟩ := exists_decode_eq h decoder
  exact heq

end FeedSync.Json
