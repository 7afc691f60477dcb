import FeedSync.Proofs.Yaml.Locality

/-!
# Texts that are plain scalars as they are

A text of one line that has no mark in it which would end a plain scalar is read back as it is, and
what follows it on its line, at most blanks and a comment, is passed over: the scan goes on after
the line as it would after any other such text.

## Main definitions

* `isPlainText`: a text that a plain scalar can be.
* `endsLine`: what may follow it.

## Main statements

* `takePlain_of_staysPlain`: a plain scalar takes all of such a text.
* `takeAfterWord_of_endsLine`: what follows it is taken alike after all of them.
-/

namespace FeedSync.Yaml

/-- Whether a plain scalar goes on to the end of a text that follows a blank or not. -/
def staysPlain : (afterBlank : Bool) → List Char → Bool
  | afterBlank, [] => !afterBlank
  | afterBlank, c :: rest =>
    isAllowed c && !isBreak c && !(c == '#' && afterBlank) && !(c == ':' && atSpace rest) &&
      staysPlain (isBlank c) rest

/-- **A text that a plain scalar can be** on one line of a block collection. -/
def isPlainText (text : String) : Bool :=
  let cs := text.toList
  Lexer.startsPlain false cs && !Lexer.startsMark '-' false cs && staysPlain false cs

/-- Whether nothing but blanks and perhaps a comment follows on a line. -/
def endsLine (rest : List Char) : Bool :=
  let after := rest.dropWhile isBlank
  atSpace rest && (atBreak after || after.head? == some '#')

variable {c c' : Cursor} {n : Nat} {margin : Nat}

/-! ### The words of a plain text -/

theorem staysPlain_cons {afterBlank : Bool} {x : Char} {r : List Char} :
    staysPlain afterBlank (x :: r) = true ↔
      isAllowed x = true ∧ isBreak x = false ∧ (x = '#' → afterBlank = false) ∧
        (x = ':' → atSpace r = false) ∧ staysPlain (isBlank x) r = true := by
  simp only [staysPlain, Bool.and_eq_true, Bool.not_eq_true', Bool.and_eq_false_imp, beq_iff_eq,
    and_assoc]

/-- A word goes up to the next blank, or to the end of the text. -/
theorem takePlainWord_of_staysPlain {afterBlank : Bool} {r back : List Char}
    (h : staysPlain afterBlank r = true) (hback : atSpace back = true) :
    takePlainWord false (r ++ back) = some (r.takeWhile (!isBlank ·)) := by
  induction r generalizing afterBlank with
  | nil =>
    cases back with
    | nil => rfl
    | cons x u =>
      rw [List.nil_append, takePlainWord_cons]
      exact if_pos hback
  | cons x r ih =>
    obtain ⟨-, hbreak, -, hcolon, hrest⟩ := staysPlain_cons.mp h
    rw [List.cons_append, takePlainWord_cons, hbreak]
    cases hblank : isBlank x with
    | true => simp [hblank]
    | false =>
      have hgoes : ¬((x == ':' && atSpace (r ++ back)) = true) := by
        intro hend
        simp only [Bool.and_eq_true, beq_iff_eq] at hend
        have := hcolon hend.1
        cases r with
        | nil => cases this
        | cons y r => exact absurd hend.2 (Bool.eq_false_iff.mp this)
      rw [if_neg (by simp), if_neg (by simp), if_neg hgoes, if_neg (by simp), ih hrest]
      simp [hblank]

/-- After a word the text stays plain. -/
theorem staysPlain_dropWord {afterBlank : Bool} {r : List Char}
    (h : staysPlain afterBlank r = true) :
    ∃ afterBlank, staysPlain afterBlank (r.dropWhile (!isBlank ·)) = true := by
  induction r generalizing afterBlank with
  | nil => exact ⟨afterBlank, h⟩
  | cons x r ih =>
    cases hblank : isBlank x with
    | true => exact ⟨afterBlank, by simpa [hblank] using h⟩
    | false => simpa [hblank] using ih (staysPlain_cons.mp h).2.2.2.2

/-- After blanks too. -/
theorem staysPlain_dropBlanks {r : List Char} (h : staysPlain true r = true) :
    staysPlain true (r.dropWhile isBlank) = true := by
  induction r with
  | nil => exact h
  | cons x r ih =>
    cases hblank : isBlank x with
    | true => simpa [hblank] using ih (by simpa [hblank] using (staysPlain_cons.mp h).2.2.2.2)
    | false => simpa [hblank] using h

theorem rest_skip_of_append {r r' : List Char} (h : c.rest = r ++ r') :
    (c.skip r.length).rest = r' := by
  simp [Cursor.skip, h]

theorem skip_skip (c : Cursor) (m n : Nat) : (c.skip m).skip n = c.skip (m + n) := by
  simp [Cursor.skip, List.drop_drop, Nat.add_assoc]

/-- Blanks become part of a gap on their line. -/
theorem takeGap_of_blanks {gap : Gap} {blanks r : List Char} (hrest : c.rest = blanks ++ r)
    (hblanks : ∀ x ∈ blanks, isBlank x = true) (hgap : gap.isBroken = false) :
    takeGap margin (blanks.length + n) gap c =
      takeGap margin n { gap with blanks := gap.blanks ++ blanks } (c.skip blanks.length) := by
  induction blanks generalizing gap c with
  | nil => simp [Cursor.skip]
  | cons x blanks ih =>
    have htail : c.skip.rest = blanks ++ r := rest_skip_of_append (r := [x]) hrest
    have hgap' : { gap with blanks := gap.blanks ++ [x] }.isBroken = false := hgap
    rw [List.length_cons, Nat.add_right_comm, takeGap_succ (by rw [hrest]; rfl),
      if_pos (hblanks x List.mem_cons_self), if_pos (by rw [hgap]; rfl),
      ih htail (fun y hy => hblanks y (List.mem_cons_of_mem x hy)) hgap', skip_skip,
      Nat.add_comm 1, List.append_assoc]
    rfl

/-- A gap ends where something else stands on its line. -/
theorem takeGap_of_not_space {gap : Gap} (h : atSpace c.rest = false) :
    takeGap margin n gap c = some (gap, c) := by
  cases n with
  | zero => rfl
  | succ n =>
    cases hrest : c.rest with
    | nil => rw [hrest] at h; cases h
    | cons x r =>
      rw [hrest, atSpace, Bool.or_eq_false_iff] at h
      rw [takeGap_succ (by rw [hrest]; rfl), h.1, h.2]
      rfl

/-- After blanks a scalar goes on where something else stands on its line. -/
theorem takeAfterWord_of_blanks {text blanks r : List Char} {gap : Gap} {x : Char}
    (hrest : c.rest = x :: blanks ++ r) (hblanks : ∀ y ∈ x :: blanks, isBlank y = true)
    (hr : atSpace r = false) (hmargin : margin ≤ c.column) :
    takeAfterWord false margin n text gap c =
      takePlain false margin n text { blanks := x :: blanks } (c.skip (blanks.length + 1)) := by
  have hend : (c.rest.isEmpty || !atSpace c.rest) = false := by
    simp [hrest, atSpace, hblanks x List.mem_cons_self]
  have hstays : ¬((c.skip (blanks.length + 1)).column < margin) := by
    simp only [Cursor.skip]
    omega
  have hgap : takeGap margin c.rest.length {} c =
      some ({ blanks := x :: blanks }, c.skip (blanks.length + 1)) := by
    rw [hrest, List.length_append, takeGap_of_blanks hrest hblanks rfl]
    exact takeGap_of_not_space (by rwa [rest_skip_of_append hrest])
  rw [takeAfterWord, hend, if_neg Bool.false_ne_true, hgap, Option.bind_some]
  exact if_neg (by simpa using hstays)

/-- The cursor stands right of the margin, so that neither the end of a document nor the end of the
scalar is seen there. -/
theorem takePlain_of_word {x : Char} {r text word : List Char} {gap : Gap}
    (hrest : c.rest = x :: r) (hmark : x ≠ '#') (hcolumn : 0 < c.column)
    (hword : takePlainWord false c.rest = some word) (hne : word ≠ []) :
    takePlain false margin (n + 1) text gap c =
      takeAfterWord false margin n (text ++ gap.fold ++ word) {} (c.skip word.length) := by
  have hstop : ((c.column == 0 && atDocumentMark c.rest) || c.rest.head? == some '#') = false := by
    have : (c.column == 0) = false := beq_false_of_ne (by omega)
    simp [this, hrest, hmark]
  rw [takePlain_succ, hstop, if_neg Bool.false_ne_true, hword, Option.bind_some, joinWord,
    List.isEmpty_eq_false_iff.mpr hne]
  rfl

/-- **A plain scalar takes all of a text that stays plain**, and then looks at what follows. -/
theorem takePlain_of_staysPlain {afterBlank : Bool} {x : Char} {r back : List Char}
    (hrest : c.rest = x :: r ++ back) (hstays : staysPlain afterBlank (x :: r) = true)
    (hback : atSpace back = true) (hblank : isBlank x = false) (hmark : x ≠ '#')
    (hmargin : margin ≤ c.column) (hcolumn : 0 < c.column) (hn : r.length + 1 < n)
    (text : List Char) (gap : Gap) :
    ∃ m, n ≤ m + (r.length + 1) ∧ takePlain false margin n text gap c =
      takeAfterWord false margin m (text ++ gap.fold ++ x :: r) {} (c.skip (r.length + 1)) := by
  induction hlen : r.length using Nat.strongRecOn generalizing x r text gap c n afterBlank with
  | _ len ih =>
    obtain ⟨n, rfl⟩ : ∃ m, n = m + 1 := ⟨n - 1, by omega⟩
    have hword : takePlainWord false c.rest = some (x :: r.takeWhile (!isBlank ·)) := by
      rw [hrest, takePlainWord_of_staysPlain hstays hback,
        List.takeWhile_cons_of_pos (by simp [hblank])]
    rw [takePlain_of_word (by rw [hrest]; rfl) hmark hcolumn hword (by simp)]
    obtain ⟨between, hafter⟩ := staysPlain_dropWord hstays
    rw [List.dropWhile_cons_of_pos (by simp [hblank])] at hafter
    have hsplit := List.takeWhile_append_dropWhile (p := (!isBlank ·)) (l := r)
    have hhead := List.head?_dropWhile_not (!isBlank ·) r
    generalize r.takeWhile (!isBlank ·) = word at *
    generalize r.dropWhile (!isBlank ·) = rest at *
    obtain rfl := hsplit
    cases rest with
    | nil =>
      refine ⟨n, by omega, ?_⟩
      rw [List.append_nil, ← hlen, List.append_nil]
      rfl
    | cons y rest =>
      have hy : isBlank y = true := by simpa using hhead
      have hstays' :=
        staysPlain_dropBlanks (by simpa [hy] using (staysPlain_cons.mp hafter).2.2.2.2)
      have hsplit := List.takeWhile_append_dropWhile (p := isBlank) (l := rest)
      have hblanks : ∀ z ∈ rest.takeWhile isBlank, isBlank z = true :=
        fun z => List.mem_takeWhile_imp
      have hhead' := List.head?_dropWhile_not isBlank rest
      generalize rest.takeWhile isBlank = blanks at *
      generalize rest.dropWhile isBlank = last at *
      obtain rfl := hsplit
      cases last with
      | nil => cases hstays'
      | cons z last =>
        obtain ⟨-, hbreak, hmark', -, -⟩ := staysPlain_cons.mp hstays'
        have hz : isBlank z = false := by simpa using hhead'
        have hrest₁ : (c.skip (word.length + 1)).rest = y :: blanks ++ (z :: last ++ back) := by
          simp [Cursor.skip, hrest]
        rw [List.length_cons,
          takeAfterWord_of_blanks hrest₁ (List.forall_mem_cons.mpr ⟨hy, hblanks⟩)
          (by simp [atSpace, hz, hbreak]) (by simp only [Cursor.skip]; omega)]
        obtain ⟨m, hm, heq⟩ := ih last.length (by subst hlen; simp; omega) (n := n)
          (c := (c.skip (word.length + 1)).skip (blanks.length + 1)) (rest_skip_of_append hrest₁)
          hstays' hz (fun h => nomatch hmark' h) (by simp only [Cursor.skip]; omega)
          (by simp only [Cursor.skip]; omega) (by simp at hn; omega)
          (text ++ gap.fold ++ x :: word) { blanks := y :: blanks } rfl
        refine ⟨m, by subst hlen; simp; omega, ?_⟩
        rw [heq, skip_skip, skip_skip, ← hlen]
        congr 1
        · simp [Gap.fold]
        · congr 1
          simp
          omega

/-! ### Lines -/

theorem line_takeBreak_le (c : Cursor) : c.line ≤ c.takeBreak.2.line := by
  unfold Cursor.takeBreak
  dsimp only
  split
  · exact Nat.le_succ _
  · split_ifs
    · exact Nat.le_succ _
    · exact Nat.le_succ _
    · exact le_rfl
  · exact le_rfl

theorem line_takeBreak_lt (h : c.rest.head?.map isBreak = some true) :
    c.line < c.takeBreak.2.line := by
  cases hrest : c.rest with
  | nil => simp [hrest] at h
  | cons x r =>
    rw [Cursor.takeBreak_eq hrest (by simpa [hrest] using h)]
    exact Nat.lt_succ_self _

theorem line_takeGap_le {gap gap₁ : Gap} {c₁ : Cursor}
    (h : takeGap margin n gap c = some (gap₁, c₁)) : c.line ≤ c₁.line := by
  induction n generalizing gap c with
  | zero =>
    cases h
    exact le_rfl
  | succ n ih =>
    cases hx : c.rest.head? with
    | none =>
      rw [takeGap_nil (List.head?_eq_none_iff.mp hx)] at h
      cases h
      exact le_rfl
    | some x =>
      rw [takeGap_succ hx] at h
      split_ifs at h with hblank hbroken htab hbreak hbroken
      · exact (ih h :)
      · exact (ih h :)
      · exact (line_takeBreak_le c).trans (ih h)
      · exact (line_takeBreak_le c).trans (ih h)
      · cases h
        exact le_rfl

theorem line_takePlain_le {inFlow : Bool} {text : List Char} {gap : Gap}
    {taken : List Char × Bool × Cursor} (h : takePlain inFlow margin n text gap c = some taken) :
    c.line ≤ taken.2.2.line := by
  induction n generalizing text gap c with
  | zero => cases h
  | succ n ih =>
    rw [takePlain_succ] at h
    split_ifs at h with hstop
    · obtain rfl := Option.some.inj h
      exact le_rfl
    · obtain ⟨word, -, h⟩ := Option.bind_eq_some_iff.mp h
      unfold takeAfterWord at h
      split_ifs at h with hend
      · obtain rfl := Option.some.inj h
        exact le_rfl
      · obtain ⟨⟨gap₁, c₁⟩, hgap, h⟩ := Option.bind_eq_some_iff.mp h
        refine (line_takeGap_le hgap).trans ?_
        split_ifs at h with hmargin
        · obtain rfl := Option.some.inj h
          exact le_rfl
        · exact ih h

/-! ### The end of a line -/

/-- The texts have come together again. -/
def Fork.IsJoined (k : Fork) : Prop := k.tail = [] ∧ k.tail' = []

/-- Two cursors before the same text on the same line, perhaps in different columns. -/
structure Fork.Beside (k : Fork) (c c' : Cursor) : Prop where
  rest : c.rest = c'.rest
  index : c.index + k.shift = c'.index + k.shift'
  line : c.line = c'.line

variable {k : Fork}

namespace Fork

theorem IsJoined.isFenced (hk : k.IsJoined) : k.IsFenced where
  head := by rw [hk.1, hk.2]
  isFence := by simp [hk.1]

theorem IsJoined.within (hk : k.IsJoined) (c : Cursor) : k.Within c := by
  rw [Within, hk.1]
  exact Nat.zero_le _

theorem IsJoined.both (hk : k.IsJoined) (r : List Char) : k.Both r r :=
  ⟨r, by rw [hk.1, List.append_nil], by rw [hk.2, List.append_nil]⟩

theorem Beside.skip (h : k.Beside c c') (n : Nat) : k.Beside (c.skip n) (c'.skip n) where
  rest := congrArg (List.drop n) h.rest
  index := by
    have := h.index
    simp only [Cursor.skip]
    omega
  line := h.line

theorem Beside.skipWhile (h : k.Beside c c') (p : Char → Bool) :
    k.Beside (c.skipWhile p) (c'.skipWhile p) := by
  rw [Cursor.skipWhile, Cursor.skipWhile, h.rest]
  exact h.skip _

theorem Beside.skipComment (h : k.Beside c c') : k.Beside c.skipComment c'.skipComment := by
  unfold Cursor.skipComment
  rw [h.rest]
  split_ifs
  · exact h.skipWhile _
  · exact h

/-- After a break the columns are the same again. -/
theorem Beside.takeBreak (hk : k.IsJoined) (h : k.Beside c c')
    (hbreak : c.rest.head?.map isBreak = some true) :
    c.takeBreak.1 = c'.takeBreak.1 ∧ k.InStep c.takeBreak.2 c'.takeBreak.2 := by
  cases hrest : c.rest with
  | nil => simp [hrest] at hbreak
  | cons x r =>
    have hx : isBreak x = true := by simpa [hrest] using hbreak
    have hindex := h.index
    rw [Cursor.takeBreak_eq hrest hx, Cursor.takeBreak_eq (h.rest ▸ hrest) hx, ← h.rest, ← h.line]
    refine ⟨rfl, hk.both _, ?_, rfl, rfl⟩
    dsimp only
    omega

end Fork

theorem skip_zero (c : Cursor) : c.skip 0 = c := rfl

/-- A plain scalar ends at a comment and at the end of the text. -/
theorem takePlain_of_end {text : List Char} {gap : Gap}
    (h : c.rest = [] ∨ c.rest.head? = some '#') :
    takePlain false margin (n + 1) text gap c = some (text, gap.isBroken, c) := by
  rw [takePlain_succ]
  obtain h | h := h
  · have hstop :
        ((c.column == 0 && atDocumentMark c.rest) || c.rest.head? == some '#') = false := by
      simp [h, atDocumentMark]
    rw [hstop, if_neg Bool.false_ne_true, h, takePlainWord, Option.bind_some, joinWord,
      takeAfterWord, List.length_nil, skip_zero, h]
    rfl
  · rw [if_pos (by simp [h])]

/-- A scalar ends with the blanks before a comment or the end of the text. -/
theorem takeAfterWord_of_end {text blanks r : List Char} (hrest : c.rest = blanks ++ r)
    (hblanks : ∀ x ∈ blanks, isBlank x = true) (hr : r = [] ∨ r.head? = some '#')
    (hspace : atSpace c.rest = true) (hmargin : margin ≤ c.column) :
    takeAfterWord false margin (n + 1) text {} c = some (text, false, c.skip blanks.length) := by
  by_cases hnil : c.rest = []
  · obtain ⟨rfl, rfl⟩ := List.append_eq_nil_iff.mp (hrest.symm.trans hnil)
    rw [takeAfterWord, hnil]
    rfl
  · have hend : (c.rest.isEmpty || !atSpace c.rest) = false := by
      rw [hspace, List.isEmpty_eq_false_iff.mpr hnil]
      rfl
    have hnext := rest_skip_of_append hrest
    have hgap : takeGap margin c.rest.length {} c = some ({ blanks }, c.skip blanks.length) := by
      rw [hrest, List.length_append, takeGap_of_blanks hrest hblanks rfl]
      obtain hr | hr := hr
      · exact takeGap_nil (hnext.trans hr)
      · refine takeGap_of_not_space ?_
        rw [hnext, Fork.atSpace_eq, hr]
        rfl
    have hstays : ¬((c.skip blanks.length).column < margin) := by
      simp only [Cursor.skip]
      omega
    rw [takeAfterWord, hend, if_neg Bool.false_ne_true, hgap, Option.bind_some,
      if_neg (by simpa using hstays), takePlain_of_end (by rwa [hnext])]

theorem not_isBlank_of_isBreak {x : Char} (h : isBreak x = true) : isBlank x = false := by
  rw [isBlank, Bool.or_eq_false_iff]
  exact ⟨beq_false_of_ne (by rintro rfl; exact absurd h (by decide)),
    beq_false_of_ne (by rintro rfl; exact absurd h (by decide))⟩

/-- A scalar goes on after a break. -/
theorem takeAfterWord_of_break {text blanks r : List Char} {x : Char}
    (hrest : c.rest = blanks ++ x :: r) (hblanks : ∀ y ∈ blanks, isBlank y = true)
    (hx : isBreak x = true) :
    takeAfterWord false margin n text {} c =
      (takeGap margin r.length { isBroken := true, first := (c.skip blanks.length).takeBreak.1 }
        (c.skip blanks.length).takeBreak.2).bind fun taken =>
          if taken.2.column < margin then some (text, taken.1.isBroken, taken.2)
          else takePlain false margin n text taken.1 taken.2 := by
  have hend : (c.rest.isEmpty || !atSpace c.rest) = false := by
    cases blanks with
    | nil => simp [hrest, atSpace, hx]
    | cons y blanks => simp [hrest, atSpace, hblanks y List.mem_cons_self]
  have hnot := not_isBlank_of_isBreak hx
  have hgap : takeGap margin c.rest.length {} c =
      takeGap margin r.length { isBroken := true, first := (c.skip blanks.length).takeBreak.1 }
        (c.skip blanks.length).takeBreak.2 := by
    rw [hrest, List.length_append, takeGap_of_blanks hrest hblanks rfl, List.length_cons,
      takeGap_succ (by rw [rest_skip_of_append hrest]; rfl), hnot, hx]
    rfl
  rw [takeAfterWord, hend, if_neg Bool.false_ne_true, hgap]
  simp only [Bool.not_false, Bool.true_and, decide_eq_true_eq]

/-- **What stands after a plain text on its line is taken alike** in all columns right of the
margin: either both scalars end on that line, or both go on to the same place in a later line. -/
theorem takeAfterWord_of_endsLine (hk : k.IsJoined) (h : k.Beside c c') {n' : Nat}
    {text : List Char} (text' : List Char) {isBroken : Bool} {c₁ : Cursor}
    (hends : endsLine c.rest = true)
    (hmargin : margin ≤ c.column) (hmargin' : margin ≤ c'.column) (hn : c.rest.length < n)
    (hn' : c'.rest.length < n')
    (htaken : takeAfterWord false margin n text {} c = some (text, isBroken, c₁)) :
    ∃ c₁', takeAfterWord false margin n' text' {} c' = some (text', isBroken, c₁') ∧
      (k.InStep c₁ c₁' ∧ c.line < c₁.line ∨
        isBroken = false ∧ k.Beside c₁ c₁' ∧ c₁.line = c.line ∧
          (c₁.rest = [] ∨ c₁.rest.head? = some '#')) := by
  have hsplit := List.takeWhile_append_dropWhile (p := isBlank) (l := c.rest)
  have hblanks : ∀ x ∈ c.rest.takeWhile isBlank, isBlank x = true := fun x => List.mem_takeWhile_imp
  rw [endsLine, Bool.and_eq_true, Bool.or_eq_true, beq_iff_eq] at hends
  obtain ⟨hspace, hafter⟩ := hends
  generalize c.rest.takeWhile isBlank = blanks at hsplit hblanks
  generalize c.rest.dropWhile isBlank = r at hsplit hafter
  by_cases hr : r = [] ∨ r.head? = some '#'
  · obtain ⟨n, rfl⟩ : ∃ m, n = m + 1 := ⟨n - 1, by omega⟩
    obtain ⟨n', rfl⟩ : ∃ m, n' = m + 1 := ⟨n' - 1, by omega⟩
    rw [takeAfterWord_of_end hsplit.symm hblanks hr hspace hmargin] at htaken
    cases htaken
    refine ⟨_, takeAfterWord_of_end (h.rest ▸ hsplit.symm) hblanks hr (h.rest ▸ hspace) hmargin',
      .inr ⟨rfl, h.skip _, rfl, ?_⟩⟩
    rwa [rest_skip_of_append hsplit.symm]
  · obtain ⟨x, u, rfl⟩ := List.exists_cons_of_ne_nil (not_or.mp hr).1
    have hx : isBreak x = true := hafter.resolve_right (not_or.mp hr).2
    have hnext := rest_skip_of_append hsplit.symm
    have hbreak : (c.skip blanks.length).rest.head?.map isBreak = some true := by simp [hnext, hx]
    obtain ⟨hfirst, hstep⟩ := (h.skip blanks.length).takeBreak hk hbreak
    have hshort := Cursor.length_takeBreak_lt hbreak
    rw [hnext, List.length_cons] at hshort
    rw [takeAfterWord_of_break hsplit.symm hblanks hx] at htaken
    rw [takeAfterWord_of_break (h.rest ▸ hsplit.symm) hblanks hx, ← hfirst]
    obtain ⟨⟨gap, c₂⟩, hgap, htaken⟩ := Option.bind_eq_some_iff.mp htaken
    have hshort' := hstep.rest.length
    simp only [hk.1, hk.2] at hshort'
    obtain ⟨c₂', hgap', hstep₂⟩ := hstep.takeGap hk.isFenced (by omega)
      (by omega : _ ≤ u.length) gap c₂ hgap (hk.within _)
    rw [hgap', Option.bind_some, ← hstep₂.column]
    have hline : c.line < c₂.line :=
      (line_takeBreak_lt (c := c.skip blanks.length) hbreak).trans_le (line_takeGap_le hgap)
    split_ifs at htaken ⊢ with hleft
    · cases htaken
      exact ⟨c₂', rfl, .inl ⟨hstep₂, hline⟩⟩
    · rw [← List.append_nil text, takePlain_append] at htaken
      obtain ⟨⟨more, isBroken, c₃⟩, hplain, heq⟩ := Option.map_eq_some_iff.mp htaken
      obtain ⟨hmore, rfl, rfl⟩ : more = [] ∧ _ ∧ _ := by simpa using heq
      have hlen := congrArg List.length hsplit
      rw [List.length_append, List.length_cons] at hlen
      have hlen₂ := length_takeGap_le hgap
      have hlen₂' := hstep₂.rest.length
      rw [hk.1, hk.2] at hlen₂'
      have hshort₂' : c₂'.rest.length < n' := by
        rw [← h.rest] at hn'
        simp only [List.length_nil] at hlen₂'
        omega
      obtain ⟨c₃', hplain', hstep₃⟩ :=
        hstep₂.takePlain hk.isFenced (by omega) hshort₂' hplain (hk.within _)
      refine ⟨c₃', ?_, .inl ⟨hstep₃, hline.trans_le (line_takePlain_le hplain)⟩⟩
      rw [← List.append_nil text', takePlain_append, hplain', hmore]
      rfl

end FeedSync.Yaml
