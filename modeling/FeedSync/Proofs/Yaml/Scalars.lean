import FeedSync.Proofs.Yaml.Fork

/-!
# Scalars in a part in common

A scan that takes a scalar without going past the place where two texts part takes the same scalar
in both, and comes to the same place in both. The fuel of the scans may differ, as the texts do in
length: each scalar takes less than there is of its text.

## Main statements

* `Fork.InStep.takePlain`: plain scalars.
* `Fork.InStep.takeQuoted`: scalars in quotes.
* `Fork.InStep.takeBlock`: literal and folded scalars.
-/

namespace FeedSync.Yaml

variable {k : Fork} {c c' : Cursor} {n n' : Nat}

/-! ### Gaps -/

theorem takeGap_nil {margin : Nat} {gap : Gap} (h : c.rest = []) :
    takeGap margin n gap c = some (gap, c) := by
  cases n with
  | zero => rfl
  | succ n => simp [takeGap, h]

theorem takeGap_succ {margin : Nat} {gap : Gap} {x : Char} (h : c.rest.head? = some x) :
    takeGap margin (n + 1) gap c =
      if isBlank x then
        if !gap.isBroken then takeGap margin n { gap with blanks := gap.blanks ++ [x] } c.skip
        else if x == '\t' && c.column < margin then none
        else takeGap margin n gap c.skip
      else if isBreak x then
        if gap.isBroken then
          takeGap margin n { gap with more := gap.more ++ c.takeBreak.1 } c.takeBreak.2
        else takeGap margin n { isBroken := true, first := c.takeBreak.1 } c.takeBreak.2
      else some (gap, c) := by
  obtain ⟨u, hu⟩ : ∃ u, c.rest = x :: u := List.head?_eq_some_iff.mp h
  rw [takeGap, hu]

theorem length_takeGap_le {margin : Nat} {gap gap₁ : Gap} {c₁ : Cursor}
    (h : takeGap margin n gap c = some (gap₁, c₁)) : c₁.rest.length ≤ c.rest.length := by
  induction n generalizing gap c with
  | zero =>
    obtain ⟨-, rfl⟩ : gap = gap₁ ∧ c = c₁ := by simpa [takeGap] using h
    exact le_rfl
  | succ n ih =>
    cases hx : c.rest.head? with
    | none =>
      rw [takeGap_nil (List.head?_eq_none_iff.mp hx)] at h
      obtain ⟨-, rfl⟩ : gap = gap₁ ∧ c = c₁ := by simpa using h
      exact le_rfl
    | some x =>
      rw [takeGap_succ hx] at h
      split_ifs at h with hblank hbroken htab hbreak hbroken
      · exact (ih h).trans (c.length_skip_le 1)
      · exact (ih h).trans (c.length_skip_le 1)
      · exact (ih h).trans c.length_takeBreak_le
      · exact (ih h).trans c.length_takeBreak_le
      · obtain ⟨-, rfl⟩ : gap = gap₁ ∧ c = c₁ := by simpa using h
        exact le_rfl

theorem length_skip_lt {x : Char} (h : c.rest.head? = some x) :
    c.skip.rest.length < c.rest.length := by
  obtain ⟨u, hu⟩ : ∃ u, c.rest = x :: u := List.head?_eq_some_iff.mp h
  simp [Cursor.skip, hu]

theorem Fork.InStep.takeGap (hk : k.IsFenced) {margin : Nat} {gap : Gap} (h : k.InStep c c')
    (hn : c.rest.length ≤ n) (hn' : c'.rest.length ≤ n') :
    k.Follows (takeGap margin n gap c) (takeGap margin n' gap c') := by
  intro gap₁ c₁ htaken hwithin
  have hhead := h.rest.head? hk
  induction n generalizing n' gap c c' with
  | zero =>
    have hc : c.rest = [] := List.eq_nil_of_length_eq_zero (Nat.le_zero.mp hn)
    have hc' : c'.rest = [] := List.head?_eq_none_iff.mp (by rw [← hhead, hc]; rfl)
    rw [takeGap_nil hc] at htaken
    obtain ⟨rfl, rfl⟩ : gap = gap₁ ∧ c = c₁ := by simpa using htaken
    exact ⟨c', takeGap_nil hc', h⟩
  | succ n ih =>
    cases hx : c.rest.head? with
    | none =>
      have hc' : c'.rest = [] := List.head?_eq_none_iff.mp (hhead ▸ hx)
      rw [takeGap_nil (List.head?_eq_none_iff.mp hx)] at htaken
      obtain ⟨rfl, rfl⟩ : gap = gap₁ ∧ c = c₁ := by simpa using htaken
      exact ⟨c', takeGap_nil hc', h⟩
    | some x =>
      have hx' : c'.rest.head? = some x := hhead ▸ hx
      have hskip := length_skip_lt hx
      have hskip' := length_skip_lt hx'
      obtain ⟨n', rfl⟩ : ∃ m, n' = m + 1 := ⟨n' - 1, by omega⟩
      rw [takeGap_succ hx] at htaken
      rw [takeGap_succ hx', ← h.column]
      split_ifs at htaken ⊢ with hblank hbroken htab hbreak hbroken
      · have hstep := h.skip hk.isParted.tail_eq_nil (hwithin.trans (length_takeGap_le htaken))
        exact ih hstep (by omega) (by omega) htaken (hstep.rest.head? hk)
      · have hstep := h.skip hk.isParted.tail_eq_nil (hwithin.trans (length_takeGap_le htaken))
        exact ih hstep (by omega) (by omega) htaken (hstep.rest.head? hk)
      · have hstep := h.takeBreak hk.isParted (hwithin.trans (length_takeGap_le htaken))
        have hlt := Cursor.length_takeBreak_lt (c := c) (by simp [hx, hbreak])
        have hlt' := Cursor.length_takeBreak_lt (c := c') (by simp [hx', hbreak])
        rw [← hstep.1]
        exact ih hstep.2 (by omega) (by omega) htaken (hstep.2.rest.head? hk)
      · have hstep := h.takeBreak hk.isParted (hwithin.trans (length_takeGap_le htaken))
        have hlt := Cursor.length_takeBreak_lt (c := c) (by simp [hx, hbreak])
        have hlt' := Cursor.length_takeBreak_lt (c := c') (by simp [hx', hbreak])
        rw [← hstep.1]
        exact ih hstep.2 (by omega) (by omega) htaken (hstep.2.rest.head? hk)
      · obtain ⟨rfl, rfl⟩ : gap = gap₁ ∧ c = c₁ := by simpa using htaken
        exact ⟨c', rfl, h⟩

/-! ### Plain scalars -/

theorem takePlainWord_cons (inFlow : Bool) (x : Char) (r : List Char) :
    takePlainWord inFlow (x :: r) =
      if isBlank x || isBreak x then some []
      else if inFlow && x == ':' && (r.head?.any fun d => isFlowMark d || d == '?') then none
      else if x == ':' && atSpace r then some []
      else if inFlow && isFlowMark x then some []
      else (takePlainWord inFlow r).map (x :: ·) := by
  rw [takePlainWord]

theorem Fork.Both.takePlainWord (hk : k.IsFenced) {inFlow : Bool} {r r' word : List Char}
    (h : k.Both r r') (hword : takePlainWord inFlow r = some word)
    (hn : k.tail.length ≤ (r.drop word.length).length) :
    takePlainWord inFlow r' = some word := by
  obtain ⟨shared, rfl, rfl⟩ := h
  induction shared generalizing word with
  | nil =>
    simp only [List.nil_append] at hword hn ⊢
    cases ht : k.tail with
    | nil => rw [hk.isParted.tail_eq_nil ht, ← hword, ht]
    | cons x u =>
      obtain ⟨u', ht'⟩ : ∃ u', k.tail' = x :: u' :=
        List.head?_eq_some_iff.mp (by rw [← hk.head, ht]; rfl)
      have hempty : word = [] := by
        apply List.eq_nil_of_length_eq_zero
        rw [ht, List.length_drop, List.length_cons] at hn
        omega
      subst hempty
      have hfence := hk.isFence x (by rw [ht]; rfl)
      rw [ht, takePlainWord_cons] at hword
      rw [ht', takePlainWord_cons]
      split_ifs at hword ⊢ with hspace
      · rfl
      all_goals simp_all [isFence]
  | cons x shared ih =>
    have hrest : k.Both (shared ++ k.tail) (shared ++ k.tail') := ⟨shared, rfl, rfl⟩
    rw [List.cons_append, takePlainWord_cons] at hword ⊢
    rw [← hrest.head? hk, ← hrest.atSpace hk]
    split_ifs at hword ⊢ with hspace hmark hend hflow
    · exact hword
    · exact hword
    · exact hword
    · obtain ⟨more, hmore, rfl⟩ := Option.map_eq_some_iff.mp hword
      rw [ih hmore (by simpa using hn)]
      rfl

theorem atDocumentMark_eq (r : List Char) :
    atDocumentMark r =
      ((r.take 3 == ['-', '-', '-'] || r.take 3 == ['.', '.', '.']) && atSpace (r.drop 3)) := by
  unfold atDocumentMark
  split
  · rfl
  · rfl
  · rename_i hdashes hdots
    have hmarks : (r.take 3 == ['-', '-', '-'] || r.take 3 == ['.', '.', '.']) = false := by
      rw [Bool.or_eq_false_iff]
      refine ⟨beq_false_of_ne fun h => ?_, beq_false_of_ne fun h => ?_⟩
      · exact hdashes (r.drop 3) (by rw [← List.take_append_drop 3 r, h]; rfl)
      · exact hdots (r.drop 3) (by rw [← List.take_append_drop 3 r, h]; rfl)
    rw [hmarks]
    rfl

theorem Fork.Both.atDocumentMark (hk : k.IsFenced) {r r' : List Char} (h : k.Both r r') :
    atDocumentMark r = atDocumentMark r' := by
  obtain ⟨shared, rfl, rfl⟩ := h
  rw [atDocumentMark_eq, atDocumentMark_eq]
  by_cases hlong : 3 ≤ shared.length
  · rw [List.take_append_of_le_length hlong, List.take_append_of_le_length hlong,
      List.drop_append_of_le_length hlong, List.drop_append_of_le_length hlong,
      Both.atSpace ⟨shared.drop 3, rfl, rfl⟩ hk]
  · cases ht : k.tail with
    | nil => rw [hk.isParted.tail_eq_nil ht]
    | cons x u =>
      obtain ⟨u', ht'⟩ : ∃ u', k.tail' = x :: u' :=
        List.head?_eq_some_iff.mp (by rw [← hk.head, ht]; rfl)
      have hfence := hk.isFence x (by rw [ht]; rfl)
      -- The fence is among the three characters, and no mark has one.
      have hno (v : List Char) : ((shared ++ x :: v).take 3 == ['-', '-', '-'] ||
          (shared ++ x :: v).take 3 == ['.', '.', '.']) = false := by
        have hmem : x ∈ (shared ++ x :: v).take 3 := by
          rw [List.take_append, List.mem_append, List.take_cons (by omega)]
          exact .inr List.mem_cons_self
        rw [Bool.or_eq_false_iff]
        refine ⟨beq_false_of_ne fun h => ?_, beq_false_of_ne fun h => ?_⟩
        · obtain rfl : x = '-' := by simpa [h] using hmem
          exact absurd hfence (by decide)
        · obtain rfl : x = '.' := by simpa [h] using hmem
          exact absurd hfence (by decide)
      rw [ht', hno, hno]
      rfl

/-- What a word adds to a scalar. Where there is none the gap stays. -/
def joinWord (text : List Char) (gap : Gap) (word : List Char) : List Char × Gap :=
  if word.isEmpty then (text, gap) else (text ++ gap.fold ++ word, {})

/-- What is taken of a plain scalar after a word. -/
def takeAfterWord (inFlow : Bool) (margin fuel : Nat) (text : List Char) (gap : Gap) (c : Cursor) :
    Option (List Char × Bool × Cursor) :=
  if c.rest.isEmpty || !atSpace c.rest then some (text, gap.isBroken, c)
  else (takeGap margin c.rest.length {} c).bind fun taken =>
    if !inFlow && taken.2.column < margin then some (text, taken.1.isBroken, taken.2)
    else takePlain inFlow margin fuel text taken.1 taken.2

theorem takePlain_succ (inFlow : Bool) (margin : Nat) (text : List Char) (gap : Gap) :
    takePlain inFlow margin (n + 1) text gap c =
      if (c.column == 0 && atDocumentMark c.rest) || c.rest.head? == some '#' then
        some (text, gap.isBroken, c)
      else (takePlainWord inFlow c.rest).bind fun word =>
        takeAfterWord inFlow margin n (joinWord text gap word).1 (joinWord text gap word).2
          (c.skip word.length) := by
  rw [takePlain]
  split
  · rfl
  · refine Option.bind_congr fun word _ => ?_
    rw [joinWord]
    cases word.isEmpty <;> rfl

theorem joinWord_append (before text : List Char) (gap : Gap) (word : List Char) :
    joinWord (before ++ text) gap word =
      (before ++ (joinWord text gap word).1, (joinWord text gap word).2) := by
  unfold joinWord
  split <;> simp

/-- The text before does not matter for what is taken of a plain scalar. -/
theorem takePlain_append (inFlow : Bool) (margin : Nat) (before text : List Char) (gap : Gap) :
    takePlain inFlow margin n (before ++ text) gap c =
      (takePlain inFlow margin n text gap c).map fun taken => (before ++ taken.1, taken.2) := by
  induction n generalizing text gap c with
  | zero => rfl
  | succ n ih =>
    rw [takePlain_succ, takePlain_succ]
    split_ifs
    · rfl
    · rw [Option.map_bind]
      refine Option.bind_congr fun word _ => ?_
      dsimp only [Function.comp]
      rw [joinWord_append, takeAfterWord, takeAfterWord]
      split_ifs
      · rfl
      · rw [Option.map_bind]
        refine Option.bind_congr fun taken _ => ?_
        dsimp only [Function.comp]
        rw [ih]
        split_ifs <;> rfl

theorem length_takeAfterWord_le_of {inFlow : Bool} {margin : Nat} {text : List Char} {gap : Gap}
    {taken : List Char × Bool × Cursor}
    (hplain : ∀ (text : List Char) (gap : Gap) (c : Cursor),
      takePlain inFlow margin n text gap c = some taken → taken.2.2.rest.length ≤ c.rest.length)
    (h : takeAfterWord inFlow margin n text gap c = some taken) :
    taken.2.2.rest.length ≤ c.rest.length := by
  unfold takeAfterWord at h
  split_ifs at h with hend
  · obtain rfl := Option.some.inj h
    exact le_rfl
  · obtain ⟨⟨gap₁, c₁⟩, hgap, h⟩ := Option.bind_eq_some_iff.mp h
    refine le_trans ?_ (length_takeGap_le hgap)
    split_ifs at h with hmargin
    · obtain rfl := Option.some.inj h
      exact le_rfl
    · exact hplain _ _ _ h

theorem length_takePlain_le {inFlow : Bool} {margin : Nat} {text : List Char} {gap : Gap}
    {taken : List Char × Bool × Cursor} (h : takePlain inFlow margin n text gap c = some taken) :
    taken.2.2.rest.length ≤ c.rest.length := by
  induction n generalizing text gap c with
  | zero => simp [takePlain] at h
  | succ n ih =>
    rw [takePlain_succ] at h
    split_ifs at h with hstop
    · obtain rfl := Option.some.inj h
      exact le_rfl
    · obtain ⟨word, -, h⟩ := Option.bind_eq_some_iff.mp h
      exact (length_takeAfterWord_le_of (fun _ _ _ => ih) h).trans (c.length_skip_le word.length)

theorem length_takeAfterWord_le {inFlow : Bool} {margin : Nat} {text : List Char} {gap : Gap}
    {taken : List Char × Bool × Cursor}
    (h : takeAfterWord inFlow margin n text gap c = some taken) :
    taken.2.2.rest.length ≤ c.rest.length :=
  length_takeAfterWord_le_of (fun _ _ _ => length_takePlain_le) h

/-- A gap is not empty where there is something to take. -/
theorem length_takeGap_lt {margin : Nat} {gap gap₁ : Gap} {c₁ : Cursor}
    (hrest : c.rest ≠ []) (hspace : atSpace c.rest = true)
    (h : takeGap margin c.rest.length gap c = some (gap₁, c₁)) :
    c₁.rest.length < c.rest.length := by
  obtain ⟨x, u, hu⟩ := List.exists_cons_of_ne_nil hrest
  rw [congrArg List.length hu, List.length_cons] at h
  have hx : c.rest.head? = some x := by rw [hu]; rfl
  have hskip := length_skip_lt hx
  rw [takeGap_succ hx] at h
  split_ifs at h with hblank hbroken htab hbreak hbroken
  · exact (length_takeGap_le h).trans_lt hskip
  · exact (length_takeGap_le h).trans_lt hskip
  · exact (length_takeGap_le h).trans_lt (Cursor.length_takeBreak_lt (by simp [hx, hbreak]))
  · exact (length_takeGap_le h).trans_lt (Cursor.length_takeBreak_lt (by simp [hx, hbreak]))
  · simp [Fork.atSpace_eq, hx, hblank, hbreak] at hspace

theorem Fork.InStep.takePlain (hk : k.IsFenced) {inFlow : Bool} {margin : Nat} {text : List Char}
    {gap : Gap} (h : k.InStep c c') (hn : c.rest.length < n) (hn' : c'.rest.length < n')
    {taken : List Char × Bool × Cursor} (htaken : takePlain inFlow margin n text gap c = some taken)
    (hwithin : k.Within taken.2.2) :
    ∃ c₁', takePlain inFlow margin n' text gap c' = some (taken.1, taken.2.1, c₁') ∧
      k.InStep taken.2.2 c₁' := by
  induction n generalizing n' text gap c c' with
  | zero => omega
  | succ n ih =>
    obtain ⟨n', rfl⟩ : ∃ m, n' = m + 1 := ⟨n' - 1, by omega⟩
    rw [takePlain_succ] at htaken
    rw [takePlain_succ, ← h.column, ← h.rest.atDocumentMark hk, ← h.rest.head? hk]
    split_ifs at htaken ⊢ with hstop
    · obtain rfl := Option.some.inj htaken
      exact ⟨c', rfl, h⟩
    · obtain ⟨word, hword, htaken⟩ := Option.bind_eq_some_iff.mp htaken
      have hskip : k.Within (c.skip word.length) := hwithin.trans (length_takeAfterWord_le htaken)
      have hstep := h.skip hk.isParted.tail_eq_nil hskip
      rw [h.rest.takePlainWord hk hword hskip, Option.bind_some]
      unfold takeAfterWord at htaken ⊢
      rw [← hstep.rest.isEmpty hk.isParted, ← hstep.rest.atSpace hk]
      split_ifs at htaken ⊢ with hend
      · obtain rfl := Option.some.inj htaken
        exact ⟨_, rfl, hstep⟩
      · have hskip' := (c'.length_skip_le word.length)
        have hskip := (c.length_skip_le word.length)
        simp only [Bool.or_eq_true, Bool.not_eq_true', not_or, Bool.not_eq_false] at hend
        have hrest : (c.skip word.length).rest ≠ [] := by simpa using hend.1
        obtain ⟨⟨gap₁, c₁⟩, hgap, htaken⟩ := Option.bind_eq_some_iff.mp htaken
        have hwithin₁ : k.Within c₁ := by
          split_ifs at htaken with hmargin
          · obtain rfl := Option.some.inj htaken
            exact hwithin
          · exact hwithin.trans (length_takePlain_le htaken)
        obtain ⟨c₁', hgap', hstep₁⟩ := hstep.takeGap hk le_rfl le_rfl _ _ hgap hwithin₁
        rw [hgap', Option.bind_some, ← hstep₁.column]
        dsimp only at htaken ⊢
        split_ifs at htaken ⊢ with hmargin
        · obtain rfl := Option.some.inj htaken
          exact ⟨c₁', rfl, hstep₁⟩
        · have hlt := length_takeGap_lt hrest hend.2 hgap
          have hlt' := length_takeGap_lt (hstep.rest.ne_nil hk.isParted hrest)
            ((hstep.rest.atSpace hk).symm.trans hend.2) hgap'
          exact ih hstep₁ (by omega) (by omega) htaken

/-! ### Quoted scalars -/

/-- What becomes of a quoted scalar at a character and what follows: its word ends, perhaps at an
escaped break, or it goes on with a character that some characters stand for. -/
def quotedStep (quote x : Char) (rest : List Char) : Option (Bool ⊕ Char × Nat) :=
  if isBlank x || isBreak x then some (.inl false)
  else if quote == '\'' && x == '\'' && rest.head? == some '\'' then some (.inr (x, 2))
  else if x == quote then some (.inl false)
  else if quote == '"' && x == '\\' then
    if !rest.isEmpty && atBreak rest then some (.inl true)
    else rest.head?.bind fun kind =>
      match escapeDigits? kind with
      | some digits =>
        let hex := (rest.drop 1).take digits
        if hex.length < digits then none
        else (Text.numberIn? 16 hex).bind fun m => (charOf? m).map fun c => .inr (c, digits + 2)
      | none => (escaped? kind).map fun c => .inr (c, 2)
  else some (.inr (x, 1))

theorem takeQuotedWord_cons (quote x : Char) (rest : List Char) :
    takeQuotedWord quote (n + 1) (x :: rest) =
      (quotedStep quote x rest).bind fun step =>
        match step with
        | .inl isBroken => some ([], 0, isBroken)
        | .inr (c, taken) => (takeQuotedWord quote n ((x :: rest).drop taken)).bind fun word =>
            some (c :: word.1, word.2.1 + taken, word.2.2) := by
  rw [takeQuotedWord, quotedStep]
  dsimp only
  split_ifs
  · rfl
  · rfl
  · rfl
  · rfl
  · cases rest.head? with
    | none => rfl
    | some kind =>
      simp only [Option.bind_some, Option.bind_eq_bind]
      cases escapeDigits? kind with
      | none =>
        dsimp only
        cases escaped? kind <;> rfl
      | some digits =>
        dsimp only
        split_ifs
        · rfl
        · cases Text.numberIn? 16 ((rest.drop 1).take digits) with
          | none => rfl
          | some m => 
            dsimp only [Option.bind_some]
            cases charOf? m <;> rfl
  · rfl

theorem quotedStep_of_both (hk : k.IsFenced) {quote x : Char} {r r' : List Char}
    (h : k.Both r r') {step : Bool ⊕ Char × Nat} (hstep : quotedStep quote x r = some step)
    (hn : ∀ c taken, step = .inr (c, taken) → k.tail.length ≤ ((x :: r).drop taken).length) :
    quotedStep quote x r' = some step := by
  unfold quotedStep at hstep ⊢
  rw [← h.head? hk, ← h.isEmpty hk.isParted, ← h.atBreak hk.isParted]
  split_ifs at hstep ⊢ with h₁ h₂ h₃ h₄ h₅
  · exact hstep
  · exact hstep
  · exact hstep
  · exact hstep
  · obtain ⟨kind, hkind, hstep⟩ := Option.bind_eq_some_iff.mp hstep
    rw [hkind, Option.bind_some]
    cases hdigits : escapeDigits? kind with
    | none => simpa only [hdigits] using hstep
    | some digits =>
      simp only [hdigits] at hstep ⊢
      split_ifs at hstep with hshort
      obtain ⟨m, hm, c, hc, rfl⟩ : ∃ m, _ ∧ ∃ c, _ ∧ _ := by
        simpa only [Option.bind_eq_some_iff, Option.map_eq_some_iff] using hstep
      have hhex : (r.drop 1).take digits = (r'.drop 1).take digits := by
        have hlong := hn c (digits + 2) rfl
        have htake := h.take (n := 1 + digits) (by simpa [Nat.add_comm] using hlong)
          hk.isParted.tail_eq_nil
        rw [List.take_drop, List.take_drop, htake]
      rw [← hhex, if_neg hshort, hm, Option.bind_some, hc]
      rfl
  · exact hstep

theorem quotedStep_of_fence {quote x : Char} (hx : isFence x = true) (r r' : List Char) :
    quotedStep quote x r = quotedStep quote x r' := by
  have hquote : (x == '\'') = false := beq_false_of_ne (by rintro rfl; exact absurd hx (by decide))
  have hslash : (x == '\\') = false := beq_false_of_ne (by rintro rfl; exact absurd hx (by decide))
  simp [quotedStep, hquote, hslash]

/-- What a quoted scalar can do at a character. -/
theorem quotedStep_cases {quote x : Char} {r : List Char} {step : Bool ⊕ Char × Nat}
    (h : quotedStep quote x r = some step) :
    (step = .inl false ∧ (isBlank x || isBreak x || x == quote) = true) ∨ step = .inl true ∨
      ∃ c taken, step = .inr (c, taken) ∧ 0 < taken := by
  unfold quotedStep at h
  split_ifs at h with hspace hdouble hquote hescape hbreak
  · exact .inl ⟨(Option.some.inj h).symm, by rw [hspace]; rfl⟩
  · exact .inr (.inr ⟨x, 2, (Option.some.inj h).symm, Nat.two_pos⟩)
  · exact .inl ⟨(Option.some.inj h).symm, by rw [hquote, Bool.or_true]⟩
  · exact .inr (.inl (Option.some.inj h).symm)
  · obtain ⟨kind, -, h⟩ := Option.bind_eq_some_iff.mp h
    split at h
    · dsimp only at h
      split_ifs at h
      obtain ⟨_, -, h⟩ := Option.bind_eq_some_iff.mp h
      obtain ⟨c, -, rfl⟩ := Option.map_eq_some_iff.mp h
      exact .inr (.inr ⟨c, _, rfl, Nat.succ_pos _⟩)
    · obtain ⟨c, -, rfl⟩ := Option.map_eq_some_iff.mp h
      exact .inr (.inr ⟨c, 2, rfl, Nat.two_pos⟩)
  · exact .inr (.inr ⟨x, 1, (Option.some.inj h).symm, Nat.one_pos⟩)

theorem pos_of_quotedStep {quote x c : Char} {r : List Char} {taken : Nat}
    (h : quotedStep quote x r = some (.inr (c, taken))) : 0 < taken := by
  obtain ⟨heq, -⟩ | heq | ⟨c', taken', heq, hpos⟩ := quotedStep_cases h
  · nomatch heq
  · nomatch heq
  · cases heq
    exact hpos

theorem Fork.Both.takeQuotedWord (hk : k.IsFenced) {quote : Char} {r r' word : List Char}
    {m : Nat} {isBroken : Bool} (h : k.Both r r') (hn : r.length < n) (hn' : r'.length < n')
    (hword : takeQuotedWord quote n r = some (word, m, isBroken))
    (hwithin : k.tail.length ≤ (r.drop m).length) :
    takeQuotedWord quote n' r' = some (word, m, isBroken) := by
  induction n generalizing n' r r' word m isBroken with
  | zero => omega
  | succ n ih =>
    obtain ⟨n', rfl⟩ : ∃ m, n' = m + 1 := ⟨n' - 1, by omega⟩
    cases r with
    | nil =>
      have hempty : r' = [] := List.isEmpty_iff.mp (h.isEmpty hk.isParted).symm
      rw [hempty]
      exact hword
    | cons x r =>
      obtain ⟨u', rfl⟩ : ∃ u', r' = x :: u' :=
        List.head?_eq_some_iff.mp (by rw [← h.head? hk]; rfl)
      rw [takeQuotedWord_cons] at hword ⊢
      obtain ⟨step, hstep, hword⟩ := Option.bind_eq_some_iff.mp hword
      have hlong (c : Char) (taken : Nat) (heq : step = .inr (c, taken)) :
          k.tail.length ≤ ((x :: r).drop taken).length := by
        subst heq
        obtain ⟨⟨more, m₁, isBroken₁⟩, -, heq⟩ := Option.bind_eq_some_iff.mp hword
        cases heq
        exact hwithin.trans (by simp only [List.length_drop]; omega)
      have hstep' : quotedStep quote x u' = some step := by
        obtain ⟨shared, hr, hr'⟩ := h
        cases shared with
        | nil =>
          rw [← quotedStep_of_fence
            (hk.isFence x (by rw [← List.nil_append k.tail, ← hr]; rfl)) r u']
          exact hstep
        | cons y shared =>
          obtain ⟨rfl, rfl⟩ : x = y ∧ r = shared ++ k.tail := by simpa using hr
          obtain rfl : u' = shared ++ k.tail' := by simpa using hr'
          exact quotedStep_of_both hk ⟨shared, rfl, rfl⟩ hstep hlong
      rw [hstep', Option.bind_some]
      cases step with
      | inl isEscaped => exact hword
      | inr step =>
        obtain ⟨c, taken⟩ := step
        obtain ⟨⟨more, m₁, isBroken₁⟩, hmore, heq⟩ := Option.bind_eq_some_iff.mp hword
        obtain ⟨rfl, rfl, rfl⟩ : c :: more = word ∧ m₁ + taken = m ∧ isBroken₁ = isBroken := by
          simpa using heq
        have hpos := pos_of_quotedStep hstep
        dsimp only
        simp only [List.length_cons] at hn hn'
        have hdrop : k.tail.length ≤ (((x :: r).drop taken).drop m₁).length := by
          rwa [List.drop_drop, Nat.add_comm]
        have hboth := h.drop (n := taken) (by rw [List.length_drop] at hdrop; omega)
          hk.isParted.tail_eq_nil
        rw [ih hboth (by rw [List.length_drop, List.length_cons]; omega)
          (by rw [List.length_drop, List.length_cons]; omega) hmore hdrop]
        rfl

/-- Where a word of a quoted scalar ends, after the escaped break that may follow. -/
def afterQuotedWord (c : Cursor) (taken : Nat) (isBroken : Bool) : Cursor :=
  if isBroken then (c.skip taken).skip.skipBreak else c.skip taken

theorem takeQuoted_succ (quote : Char) (text : List Char) :
    takeQuoted quote (n + 1) text c =
      if c.rest.isEmpty || (c.column == 0 && atDocumentMark c.rest) then none
      else (takeQuotedWord quote (c.rest.length + 1) c.rest).bind fun word =>
        let next := afterQuotedWord c word.2.1 word.2.2
        if next.rest.head? == some quote then some (text ++ word.1, next.skip)
        else (takeGap 0 next.rest.length { isBroken := word.2.2 } next).bind fun taken =>
          takeQuoted quote n (text ++ word.1 ++ taken.1.fold) taken.2 := by
  rw [takeQuoted]
  rfl

theorem length_afterQuotedWord_le (c : Cursor) (taken : Nat) (isBroken : Bool) :
    (afterQuotedWord c taken isBroken).rest.length ≤ (c.skip taken).rest.length := by
  unfold afterQuotedWord
  split
  · exact ((c.skip taken).skip.length_takeBreak_le).trans ((c.skip taken).length_skip_le 1)
  · exact le_rfl

theorem length_takeQuoted_le {quote : Char} {text : List Char} {taken : List Char × Cursor}
    (h : takeQuoted quote n text c = some taken) : taken.2.rest.length ≤ c.rest.length := by
  induction n generalizing text c with
  | zero => simp [takeQuoted] at h
  | succ n ih =>
    rw [takeQuoted_succ] at h
    split_ifs at h
    obtain ⟨⟨word, m, isBroken⟩, -, h⟩ := Option.bind_eq_some_iff.mp h
    refine le_trans ?_ ((length_afterQuotedWord_le c m isBroken).trans (c.length_skip_le m))
    dsimp only at h
    split_ifs at h
    · obtain rfl := Option.some.inj h
      exact Cursor.length_skip_le _ 1
    · obtain ⟨⟨gap, c₁⟩, hgap, h⟩ := Option.bind_eq_some_iff.mp h
      exact (ih h).trans (length_takeGap_le hgap)

/-- A word of a quoted scalar that is empty stands before a blank, a break or the closing quote. -/
theorem head_of_takeQuotedWord_nil {quote x : Char} {r word : List Char}
    (h : takeQuotedWord quote (n + 1) (x :: r) = some (word, 0, false)) :
    (isBlank x || isBreak x || x == quote) = true := by
  rw [takeQuotedWord_cons] at h
  obtain ⟨step, hstep, h⟩ := Option.bind_eq_some_iff.mp h
  obtain ⟨rfl, hx⟩ | rfl | ⟨c, taken, rfl, hpos⟩ := quotedStep_cases hstep
  · exact hx
  · simp at h
  · obtain ⟨⟨more, m, isBroken⟩, -, heq⟩ := Option.bind_eq_some_iff.mp h
    simp only [Option.some.injEq, Prod.mk.injEq] at heq
    omega

/-- Between two words of a quoted scalar something is taken. -/
theorem length_gap_of_quoted_lt {quote : Char} {word : List Char} {m : Nat} {isBroken : Bool}
    {gap : Gap} {c₁ : Cursor} (hrest : c.rest ≠ [])
    (hword : takeQuotedWord quote (c.rest.length + 1) c.rest = some (word, m, isBroken))
    (hquote : ((afterQuotedWord c m isBroken).rest.head? == some quote) = false)
    (hgap : takeGap 0 (afterQuotedWord c m isBroken).rest.length { isBroken := isBroken }
      (afterQuotedWord c m isBroken) = some (gap, c₁)) :
    c₁.rest.length < c.rest.length := by
  have hpos := List.length_pos_iff.mpr hrest
  have hle := length_takeGap_le hgap
  have hafter := length_afterQuotedWord_le c m isBroken
  have hskip : (c.skip m).rest.length = c.rest.length - m := List.length_drop
  by_cases hm : 0 < m
  · omega
  · obtain rfl : m = 0 := by omega
    cases isBroken with
    | true =>
      have hbreak := (c.skip 0).skip.length_takeBreak_le
      have hone : (c.skip 0).skip.rest.length = c.rest.length - 1 := List.length_drop
      rw [afterQuotedWord, if_pos rfl, Cursor.skipBreak] at hle
      omega
    | false =>
      have hsame : afterQuotedWord c 0 false = c := rfl
      rw [hsame] at hgap hquote
      refine length_takeGap_lt hrest ?_ hgap
      obtain ⟨x, r, hr⟩ := List.exists_cons_of_ne_nil hrest
      rw [hr] at hword hquote ⊢
      have hhead := head_of_takeQuotedWord_nil hword
      have hne : (x == quote) = false := hquote
      rwa [hne, Bool.or_false] at hhead

theorem Fork.InStep.afterQuotedWord (hk : k.IsFenced) (h : k.InStep c c') {m : Nat}
    {isBroken : Bool} (hwithin : k.Within (afterQuotedWord c m isBroken)) :
    k.InStep (afterQuotedWord c m isBroken) (afterQuotedWord c' m isBroken) := by
  have hskip : k.Within (c.skip m) := hwithin.trans (length_afterQuotedWord_le c m isBroken)
  have hstep := h.skip hk.isParted.tail_eq_nil hskip
  unfold Yaml.afterQuotedWord at hwithin ⊢
  split_ifs at hwithin ⊢ with hbroken
  · have hskip₁ : k.Within (c.skip m).skip :=
      hwithin.trans (c.skip m).skip.length_takeBreak_le
    exact (hstep.skip hk.isParted.tail_eq_nil hskip₁).skipBreak hk.isParted hwithin
  · exact hstep

theorem Fork.InStep.takeQuoted (hk : k.IsFenced) {quote : Char} {text : List Char}
    (h : k.InStep c c') (hn : c.rest.length < n) (hn' : c'.rest.length < n') :
    k.Follows (takeQuoted quote n text c) (takeQuoted quote n' text c') := by
  intro text₁ c₁ htaken hwithin
  induction n generalizing n' text c c' with
  | zero => omega
  | succ n ih =>
    obtain ⟨n', rfl⟩ : ∃ m, n' = m + 1 := ⟨n' - 1, by omega⟩
    rw [takeQuoted_succ] at htaken
    rw [takeQuoted_succ, ← h.rest.isEmpty hk.isParted, ← h.column, ← h.rest.atDocumentMark hk]
    split_ifs at htaken ⊢ with hstop
    obtain ⟨⟨word, m, isBroken⟩, hword, htaken⟩ := Option.bind_eq_some_iff.mp htaken
    have hrest : c.rest ≠ [] := by
      rintro heq
      simp [heq] at hstop
    have hafter : k.Within (Yaml.afterQuotedWord c m isBroken) := by
      refine hwithin.trans ?_
      dsimp only at htaken
      split_ifs at htaken
      · cases htaken
        exact Cursor.length_skip_le _ 1
      · obtain ⟨⟨gap, c₂⟩, hgap, htaken⟩ := Option.bind_eq_some_iff.mp htaken
        exact (length_takeQuoted_le htaken).trans (length_takeGap_le hgap)
    have hstep := h.afterQuotedWord hk hafter
    have hword' := h.rest.takeQuotedWord hk (Nat.lt_succ_self _) (Nat.lt_succ_self _) hword
      (hafter.trans (length_afterQuotedWord_le c m isBroken))
    rw [hword', Option.bind_some]
    dsimp only at htaken ⊢
    rw [← hstep.rest.head? hk]
    split_ifs at htaken ⊢ with hquote
    · cases htaken
      exact ⟨_, rfl, hstep.skip hk.isParted.tail_eq_nil hwithin⟩
    · obtain ⟨⟨gap, c₂⟩, hgap, htaken⟩ := Option.bind_eq_some_iff.mp htaken
      obtain ⟨c₂', hgap', hstep₂⟩ := hstep.takeGap hk le_rfl le_rfl _ _ hgap
        (hwithin.trans (length_takeQuoted_le htaken))
      rw [hgap', Option.bind_some]
      have hlt := length_gap_of_quoted_lt hrest hword (by simpa using hquote) hgap
      have hlt' := length_gap_of_quoted_lt (h.rest.ne_nil hk.isParted hrest) hword'
        (by rw [← hstep.rest.head? hk]; simpa using hquote) hgap'
      exact ih hstep₂ (by omega) (by dsimp only; omega) htaken

/-! ### Block scalars -/

theorem takeChomping_eq (c : Cursor) :
    takeChomping c =
      if c.rest.head? == some '+' then (some .keep, c.skip)
      else if c.rest.head? == some '-' then (some .strip, c.skip)
      else (none, c) := by
  unfold takeChomping
  split
  · simp_all
  · simp_all
  · rename_i hplus hminus
    cases hr : c.rest with
    | nil => rfl
    | cons x r =>
      have hx : x ≠ '+' := by rintro rfl; exact hplus r hr
      have hx' : x ≠ '-' := by rintro rfl; exact hminus r hr
      simp [hx, hx']

theorem length_takeChomping_le (c : Cursor) :
    (takeChomping c).2.rest.length ≤ c.rest.length := by
  rw [takeChomping_eq]
  split_ifs
  · exact c.length_skip_le 1
  · exact c.length_skip_le 1
  · exact le_rfl

theorem Fork.InStep.takeChomping (hk : k.IsFenced) (h : k.InStep c c')
    (hwithin : k.Within (takeChomping c).2) :
    (takeChomping c).1 = (takeChomping c').1 ∧
      k.InStep (takeChomping c).2 (takeChomping c').2 := by
  rw [takeChomping_eq] at hwithin ⊢
  rw [takeChomping_eq, ← h.rest.head? hk]
  split_ifs at hwithin ⊢
  · exact ⟨rfl, h.skip hk.isParted.tail_eq_nil hwithin⟩
  · exact ⟨rfl, h.skip hk.isParted.tail_eq_nil hwithin⟩
  · exact ⟨rfl, h⟩

theorem takeIncrement_eq (c : Cursor) :
    takeIncrement c =
      match c.rest.head? with
      | some d =>
        if d == '0' then none
        else if d.isDigit then some (some (Text.digitValue d), c.skip)
        else some (none, c)
      | none => some (none, c) := by
  unfold takeIncrement
  cases c.rest <;> rfl

theorem length_takeIncrement_le {increment : Option Nat} {c₁ : Cursor}
    (h : takeIncrement c = some (increment, c₁)) : c₁.rest.length ≤ c.rest.length := by
  rw [takeIncrement_eq] at h
  split at h
  · split_ifs at h
    · cases h
      exact c.length_skip_le 1
    · cases h
      exact le_rfl
  · cases h
    exact le_rfl

theorem Fork.InStep.takeIncrement (hk : k.IsFenced) (h : k.InStep c c') :
    k.Follows (takeIncrement c) (takeIncrement c') := by
  intro increment c₁ htaken hwithin
  rw [takeIncrement_eq] at htaken
  rw [takeIncrement_eq, ← h.rest.head? hk]
  split at htaken
  · split_ifs at htaken ⊢
    · cases htaken
      exact ⟨_, rfl, h.skip hk.isParted.tail_eq_nil hwithin⟩
    · cases htaken
      exact ⟨_, rfl, h⟩
  · cases htaken
    exact ⟨_, rfl, h⟩

theorem takeHeader_eq (c : Cursor) :
    takeHeader c =
      match (takeChomping c).1 with
      | some chomping => (takeIncrement (takeChomping c).2).bind fun taken =>
          some (chomping, taken.1, taken.2)
      | none => (takeIncrement (takeChomping c).2).bind fun taken =>
          match taken.1 with
          | none => some (.clip, none, taken.2)
          | some _ =>
            some ((takeChomping taken.2).1.getD .clip, taken.1, (takeChomping taken.2).2) := by
  unfold takeHeader
  cases hchomping : takeChomping c with
  | mk chomping c₁ =>
    cases chomping with
    | some chomping => rfl
    | none =>
      refine Option.bind_congr fun taken _ => ?_
      obtain ⟨increment, c₂⟩ := taken
      cases increment <;> rfl

theorem length_takeHeader_le {chomping : Chomping} {increment : Option Nat} {c₁ : Cursor}
    (h : takeHeader c = some (chomping, increment, c₁)) : c₁.rest.length ≤ c.rest.length := by
  rw [takeHeader_eq] at h
  have hle := length_takeChomping_le c
  split at h
  · obtain ⟨⟨increment₁, c₂⟩, htaken, h⟩ := Option.bind_eq_some_iff.mp h
    cases h
    exact (length_takeIncrement_le htaken).trans hle
  · obtain ⟨⟨increment₁, c₂⟩, htaken, h⟩ := Option.bind_eq_some_iff.mp h
    split at h
    · cases h
      exact (length_takeIncrement_le htaken).trans hle
    · cases h
      exact (length_takeChomping_le c₂).trans ((length_takeIncrement_le htaken).trans hle)

theorem Fork.InStep.takeHeader (hk : k.IsFenced) (h : k.InStep c c') {chomping : Chomping}
    {increment : Option Nat} {c₁ : Cursor} (htaken : takeHeader c = some (chomping, increment, c₁))
    (hwithin : k.Within c₁) :
    ∃ c₁', takeHeader c' = some (chomping, increment, c₁') ∧ k.InStep c₁ c₁' := by
  rw [takeHeader_eq] at htaken
  rw [takeHeader_eq]
  have hchomping (hwithin : k.Within (Yaml.takeChomping c).2) := h.takeChomping hk hwithin
  split at htaken
  · rename_i hmark
    obtain ⟨⟨increment₁, c₂⟩, hincrement, htaken⟩ := Option.bind_eq_some_iff.mp htaken
    cases htaken
    obtain ⟨heq, hstep⟩ := hchomping (hwithin.trans (length_takeIncrement_le hincrement))
    obtain ⟨c₂', hincrement', hstep₂⟩ := hstep.takeIncrement hk _ _ hincrement hwithin
    rw [← heq, hmark, hincrement']
    exact ⟨c₂', rfl, hstep₂⟩
  · rename_i hmark
    obtain ⟨⟨increment₁, c₂⟩, hincrement, htaken⟩ := Option.bind_eq_some_iff.mp htaken
    have hwithin₂ : k.Within c₂ := by
      split at htaken
      · cases htaken
        exact hwithin
      · cases htaken
        exact hwithin.trans (length_takeChomping_le c₂)
    obtain ⟨heq, hstep⟩ := hchomping (hwithin₂.trans (length_takeIncrement_le hincrement))
    obtain ⟨c₂', hincrement', hstep₂⟩ := hstep.takeIncrement hk _ _ hincrement hwithin₂
    rw [← heq, hmark, hincrement']
    dsimp only [Option.bind_some] at htaken ⊢
    cases increment₁ with
    | none =>
      cases htaken
      exact ⟨c₂', rfl, hstep₂⟩
    | some _ =>
      cases htaken
      obtain ⟨heq₂, hstep₃⟩ := hstep₂.takeChomping hk hwithin
      rw [← heq₂]
      exact ⟨_, rfl, hstep₃⟩

/-- How many blanks of a line belong to its indentation. -/
def marginWidth (indent : Option Nat) (c : Cursor) : Nat :=
  match indent with
  | some indent => min (c.rest.takeWhile (· == ' ')).length (indent - c.column)
  | none => (c.rest.takeWhile (· == ' ')).length

theorem takeMargin_succ (indent : Option Nat) (widest : Nat) (breaks : List Char) :
    takeMargin indent (n + 1) widest breaks c =
      let next := c.skip (marginWidth indent c)
      if next.rest.head? == some '\t' && (indent.all (next.column < ·)) then none
      else if !next.rest.isEmpty && atBreak next.rest then
        takeMargin indent n (max widest next.column) (breaks ++ next.takeBreak.1) next.takeBreak.2
      else some (max widest next.column, breaks, next) := by
  cases indent <;> rfl

theorem length_takeMargin_le {indent : Option Nat} {widest widest₁ : Nat}
    {breaks breaks₁ : List Char} {c₁ : Cursor}
    (h : takeMargin indent n widest breaks c = some (widest₁, breaks₁, c₁)) :
    c₁.rest.length ≤ c.rest.length := by
  induction n generalizing widest breaks c with
  | zero => simp [takeMargin] at h
  | succ n ih =>
    rw [takeMargin_succ] at h
    refine le_trans ?_ (c.length_skip_le (marginWidth indent c))
    dsimp only at h
    split_ifs at h
    · exact (ih h).trans (Cursor.length_takeBreak_le _)
    · cases h
      exact le_rfl

theorem Fork.InStep.marginWidth (hk : k.IsFenced) (h : k.InStep c c') {indent : Option Nat}
    (hwithin : k.Within (c.skip (marginWidth indent c))) :
    marginWidth indent c = marginWidth indent c' := by
  have hp := congrArg (Option.map (· == ' ')) hk.head
  cases indent with
  | none =>
    exact congrArg List.length (h.rest.takeWhile hp hwithin)
  | some indent =>
    unfold Yaml.marginWidth at hwithin ⊢
    rw [← h.column]
    exact h.rest.min_takeWhile hp hwithin

theorem Fork.InStep.takeMargin (hk : k.IsFenced) {indent : Option Nat} {widest : Nat}
    {breaks : List Char} (h : k.InStep c c') (hn : c.rest.length < n) (hn' : c'.rest.length < n')
    {widest₁ : Nat} {breaks₁ : List Char} {c₁ : Cursor}
    (htaken : takeMargin indent n widest breaks c = some (widest₁, breaks₁, c₁))
    (hwithin : k.Within c₁) :
    ∃ c₁', takeMargin indent n' widest breaks c' = some (widest₁, breaks₁, c₁') ∧
      k.InStep c₁ c₁' := by
  induction n generalizing n' widest breaks c c' with
  | zero => omega
  | succ n ih =>
    obtain ⟨n', rfl⟩ : ∃ m, n' = m + 1 := ⟨n' - 1, by omega⟩
    rw [takeMargin_succ] at htaken
    rw [takeMargin_succ]
    dsimp only at htaken ⊢
    have hskip : k.Within (c.skip (Yaml.marginWidth indent c)) := by
      refine hwithin.trans ?_
      split_ifs at htaken
      · exact (length_takeMargin_le htaken).trans (Cursor.length_takeBreak_le _)
      · cases htaken
        exact le_rfl
    have hstep := h.skip hk.isParted.tail_eq_nil hskip
    rw [← h.marginWidth hk hskip, ← hstep.rest.head? hk, ← hstep.column,
      ← hstep.rest.isEmpty hk.isParted, ← hstep.rest.atBreak hk.isParted]
    split_ifs at htaken ⊢ with htab hbreak
    · obtain ⟨heq, hstep₂⟩ :=
        hstep.takeBreak hk.isParted (hwithin.trans (length_takeMargin_le htaken))
      have hlt := Cursor.length_takeBreak_lt_of_atBreak hbreak
      have hlt' := Cursor.length_takeBreak_lt_of_atBreak
        (by rwa [hstep.rest.isEmpty hk.isParted, hstep.rest.atBreak hk.isParted] at hbreak)
      have hskip := c.length_skip_le (Yaml.marginWidth indent c)
      have hskip' := c'.length_skip_le (Yaml.marginWidth indent c)
      rw [← heq]
      exact ih hstep₂ (by omega) (by omega) htaken
    · cases htaken
      exact ⟨_, rfl, hstep⟩

/-- The lines of a block scalar with another one. -/
def BlockText.addLine (block : BlockText) (isFolded startsBlank : Bool)
    (line first more : List Char) : BlockText where
  text := block.text ++ block.join isFolded startsBlank ++ line
  first := first
  more := more
  isIndented := startsBlank

theorem takeLines_succ (isFolded : Bool) (indent : Nat) (block : BlockText) :
    takeLines isFolded indent (n + 1) block c =
      if c.column == indent && !c.rest.isEmpty then
        let next := (c.skipWhile (!isBreak ·)).takeBreak
        (takeMargin (some indent) (next.2.rest.length + 1) 0 [] next.2).bind fun taken =>
          takeLines isFolded indent n
            (block.addLine isFolded (c.rest.head?.any isBlank) (c.rest.takeWhile (!isBreak ·))
              next.1 taken.2.1)
            taken.2.2
      else some (block, c) := by
  rw [takeLines]
  rfl

theorem length_takeLines_le {isFolded : Bool} {indent : Nat} {block block₁ : BlockText}
    {c₁ : Cursor} (h : takeLines isFolded indent n block c = some (block₁, c₁)) :
    c₁.rest.length ≤ c.rest.length := by
  induction n generalizing block c with
  | zero => simp [takeLines] at h
  | succ n ih =>
    rw [takeLines_succ] at h
    split_ifs at h with hline
    · obtain ⟨⟨widest, more, c₂⟩, hmargin, h⟩ := Option.bind_eq_some_iff.mp h
      exact (ih h).trans ((length_takeMargin_le hmargin).trans
        ((Cursor.length_takeBreak_le _).trans (c.length_skip_le _)))
    · cases h
      exact le_rfl

theorem Fork.InStep.takeLines (hk : k.IsFenced) {isFolded : Bool} {indent : Nat}
    {block : BlockText} (h : k.InStep c c') (hn : c.rest.length < n) (hn' : c'.rest.length < n') :
    k.Follows (takeLines isFolded indent n block c) (takeLines isFolded indent n' block c') := by
  intro block₁ c₁ htaken hwithin
  induction n generalizing n' block c c' with
  | zero => omega
  | succ n ih =>
    obtain ⟨n', rfl⟩ : ∃ m, n' = m + 1 := ⟨n' - 1, by omega⟩
    rw [takeLines_succ] at htaken
    rw [takeLines_succ, ← h.column, ← h.rest.isEmpty hk.isParted]
    split_ifs at htaken ⊢ with hline
    · obtain ⟨⟨widest, more, c₂⟩, hmargin, htaken⟩ := Option.bind_eq_some_iff.mp htaken
      have hwithin₂ : k.Within c₂ := hwithin.trans (length_takeLines_le htaken)
      have hbreak : k.Within (c.skipWhile (!isBreak ·)).takeBreak.2 :=
        hwithin₂.trans (length_takeMargin_le hmargin)
      have hskip : k.Within (c.skipWhile (!isBreak ·)) :=
        hbreak.trans (Cursor.length_takeBreak_le _)
      have hp := congrArg (Option.map (!isBreak ·)) hk.head
      have hstep := h.skipWhile hk.isParted hp hskip
      obtain ⟨heq, hstep₁⟩ := hstep.takeBreak hk.isParted hbreak
      obtain ⟨c₂', hmargin', hstep₂⟩ := hstep₁.takeMargin hk (Nat.lt_succ_self _)
        (Nat.lt_succ_self _) hmargin hwithin₂
      have hrest : c.rest ≠ [] := by
        rintro heq
        simp [heq] at hline
      have hlt := (length_takeMargin_le hmargin).trans_lt (Cursor.length_takeLine_lt hrest)
      have hlt' := (length_takeMargin_le hmargin').trans_lt
        (Cursor.length_takeLine_lt (h.rest.ne_nil hk.isParted hrest))
      dsimp only at htaken ⊢
      rw [hmargin', Option.bind_some, ← heq, ← h.rest.takeWhile hp hskip, ← h.rest.head? hk]
      exact ih hstep₂ (by omega) (by dsimp only; omega) htaken
    · cases htaken
      exact ⟨c', rfl, h⟩

/-- The column of the lines of a block scalar. -/
def blockIndent (outer increment : Option Nat) (widest : Nat) : Nat :=
  (increment.map (outer.getD 0 + ·)).getD
    (max widest (max (match outer with | some outer => outer + 1 | none => 1) 1))

/-- What a block scalar stands for. -/
def BlockText.chomp (block : BlockText) : Chomping → List Char
  | .strip => block.text ++ []
  | .clip => block.text ++ block.first
  | .keep => block.text ++ (block.first ++ block.more)

theorem takeBlock_eq (isFolded : Bool) (outer : Option Nat) (c : Cursor) :
    takeBlock isFolded outer c =
      (takeHeader c).bind fun header => header.2.2.skipLineEnd.bind fun next =>
        (takeMargin (header.2.1.map (outer.getD 0 + ·)) (next.rest.length + 1) 0 [] next).bind
          fun margin =>
            (takeLines isFolded (blockIndent outer header.2.1 margin.1) (margin.2.2.rest.length + 1)
              { more := margin.2.1 } margin.2.2).bind fun lines =>
                some (lines.1.chomp header.1, lines.2) := by
  unfold takeBlock
  refine Option.bind_congr fun header _ => Option.bind_congr fun next _ =>
    Option.bind_congr fun margin _ => Option.bind_congr fun lines _ => ?_
  obtain ⟨chomping, increment, c₁⟩ := header
  cases chomping <;> rfl

theorem length_takeBlock_le {isFolded : Bool} {outer : Option Nat} {text : List Char} {c₁ : Cursor}
    (h : takeBlock isFolded outer c = some (text, c₁)) : c₁.rest.length ≤ c.rest.length := by
  rw [takeBlock_eq] at h
  obtain ⟨⟨chomping, increment, c₂⟩, hheader, h⟩ := Option.bind_eq_some_iff.mp h
  obtain ⟨c₃, hend, h⟩ := Option.bind_eq_some_iff.mp h
  obtain ⟨⟨widest, more, c₄⟩, hmargin, h⟩ := Option.bind_eq_some_iff.mp h
  obtain ⟨⟨block, c₅⟩, hlines, h⟩ := Option.bind_eq_some_iff.mp h
  cases h
  exact (length_takeLines_le hlines).trans ((length_takeMargin_le hmargin).trans
    ((Cursor.length_skipLineEnd_le hend).trans (length_takeHeader_le hheader)))

theorem Fork.InStep.takeBlock (hk : k.IsFenced) {isFolded : Bool} {outer : Option Nat}
    (h : k.InStep c c') : k.Follows (takeBlock isFolded outer c) (takeBlock isFolded outer c') := by
  intro text c₁ htaken hwithin
  rw [takeBlock_eq] at htaken
  rw [takeBlock_eq]
  obtain ⟨⟨chomping, increment, c₂⟩, hheader, htaken⟩ := Option.bind_eq_some_iff.mp htaken
  obtain ⟨c₃, hend, htaken⟩ := Option.bind_eq_some_iff.mp htaken
  obtain ⟨⟨widest, more, c₄⟩, hmargin, htaken⟩ := Option.bind_eq_some_iff.mp htaken
  obtain ⟨⟨block, c₅⟩, hlines, htaken⟩ := Option.bind_eq_some_iff.mp htaken
  cases htaken
  have hwithin₄ : k.Within c₄ := hwithin.trans (length_takeLines_le hlines)
  have hwithin₃ : k.Within c₃ := hwithin₄.trans (length_takeMargin_le hmargin)
  obtain ⟨c₂', hheader', hstep₂⟩ := h.takeHeader hk hheader
    (hwithin₃.trans (Cursor.length_skipLineEnd_le hend))
  obtain ⟨c₃', hend', hstep₃⟩ := hstep₂.skipLineEnd hk.isParted hend hwithin₃
  obtain ⟨c₄', hmargin', hstep₄⟩ := hstep₃.takeMargin hk (Nat.lt_succ_self _)
    (Nat.lt_succ_self _) hmargin hwithin₄
  obtain ⟨c₅', hlines', hstep₅⟩ := hstep₄.takeLines hk (Nat.lt_succ_self _)
    (Nat.lt_succ_self _) _ _ hlines hwithin
  refine ⟨c₅', ?_, hstep₅⟩
  simp only [hheader', hend', hmargin', hlines', Option.bind_some]

end FeedSync.Yaml
