import FeedSync.Proofs.Yaml.Plain
import FeedSync.Proofs.Yaml.Steps

/-!
# Values that stand alone

A value that looks like a plain scalar stands alone where nothing but a comment follows it on its
line, inside a block collection. Two texts that differ in such a value only have the same tokens but
for that value: up to it the texts are the same, it is one token in both, and behind it they are the
same again.

## Main definitions

* `StandsAlone`: a value that stands alone in a text.

## Main statements

* `Lexer.takeAll_of_values`: the scans from one value and from another on.
* `tokens?_of_standsAlone`: only the token of the value depends on it.
-/

namespace FeedSync.Yaml

variable {k : Fork}

namespace Lexer

open IsLocal (run_bind_eq_some run_bind_of_run)

variable {l l' : Lexer}

/-! ### The token of a plain text -/

/-- No plain scalar starts with a mark. -/
theorem startsPlain_of_mark {inFlow : Bool} {x : Char} (r : List Char)
    (hx : indicators.contains x = true) : startsPlain inFlow (x :: r) = false := by
  have hdash : (x == '-') = false := beq_false_of_ne (by rintro rfl; exact absurd hx (by decide))
  have hquestion : (x == '?') = false :=
    beq_false_of_ne (by rintro rfl; exact absurd hx (by decide))
  have hcolon : (x == ':') = false := beq_false_of_ne (by rintro rfl; exact absurd hx (by decide))
  rw [startsPlain, hdash, hquestion, hcolon, hx]
  simp

theorem startsMark_of_startsPlain {x mark : Char} {r : List Char} (hmark : mark = '?' ∨ mark = ':')
    (h : startsPlain false (x :: r) = true) : startsMark mark false (x :: r) = false := by
  rw [startsMark, Bool.false_or, Bool.and_eq_false_imp]
  intro hx
  obtain rfl := eq_of_beq hx
  obtain rfl | rfl := hmark
  · simpa [startsPlain] using h
  · simpa [startsPlain] using h

theorem tokenAt_of_startsPlain {x : Char} {r : List Char}
    (hstarts : startsPlain false (x :: r) = true)
    (hentry : startsMark '-' false (x :: r) = false) :
    tokenAt false false false (startsMark '-' false (x :: r)) (startsMark '?' false (x :: r))
      (startsMark ':' false (x :: r)) (startsPlain false (x :: r)) (some x) = takePlainScalar := by
  rw [hentry, startsMark_of_startsPlain (.inl rfl) hstarts,
    startsMark_of_startsPlain (.inr rfl) hstarts, hstarts]
  have hno (y : Char) (hy : indicators.contains y = true) : x ≠ y := by
    rintro rfl
    rw [startsPlain_of_mark r hy] at hstarts
    cases hstarts
  unfold tokenAt
  rw [if_neg Bool.false_ne_true, if_neg Bool.false_ne_true]
  split
  case h_11 c _ _ _ _ _ _ _ _ _ _ heq =>
    obtain rfl := Option.some.inj heq
    have hliteral : (x == '|') = false := beq_false_of_ne (hno _ (by decide))
    have hfolded : (x == '>') = false := beq_false_of_ne (hno _ (by decide))
    rw [hliteral, hfolded]
    rfl
  case h_12 heq => cases heq
  all_goals exact absurd (Option.some.inj ‹_›) (hno _ (by decide))
/-- What follows a plain text does not change how it starts. -/
theorem startsPlain_append {x : Char} {r : List Char} (back : List Char)
    (hstarts : startsPlain false (x :: r) = true) (hentry : startsMark '-' false (x :: r) = false) :
    startsPlain false (x :: r ++ back) = true ∧ startsMark '-' false (x :: r ++ back) = false := by
  cases r with
  | nil =>
    have hdash : (x == '-') = false := by simpa [startsMark, atSpace] using hentry
    have hmarks : (x == '?' || x == ':') = false := by
      cases hx : (x == '?' || x == ':') with
      | false => rfl
      | true => simp [startsPlain, hdash, hx, atSpace] at hstarts
    rw [startsPlain, hdash, hmarks] at hstarts
    rw [List.singleton_append, startsPlain, startsMark, hdash, hmarks]
    exact ⟨hstarts, rfl⟩
  | cons y r => exact ⟨hstarts, hentry⟩

/-- A plain text is taken as a plain scalar where it does not stand at the beginning of a line. -/
theorem takeToken_of_startsPlain {x : Char} {r : List Char} (hrest : l.rest = x :: r)
    (hstarts : startsPlain false (x :: r) = true) (hentry : startsMark '-' false (x :: r) = false)
    (hcolumn : 0 < l.cursor.column) (hflow : l.inFlow = false) :
    takeToken.run l = takePlainScalar.run l := by
  have hnot : (l.cursor.column == 0) = false := beq_false_of_ne (by omega)
  rw [takeToken_eq, StateT.run_bind, StateT.run_get, pure_bind, hnot, hflow, hrest]
  exact congrArg (StateT.run · l) (tokenAt_of_startsPlain hstarts hentry)

/-- The key that a scan notes, if one may begin. -/
def noted (l : Lexer) : Option PossibleKey := if l.allowsKey then some l.keyHere else none

/-- After a plain scalar that began where no key had begun. -/
def afterPlain (l : Lexer) (text : List Char) (isBroken : Bool) (c : Cursor) : Lexer :=
  { l with
    cursor := c
    tokens := l.tokens ++ [.scalar (String.ofList text) .plain]
    allowsKey := isBroken
    keys := [l.noted] }

theorem takePlainScalar_run (hkeys : l.keys = [none]) :
    takePlainScalar.run l = (plainAt false l.indent l.cursor).map fun taken =>
      ((), l.afterPlain taken.1.1 taken.1.2 taken.2) := by
  have hnote : noteKey.run l = some ((), { l with keys := [l.noted] }) := by
    rw [noteKey_run, dropKey_run, hkeys, noted]
    split_ifs
    · simp [hkeys]
    · rw [← hkeys]
  rw [takePlainScalar_eq, run_bind_of_run hnote]
  change StateT.run (m := Option) (scan (plainAt false l.indent) >>= fun taken =>
    emitPlain taken.1 taken.2) { l with allowsKey := false, keys := [l.noted] } = _
  rw [StateT.run_bind]
  dsimp only [scan, StateT.run]
  cases plainAt false l.indent l.cursor with
  | none => rfl
  | some taken =>
    obtain ⟨⟨text, isBroken⟩, c⟩ := taken
    cases isBroken <;> rfl

/-! ### After the value -/

theorem line_skipInLine (allowsTab : Bool) (c : Cursor) :
    (skipInLine allowsTab c).line = c.line := by
  unfold skipInLine Cursor.skipComment
  split_ifs <;> rfl

theorem line_skipSpace_le (inFlow : Bool) (n : Nat) (allowsKey : Bool) (c : Cursor) :
    c.line ≤ (skipSpace inFlow n allowsKey c).2.line := by
  induction n generalizing allowsKey c with
  | zero => exact le_rfl
  | succ n ih =>
    rw [skipSpace, ← line_skipInLine (inFlow || !allowsKey) c]
    split_ifs
    · exact (line_takeBreak_le _).trans (ih _ _)
    · exact le_rfl

theorem skipInLine_of_beside (allowsTab : Bool) {c c' : Cursor} (h : k.Beside c c') :
    k.Beside (skipInLine allowsTab c) (skipInLine allowsTab c') := (h.skipWhile _).skipComment

/-- A comment goes up to the end of its line. -/
theorem atBreak_skipInLine (allowsTab : Bool) {c : Cursor}
    (h : c.rest = [] ∨ c.rest.head? = some '#') : atBreak (skipInLine allowsTab c).rest = true := by
  have hstay : c.skipWhile (fun x => x == ' ' || (allowsTab && x == '\t')) = c := by
    have hnil : c.rest.takeWhile (fun x => x == ' ' || (allowsTab && x == '\t')) = [] := by
      rw [Fork.takeWhile_eq_nil_iff]
      obtain h | h := h
      · simp [h]
      · simp [h]
    rw [Cursor.skipWhile, hnil]
    rfl
  rw [skipInLine, hstay, Cursor.skipComment]
  obtain h | h := h
  · simp [h, atBreak]
  · have hhead := List.head?_dropWhile_not (!isBreak ·) c.rest
    rw [if_pos (by simp [h]), Fork.atBreak_eq, Cursor.skipWhile,
      rest_skip_of_append List.takeWhile_append_dropWhile.symm]
    cases hrest : (c.rest.dropWhile (!isBreak ·)).head? with
    | none => rfl
    | some x => simpa [hrest] using hhead

/-- **After a value whose line ends with it** a scan comes to a later line, or to the end of the
text. -/
theorem skipSpace_of_beside (hk : k.IsJoined) {n n' : Nat} {c c' : Cursor} (h : k.Beside c c')
    (hend : c.rest = [] ∨ c.rest.head? = some '#') (hn : c.rest.length < n)
    (hn' : c'.rest.length < n') :
    ((skipSpace false n false c).1 = (skipSpace false n' false c').1 ∧
      k.InStep (skipSpace false n false c).2 (skipSpace false n' false c').2 ∧
      c.line < (skipSpace false n false c).2.line) ∨
    (skipSpace false n false c).2.rest = [] ∧ (skipSpace false n' false c').2.rest = [] := by
  obtain ⟨n, rfl⟩ : ∃ m, n = m + 1 := ⟨n - 1, by omega⟩
  obtain ⟨n', rfl⟩ : ∃ m, n' = m + 1 := ⟨n' - 1, by omega⟩
  have hnext := skipInLine_of_beside true h
  have hbreak := atBreak_skipInLine true hend
  have hle := length_skipInLine_le true c
  have hle' := length_skipInLine_le true c'
  have hline := line_skipInLine true c
  simp only [skipSpace, Bool.not_false, Bool.false_or, ← hnext.rest, hbreak, Bool.and_true]
  cases hrest : (skipInLine true c).rest with
  | nil => exact .inr ⟨hrest, hnext.rest ▸ hrest⟩
  | cons x r =>
    have hhead : (skipInLine true c).rest.head?.map isBreak = some true := by
      rw [hrest] at hbreak ⊢
      exact congrArg some hbreak
    have hlt := Cursor.length_takeBreak_lt hhead
    have hlt' := Cursor.length_takeBreak_lt (hnext.rest ▸ hhead)
    have hstep := skipSpace_inStep hk.isFenced.isParted (hnext.takeBreak hk hhead).2
      (by omega : _ < n) (by omega : _ < n') (hk.within (skipSpace false n true _).2)
    refine .inl ⟨hstep.1, hstep.2, ?_⟩
    rw [← hline]
    exact (line_takeBreak_lt hhead).trans_le (line_skipSpace_le _ _ _ _)

theorem approach_run (l : Lexer) :
    approach.run l =
      let d := skipSpace l.inFlow (l.rest.length + 1) l.allowsKey l.cursor
      (l.keys.mapM (keepKey? d.2)).map fun keys =>
        ((), endBlocks { l with cursor := d.2, allowsKey := d.1, keys } (d.2.column < ·)) := by
  have htoken : toToken.run l = _ := skipToToken_run (l.rest.length + 1) l
  rw [approach, run_bind_of_run htoken, StateT.run_bind, dropStaleKeys_run]
  dsimp only
  cases
    l.keys.mapM (keepKey? (skipSpace l.inFlow (l.rest.length + 1) l.allowsKey l.cursor).2) <;> rfl

/-- A key that is noted right of the open block collection is not required. -/
theorem isRequired_noted {i : Nat} (hi : l.indent = some i) (hlt : i < l.cursor.column) :
    ∀ key ∈ l.noted, key.isRequired = false := by
  intro key hkey
  rw [noted] at hkey
  split_ifs at hkey
  · cases hkey
    simp [keyHere, hi, hlt.ne]
  · cases hkey

theorem keepKey?_noted {i : Nat} (hi : l.indent = some i) (hlt : i < l.cursor.column) (c : Cursor) :
    ∃ key, keepKey? c l.noted = some key ∧ (∀ x ∈ key, x.isRequired = false) ∧
      (l.cursor.line < c.line → key = none) := by
  have hrequired := isRequired_noted hi hlt
  rw [noted] at hrequired ⊢
  split_ifs at hrequired ⊢
  · have hnot := hrequired _ rfl
    by_cases hstale : isStale l.keyHere c = true
    · exact ⟨none, by rw [keepKey?, if_pos hstale, hnot]; rfl, by simp, fun _ => rfl⟩
    · refine ⟨_, by rw [keepKey?, if_neg hstale], hrequired, fun hline => absurd ?_ hstale⟩
      simp [isStale, keyHere, hline]
  · exact ⟨none, rfl, by simp, fun _ => rfl⟩

theorem endBlocks_of_not_inFlow (isOver : Nat → Bool) (h : l.inFlow = false) :
    l.endBlocks isOver =
      { l with
        indents := l.indents.drop (l.indents.takeWhile isOver).length
        tokens := l.tokens ++ List.replicate (l.indents.takeWhile isOver).length .blockEnd } := by
  rw [endBlocks, h]
  rfl

theorem keys_endBlocks (l : Lexer) (isOver : Nat → Bool) : (l.endBlocks isOver).keys = l.keys := by
  unfold endBlocks
  split_ifs <;> rfl

/-- At the end of the text all block collections end, whichever have ended before. -/
theorem tokens_endBlocks_all (isOver : Nat → Bool) (h : l.inFlow = false) :
    ((l.endBlocks isOver).endBlocks fun _ => true).tokens =
      l.tokens ++ List.replicate l.indents.length .blockEnd := by
  have hle := (List.takeWhile_prefix isOver (l := l.indents)).length_le
  have hflow : (l.endBlocks isOver).inFlow = false := by rwa [inFlow, keys_endBlocks]
  rw [endBlocks_of_not_inFlow _ hflow, endBlocks_of_not_inFlow isOver h]
  simp only [List.takeWhile_eq_self_iff.mpr fun _ _ => rfl, List.append_assoc,
    List.replicate_append_replicate, List.length_drop, Nat.add_sub_cancel' hle]

/-- A key that is not required can be given up. -/
theorem dropKey_of_not_required {key : Option PossibleKey} (hkeys : l.keys = [key])
    (hkey : ∀ x ∈ key, x.isRequired = false) :
    dropKey.run l = some ((), { l with keys := [none] }) := by
  rw [dropKey_run, hkeys]
  cases key with
  | none => exact congrArg (fun keys => some ((), { l with keys })) hkeys
  | some key => simp [hkey key rfl]

theorem endAll_run {key : Option PossibleKey} (isOver : Nat → Bool) (hkeys : l.keys = [key])
    (hkey : ∀ x ∈ key, x.isRequired = false) :
    ∃ l₁, endAll.run (l.endBlocks isOver) = some ((), l₁) ∧
      l₁.tokens = l.tokens ++ List.replicate l.indents.length .blockEnd := by
  have hflow : l.inFlow = false := by simp [inFlow, hkeys]
  have hdrop := dropKey_of_not_required (l := (l.endBlocks isOver).endBlocks fun _ => true)
    (by rw [keys_endBlocks, keys_endBlocks, hkeys]) hkey
  rw [← tokens_endBlocks_all isOver hflow]
  change ∃ l₁, (dropKey >>= fun _ => allowKey false).run _ = some ((), l₁) ∧ _
  exact ⟨_, run_bind_of_run hdrop, rfl⟩

theorem takeHere_of_end {key : Option PossibleKey} (isOver : Nat → Bool) (m : Nat)
    (hrest : l.rest = []) (hkeys : l.keys = [key]) (hkey : ∀ x ∈ key, x.isRequired = false) :
    ∃ l₁, (takeHere m).run (l.endBlocks isOver) = some ((), l₁) ∧
      l₁.tokens = l.tokens ++ List.replicate l.indents.length .blockEnd := by
  have hend : (l.endBlocks isOver).rest.isEmpty = true := by
    rw [rest, cursor_endBlocks]
    exact List.isEmpty_iff.mpr hrest
  rw [takeHere, StateT.run_bind, StateT.run_get, pure_bind, hend, if_pos rfl]
  exact endAll_run isOver hkeys hkey

/-- At the next token, where a key may begin or not. -/
def arrive (l : Lexer) (d : Bool × Cursor) (key : Option PossibleKey) : Lexer :=
  { l with cursor := d.2, allowsKey := d.1, keys := [key] }

/-- Coming to the next token after a plain scalar: the key that began with it is given up, at the
latest with the line. -/
theorem approach_afterPlain {i : Nat} (hi : l.indent = some i) (hlt : i < l.cursor.column)
    (text : List Char) (isBroken : Bool) (c : Cursor) {d : Bool × Cursor}
    (hd : skipSpace false (c.rest.length + 1) isBroken c = d) :
    ∃ key, approach.run (l.afterPlain text isBroken c) =
        some ((), ((l.afterPlain text isBroken c).arrive d key).endBlocks (d.2.column < ·)) ∧
      (∀ x ∈ key, x.isRequired = false) ∧ (l.cursor.line < d.2.line → key = none) := by
  subst hd
  obtain ⟨key, hkeep, hkey⟩ :=
    keepKey?_noted hi hlt (skipSpace false (c.rest.length + 1) isBroken c).2
  have hkeys : [l.noted].mapM (keepKey? (skipSpace false (c.rest.length + 1) isBroken c).2) =
      some [key] := by
    simp [hkeep]
  refine ⟨key, ?_, hkey⟩
  rw [approach_run]
  exact congrArg (Option.map _) hkeys

/-- **After a value that stands alone** a scan goes on as after any other one. -/
theorem takeAll_afterPlain (hk : k.IsJoined) (text text' : List Char) {i m : Nat} {isBroken : Bool}
    {c c' : Cursor} {l₁ : Lexer} (htokens : (l.afterPlain text isBroken c).tokens = k.tokens)
    (htokens' : (l'.afterPlain text' isBroken c').tokens = k.tokens')
    (hindents : l.indents = l'.indents) (hi : l.indent = some i) (hlt : i < l.cursor.column)
    (hlt' : i < l'.cursor.column) (hline : l.cursor.line = l'.cursor.line)
    (hcursor : k.InStep c c' ∧ l.cursor.line < c.line ∨
      isBroken = false ∧ k.Beside c c' ∧ c.line = l.cursor.line ∧
        (c.rest = [] ∨ c.rest.head? = some '#'))
    (h : (takeAll m).run (l.afterPlain text isBroken c) = some ((), l₁)) :
    ∃ l₁', (takeAll m).run (l'.afterPlain text' isBroken c') = some ((), l₁') ∧
      ∃ more, l₁.tokens = k.tokens ++ more ∧ l₁'.tokens = k.tokens' ++ more := by
  obtain ⟨m, rfl⟩ : ∃ n, m = n + 1 := by
    cases m with
    | zero => cases h
    | succ m => exact ⟨m, rfl⟩
  have houtcome : ((skipSpace false (c.rest.length + 1) isBroken c).1 =
        (skipSpace false (c'.rest.length + 1) isBroken c').1 ∧
      k.InStep (skipSpace false (c.rest.length + 1) isBroken c).2
        (skipSpace false (c'.rest.length + 1) isBroken c').2 ∧
      l.cursor.line < (skipSpace false (c.rest.length + 1) isBroken c).2.line) ∨
      (skipSpace false (c.rest.length + 1) isBroken c).2.rest = [] ∧
        (skipSpace false (c'.rest.length + 1) isBroken c').2.rest = [] := by
    obtain ⟨hstep, hlater⟩ | ⟨rfl, hbeside, hsame, hend⟩ := hcursor
    · have hnext := skipSpace_inStep hk.isFenced.isParted hstep (Nat.lt_succ_self _)
        (Nat.lt_succ_self _) (hk.within (skipSpace false (c.rest.length + 1) isBroken c).2)
      exact .inl ⟨hnext.1, hnext.2, hlater.trans_le (line_skipSpace_le _ _ _ _)⟩
    · rw [← hsame]
      exact skipSpace_of_beside hk hbeside hend (Nat.lt_succ_self _) (Nat.lt_succ_self _)
  generalize hd : skipSpace false (c.rest.length + 1) isBroken c = d at houtcome
  generalize hd' : skipSpace false (c'.rest.length + 1) isBroken c' = d' at houtcome
  have hi' : l'.indent = some i := by rw [indent, ← hindents]; exact hi
  obtain ⟨key, happroach, hkey, hlater⟩ := approach_afterPlain hi hlt text isBroken c hd
  obtain ⟨key', happroach', hkey', hlater'⟩ := approach_afterPlain hi' hlt' text' isBroken c' hd'
  rw [takeAll_succ] at h ⊢
  rw [run_bind_of_run happroach] at h
  rw [run_bind_of_run happroach']
  obtain ⟨hallows, hstep, hline₁⟩ | ⟨hend, hend'⟩ := houtcome
  · have hline₁' : l'.cursor.line < d'.2.line := by rwa [← hline, ← hstep.line]
    obtain rfl := hlater hline₁
    obtain rfl := hlater' hline₁'
    have hsame : k.SameState ((l.afterPlain text isBroken c).arrive d none)
        ((l'.afterPlain text' isBroken c').arrive d' none) := {
      cursor := hstep
      tokens := ⟨[], htokens.trans (List.append_nil _).symm,
        htokens'.trans (List.append_nil _).symm⟩
      indents := hindents
      allowsKey := hallows
      keys := .cons .none .nil }
    rw [← hstep.column]
    obtain ⟨l₁', hrun, hsame₁⟩ := (isLocal_takeHere (isLocal_takeAll m)).tracks hk.isFenced
      (sameState_endBlocks hsame _) _ _ h (hk.within _)
    exact ⟨l₁', hrun, hsame₁.tokens⟩
  · obtain ⟨l₂, hrun, htokens₂⟩ := takeHere_of_end
      (l := (l.afterPlain text isBroken c).arrive d key) (d.2.column < ·) m hend rfl hkey
    obtain ⟨l₂', hrun', htokens₂'⟩ := takeHere_of_end
      (l := (l'.afterPlain text' isBroken c').arrive d' key') (d'.2.column < ·) m hend' rfl hkey'
    obtain rfl : l₂ = l₁ := by simpa [hrun] using h
    refine ⟨l₂', hrun', List.replicate l.indents.length .blockEnd, ?_, ?_⟩
    · rw [htokens₂, ← htokens]
      rfl
    · rw [htokens₂', ← htokens', hindents]
      rfl

/-! ### A value in place of another -/

/-- What a plain text is made of. -/
theorem exists_of_isPlainText {v : String} (hv : isPlainText v = true) :
    ∃ x r, v.toList = x :: r ∧ startsPlain false (x :: r) = true ∧
      startsMark '-' false (x :: r) = false ∧ staysPlain false (x :: r) = true ∧
      isFence x = false := by
  simp only [isPlainText, Bool.and_eq_true, Bool.not_eq_true'] at hv
  obtain ⟨⟨hstarts, hentry⟩, hstays⟩ := hv
  cases hr : v.toList with
  | nil =>
    rw [hr] at hstarts
    cases hstarts
  | cons x r =>
    rw [hr] at hstarts hentry hstays
    refine ⟨x, r, rfl, hstarts, hentry, hstays, ?_⟩
    rw [← Bool.not_eq_true]
    intro hfence
    rw [startsPlain_of_fence hfence] at hstarts
    cases hstarts

/-- **A plain text is taken as a plain scalar**, and then what follows is looked at. -/
theorem takeToken_of_isPlainText {v : String} {back : List Char} {i : Nat}
    (hv : isPlainText v = true) (hrest : l.rest = v.toList ++ back) (hback : atSpace back = true)
    (hkeys : l.keys = [none]) (hi : l.indent = some i) (hlt : i < l.cursor.column) :
    ∃ m, back.length < m ∧ takeToken.run l =
      (takeAfterWord false (i + 1) m v.toList {} (l.cursor.skip v.toList.length)).map fun taken =>
        ((), l.afterPlain taken.1 taken.2.1 taken.2.2) := by
  obtain ⟨x, r, hr, hstarts, hentry, hstays, hfence⟩ := exists_of_isPlainText hv
  have hblank : isBlank x = false := by
    simp only [isFence, Bool.or_eq_false_iff] at hfence
    exact hfence.1.1
  have hmark : x ≠ '#' := by
    rintro rfl
    cases hfence
  have hplain := startsPlain_append back hstarts hentry
  rw [hr] at hrest ⊢
  have hn : r.length + 1 < l.rest.length + 1 := by
    rw [hrest, List.length_append, List.length_cons]
    omega
  obtain ⟨m, hm, htaken⟩ := takePlain_of_staysPlain (c := l.cursor) hrest hstays hback hblank hmark
    hlt (by omega) hn [] {}
  refine ⟨m, by rw [hrest] at hm; simp at hm; omega, ?_⟩
  rw [takeToken_of_startsPlain hrest hplain.1 hplain.2 (by omega) (by simp [inFlow, hkeys]),
    takePlainScalar_run hkeys, hi, plainAt]
  rw [show l.cursor.rest.length + 1 = l.rest.length + 1 from rfl, htaken, Option.map_map]
  rfl

/-- **A value in place of another one** leaves everything else in the tokens as it is. -/
theorem takeAll_of_values {u v : String} {back : List Char} {i m : Nat} {l₁ l₂ : Lexer}
    (hu : isPlainText u = true) (hv : isPlainText v = true) (hback : endsLine back = true)
    (hsame : k.SameState l l') (htokens : l.tokens = l'.tokens) (hrest : l.rest = u.toList ++ back)
    (hrest' : l'.rest = v.toList ++ back) (hindex : l.cursor.index = l'.cursor.index)
    (hkeys : l.keys = [none]) (hi : l.indent = some i) (hlt : i < l.cursor.column)
    (htoken : takeToken.run l = some ((), l₁))
    (hscalar : l₁.tokens = l.tokens ++ [.scalar u .plain])
    (h : (takeAll m).run l₁ = some ((), l₂)) :
    ∃ l₁' l₂' more, takeToken.run l' = some ((), l₁') ∧ (takeAll m).run l₁' = some ((), l₂') ∧
      l₂.tokens = l.tokens ++ .scalar u .plain :: more ∧
      l₂'.tokens = l.tokens ++ .scalar v .plain :: more := by
  have hspace : atSpace back = true := by
    simp only [endsLine, Bool.and_eq_true] at hback
    exact hback.1
  have hkeys' : l'.keys = [none] := by
    have hsameKeys := hsame.keys
    rw [hkeys] at hsameKeys
    generalize l'.keys = keys' at hsameKeys
    cases hsameKeys with
    | cons hkey hnil =>
      cases hkey
      cases hnil
      rfl
  have hlt' : i < l'.cursor.column := by rwa [← hsame.column]
  have hi' : l'.indent = some i := by rwa [← hsame.indent]
  obtain ⟨n, hn, hrun⟩ := takeToken_of_isPlainText hu hrest hspace hkeys hi hlt
  obtain ⟨n', hn', hrun'⟩ := takeToken_of_isPlainText hv hrest' hspace hkeys' hi' hlt'
  rw [hrun] at htoken
  obtain ⟨⟨text, isBroken, c⟩, htaken, heq⟩ := Option.map_eq_some_iff.mp htoken
  obtain rfl : l.afterPlain text isBroken c = l₁ := congrArg Prod.snd heq
  obtain rfl : text = u.toList := by
    have hscalar : String.ofList text = u := by simpa [afterPlain] using hscalar
    rw [← hscalar, String.toList_ofList]
  have hu₁ := rest_skip_of_append (c := l.cursor) hrest
  have hv₁ := rest_skip_of_append (c := l'.cursor) hrest'
  let k₁ : Fork := {
    tail := []
    tail' := []
    shift := v.toList.length
    shift' := u.toList.length
    tokens := l.tokens ++ [.scalar (String.ofList u.toList) .plain]
    tokens' := l'.tokens ++ [.scalar (String.ofList v.toList) .plain]
    length_tokens := by simp [htokens] }
  have hk₁ : k₁.IsJoined := ⟨rfl, rfl⟩
  have hbeside : k₁.Beside (l.cursor.skip u.toList.length) (l'.cursor.skip v.toList.length) := {
    rest := hu₁.trans hv₁.symm
    index := by
      simp only [Cursor.skip, k₁, hindex]
      omega
    line := hsame.cursor.line }
  obtain ⟨c', htaken', hcursor⟩ := takeAfterWord_of_endsLine hk₁ hbeside v.toList (by rwa [hu₁])
    (by simp only [Cursor.skip]; omega) (by simp only [Cursor.skip]; omega) (by rwa [hu₁])
    (by rwa [hv₁] : _ < n') htaken
  obtain ⟨l₂', hall, more, hmore, hmore'⟩ := takeAll_afterPlain hk₁ u.toList v.toList rfl rfl
    hsame.indents hi hlt hlt' hsame.cursor.line hcursor h
  refine ⟨_, l₂', more, by rw [hrun', htaken']; rfl, hall, ?_, ?_⟩
  · rw [hmore]
    simp [k₁]
  · rw [hmore']
    simp [k₁, htokens]

end Lexer

/-! ### Whole texts -/

/-- Where the scan of a text begins: after its byte order mark, if it has one. -/
def startOf (cs : List Char) : Cursor :=
  let start : Cursor := { rest := cs }
  if cs.head? == some '\ufeff' then start.skip else start

theorem tokens?_eq (text : String) :
    tokens? text =
      if text.toList.all isAllowed then
        ((Lexer.takeAll (text.toList.length + 1)).run { cursor := startOf text.toList }).map
          fun taken => taken.2.tokens
      else none := rfl

/-- The states of a scan around a token after some others: before the space in front of it, before
the token, and after it. -/
def Lexer.aroundToken (n : Nat) (cs : List Char) : Option (Lexer × Lexer × Lexer) := do
  let (_, before) ← (takeSome n).run { cursor := startOf cs }
  let (_, here) ← approach.run before
  let (_, after) ← takeToken.run here
  return (before, here, after)

theorem Lexer.aroundToken_eq_some {n : Nat} {cs : List Char} {l l₁ l₂ : Lexer} :
    aroundToken n cs = some (l, l₁, l₂) ↔
      (takeSome n).run { cursor := startOf cs } = some ((), l) ∧ approach.run l = some ((), l₁) ∧
        takeToken.run l₁ = some ((), l₂) := by
  simp [aroundToken, Option.bind_eq_some_iff, Unique.exists_iff]

/-- A value between the states of a scan around it: it is a plain scalar inside a block collection,
right of its column, and no key has begun before it. -/
structure IsBetween (gap : List Char) (value : String) (back : List Char)
    (states : Lexer × Lexer × Lexer) : Prop where
  rest_before : states.1.rest = gap ++ value.toList ++ back
  rest_here : states.2.1.rest = value.toList ++ back
  keys : states.2.1.keys.map Option.isSome = [false]
  indent : ∃ column ∈ states.2.1.indent, column < states.2.1.cursor.column
  tokens : states.2.2.tokens = states.2.1.tokens ++ [.scalar value .plain]

instance (gap : List Char) (value : String) (back : List Char) (states : Lexer × Lexer × Lexer) :
    Decidable (IsBetween gap value back states) :=
  decidable_of_iff (_ ∧ _ ∧ _ ∧ _ ∧ _)
    ⟨fun ⟨h₁, h₂, h₃, h₄, h₅⟩ => ⟨h₁, h₂, h₃, h₄, h₅⟩,
      fun ⟨h₁, h₂, h₃, h₄, h₅⟩ => ⟨h₁, h₂, h₃, h₄, h₅⟩⟩

/-- **A value that stands alone** in a text, after a gap: a scan of the text takes it as a plain
scalar in a block collection, and at most a comment follows it on its line. -/
structure StandsAlone (before gap : List Char) (value : String) (back : List Char) : Prop where
  isPlainText : isPlainText value = true
  startsGap : gap.head?.any isFence = true
  endsLine : endsLine back = true
  exists_scan : ∃ n, ∃ states ∈ Lexer.aroundToken n (before ++ gap ++ value.toList ++ back),
    IsBetween gap value back states

/-- The scans of two texts begin at the same place. -/
theorem inStep_startOf (hk : k.IsFenced) (hshift : k.shift = k.shift')
    (shared : List Char) : k.InStep (startOf (shared ++ k.tail)) (startOf (shared ++ k.tail')) := by
  have hboth : k.Both (shared ++ k.tail) (shared ++ k.tail') := ⟨shared, rfl, rfl⟩
  have hstart : k.InStep { rest := shared ++ k.tail } { rest := shared ++ k.tail' } :=
    ⟨hboth, by rw [hshift], rfl, rfl⟩
  unfold startOf
  dsimp only
  rw [← hboth.head? hk]
  split_ifs with hmark
  · refine hstart.skip hk.isParted.tail_eq_nil ?_
    cases shared with
    | nil =>
      have := hk.isFence '\ufeff' (eq_of_beq hmark)
      exact absurd this (by decide)
    | cons x shared => simp [Fork.Within, Cursor.skip]
  · exact hstart

theorem Fork.Both.eq_tail {r r' : List Char} (h : k.Both r r') (hr : r = k.tail) :
    r' = k.tail' := by
  obtain ⟨shared, hshared, rfl⟩ := h
  obtain rfl : shared = [] := List.append_left_eq_self.mp (hshared.symm.trans hr)
  rfl

/-- Where the texts part can be moved back to where the scans stand. -/
theorem Fork.SameState.moveTail {l l' : Lexer} (h : k.SameState l l') {tail tail' : List Char}
    (hboth : Fork.Both { k with tail, tail' } l.rest l'.rest) :
    Fork.SameState { k with tail, tail' } l l' where
  cursor := ⟨hboth, h.cursor.index, h.cursor.line, h.cursor.column⟩
  tokens := h.tokens
  indents := h.indents
  allowsKey := h.allowsKey
  keys := by
    refine h.keys.imp fun key key' hkey => ?_
    cases hkey with
    | none => exact .none
    | some hkey =>
      exact .some ⟨hkey.position, hkey.after, hkey.isRequired, hkey.index, hkey.line, hkey.column⟩

/-- Texts that may be plain scalars begin with no fence. -/
theorem isParted_of_isPlainText {u v : String} {back : List Char} (hu : isPlainText u = true)
    (hv : isPlainText v = true) (hk : k.tail = u.toList ++ back)
    (hk' : k.tail' = v.toList ++ back) :
    k.IsParted := by
  obtain ⟨x, r, hx, -, -, -, hfence⟩ := Lexer.exists_of_isPlainText hu
  obtain ⟨x', r', hx', -, -, -, hfence'⟩ := Lexer.exists_of_isPlainText hv
  intro p hp
  rw [hk, hk', hx, hx']
  exact congrArg some (hp x x' hfence hfence')

theorem isAllowed_of_isPlainText {v : String} (hv : isPlainText v = true) :
    v.toList.all isAllowed = true := by
  simp only [isPlainText, Bool.and_eq_true] at hv
  obtain ⟨-, hstays⟩ := hv
  generalize v.toList = r at hstays
  generalize false = afterBlank at hstays
  induction r generalizing afterBlank with
  | nil => rfl
  | cons x r ih =>
    obtain ⟨hx, -, -, -, hrest⟩ := staysPlain_cons.mp hstays
    rw [List.all_cons, hx, ih _ hrest]
    rfl

open Lexer in
/-- **Only the token of the value depends on it.** -/
theorem tokens?_of_standsAlone {before gap back : List Char} {u v : String} {tokens : List Token}
    (h : StandsAlone before gap u back) (hv : isPlainText v = true)
    (hle : u.toList.length ≤ v.toList.length)
    (htokens : tokens? (String.ofList (before ++ gap ++ u.toList ++ back)) = some tokens) :
    ∃ ts ts', tokens = ts ++ .scalar u .plain :: ts' ∧
      tokens? (String.ofList (before ++ gap ++ v.toList ++ back)) =
        some (ts ++ .scalar v .plain :: ts') := by
  obtain ⟨n, ⟨l, l₁, l₂⟩, haround, hrest, hrest₁, hkeys₁, ⟨column, hindent₁, hcolumn₁⟩, hscalar⟩ :=
    h.exists_scan
  obtain ⟨hsome, happroach, htoken⟩ := aroundToken_eq_some.mp haround
  have hkeys₁ : l₁.keys = [none] := by
    dsimp only at hkeys₁
    cases hl : l₁.keys with
    | nil => simp [hl] at hkeys₁
    | cons key keys => simpa [hl] using hkeys₁
  rw [tokens?_eq, String.toList_ofList] at htokens ⊢
  split_ifs at htokens with hallowed
  obtain ⟨⟨_, l₃⟩, hall, rfl⟩ := Option.map_eq_some_iff.mp htokens
  -- The fuel for the text is enough for the tokens before the value and the value itself.
  obtain ⟨m, hm⟩ : ∃ m, (before ++ gap ++ u.toList ++ back).length + 1 = n + (m + 1) := by
    have := lt_of_takeSome hsome hall
    exact ⟨(before ++ gap ++ u.toList ++ back).length - n, by omega⟩
  rw [hm, takeAll_of_takeSome hsome, takeAll_succ, IsLocal.run_bind_of_run happroach,
    takeHere_of_takeToken htoken] at hall
  -- Up to the gap the texts are the same.
  let k : Fork := { tail := gap ++ u.toList ++ back, tail' := gap ++ v.toList ++ back }
  have hk : k.IsFenced := by
    have hgap := h.startsGap
    cases gap with
    | nil => cases hgap
    | cons x gap => exact ⟨rfl, fun y hy => by cases hy; exact hgap⟩
  have hstart : k.SameState { cursor := startOf (before ++ gap ++ u.toList ++ back) }
      { cursor := startOf (before ++ gap ++ v.toList ++ back) } := {
    cursor := by simpa only [k, List.append_assoc] using inStep_startOf hk rfl before
    tokens := ⟨[], rfl, rfl⟩
    indents := rfl
    allowsKey := rfl
    keys := .cons .none .nil }
  obtain ⟨l', hsome', hsame⟩ := (isLocal_takeSome n).tracks hk hstart _ _ hsome
    (congrArg List.length hrest).ge
  -- From there on they are so up to the value.
  let k₁ : Fork := { tail := u.toList ++ back, tail' := v.toList ++ back }
  have hboth : k₁.Both l.rest l'.rest :=
    ⟨gap, by rw [hrest, List.append_assoc], by rw [hsame.rest.eq_tail hrest]; simp [k, k₁]⟩
  obtain ⟨l₁', happroach', hsame₁⟩ := tracks_approach
    (isParted_of_isPlainText h.isPlainText hv rfl rfl : k₁.IsParted) (hsame.moveTail hboth)
    _ _ happroach (congrArg List.length hrest₁).ge
  have htokens₁ : l₁.tokens = l₁'.tokens := by
    obtain ⟨more, heq, heq'⟩ := hsame₁.tokens
    exact heq.trans heq'.symm
  -- After the value they are the same again.
  obtain ⟨l₂', l₃', more, htoken', hall', hmore, hmore'⟩ := takeAll_of_values h.isPlainText hv
    h.endsLine hsame₁ htokens₁ hrest₁ (hsame₁.rest.eq_tail hrest₁) hsame₁.cursor.index hkeys₁
    hindent₁ hcolumn₁ htoken hscalar hall
  have hallowed' : (before ++ gap ++ v.toList ++ back).all isAllowed = true := by
    simp only [List.all_append, Bool.and_eq_true] at hallowed ⊢
    exact ⟨⟨hallowed.1.1, isAllowed_of_isPlainText hv⟩, hallowed.2⟩
  have hfuel : n + (m + 1) ≤ (before ++ gap ++ v.toList ++ back).length + 1 := by
    rw [← hm]
    simp only [List.length_append]
    omega
  have hrun : (takeAll (n + (m + 1))).run
      { cursor := startOf (before ++ gap ++ v.toList ++ back) } = some ((), l₃') := by
    rw [takeAll_of_takeSome hsome', takeAll_succ, IsLocal.run_bind_of_run happroach',
      takeHere_of_takeToken htoken', hall']
  refine ⟨l₁.tokens, more, hmore, ?_⟩
  rw [if_pos hallowed', takeAll_mono hfuel hrun, ← hmore']
  rfl

end FeedSync.Yaml
