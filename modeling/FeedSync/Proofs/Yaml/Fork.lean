import FeedSync.Yaml.Token
import Mathlib.Tactic.SplitIfs
import Mathlib.Data.List.TakeWhile

/-!
# Two texts with a part in common

Two texts begin alike and part at some place, or two scans of them have come to a part that both
texts end with. As long as a scan stays in what the texts have in common it cannot tell them apart.
A scan also looks at the next character, and sometimes at one more, before it decides what to do:
so the place where the texts part must be **fenced** by a character that both have there, a blank,
a break or the mark of a comment.

## Main definitions

* `Fork`: what the two texts and their scans do not share.
* `Fork.Both`, `Fork.InStep`: the rests of the texts, and the cursors in them, at the same place.
* `Fork.Follows`: what one scan takes in the part in common, the other one takes too.
-/

namespace FeedSync.Yaml

/-- A blank, a break or the mark of a comment. -/
def isFence (c : Char) : Bool := isBlank c || isBreak c || c == '#'

/-- A class of characters that does not tell apart those that are no fences. -/
def Steady (p : Char → Bool) : Prop :=
  ∀ c c', isFence c = false → isFence c' = false → p c = p c'

/-- What two texts and the scans of them do not share: how the texts end, how far the cursors are
behind each other, and the tokens that were taken before the scans came to the same place. -/
structure Fork where
  tail : List Char
  tail' : List Char
  shift : Nat := 0
  shift' : Nat := 0
  tokens : List Token := []
  tokens' : List Token := []
  length_tokens : tokens.length = tokens'.length := by rfl

namespace Fork

variable {k : Fork} {p : Char → Bool} {r r' : List Char} {c c' : Cursor} {n : Nat}

/-- The texts part at the same fence, or both end there. -/
structure IsFenced (k : Fork) : Prop where
  head : k.tail.head? = k.tail'.head?
  isFence : ∀ c ∈ k.tail.head?, isFence c = true

/-- Whether the texts begin with a fence where they part, and with which, is the same. -/
def IsParted (k : Fork) : Prop :=
  ∀ p, Steady p → k.tail.head?.map p = k.tail'.head?.map p

theorem IsFenced.isParted (hk : k.IsFenced) : k.IsParted := fun _ _ => by rw [hk.head]

/-! ### The rests of the texts -/

/-- Two rests of the texts at the same place, not past the place where they part. -/
def Both (k : Fork) (r r' : List Char) : Prop :=
  ∃ shared, r = shared ++ k.tail ∧ r' = shared ++ k.tail'

theorem Both.map_head? (h : k.Both r r') (hp : k.tail.head?.map p = k.tail'.head?.map p) :
    r.head?.map p = r'.head?.map p := by
  obtain ⟨shared, rfl, rfl⟩ := h
  cases shared with
  | nil => exact hp
  | cons c shared => rfl

theorem Both.head? (h : k.Both r r') (hk : k.IsFenced) : r.head? = r'.head? := by
  obtain ⟨shared, rfl, rfl⟩ := h
  rw [List.head?_append, List.head?_append, hk.head]

theorem Both.isEmpty (h : k.Both r r') (hk : k.IsParted) : r.isEmpty = r'.isEmpty := by
  have := h.map_head? (hk (fun _ => true) fun _ _ _ _ => rfl)
  cases r <;> cases r' <;> simp_all

theorem Both.ne_nil (h : k.Both r r') (hk : k.IsParted) (hr : r ≠ []) : r' ≠ [] := by
  have := h.isEmpty hk
  cases r' <;> simp_all

theorem atBreak_eq (r : List Char) : atBreak r = (r.head?.map isBreak).getD true := by
  cases r <;> rfl

theorem atSpace_eq (r : List Char) :
    atSpace r = (r.head?.map fun c => isBlank c || isBreak c).getD true := by
  cases r <;> rfl

theorem steady_isBreak : Steady isBreak := by
  intro c c' h h'
  simp only [isFence, Bool.or_eq_false_iff] at h h'
  rw [h.1.2, h'.1.2]

theorem steady_isBlank : Steady isBlank := by
  intro c c' h h'
  simp only [isFence, Bool.or_eq_false_iff] at h h'
  rw [h.1.1, h'.1.1]

theorem steady_eq {x : Char} (hx : isFence x = true) : Steady (· == x) := by
  intro c c' h h'
  have hc : (c == x) = false := beq_false_of_ne (by rintro rfl; simp [hx] at h)
  have hc' : (c' == x) = false := beq_false_of_ne (by rintro rfl; simp [hx] at h')
  exact hc.trans hc'.symm

theorem Both.atBreak (h : k.Both r r') (hk : k.IsParted) : atBreak r = atBreak r' := by
  rw [atBreak_eq, atBreak_eq, h.map_head? (hk _ steady_isBreak)]

theorem Both.atSpace (h : k.Both r r') (hk : k.IsFenced) : atSpace r = atSpace r' := by
  rw [atSpace_eq, atSpace_eq, h.head? hk]

theorem Both.beq_head? (h : k.Both r r') (hk : k.IsParted) {x : Char} (hx : isFence x = true) :
    (r.head? == some x) = (r'.head? == some x) := by
  have := h.map_head? (hk _ (steady_eq hx))
  cases r <;> cases r' <;> simp_all

theorem Both.length (h : k.Both r r') : r.length + k.tail'.length = r'.length + k.tail.length := by
  obtain ⟨shared, rfl, rfl⟩ := h
  simp only [List.length_append]
  omega

theorem Both.of_cons {x : Char} {u : List Char} (h : k.Both (x :: u) r')
    (hn : k.tail.length ≤ u.length) : ∃ u', r' = x :: u' ∧ k.Both u u' := by
  obtain ⟨shared, hr, rfl⟩ := h
  cases shared with
  | nil =>
    have := congrArg List.length hr
    simp only [List.length_cons, List.nil_append] at this
    omega
  | cons y shared =>
    obtain ⟨rfl, rfl⟩ : x = y ∧ u = shared ++ k.tail := by simpa using hr
    exact ⟨_, rfl, shared, rfl, rfl⟩

/-- What goes past the shared text and keeps a whole tail has none to keep. -/
theorem tail_eq_nil_of_drop {shared : List Char} (hlt : shared.length < n)
    (hn : k.tail.length ≤ ((shared ++ k.tail).drop n).length) : k.tail = [] := by
  apply List.eq_nil_of_length_eq_zero
  simp only [List.length_drop, List.length_append] at hn
  omega

theorem Both.drop (h : k.Both r r') (hn : k.tail.length ≤ (r.drop n).length)
    (hk : k.tail = [] → k.tail' = []) : k.Both (r.drop n) (r'.drop n) := by
  obtain ⟨shared, rfl, rfl⟩ := h
  by_cases hle : n ≤ shared.length
  · exact ⟨shared.drop n, List.drop_append_of_le_length hle, List.drop_append_of_le_length hle⟩
  · have htail : k.tail = [] := tail_eq_nil_of_drop (Nat.lt_of_not_le hle) hn
    exact ⟨[], by simp [htail]; omega, by simp [htail, hk]; omega⟩

theorem Both.take (h : k.Both r r') (hn : k.tail.length ≤ (r.drop n).length)
    (hk : k.tail = [] → k.tail' = []) : r.take n = r'.take n := by
  obtain ⟨shared, rfl, rfl⟩ := h
  by_cases hle : n ≤ shared.length
  · rw [List.take_append_of_le_length hle, List.take_append_of_le_length hle]
  · have htail : k.tail = [] := tail_eq_nil_of_drop (Nat.lt_of_not_le hle) hn
    rw [htail, hk htail]

theorem takeWhile_eq_nil_iff : r.takeWhile p = [] ↔ r.head?.map p ≠ some true := by
  cases r with
  | nil => simp
  | cons x u => cases hx : p x <;> simp [hx]

/-- What is taken of a class before the place where the texts part is the same. -/
theorem Both.takeWhile (h : k.Both r r') (hp : k.tail.head?.map p = k.tail'.head?.map p)
    (hn : k.tail.length ≤ (r.drop (r.takeWhile p).length).length) :
    r.takeWhile p = r'.takeWhile p := by
  obtain ⟨shared, rfl, rfl⟩ := h
  rw [List.takeWhile_append] at hn
  rw [List.takeWhile_append, List.takeWhile_append]
  split_ifs at hn ⊢ with hall
  · have hstop : k.tail.takeWhile p = [] := by
      apply List.eq_nil_of_length_eq_zero
      have := (List.takeWhile_prefix p (l := k.tail)).length_le
      simp only [List.length_drop, List.length_append] at hn
      omega
    have hstop' : k.tail'.takeWhile p = [] := by
      rwa [takeWhile_eq_nil_iff, ← hp, ← takeWhile_eq_nil_iff]
    rw [hstop, hstop']
  · rfl

/-- The same holds if not more than a number of them are taken. -/
theorem Both.min_takeWhile (h : k.Both r r') (hp : k.tail.head?.map p = k.tail'.head?.map p)
    (hn : k.tail.length ≤ (r.drop (min (r.takeWhile p).length n)).length) :
    min (r.takeWhile p).length n = min (r'.takeWhile p).length n := by
  by_cases hall : k.tail.length ≤ (r.drop (r.takeWhile p).length).length
  · rw [h.takeWhile hp hall]
  · obtain ⟨shared, rfl, rfl⟩ := h
    rw [List.takeWhile_append] at hn hall ⊢
    rw [List.takeWhile_append]
    simp only [List.length_drop, List.length_append] at hn hall
    split_ifs at hn hall ⊢ with hshared
    · rw [List.length_append] at hn hall ⊢
      rw [List.length_append]
      omega
    · rfl

/-! ### Cursors -/

/-- Two cursors in the texts at the same place. -/
structure InStep (k : Fork) (c c' : Cursor) : Prop where
  rest : k.Both c.rest c'.rest
  index : c.index + k.shift = c'.index + k.shift'
  line : c.line = c'.line
  column : c.column = c'.column

/-- A cursor has not gone past the place where the texts part. -/
def Within (k : Fork) (c : Cursor) : Prop := k.tail.length ≤ c.rest.length

/-- What one scan takes without going past the place where the texts part, the other takes too, and
they stay at the same place. -/
def Follows {α : Type} (k : Fork) (taken taken' : Option (α × Cursor)) : Prop :=
  ∀ a c, taken = some (a, c) → k.Within c → ∃ c', taken' = some (a, c') ∧ k.InStep c c'

theorem InStep.skip (h : k.InStep c c') (hk : k.tail = [] → k.tail' = [])
    (hn : k.Within (c.skip n)) : k.InStep (c.skip n) (c'.skip n) where
  rest := h.rest.drop hn hk
  index := by
    have := h.index
    simp only [Cursor.skip]
    omega
  line := h.line
  column := congrArg (· + n) h.column

theorem IsParted.tail_eq_nil (hk : k.IsParted) (h : k.tail = []) : k.tail' = [] := by
  have := hk (fun _ => true) fun _ _ _ _ => rfl
  cases ht : k.tail' <;> simp_all

theorem InStep.skipWhile (h : k.InStep c c') (hk : k.IsParted)
    (hp : k.tail.head?.map p = k.tail'.head?.map p) (hn : k.Within (c.skipWhile p)) :
    k.InStep (c.skipWhile p) (c'.skipWhile p) := by
  rw [Cursor.skipWhile, Cursor.skipWhile, ← h.rest.takeWhile hp hn]
  exact h.skip hk.tail_eq_nil hn

end Fork

/-! ### Breaks and comments -/

namespace Cursor

/-- How many characters a break has that begins with some character. -/
def breakWidth (x : Char) (r : List Char) : Nat :=
  if x == '\r' && r.head? == some '\n' then 2 else 1

theorem takeBreak_eq {c : Cursor} {x : Char} {r : List Char} (hr : c.rest = x :: r)
    (hx : isBreak x = true) : c.takeBreak =
      (if x == '\u2028' || x == '\u2029' then [x] else ['\n'],
        { rest := c.rest.drop (breakWidth x r), index := c.index + breakWidth x r,
          line := c.line + 1, column := 0 }) := by
  unfold takeBreak breakWidth
  split
  · rename_i heq
    obtain ⟨rfl, rfl⟩ : x = '\r' ∧ r = '\n' :: _ := by simpa [hr] using heq
    rfl
  · rename_i y u hne heq
    obtain ⟨rfl, rfl⟩ : x = y ∧ r = u := by simpa [hr] using heq
    have hwidth : (x == '\r' && r.head? == some '\n') = false := by
      cases r <;> simp_all
    simp only [hwidth, hx, if_true]
    split <;> rfl
  · simp_all

theorem takeBreak_of_not {c : Cursor} (h : c.rest.head?.map isBreak ≠ some true) :
    c.takeBreak = ([], c) := by
  unfold takeBreak
  split
  · simp_all [isBreak]
  · rename_i x u hne heq
    have hx : isBreak x = false := by simpa [heq] using h
    have hmarks : (x == '\u2028' || x == '\u2029') = false := by
      simp only [isBreak, Bool.or_eq_false_iff] at hx
      simp [hx]
    rw [hmarks, hx]
    rfl
  · rfl

theorem length_takeBreak_lt {c : Cursor} (h : c.rest.head?.map isBreak = some true) :
    c.takeBreak.2.rest.length < c.rest.length := by
  cases hr : c.rest with
  | nil => simp [hr] at h
  | cons x r =>
    rw [takeBreak_eq hr (by simpa [hr] using h), ← hr]
    simp only [List.length_drop, hr, List.length_cons, breakWidth]
    split <;> omega

theorem length_takeBreak_lt_of_atBreak {c : Cursor}
    (h : (!c.rest.isEmpty && atBreak c.rest) = true) :
    c.takeBreak.2.rest.length < c.rest.length := by
  apply length_takeBreak_lt
  cases hr : c.rest with
  | nil => simp [hr] at h
  | cons x r => simpa [hr, Fork.atBreak_eq] using h

theorem length_takeBreak_le (c : Cursor) : c.takeBreak.2.rest.length ≤ c.rest.length := by
  by_cases h : c.rest.head?.map isBreak = some true
  · exact (length_takeBreak_lt h).le
  · rw [takeBreak_of_not h]

theorem length_skip_le (c : Cursor) (n : Nat) : (c.skip n).rest.length ≤ c.rest.length :=
  (List.drop_sublist n c.rest).length_le

theorem length_skipComment_le (c : Cursor) : c.skipComment.rest.length ≤ c.rest.length := by
  unfold skipComment
  split
  · exact c.length_skip_le _
  · exact le_rfl

theorem length_skipLineEnd_le {c c₁ : Cursor} (h : c.skipLineEnd = some c₁) :
    c₁.rest.length ≤ c.rest.length := by
  unfold skipLineEnd at h
  dsimp only at h
  split_ifs at h
  cases h
  exact (length_takeBreak_le _).trans ((length_skipComment_le _).trans (c.length_skip_le _))

/-- Something is taken of every line. -/
theorem length_takeLine_lt {c : Cursor} (h : c.rest ≠ []) :
    (c.skipWhile (!isBreak ·)).takeBreak.2.rest.length < c.rest.length := by
  obtain ⟨x, r, hr⟩ := List.exists_cons_of_ne_nil h
  by_cases hx : isBreak x = true
  · have hsame : c.skipWhile (!isBreak ·) = c := by
      rw [skipWhile, hr, List.takeWhile_cons_of_neg (by simp [hx])]
      rfl
    rw [hsame]
    exact length_takeBreak_lt (by simp [hr, hx])
  · refine (length_takeBreak_le _).trans_lt ?_
    change (c.rest.drop (c.rest.takeWhile (!isBreak ·)).length).length < c.rest.length
    rw [List.length_drop, hr, List.takeWhile_cons_of_pos (by simp [hx]), List.length_cons,
      List.length_cons]
    omega

end Cursor

namespace Fork

variable {k : Fork} {p : Char → Bool} {c c' : Cursor} {n : Nat}

/-- Breaks are taken alike. -/
theorem InStep.takeBreak (h : k.InStep c c') (hk : k.IsParted) (hn : k.Within c.takeBreak.2) :
    c.takeBreak.1 = c'.takeBreak.1 ∧ k.InStep c.takeBreak.2 c'.takeBreak.2 := by
  have hhead := h.rest.map_head? (hk _ steady_isBreak)
  by_cases hbreak : c.rest.head?.map isBreak = some true
  · obtain ⟨shared, hr, hr'⟩ := h.rest
    cases shared with
    | nil =>
      have := Cursor.length_takeBreak_lt hbreak
      rw [Within] at hn
      rw [hr, List.nil_append] at this
      omega
    | cons x s =>
      have hx : isBreak x = true := by simpa [hr] using hbreak
      have hwidth : Cursor.breakWidth x (s ++ k.tail) = Cursor.breakWidth x (s ++ k.tail') := by
        rw [Cursor.breakWidth, Cursor.breakWidth,
          Both.beq_head? ⟨s, rfl, rfl⟩ hk (by decide : isFence '\n' = true)]
      rw [List.cons_append] at hr hr'
      rw [Cursor.takeBreak_eq hr hx] at hn ⊢
      rw [Cursor.takeBreak_eq hr' hx, ← hwidth]
      refine ⟨rfl, h.rest.drop hn hk.tail_eq_nil, ?_, congrArg (· + 1) h.line, rfl⟩
      have := h.index
      dsimp only
      omega
  · rw [Cursor.takeBreak_of_not hbreak, Cursor.takeBreak_of_not (hhead ▸ hbreak)]
    exact ⟨rfl, h⟩

theorem InStep.skipBreak (h : k.InStep c c') (hk : k.IsParted) (hn : k.Within c.skipBreak) :
    k.InStep c.skipBreak c'.skipBreak := (h.takeBreak hk hn).2

theorem InStep.skipBlanks (h : k.InStep c c') (hk : k.IsParted) (hn : k.Within c.skipBlanks) :
    k.InStep c.skipBlanks c'.skipBlanks :=
  h.skipWhile hk (hk _ steady_isBlank) hn

/-- Comments are taken alike. -/
theorem InStep.skipComment (h : k.InStep c c') (hk : k.IsParted) (hn : k.Within c.skipComment) :
    k.InStep c.skipComment c'.skipComment := by
  unfold Cursor.skipComment at hn ⊢
  rw [← h.rest.beq_head? hk (by decide : isFence '#' = true)]
  split_ifs at hn ⊢ with hmark
  · refine h.skipWhile hk (hk _ fun x x' hx hx' => ?_) hn
    rw [steady_isBreak x x' hx hx']
  · exact h

/-- Line ends are taken alike. -/
theorem InStep.skipLineEnd (h : k.InStep c c') (hk : k.IsParted) {c₁ : Cursor}
    (htaken : c.skipLineEnd = some c₁) (hwithin : k.Within c₁) :
    ∃ c₁', c'.skipLineEnd = some c₁' ∧ k.InStep c₁ c₁' := by
  unfold Cursor.skipLineEnd at htaken ⊢
  dsimp only at htaken ⊢
  split_ifs at htaken with hend
  cases htaken
  have hcomment : k.Within c.skipBlanks.skipComment :=
    hwithin.trans (Cursor.length_takeBreak_le _)
  have hblanks : k.Within c.skipBlanks := hcomment.trans (Cursor.length_skipComment_le _)
  have hstep := (h.skipBlanks hk hblanks).skipComment hk hcomment
  rw [← hstep.rest.atBreak hk, if_pos hend]
  exact ⟨_, rfl, hstep.skipBreak hk hwithin⟩

end Fork

end FeedSync.Yaml
