import FeedSync.Proofs.Yaml.Fork

/-!
# Tags in a part in common

The characters of a tag, plain or written as the bytes of their encoding, are taken alike from two
texts that part behind them.

## Main statements

* `Lexer.takeTagChars_of_both`: the characters of a tag.
-/

namespace FeedSync.Yaml

namespace Lexer

variable {k : Fork} {n n' : Nat} {r r' u : List Char}

theorem takeEscapedBytes_succ {bytes : List Nat}
    (h : takeEscapedBytes (n + 1) r = some (bytes, u)) :
    ∃ a b v byte more, r = '%' :: a :: b :: v ∧ Text.numberIn? 16 [a, b] = some byte ∧
      takeEscapedBytes n v = some (more, u) ∧ bytes = byte :: more := by
  unfold takeEscapedBytes at h
  split at h
  · nomatch ‹n + 1 = 0›
  · rename_i a b v hsucc
    obtain rfl := Nat.succ.inj hsucc
    obtain ⟨byte, hbyte, h⟩ := Option.bind_eq_some_iff.mp h
    obtain ⟨⟨more, u'⟩, hmore, h⟩ := Option.bind_eq_some_iff.mp h
    cases h
    exact ⟨a, b, v, byte, more, rfl, hbyte, hmore, rfl⟩
  · nomatch h

theorem length_takeEscapedBytes {bytes : List Nat} (h : takeEscapedBytes n r = some (bytes, u)) :
    u.length + 3 * n = r.length := by
  induction n generalizing r bytes with
  | zero =>
    obtain ⟨-, rfl⟩ : [] = bytes ∧ r = u := by simpa [takeEscapedBytes] using h
    rfl
  | succ n ih =>
    obtain ⟨a, b, v, byte, more, rfl, -, hmore, -⟩ := takeEscapedBytes_succ h
    have := ih hmore
    simp only [List.length_cons]
    omega

theorem takeEscapedBytes_of_both {bytes : List Nat} (h : k.Both r r')
    (htaken : takeEscapedBytes n r = some (bytes, u)) (hn : k.tail.length ≤ u.length) :
    ∃ u', takeEscapedBytes n r' = some (bytes, u') ∧ k.Both u u' := by
  induction n generalizing r r' bytes with
  | zero =>
    obtain ⟨rfl, rfl⟩ : [] = bytes ∧ r = u := by simpa [takeEscapedBytes] using htaken
    exact ⟨r', rfl, h⟩
  | succ n ih =>
    obtain ⟨a, b, v, byte, more, rfl, hbyte, hmore, rfl⟩ := takeEscapedBytes_succ htaken
    have hlen := length_takeEscapedBytes hmore
    obtain ⟨v₁, rfl, h₁⟩ := h.of_cons (by simp only [List.length_cons]; omega)
    obtain ⟨v₂, rfl, h₂⟩ := h₁.of_cons (by simp only [List.length_cons]; omega)
    obtain ⟨v₃, rfl, h₃⟩ := h₂.of_cons (by omega)
    obtain ⟨u', hmore', hboth⟩ := ih h₃ hmore
    exact ⟨u', by simp [takeEscapedBytes, hbyte, hmore'], hboth⟩

theorem pos_of_utf8Width? {b width : Nat} (h : utf8Width? b = some width) : 0 < width := by
  unfold utf8Width? at h
  split_ifs at h <;> cases h <;> decide

theorem takeEscapedChar_eq (r : List Char) :
    takeEscapedChar r =
      (takeEscapedBytes 1 r).bind fun first => (utf8Width? (first.1.headD 0)).bind fun width =>
        (takeEscapedBytes width r).bind fun taken =>
          if (taken.1.drop 1).any fun b => b / 0x40 != 2 then none
          else some (((String.fromUTF8? (ByteArray.mk (taken.1.map UInt8.ofNat).toArray)).bind
            (·.toList.head?)).getD '\ufffd', taken.2) := rfl

theorem length_takeEscapedChar_lt {c : Char} (h : takeEscapedChar r = some (c, u)) :
    u.length < r.length := by
  rw [takeEscapedChar_eq] at h
  obtain ⟨_, _, h⟩ := Option.bind_eq_some_iff.mp h
  obtain ⟨width, hwidth, h⟩ := Option.bind_eq_some_iff.mp h
  obtain ⟨⟨bytes, v⟩, hbytes, h⟩ := Option.bind_eq_some_iff.mp h
  have hpos := pos_of_utf8Width? hwidth
  have hlen := length_takeEscapedBytes hbytes
  split_ifs at h
  cases h
  dsimp only
  omega

theorem takeEscapedChar_of_both {c : Char} (h : k.Both r r')
    (htaken : takeEscapedChar r = some (c, u)) (hn : k.tail.length ≤ u.length) :
    ∃ u', takeEscapedChar r' = some (c, u') ∧ k.Both u u' := by
  rw [takeEscapedChar_eq] at htaken
  rw [takeEscapedChar_eq]
  obtain ⟨⟨first, v⟩, hfirst, htaken⟩ := Option.bind_eq_some_iff.mp htaken
  obtain ⟨width, hwidth, htaken⟩ := Option.bind_eq_some_iff.mp htaken
  obtain ⟨⟨bytes, w⟩, hbytes, htaken⟩ := Option.bind_eq_some_iff.mp htaken
  have hpos := pos_of_utf8Width? hwidth
  have hlen := length_takeEscapedBytes hfirst
  have hlen' := length_takeEscapedBytes hbytes
  dsimp only at htaken
  split_ifs at htaken with hrest
  cases htaken
  obtain ⟨v', hfirst', -⟩ := takeEscapedBytes_of_both h hfirst (by omega)
  obtain ⟨w', hbytes', hboth⟩ := takeEscapedBytes_of_both h hbytes hn
  refine ⟨w', ?_, hboth⟩
  rw [hfirst', Option.bind_some, hwidth, Option.bind_some, hbytes', Option.bind_some]
  exact if_neg hrest

theorem takeTagChars_succ (isVerbatim : Bool) (x : Char) :
    takeTagChars isVerbatim (n + 1) (x :: r) =
      if x == '%' then (takeEscapedChar (x :: r)).bind fun first =>
        (takeTagChars isVerbatim n first.2).bind fun more => some (first.1 :: more.1, more.2)
      else if isTagChar isVerbatim x then
        (takeTagChars isVerbatim n r).bind fun more => some (x :: more.1, more.2)
      else some ([], x :: r) := by
  by_cases hx : x = '%'
  · subst hx
    rfl
  · rw [if_neg (by simpa using hx), takeTagChars]
    · rfl
    · exact hx

theorem length_takeTagChars_le {isVerbatim : Bool} {text : List Char}
    (h : takeTagChars isVerbatim n r = some (text, u)) : u.length ≤ r.length := by
  induction n generalizing r text with
  | zero =>
    obtain ⟨-, rfl⟩ : [] = text ∧ r = u := by simpa [takeTagChars] using h
    exact le_rfl
  | succ n ih =>
    cases r with
    | nil =>
      obtain ⟨-, rfl⟩ : [] = text ∧ [] = u := by simpa [takeTagChars] using h
      exact le_rfl
    | cons x r =>
      rw [takeTagChars_succ] at h
      split_ifs at h
      · obtain ⟨⟨c, v⟩, hfirst, h⟩ := Option.bind_eq_some_iff.mp h
        obtain ⟨⟨more, w⟩, hmore, h⟩ := Option.bind_eq_some_iff.mp h
        cases h
        exact (ih hmore).trans (length_takeEscapedChar_lt hfirst).le
      · obtain ⟨⟨more, w⟩, hmore, h⟩ := Option.bind_eq_some_iff.mp h
        cases h
        exact (ih hmore).trans (Nat.le_succ _)
      · cases h
        exact le_rfl

theorem takeTagChars_of_both (hk : k.IsFenced) {isVerbatim : Bool} {text : List Char}
    (h : k.Both r r') (hlen : r.length ≤ n) (hlen' : r'.length ≤ n')
    (htaken : takeTagChars isVerbatim n r = some (text, u)) (hn : k.tail.length ≤ u.length) :
    ∃ u', takeTagChars isVerbatim n' r' = some (text, u') ∧ k.Both u u' := by
  induction n generalizing n' r r' text with
  | zero =>
    obtain rfl : r = [] := List.eq_nil_of_length_eq_zero (Nat.le_zero.mp hlen)
    obtain rfl : r' = [] := List.isEmpty_iff.mp (h.isEmpty hk.isParted).symm
    obtain ⟨rfl, rfl⟩ : [] = text ∧ [] = u := by simpa [takeTagChars] using htaken
    exact ⟨[], by cases n' <;> rfl, h⟩
  | succ n ih =>
    cases r with
    | nil =>
      obtain rfl : r' = [] := List.isEmpty_iff.mp (h.isEmpty hk.isParted).symm
      obtain ⟨rfl, rfl⟩ : [] = text ∧ [] = u := by simpa [takeTagChars] using htaken
      exact ⟨[], by cases n' <;> rfl, h⟩
    | cons x r =>
      obtain ⟨v', rfl⟩ : ∃ v', r' = x :: v' :=
        List.head?_eq_some_iff.mp (by rw [← h.head? hk]; rfl)
      obtain ⟨n', rfl⟩ : ∃ m, n' = m + 1 :=
        ⟨n' - 1, by rw [List.length_cons] at hlen'; omega⟩
      simp only [List.length_cons] at hlen hlen'
      rw [takeTagChars_succ] at htaken ⊢
      split_ifs at htaken ⊢ with hescape htag
      · obtain ⟨⟨c, w⟩, hfirst, htaken⟩ := Option.bind_eq_some_iff.mp htaken
        obtain ⟨⟨more, w₁⟩, hmore, htaken⟩ := Option.bind_eq_some_iff.mp htaken
        cases htaken
        obtain ⟨w', hfirst', hboth⟩ := takeEscapedChar_of_both h hfirst
          (hn.trans (length_takeTagChars_le hmore))
        have hlt := length_takeEscapedChar_lt hfirst
        have hlt' := length_takeEscapedChar_lt hfirst'
        simp only [List.length_cons] at hlt hlt'
        obtain ⟨u', hmore', hboth'⟩ := ih hboth (by omega) (by omega : _ ≤ n') hmore
        exact ⟨u', by rw [hfirst', Option.bind_some, hmore', Option.bind_some], hboth'⟩
      · obtain ⟨⟨more, w⟩, hmore, htaken⟩ := Option.bind_eq_some_iff.mp htaken
        cases htaken
        obtain ⟨_, heq, hboth⟩ := h.of_cons (hn.trans (length_takeTagChars_le hmore))
        obtain rfl : v' = _ := (List.cons.inj heq).2
        obtain ⟨u', hmore', hboth'⟩ := ih hboth (by omega) (by omega : _ ≤ n') hmore
        exact ⟨u', by rw [hmore', Option.bind_some], hboth'⟩
      · cases htaken
        exact ⟨_, rfl, h⟩

end Lexer

end FeedSync.Yaml
