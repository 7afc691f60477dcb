import FeedSync.Text.Percent

/-!
# What percent-encoded texts stand for

The octets that a percent-encoded text stands for, compared with the octets of the text itself. An
escape makes them fewer, and nothing else makes a difference; so a text stands for itself exactly if
it holds no escape.

## Main statements

* `length_percentDecode_le` — decoding makes no text longer.
* `percentDecode_eq_octets_iff` — which texts stand for themselves.
-/

namespace FeedSync.Text

/-- The octets of a text in UTF-8. -/
def octets (cs : List Char) : List UInt8 := cs.flatMap fun c => (String.singleton c).toUTF8.toList

/-- Whether a text holds an escape: a percent sign with two hexadecimal digits after it. -/
def hasEscape : List Char → Bool
  | '%' :: a :: b :: rest =>
    ((hexValue? a).isSome && (hexValue? b).isSome) || hasEscape (a :: b :: rest)
  | _ :: rest => hasEscape rest
  | [] => false

/-! ### Octets -/

/-- The bytes of an array as a list, from a position on. -/
theorem toList_loop (bytes : ByteArray) (i : Nat) (taken : List UInt8) :
    ByteArray.toList.loop bytes i taken = taken.reverse ++ bytes.data.toList.drop i := by
  induction h : bytes.size - i generalizing i taken with
  | zero =>
      rw [ByteArray.toList.loop, if_neg (by omega), List.drop_eq_nil_of_le]
      · exact (List.append_nil _).symm
      · rw [Array.length_toList]
        change bytes.size ≤ i
        omega
  | succ n ih =>
      have hlt : i < bytes.size := by omega
      have hlist : i < bytes.data.toList.length := hlt
      have hget : bytes.get! i = bytes.data.toList[i] := by
        change bytes.data[i]! = _
        rw [getElem!_pos bytes.data i hlt, Array.getElem_toList]
      rw [ByteArray.toList.loop, if_pos hlt, ih _ _ (by omega), List.reverse_cons,
        List.append_assoc, hget, List.singleton_append, List.getElem_cons_drop]

/-- The octets of a character. -/
theorem octets_singleton (c : Char) :
    (String.singleton c).toUTF8.toList = String.utf8EncodeChar c := by
  rw [ByteArray.toList, toList_loop]
  simp [List.utf8Encode_singleton]

/-- The octets of a text are those that the core library encodes it as. -/
theorem octets_eq (cs : List Char) : octets cs = cs.flatMap String.utf8EncodeChar := by
  simp only [octets, octets_singleton]

theorem octets_append (cs ds : List Char) : octets (cs ++ ds) = octets cs ++ octets ds :=
  List.flatMap_append

theorem octets_cons (c : Char) (cs : List Char) :
    octets (c :: cs) = (String.singleton c).toUTF8.toList ++ octets cs :=
  List.flatMap_cons

/-- A character has at least one octet. -/
theorem length_octets_cons (c : Char) (cs : List Char) :
    (octets cs).length < (octets (c :: cs)).length := by
  have hpos := List.length_pos_iff.mpr (String.utf8EncodeChar_ne_nil (c := c))
  rw [octets_cons, octets_singleton, List.length_append]
  omega

/-- Octets are a text exactly if they are its octets. -/
theorem fromUTF8?_toByteArray_iff {bytes : List UInt8} {s : String} :
    String.fromUTF8? bytes.toByteArray = some s ↔ bytes = octets s.toList := by
  have hbytes : s.toByteArray = (octets s.toList).toByteArray := by
    rw [octets_eq, ← String.utf8Encode_toList, List.utf8Encode]
  have hinj : bytes.toByteArray = s.toByteArray ↔ bytes = octets s.toList := by
    rw [hbytes]
    constructor
    · intro h
      simpa using congrArg (fun bytes : ByteArray => bytes.data.toList) h
    · exact congrArg List.toByteArray
  rw [← hinj, String.fromUTF8?]
  split
  · rw [Option.some.injEq, ← String.toByteArray_inj]
    rfl
  · next h =>
      refine iff_of_false nofun fun heq => h ?_
      rw [heq]
      exact s.isValidUTF8

/-! ### Decoding -/

/-- Decoding keeps a text without escapes, and makes any other one shorter. -/
theorem percentDecode_cases (cs : List Char) :
    (hasEscape cs = false ∧ percentDecode cs = octets cs) ∨
      (hasEscape cs = true ∧ (percentDecode cs).length < (octets cs).length) := by
  fun_induction percentDecode cs with
  | case1 a b rest x y hy hx ih =>
      refine .inr ⟨by simp [hasEscape, hx, hy], ?_⟩
      have hle : (percentDecode rest).length ≤ (octets rest).length := by
        rcases ih with ⟨-, h⟩ | ⟨-, h⟩
        · exact Nat.le_of_eq (congrArg List.length h)
        · exact Nat.le_of_lt h
      have h₁ := length_octets_cons '%' (a :: b :: rest)
      have h₂ := length_octets_cons a (b :: rest)
      have h₃ := length_octets_cons b rest
      rw [List.length_cons]
      omega
  | case2 a b rest h ih =>
      have hfirst : ((hexValue? a).isSome && (hexValue? b).isSome) = false := by
        cases hx : hexValue? a with
        | none => rfl
        | some x =>
            cases hy : hexValue? b with
            | none => rfl
            | some y => exact absurd hy (h x y hx)
      rw [hasEscape, hfirst, Bool.false_or, octets_cons]
      have hpercent : (String.singleton '%').toUTF8.toList = ['%'.toNat.toUInt8] := by
        rw [octets_singleton]
        decide
      rw [hpercent]
      rcases ih with ⟨hnone, heq⟩ | ⟨hsome, hlt⟩
      · exact .inl ⟨hnone, congrArg _ heq⟩
      · exact .inr ⟨hsome, Nat.succ_lt_succ hlt⟩
  | case3 c rest h ih =>
      rw [hasEscape, octets_cons]
      · rcases ih with ⟨hnone, heq⟩ | ⟨hsome, hlt⟩
        · exact .inl ⟨hnone, congrArg _ heq⟩
        · refine .inr ⟨hsome, ?_⟩
          rw [List.length_append, List.length_append]
          omega
      · exact h
  | case4 => exact .inl ⟨rfl, rfl⟩

/-- Decoding makes no text longer. -/
theorem length_percentDecode_le (cs : List Char) :
    (percentDecode cs).length ≤ (octets cs).length := by
  rcases percentDecode_cases cs with ⟨-, h⟩ | ⟨-, h⟩
  · exact Nat.le_of_eq (congrArg List.length h)
  · exact Nat.le_of_lt h

/-- **A text stands for itself exactly if it holds no escape.** -/
theorem percentDecode_eq_octets_iff {cs : List Char} :
    percentDecode cs = octets cs ↔ hasEscape cs = false := by
  rcases percentDecode_cases cs with ⟨hnone, heq⟩ | ⟨hsome, hlt⟩
  · exact iff_of_true heq hnone
  · refine iff_of_false (fun heq => ?_) (by rw [hsome]; nofun)
    rw [heq] at hlt
    exact Nat.lt_irrefl _ hlt

/-- A text without percent signs holds no escape. -/
theorem hasEscape_eq_false {cs : List Char} (h : '%' ∉ cs) : hasEscape cs = false := by
  fun_induction hasEscape cs with
  | case1 a b rest ih => exact absurd List.mem_cons_self h
  | case2 c rest _ ih => exact ih fun hmem => h (List.mem_cons_of_mem c hmem)
  | case3 => rfl

end FeedSync.Text
