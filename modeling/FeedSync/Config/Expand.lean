/-!
# References to environment variables

A reference is `$` and a name in braces. Expanding a text replaces each reference by the value of
its variable, in one pass from the left: values are put in as they are and not looked at again, and
everything that is no reference stays.
-/

namespace FeedSync

/-- The values of environment variables. -/
abbrev Environment := String → Option String

namespace Config

/-- A character that may begin the name of a variable. -/
def isNameStart (c : Char) : Bool := c.isAlpha || c == '_'

/-- A character that may stand in the name of a variable. -/
def isNameChar (c : Char) : Bool := c.isAlphanum || c == '_'

/-- The name of the reference at the start of a text, and what follows the reference. -/
def reference? : List Char → Option (List Char × List Char)
  | '$' :: '{' :: c :: cs =>
    if isNameStart c then
      match cs.dropWhile isNameChar with
      | '}' :: rest => some (c :: cs.takeWhile isNameChar, rest)
      | _ => none
    else none
  | _ => none

theorem length_dropWhile_le {α : Type} (p : α → Bool) (xs : List α) :
    (xs.dropWhile p).length ≤ xs.length := by
  induction xs with
  | nil => simp
  | cons x xs ih =>
    simp only [List.dropWhile_cons]
    split
    · simp only [List.length_cons]; omega
    · simp

/-- What follows a reference is shorter than the text. -/
theorem length_of_reference? {cs name rest : List Char} (h : reference? cs = some (name, rest)) :
    rest.length < cs.length := by
  unfold reference? at h
  split at h
  · rename_i c cs
    split at h
    · split at h
      · rename_i hd
        have := length_dropWhile_le isNameChar cs
        rw [hd] at this
        simp only [Option.some.injEq, Prod.mk.injEq] at h
        obtain ⟨-, rfl⟩ := h
        simp only [List.length_cons] at this ⊢
        omega
      · simp at h
    · simp at h
  · simp at h

/-- A piece of a text: a reference to a variable, or any other character. -/
inductive Piece where
  | reference (name : List Char)
  | other (c : Char)
  deriving DecidableEq, Repr

/-- The pieces of a text. -/
def pieces (cs : List Char) : List Piece :=
  match cs with
  | [] => []
  | c :: cs =>
    match h : reference? (c :: cs) with
    | some (name, rest) =>
      have : rest.length ≤ cs.length := Nat.le_of_lt_succ (length_of_reference? h)
      .reference name :: pieces rest
    | none => .other c :: pieces cs
termination_by cs.length

/-- What a piece becomes. A variable that is not set is empty. -/
def Piece.expand (env : Environment) : Piece → List Char
  | .reference name => ((env (String.ofList name)).getD "").toList
  | .other c => [c]

/-- A text with its references replaced by the values of their variables. -/
def expand (env : Environment) (text : String) : String :=
  String.ofList ((pieces text.toList).flatMap (Piece.expand env))

end Config

end FeedSync
