import FeedSync.Proofs.Yaml.Locality

/-!
# Scans that go on after each other

The scan of a whole text takes one token after the other. It can be stopped after any number of them
and go on from there, and each part of it is a local step.

## Main definitions

* `Lexer.takeSome`: the part of a scan that takes some tokens.

## Main statements

* `Lexer.isLocal_takeAll`: the scan of a whole text is local.
* `Lexer.takeAll_of_takeSome`: a scan that has taken some tokens goes on to take all.
-/

namespace FeedSync.Yaml.Lexer

open IsLocal (run_bind_eq_some run_bind_of_run)

variable {k : Fork} {m n : Nat} {l l' l₁ l₂ : Lexer}

/-! ### Coming to the next token -/

theorem tracks_approach (hk : k.IsParted) (h : k.SameState l l') :
    k.Tracks l l' approach approach := by
  intro a l₃ hrun hwithin
  obtain ⟨_, l₁, htoken, hrun⟩ := run_bind_eq_some hrun
  obtain ⟨_, l₂, hdrop, hrun⟩ := run_bind_eq_some hrun
  cases hrun
  rw [cursor_endBlocks] at hwithin
  obtain ⟨l₁', htoken', h₁⟩ :=
    tracks_toToken hk h _ _ htoken (hwithin.trans (isLocal_dropStaleKeys.shrinks hdrop))
  obtain ⟨l₂', hdrop', h₂⟩ := tracks_dropStaleKeys h₁ _ _ hdrop hwithin
  refine ⟨_, by rw [approach, run_bind_of_run htoken', run_bind_of_run hdrop']; rfl, ?_⟩
  rw [← h₂.column]
  exact sameState_endBlocks h₂ _

theorem isLocal_approach : IsLocal approach where
  shrinks h := by
    obtain ⟨_, l₁, htoken, h⟩ := run_bind_eq_some h
    obtain ⟨_, l₂, hdrop, h⟩ := run_bind_eq_some h
    cases h
    rw [rest, cursor_endBlocks]
    exact (isLocal_dropStaleKeys.shrinks hdrop).trans (isLocal_toToken.shrinks htoken)
  tracks hk _ _ h := tracks_approach hk.isParted h

theorem isLocal_takeHere (hlocal : IsLocal (takeAll n)) : IsLocal (takeHere n) :=
  .of_get (fun _ => .ite isLocal_endAll (.bind isLocal_takeToken fun _ => hlocal)) fun hk h => by
    rw [h.rest.isEmpty hk.isParted]

theorem isLocal_takeAll (n : Nat) : IsLocal (takeAll n) := by
  induction n with
  | zero => exact .failure
  | succ n ih =>
    rw [takeAll_succ]
    exact .bind isLocal_approach fun _ => isLocal_takeHere ih

/-! ### Some tokens, and those after them -/

/-- Takes the next tokens, as many as a number. -/
def takeSome : (n : Nat) → Lex Unit
  | 0 => return
  | n + 1 => do
    approach
    takeToken
    takeSome n

theorem isLocal_takeSome (n : Nat) : IsLocal (takeSome n) := by
  induction n with
  | zero => exact .pure ()
  | succ n ih =>
    exact .bind isLocal_approach fun _ => .bind isLocal_takeToken fun _ => ih

/-- No token begins at the end of a text. -/
theorem takeToken_of_nil (h : l.rest = []) : takeToken.run l = none := by
  rw [takeToken_eq, StateT.run_bind, StateT.run_get, pure_bind, h]
  refine congrArg (StateT.run · l) (?_ : _ = (failure : Lex Unit))
  simp [tokenAt, atDocumentMark]

theorem takeHere_of_takeToken (h : takeToken.run l = some ((), l₁)) :
    (takeHere n).run l = (takeAll n).run l₁ := by
  have hrest : l.rest.isEmpty = false := by
    rw [List.isEmpty_eq_false_iff]
    intro hnil
    rw [takeToken_of_nil hnil] at h
    cases h
  rw [takeHere, StateT.run_bind, StateT.run_get, pure_bind, hrest, if_neg Bool.false_ne_true,
    run_bind_of_run h]

/-- **A scan that has taken some tokens** goes on to take all. -/
theorem takeAll_of_takeSome (h : (takeSome n).run l = some ((), l₁)) :
    (takeAll (n + m)).run l = (takeAll m).run l₁ := by
  induction n generalizing l with
  | zero =>
    cases h
    rw [Nat.zero_add]
  | succ n ih =>
    obtain ⟨_, l₂, happroach, h⟩ := run_bind_eq_some h
    obtain ⟨_, l₃, htoken, h⟩ := run_bind_eq_some h
    rw [Nat.succ_add, takeAll_succ, run_bind_of_run happroach, takeHere_of_takeToken htoken, ih h]

/-- There is fuel left after some tokens, if it was enough for all. -/
theorem lt_of_takeSome (h : (takeSome n).run l = some ((), l₁))
    (hall : (takeAll m).run l = some ((), l₂)) : n < m := by
  by_contra hle
  obtain ⟨i, rfl⟩ : ∃ i, n = m + i := ⟨n - m, by omega⟩
  clear hle
  induction m generalizing l with
  | zero => cases hall
  | succ m ih =>
    rw [Nat.succ_add] at h
    obtain ⟨_, l₃, happroach, h⟩ := run_bind_eq_some h
    obtain ⟨_, l₄, htoken, h⟩ := run_bind_eq_some h
    rw [takeAll_succ, run_bind_of_run happroach, takeHere_of_takeToken htoken] at hall
    exact ih hall h

/-- More fuel does no harm. -/
theorem takeAll_mono (hle : m ≤ n) (h : (takeAll m).run l = some ((), l₁)) :
    (takeAll n).run l = some ((), l₁) := by
  induction m generalizing n l with
  | zero => cases h
  | succ m ih =>
    obtain ⟨n, rfl⟩ : ∃ i, n = i + 1 := ⟨n - 1, by omega⟩
    rw [takeAll_succ] at h ⊢
    obtain ⟨_, l₂, happroach, h⟩ := run_bind_eq_some h
    rw [run_bind_of_run happroach]
    rw [takeHere, StateT.run_bind, StateT.run_get, pure_bind] at h ⊢
    split_ifs at h ⊢
    · exact h
    · obtain ⟨_, l₃, htoken, h⟩ := run_bind_eq_some h
      rw [run_bind_of_run htoken]
      exact ih (by omega) h

end FeedSync.Yaml.Lexer
