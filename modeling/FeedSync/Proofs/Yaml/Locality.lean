import FeedSync.Proofs.Yaml.Scalars
import FeedSync.Proofs.Yaml.Tags
import Mathlib.Data.List.Forall2

/-!
# Tokens in a part in common

Two scans that know the same, but for what their texts do not share, take the same token as long as
the one that is known to take it does not go past the place where the texts part. This is so for
each kind of token, and a scan that takes one after the other only repeats it.

## Main definitions

* `Fork.SameState`: scans that know the same but for what their texts do not share.
* `IsLocal`: a step that does the same in both of any two such scans.

## Main statements

* `Lexer.isLocal_takeToken`: taking the next token is such a step.
-/

namespace FeedSync.Yaml

variable {k : Fork} {α β : Type}

/-! ### Two scans at the same place -/

/-- The places of a key that two scans have noted. -/
structure Fork.SameKey (k : Fork) (key key' : PossibleKey) : Prop where
  position : key.position = key'.position
  after : k.tokens.length ≤ key.position
  isRequired : key.isRequired = key'.isRequired
  index : key.start.index + k.shift = key'.start.index + k.shift'
  line : key.start.line = key'.start.line
  column : key.start.column = key'.start.column

/-- Two scans that know the same but for what their texts do not share. -/
structure Fork.SameState (k : Fork) (l l' : Lexer) : Prop where
  cursor : k.InStep l.cursor l'.cursor
  tokens : ∃ more, l.tokens = k.tokens ++ more ∧ l'.tokens = k.tokens' ++ more
  indents : l.indents = l'.indents
  allowsKey : l.allowsKey = l'.allowsKey
  keys : List.Forall₂ (Option.Rel k.SameKey) l.keys l'.keys

/-- What one scan does from its state without going past the place where the texts part, another
one does from its state. -/
def Fork.Tracks (k : Fork) (l l' : Lexer) (m m' : Lex α) : Prop :=
  ∀ a l₁, m.run l = some (a, l₁) → k.Within l₁.cursor →
    ∃ l₁', m'.run l' = some (a, l₁') ∧ k.SameState l₁ l₁'

/-- **A local step** goes only forward, and does the same wherever it stays in a part in common. -/
structure IsLocal (m : Lex α) : Prop where
  shrinks : ∀ {l a l₁}, m.run l = some (a, l₁) → l₁.rest.length ≤ l.rest.length
  tracks : ∀ {k : Fork}, k.IsFenced → ∀ {l l'}, k.SameState l l' → k.Tracks l l' m m

namespace Fork.SameState

variable {l l' : Lexer} (h : k.SameState l l')

include h

theorem inFlow : l.inFlow = l'.inFlow := by
  rw [Lexer.inFlow, Lexer.inFlow, h.keys.length_eq]

theorem indent : l.indent = l'.indent := by rw [Lexer.indent, Lexer.indent, h.indents]

theorem column : l.cursor.column = l'.cursor.column := h.cursor.column

theorem rest : k.Both l.rest l'.rest := h.cursor.rest

theorem length_tokens : l.tokens.length = l'.tokens.length := by
  obtain ⟨more, heq, heq'⟩ := h.tokens
  rw [heq, heq', List.length_append, List.length_append, k.length_tokens]

end Fork.SameState

/-! ### Steps in a row -/

namespace IsLocal

theorem pure (a : α) : IsLocal (Pure.pure a : Lex α) where
  shrinks h := by
    cases h
    exact le_rfl
  tracks _ _ l' h a l₁ hrun _ := by
    cases hrun
    exact ⟨l', rfl, h⟩

theorem failure : IsLocal (failure : Lex α) where
  shrinks h := by cases h
  tracks _ _ _ _ _ _ hrun := by cases hrun

theorem run_bind_eq_some {m : Lex α} {f : α → Lex β} {l l₂ : Lexer} {b : β}
    (h : (m >>= f).run l = some (b, l₂)) :
    ∃ a l₁, m.run l = some (a, l₁) ∧ (f a).run l₁ = some (b, l₂) := by
  obtain ⟨⟨a, l₁⟩, hm, hf⟩ := Option.bind_eq_some_iff.mp h
  exact ⟨a, l₁, hm, hf⟩

theorem run_bind_of_run {m : Lex α} {f : α → Lex β} {l l₁ : Lexer} {a : α}
    (h : m.run l = some (a, l₁)) : (m >>= f).run l = (f a).run l₁ := by
  rw [StateT.run_bind, h]
  rfl

theorem bind {m : Lex α} {f : α → Lex β} (hm : IsLocal m) (hf : ∀ a, IsLocal (f a)) :
    IsLocal (m >>= f) where
  shrinks h := by
    obtain ⟨a, l₁, hrun, hrun₁⟩ := run_bind_eq_some h
    exact ((hf a).shrinks hrun₁).trans (hm.shrinks hrun)
  tracks hk l l' h b l₂ hrun hwithin := by
    obtain ⟨a, l₁, hrun, hrun₁⟩ := run_bind_eq_some hrun
    obtain ⟨l₁', hrun', h₁⟩ := hm.tracks hk h _ _ hrun (hwithin.trans ((hf a).shrinks hrun₁))
    obtain ⟨l₂', hrun₁', h₂⟩ := (hf a).tracks hk h₁ _ _ hrun₁ hwithin
    exact ⟨l₂', by rw [run_bind_of_run hrun', hrun₁'], h₂⟩

theorem ite {c : Prop} [Decidable c] {m m' : Lex α} (hm : IsLocal m) (hm' : IsLocal m') :
    IsLocal (if c then m else m') := by
  split
  · exact hm
  · exact hm'

/-- A step that looks only at what two scans know alike. -/
theorem of_get {f : Lexer → Lex α} (hf : ∀ l, IsLocal (f l))
    (heq : ∀ {k : Fork} {l l'}, k.IsFenced → k.SameState l l' → f l = f l') :
    IsLocal (get >>= f) where
  shrinks {l _ _} h := (hf l).shrinks h
  tracks hk l l' h a l₁ hrun hwithin := by
    have hrun : (f l).run l = some (a, l₁) := hrun
    obtain ⟨l₁', hrun', h₁⟩ := (hf l).tracks hk h _ _ hrun hwithin
    exact ⟨l₁', (congrArg (StateT.run · l') (heq hk h)).symm.trans hrun', h₁⟩

theorem modify {f : Lexer → Lexer} (hshrinks : ∀ l, (f l).rest.length ≤ l.rest.length)
    (hsame : ∀ {k : Fork} {l l'}, k.IsFenced → k.SameState l l' → k.Within (f l).cursor →
      k.SameState (f l) (f l')) :
    IsLocal (modify f : Lex Unit) where
  shrinks {l _ _} h := by
    cases h
    exact hshrinks l
  tracks hk l l' h _ l₁ hrun hwithin := by
    cases hrun
    exact ⟨_, rfl, hsame hk h hwithin⟩

end IsLocal

namespace Lexer

open IsLocal (run_bind_eq_some run_bind_of_run)

theorem isLocal_demand (condition : Bool) : IsLocal (demand condition) := by
  cases condition
  · exact .failure
  · exact .pure ()

theorem isLocal_skip (n : Nat) : IsLocal (skip n) :=
  .modify (fun l => l.cursor.length_skip_le n) fun hk h hwithin =>
    { h with cursor := h.cursor.skip hk.isParted.tail_eq_nil hwithin }

theorem isLocal_emit (token : Token) : IsLocal (emit token) :=
  .modify (fun _ => le_rfl) fun _ h _ =>
    { h with
      tokens := by
        obtain ⟨more, heq, heq'⟩ := h.tokens
        exact ⟨more ++ [token], by simp [heq], by simp [heq']⟩ }

theorem isLocal_allowKey (allowsKey : Bool) : IsLocal (allowKey allowsKey) :=
  .modify (fun _ => le_rfl) fun _ h _ => { h with allowsKey := rfl }

/-- Taken at the cursor. -/
def scan (f : Cursor → Option (α × Cursor)) : Lex α := fun l =>
  (f l.cursor).map fun taken => (taken.1, { l with cursor := taken.2 })

theorem isLocal_scan {f : Cursor → Option (α × Cursor)}
    (hshrinks : ∀ {c a c₁}, f c = some (a, c₁) → c₁.rest.length ≤ c.rest.length)
    (hfollows : ∀ {k : Fork} {c c'}, k.IsFenced → k.InStep c c' → k.Follows (f c) (f c')) :
    IsLocal (scan f) where
  shrinks h := by
    obtain ⟨⟨a, c₁⟩, htaken, heq⟩ := Option.map_eq_some_iff.mp h
    cases heq
    exact hshrinks htaken
  tracks hk l l' h a l₁ hrun hwithin := by
    obtain ⟨⟨a, c₁⟩, htaken, heq⟩ := Option.map_eq_some_iff.mp hrun
    cases heq
    obtain ⟨c₁', htaken', hstep⟩ := hfollows hk h.cursor a c₁ htaken hwithin
    exact ⟨{ l' with cursor := c₁' }, by simp [scan, StateT.run, htaken'],
      { h with cursor := hstep }⟩

/-! ### Keys -/

theorem dropKey_run (l : Lexer) :
    dropKey.run l =
      match l.keys with
      | some key :: keys =>
        if key.isRequired then none else some ((), { l with keys := none :: keys })
      | _ => some ((), l) := by
  obtain ⟨cursor, tokens, indents, allowsKey, keys⟩ := l
  match keys with
  | [] => rfl
  | none :: _ => rfl
  | some ⟨_, _, true⟩ :: _ => rfl
  | some ⟨_, _, false⟩ :: _ => rfl

theorem cursor_dropKey {l l₁ : Lexer} {a : Unit} (h : dropKey.run l = some (a, l₁)) :
    l₁.cursor = l.cursor := by
  rw [dropKey_run] at h
  split at h
  · split_ifs at h
    cases h
    rfl
  · cases h
    rfl

theorem tracks_dropKey {l l' : Lexer} (h : k.SameState l l') :
    k.Tracks l l' dropKey dropKey := by
  intro a l₁ hrun _
  have hkeys := h.keys
  rw [dropKey_run] at hrun ⊢
  generalize l.keys = keys at hkeys hrun
  generalize l'.keys = keys' at hkeys
  cases hkeys with
  | nil =>
    cases hrun
    exact ⟨l', rfl, h⟩
  | cons hkey hkeys =>
    cases hkey with
    | none =>
      cases hrun
      exact ⟨l', rfl, h⟩
    | some hkey =>
      dsimp only at hrun ⊢
      rw [← hkey.isRequired]
      split_ifs at hrun ⊢
      cases hrun
      exact ⟨_, rfl, { h with keys := .cons .none hkeys }⟩

theorem isLocal_dropKey : IsLocal dropKey where
  shrinks h := (congrArg (·.rest.length) (cursor_dropKey h)).le
  tracks _ _ _ h := tracks_dropKey h

/-- The key that may begin at the cursor. -/
def keyHere (l : Lexer) : PossibleKey where
  position := l.tokens.length
  start := l.cursor
  isRequired := !l.inFlow && l.indent == some l.cursor.column

theorem noteKey_run (l : Lexer) :
    noteKey.run l =
      if l.allowsKey then (dropKey.run l).map fun dropped =>
        ((), { dropped.2 with keys := some l.keyHere :: dropped.2.keys.drop 1 })
      else some ((), l) := by
  change (if l.allowsKey then _ else pure () : Lex Unit).run l = _
  split_ifs
  · rw [StateT.run_bind]
    cases dropKey.run l <;> rfl
  · rfl

theorem tracks_noteKey {l l' : Lexer} (h : k.SameState l l') :
    k.Tracks l l' noteKey noteKey := by
  intro a l₁ hrun hwithin
  rw [noteKey_run] at hrun ⊢
  rw [← h.allowsKey]
  split_ifs at hrun ⊢
  · obtain ⟨⟨_, l₂⟩, hdrop, heq⟩ := Option.map_eq_some_iff.mp hrun
    cases heq
    obtain ⟨l₂', hdrop', h₂⟩ := tracks_dropKey h _ _ hdrop hwithin
    rw [hdrop']
    refine ⟨_, rfl, { h₂ with keys := .cons (.some ?_) ?_ }⟩
    · exact {
        position := h.length_tokens
        after := by
          obtain ⟨more, heq, -⟩ := h.tokens
          simp [keyHere, heq]
        isRequired := by simp only [keyHere, h.inFlow, h.indent, h.column]
        index := h.cursor.index
        line := h.cursor.line
        column := h.cursor.column }
    · exact List.forall₂_drop 1 h₂.keys
  · cases hrun
    exact ⟨l', rfl, h⟩

theorem isLocal_noteKey : IsLocal noteKey where
  shrinks h := by
    rw [noteKey_run] at h
    split_ifs at h
    · obtain ⟨⟨_, l₂⟩, hdrop, heq⟩ := Option.map_eq_some_iff.mp h
      cases heq
      exact (isLocal_dropKey.shrinks hdrop :)
    · cases h
      exact le_rfl
  tracks _ _ _ h := tracks_noteKey h

/-- What becomes of a key at a cursor: it must not be given up if it is required. -/
def keepKey? (c : Cursor) : Option PossibleKey → Option (Option PossibleKey)
  | some key =>
    if isStale key c then (if key.isRequired then none else some none) else some (some key)
  | none => some none

theorem mapM_run {f : α → Lex β} {g : α → Option β} {l : Lexer}
    (hf : ∀ x, (f x).run l = (g x).map fun y => (y, l)) (xs : List α) :
    (xs.mapM f).run l = (xs.mapM g).map fun ys => (ys, l) := by
  induction xs with
  | nil => rfl
  | cons x xs ih =>
    rw [List.mapM_cons, List.mapM_cons, StateT.run_bind, hf]
    cases g x with
    | none => rfl
    | some y =>
      change ((xs.mapM f >>= fun ys => Pure.pure (y :: ys)).run l) = _
      rw [StateT.run_bind, ih]
      cases xs.mapM g <;> rfl

theorem dropStaleKeys_run (l : Lexer) :
    dropStaleKeys.run l =
      (l.keys.mapM (keepKey? l.cursor)).map fun keys => ((), { l with keys }) := by
  change StateT.run (m := Option)
    (l.keys.mapM (m := Lex) _ >>= fun keys => set { l with keys }) l = _
  rw [StateT.run_bind, mapM_run (g := keepKey? l.cursor)]
  · cases l.keys.mapM (keepKey? l.cursor) <;> rfl
  · intro key
    cases key with
    | none => rfl
    | some key =>
      rw [keepKey?]
      dsimp only
      split_ifs with hstale hrequired
      · rw [hrequired]
        rfl
      · rw [Bool.eq_false_iff.mpr hrequired]
        rfl
      · rfl

theorem isStale_of_sameKey {key key' : PossibleKey} {c c' : Cursor} (h : k.SameKey key key')
    (hc : k.InStep c c') : isStale key c = isStale key' c' := by
  have hindex := h.index
  have hindex' := hc.index
  have hiff : key.start.index + 1024 < c.index ↔ key'.start.index + 1024 < c'.index := by omega
  simp only [isStale, h.line, hc.line, decide_eq_decide.mpr hiff]

theorem mapM_keepKey? {c c' : Cursor} (hc : k.InStep c c')
    {keys keys' kept : List (Option PossibleKey)}
    (h : List.Forall₂ (Option.Rel k.SameKey) keys keys')
    (hkept : keys.mapM (keepKey? c) = some kept) :
    ∃ kept', keys'.mapM (keepKey? c') = some kept' ∧
      List.Forall₂ (Option.Rel k.SameKey) kept kept' := by
  induction h generalizing kept with
  | nil =>
    cases hkept
    exact ⟨[], rfl, .nil⟩
  | cons hkey _ ih =>
    rw [List.mapM_cons] at hkept ⊢
    obtain ⟨key₁, hfirst, hkept⟩ := Option.bind_eq_some_iff.mp hkept
    obtain ⟨rest, hrest, heq⟩ := Option.bind_eq_some_iff.mp hkept
    cases heq
    obtain ⟨rest', hrest', hsame⟩ := ih hrest
    rw [hrest']
    cases hkey with
    | none =>
      cases hfirst
      exact ⟨none :: rest', rfl, .cons .none hsame⟩
    | some hkey =>
      rw [keepKey?] at hfirst ⊢
      rw [← isStale_of_sameKey hkey hc, ← hkey.isRequired]
      split_ifs at hfirst ⊢
      · cases hfirst
        exact ⟨none :: rest', rfl, .cons .none hsame⟩
      · cases hfirst
        exact ⟨_, rfl, .cons (.some hkey) hsame⟩

theorem tracks_dropStaleKeys {l l' : Lexer} (h : k.SameState l l') :
    k.Tracks l l' dropStaleKeys dropStaleKeys := by
  intro a l₁ hrun _
  rw [dropStaleKeys_run] at hrun ⊢
  obtain ⟨kept, hkept, heq⟩ := Option.map_eq_some_iff.mp hrun
  cases heq
  obtain ⟨kept', hkept', hkeys⟩ := mapM_keepKey? h.cursor h.keys hkept
  exact ⟨{ l' with keys := kept' }, by rw [hkept']; rfl, { h with keys := hkeys }⟩

theorem isLocal_dropStaleKeys : IsLocal dropStaleKeys where
  shrinks h := by
    rw [dropStaleKeys_run] at h
    obtain ⟨kept, -, heq⟩ := Option.map_eq_some_iff.mp h
    cases heq
    exact le_rfl
  tracks _ _ _ h := tracks_dropStaleKeys h

/-! ### Block collections -/

theorem beginBlock_run (column position : Nat) (token : Token) (l : Lexer) :
    (beginBlock column position token).run l =
      some ((), if !l.inFlow && l.indent.all (· < column) then
        { l with
          indents := column :: l.indents
          tokens := l.tokens.take position ++ token :: l.tokens.drop position }
        else l) := by
  change (if _ then _ else pure () : Lex Unit).run l = _
  split_ifs <;> rfl

/-- A token that is put after those that two scans do not share is put at the same place. -/
theorem insert_tokens {more tokens tokens' : List Token} {position : Nat} (token : Token)
    (h : tokens = k.tokens ++ more ∧ tokens' = k.tokens' ++ more)
    (hposition : k.tokens.length ≤ position) :
    ∃ more, tokens.take position ++ token :: tokens.drop position = k.tokens ++ more ∧
      tokens'.take position ++ token :: tokens'.drop position = k.tokens' ++ more := by
  obtain ⟨rfl, rfl⟩ := h
  have hlen := k.length_tokens
  refine ⟨more.take (position - k.tokens.length) ++
    token :: more.drop (position - k.tokens.length), ?_, ?_⟩
  · rw [List.take_append, List.drop_append, List.take_of_length_le hposition,
      List.drop_of_length_le hposition]
    simp
  · rw [List.take_append, List.drop_append, List.take_of_length_le (by omega),
      List.drop_of_length_le (by omega), hlen]
    simp

theorem tracks_beginBlock (column : Nat) (token : Token) {l l' : Lexer} {position : Nat}
    (h : k.SameState l l') (hposition : k.tokens.length ≤ position) :
    k.Tracks l l' (beginBlock column position token) (beginBlock column position token) := by
  intro a l₁ hrun _
  rw [beginBlock_run] at hrun ⊢
  cases hrun
  rw [← h.inFlow, ← h.indent]
  split_ifs
  · obtain ⟨more, htokens⟩ := h.tokens
    exact ⟨_, rfl, { h with
      tokens := insert_tokens token htokens hposition
      indents := congrArg (column :: ·) h.indents }⟩
  · exact ⟨_, rfl, h⟩

theorem cursor_beginBlock {column position : Nat} {token : Token} {l l₁ : Lexer} {a : Unit}
    (h : (beginBlock column position token).run l = some (a, l₁)) : l₁.cursor = l.cursor := by
  rw [beginBlock_run] at h
  cases h
  split_ifs <;> rfl

/-- Begins a block collection at the cursor, where one may begin. -/
def openBlock (token : Token) : Lex Unit := do
  let l ← get
  if !l.inFlow then
    demand l.allowsKey
    beginBlock l.cursor.column l.tokens.length token

theorem openBlock_run (token : Token) (l : Lexer) :
    (openBlock token).run l =
      if l.inFlow then some ((), l)
      else if l.allowsKey then (beginBlock l.cursor.column l.tokens.length token).run l
      else none := by
  change StateT.run (m := Option) (if (!l.inFlow) = true then
    (do demand l.allowsKey; beginBlock l.cursor.column l.tokens.length token)
    else pure () : Lex Unit) l = _
  cases l.inFlow <;> cases l.allowsKey <;> rfl

theorem isLocal_openBlock (token : Token) : IsLocal (openBlock token) where
  shrinks h := by
    rw [openBlock_run] at h
    split_ifs at h
    · cases h
      exact le_rfl
    · exact (congrArg (·.rest.length) (cursor_beginBlock h)).le
  tracks _ l l' h a l₁ hrun hwithin := by
    rw [openBlock_run] at hrun ⊢
    rw [← h.inFlow, ← h.allowsKey]
    split_ifs at hrun ⊢
    · cases hrun
      exact ⟨l', rfl, h⟩
    · obtain ⟨more, heq, -⟩ := h.tokens
      rw [← h.column, ← h.length_tokens]
      exact tracks_beginBlock l.cursor.column token h (by simp [heq]) _ _ hrun hwithin

theorem sameState_endBlocks {l l' : Lexer} (h : k.SameState l l') (isOver : Nat → Bool) :
    k.SameState (l.endBlocks isOver) (l'.endBlocks isOver) := by
  unfold endBlocks
  rw [← h.inFlow, ← h.indents]
  split_ifs
  · exact h
  · obtain ⟨more, heq, heq'⟩ := h.tokens
    exact { h with
      tokens := by
        refine ⟨more ++ List.replicate (l.indents.takeWhile isOver).length .blockEnd, ?_, ?_⟩
        · simp [heq]
        · simp [heq']
      indents := rfl }

theorem cursor_endBlocks (l : Lexer) (isOver : Nat → Bool) :
    (l.endBlocks isOver).cursor = l.cursor := by
  unfold endBlocks
  split_ifs <;> rfl

theorem isLocal_endAll : IsLocal endAll :=
  .bind (.modify (fun l => (congrArg (·.rest.length) (cursor_endBlocks l _)).le)
      fun _ h _ => sameState_endBlocks h _) fun _ =>
    .bind isLocal_dropKey fun _ => isLocal_allowKey false

/-! ### Tokens of one character -/

theorem isLocal_takeFlowStart (token : Token) : IsLocal (takeFlowStart token) :=
  .bind isLocal_noteKey fun _ =>
    .bind (.modify (fun _ => le_rfl) fun _ h _ => { h with keys := .cons .none h.keys }) fun _ =>
    .bind (isLocal_allowKey true) fun _ => .bind (isLocal_skip 1) fun _ => isLocal_emit token

theorem isLocal_takeFlowEnd (token : Token) : IsLocal (takeFlowEnd token) :=
  .bind isLocal_dropKey fun _ =>
    .bind (.modify (fun _ => le_rfl) fun _ h _ => { h with
      keys := by
        rw [← h.inFlow]
        split_ifs
        · exact List.forall₂_drop 1 h.keys
        · exact h.keys }) fun _ =>
    .bind (isLocal_allowKey false) fun _ => .bind (isLocal_skip 1) fun _ => isLocal_emit token

theorem isLocal_takeFlowEntry : IsLocal takeFlowEntry :=
  .bind isLocal_dropKey fun _ => .bind (isLocal_allowKey true) fun _ =>
    .bind (isLocal_skip 1) fun _ => isLocal_emit .flowEntry

theorem takeBlockEntry_eq :
    takeBlockEntry = (do
      openBlock .blockSequenceStart
      dropKey
      allowKey true
      skip
      emit .blockEntry) := by
  unfold takeBlockEntry openBlock
  rw [bind_assoc]
  refine bind_congr fun l => ?_
  split_ifs
  · rw [bind_assoc]
  · rw [pure_bind]

theorem isLocal_takeBlockEntry : IsLocal takeBlockEntry := by
  rw [takeBlockEntry_eq]
  exact .bind (isLocal_openBlock _) fun _ => .bind isLocal_dropKey fun _ =>
    .bind (isLocal_allowKey true) fun _ => .bind (isLocal_skip 1) fun _ => isLocal_emit .blockEntry

theorem takeKey_eq :
    takeKey = get >>= fun l => (do
      openBlock .blockMappingStart
      dropKey
      allowKey !l.inFlow
      skip
      emit .key) := by
  refine StateT.ext fun l => ?_
  rw [StateT.run_bind, StateT.run_get, pure_bind, StateT.run_bind, openBlock_run]
  change StateT.run (m := Option) (if (!l.inFlow) = true then _ else _ : Lex Unit) l = _
  cases hflow : l.inFlow
  · cases hallows : l.allowsKey
    · rfl
    · rfl
  · rfl

theorem isLocal_takeKey : IsLocal takeKey := by
  rw [takeKey_eq]
  refine .of_get (fun l => ?_) fun _ h => by rw [h.inFlow]
  exact .bind (isLocal_openBlock _) fun _ => .bind isLocal_dropKey fun _ =>
    .bind (isLocal_allowKey _) fun _ => .bind (isLocal_skip 1) fun _ => isLocal_emit .key

/-- Notes the key that a value belongs to, or begins a mapping without one. -/
def takeNotedKey : Lex Unit := do
  let l ← get
  match l.keys with
  | some key :: keys =>
    set { l with
      keys := none :: keys
      tokens := l.tokens.take key.position ++ Token.key :: l.tokens.drop key.position }
    beginBlock key.start.column key.position .blockMappingStart
    allowKey false
  | _ =>
    openBlock .blockMappingStart
    allowKey !l.inFlow

theorem takeValue_eq : takeValue = (do takeNotedKey; skip; emit .value) := by
  unfold takeValue takeNotedKey
  rw [bind_assoc]
  refine StateT.ext fun l => ?_
  rw [StateT.run_bind, StateT.run_bind, StateT.run_get, pure_bind, pure_bind]
  dsimp only
  rcases hkeys : l.keys with _ | ⟨_ | key, keys⟩
  · rw [bind_assoc, StateT.run_bind (openBlock _), openBlock_run]
    cases hflow : l.inFlow
    · cases hallows : l.allowsKey <;> rfl
    · rfl
  · rw [bind_assoc, StateT.run_bind (openBlock _), openBlock_run]
    cases hflow : l.inFlow
    · cases hallows : l.allowsKey <;> rfl
    · rfl
  · simp only [bind_assoc]

theorem takeNotedKey_run_some {l : Lexer} {key : PossibleKey} {keys : List (Option PossibleKey)}
    (h : l.keys = some key :: keys) :
    takeNotedKey.run l =
      (do beginBlock key.start.column key.position .blockMappingStart
          allowKey false : Lex Unit).run
        { l with
          keys := none :: keys
          tokens := l.tokens.take key.position ++ Token.key :: l.tokens.drop key.position } := by
  unfold takeNotedKey
  rw [StateT.run_bind, StateT.run_get, pure_bind]
  dsimp only
  rw [h]
  rfl

theorem takeNotedKey_run_none {l : Lexer} (h : ∀ key, l.keys.head? ≠ some (some key)) :
    takeNotedKey.run l =
      (do openBlock .blockMappingStart
          allowKey !l.inFlow : Lex Unit).run l := by
  unfold takeNotedKey
  rw [StateT.run_bind, StateT.run_get, pure_bind]
  dsimp only
  rcases hkeys : l.keys with _ | ⟨_ | key, keys⟩
  · rfl
  · rfl
  · exact absurd (by rw [hkeys]; rfl) (h key)

theorem isLocal_takeNotedKey : IsLocal takeNotedKey where
  shrinks {l _ _} h := by
    rcases hkeys : l.keys with _ | ⟨_ | key, keys⟩
    · rw [takeNotedKey_run_none (by simp [hkeys])] at h
      exact (isLocal_openBlock _).bind (fun _ => isLocal_allowKey _) |>.shrinks h
    · rw [takeNotedKey_run_none (by simp [hkeys])] at h
      exact (isLocal_openBlock _).bind (fun _ => isLocal_allowKey _) |>.shrinks h
    · rw [takeNotedKey_run_some hkeys] at h
      obtain ⟨_, l₁, hbegin, hallow⟩ := run_bind_eq_some h
      exact ((isLocal_allowKey false).shrinks hallow).trans
        (congrArg (·.rest.length) (cursor_beginBlock hbegin)).le
  tracks {k} hk l l' h a l₁ hrun hwithin := by
    have hopen := (isLocal_openBlock .blockMappingStart).bind fun _ => isLocal_allowKey !l.inFlow
    rcases hkeys : l.keys with _ | ⟨key?, keys⟩
    · have hkeys' : l'.keys = [] := by simpa [hkeys] using h.keys
      rw [takeNotedKey_run_none (by simp [hkeys])] at hrun
      rw [takeNotedKey_run_none (by simp [hkeys']), ← h.inFlow]
      exact hopen.tracks hk h a l₁ hrun hwithin
    · obtain ⟨key?', keys', hkey, hrest, hkeys'⟩ := List.forall₂_cons_left_iff.mp (hkeys ▸ h.keys)
      cases hkey with
      | none =>
        rw [takeNotedKey_run_none (by simp [hkeys])] at hrun
        rw [takeNotedKey_run_none (by simp [hkeys']), ← h.inFlow]
        exact hopen.tracks hk h a l₁ hrun hwithin
      | @some key key' hkey =>
        rw [takeNotedKey_run_some hkeys] at hrun
        rw [takeNotedKey_run_some hkeys']
        obtain ⟨_, l₂, hbegin, hallow⟩ := run_bind_eq_some hrun
        obtain ⟨more, htokens⟩ := h.tokens
        have hnoted : k.SameState
            { l with
              keys := none :: keys
              tokens := l.tokens.take key.position ++ Token.key :: l.tokens.drop key.position }
            { l' with
              keys := none :: keys'
              tokens := l'.tokens.take key.position ++ Token.key :: l'.tokens.drop key.position } :=
          { h with
            keys := .cons .none hrest
            tokens := insert_tokens .key htokens hkey.after }
        obtain ⟨l₂', hbegin', h₂⟩ := tracks_beginBlock key.start.column .blockMappingStart hnoted
          hkey.after _ _ hbegin (hwithin.trans ((isLocal_allowKey false).shrinks hallow))
        obtain ⟨l₁', hallow', h₁⟩ := (isLocal_allowKey false).tracks hk h₂ _ _ hallow hwithin
        rw [← hkey.position, ← hkey.column, run_bind_of_run hbegin']
        exact ⟨l₁', hallow', h₁⟩

theorem isLocal_takeValue : IsLocal takeValue := by
  rw [takeValue_eq]
  exact .bind isLocal_takeNotedKey fun _ => .bind (isLocal_skip 1) fun _ => isLocal_emit .value

/-! ### Names and tags -/

theorem isLocal_takeWhile (p : Char → Bool) : IsLocal (takeWhile p) :=
  isLocal_scan (f := fun c => some (String.ofList (c.rest.takeWhile p), c.skipWhile p))
    (fun {c _ _} h => by
      cases h
      exact c.length_skip_le _)
    fun {k c c'} hk h text c₁ htaken hwithin => by
      cases htaken
      have hp := congrArg (Option.map p) hk.head
      exact ⟨c'.skipWhile p, by rw [h.rest.takeWhile hp hwithin],
        h.skipWhile hk.isParted hp hwithin⟩

theorem isLocal_takeName : IsLocal takeName := by
  refine .bind isLocal_noteKey fun _ => .bind (isLocal_allowKey false) fun _ =>
    .bind (isLocal_skip 1) fun _ => .bind (isLocal_takeWhile _) fun name => .of_get (fun l => ?_) ?_
  · exact .bind (isLocal_demand _) fun _ => .bind (isLocal_demand _) fun _ => .pure name
  · intro k l l' hk h
    dsimp only
    rw [h.rest.atSpace hk, h.rest.head? hk]

theorem takeSuffix_eq (isVerbatim : Bool) :
    takeSuffix isVerbatim = scan fun c =>
      (takeTagChars isVerbatim c.rest.length c.rest).map fun taken =>
        (String.ofList taken.1, c.skip (c.rest.length - taken.2.length)) := by
  refine StateT.ext fun l => ?_
  unfold takeSuffix scan
  rw [StateT.run_bind, StateT.run_get, pure_bind]
  dsimp only [rest]
  cases htaken : takeTagChars isVerbatim l.cursor.rest.length l.cursor.rest with
  | none => simp [StateT.run, htaken]; rfl
  | some taken => simp [StateT.run, htaken]; rfl

theorem isLocal_takeSuffix (isVerbatim : Bool) : IsLocal (takeSuffix isVerbatim) := by
  rw [takeSuffix_eq]
  refine isLocal_scan (fun {c _ _} h => ?_) fun {k c c'} hk h text c₁ htaken hwithin => ?_
  · obtain ⟨_, -, heq⟩ := Option.map_eq_some_iff.mp h
    cases heq
    exact c.length_skip_le _
  · obtain ⟨⟨chars, u⟩, hchars, heq⟩ := Option.map_eq_some_iff.mp htaken
    cases heq
    have hle := length_takeTagChars_le hchars
    have hlen : (c.skip (c.rest.length - u.length)).rest.length = u.length := by
      simp only [Cursor.skip, List.length_drop]
      omega
    obtain ⟨u', hchars', hboth⟩ := takeTagChars_of_both hk h.rest le_rfl le_rfl hchars
      (hwithin.trans hlen.le)
    have hsame : c.rest.length - u.length = c'.rest.length - u'.length := by
      have := h.rest.length
      have := hboth.length
      have := length_takeTagChars_le hchars'
      omega
    refine ⟨c'.skip (c'.rest.length - u'.length), by rw [hchars']; rfl, ?_⟩
    rw [hsame] at hwithin ⊢
    exact h.skip hk.isParted.tail_eq_nil hwithin

theorem isLocal_takeHandle : IsLocal takeHandle := by
  refine .of_get (fun l => ?_) fun hk h => by rw [h.rest.head? hk]
  refine .bind (isLocal_demand _) fun _ => .bind (isLocal_skip 1) fun _ =>
    .bind (isLocal_takeWhile _) fun name => .of_get (fun l => ?_) fun hk h => by
      rw [h.rest.head? hk]
  exact .ite (.bind (isLocal_skip 1) fun _ => .pure _) (.pure _)

/-- Whether a text starts with a tag in angle brackets. -/
def startsVerbatim : List Char → Bool
  | '!' :: '<' :: _ => true
  | _ => false

/-- Takes a tag in angle brackets. -/
def takeVerbatimTag : Lex Token := do
  skip 2
  let suffix ← takeSuffix true
  demand (!suffix.isEmpty && (← get).rest.head? == some '>')
  skip
  return Token.tag "" suffix

/-- Takes a tag with a handle. -/
def takeNamedTag : Lex Token := do
  let handle ← takeHandle
  let suffix ← takeSuffix false
  if handle.length > 1 && handle.endsWith "!" then do
    demand !suffix.isEmpty
    return .tag handle suffix
  else
    let whole := (handle.drop 1).toString ++ suffix
    return if whole.isEmpty then .tag "" "!" else .tag "!" whole

theorem takeTag_eq :
    takeTag = (do
      noteKey
      allowKey false
      let token ← (do if startsVerbatim (← get).rest then takeVerbatimTag else takeNamedTag)
      let l ← get
      demand (atSpace l.rest || (l.inFlow && l.rest.head? == some ','))
      emit token) := by
  unfold takeTag
  refine bind_congr fun _ => bind_congr fun _ => ?_
  rw [bind_assoc]
  refine bind_congr fun l => ?_
  dsimp only
  split
  · rename_i heq
    rw [heq, if_pos (show startsVerbatim _ = true from rfl), takeVerbatimTag]
    simp only [bind_assoc, pure_bind]
  · rename_i hne
    have hnot : startsVerbatim l.rest = false := by
      unfold startsVerbatim
      split
      · exact absurd ‹_› (hne _)
      · rfl
    rw [hnot, if_neg Bool.false_ne_true, takeNamedTag]
    simp only [bind_assoc, pure_bind]
    refine bind_congr fun handle => bind_congr fun suffix => ?_
    split
    · simp only [bind_assoc, pure_bind]
    · simp only [pure_bind]

theorem startsVerbatim_of_both (hk : k.IsFenced) {r r' : List Char} (h : k.Both r r') :
    startsVerbatim r = startsVerbatim r' := by
  obtain ⟨shared, rfl, rfl⟩ := h
  cases shared with
  | nil =>
    have hno (r : List Char) (hr : ∀ c ∈ r.head?, isFence c = true) : startsVerbatim r = false := by
      unfold startsVerbatim
      split
      · exact absurd (hr '!' rfl) (by decide)
      · rfl
    rw [List.nil_append, List.nil_append, hno _ hk.isFence, hno _ (hk.head ▸ hk.isFence)]
  | cons x shared =>
    have hcons (u : List Char) : startsVerbatim (x :: u) = (x == '!' && u.head? == some '<') := by
      unfold startsVerbatim
      split
      · simp_all
      · rename_i hne
        cases u <;> simp_all
    rw [List.cons_append, List.cons_append, hcons, hcons, Fork.Both.head? ⟨shared, rfl, rfl⟩ hk]

theorem isLocal_takeTag : IsLocal takeTag := by
  rw [takeTag_eq]
  have hverbatim : IsLocal takeVerbatimTag :=
    .bind (isLocal_skip 2) fun _ => .bind (isLocal_takeSuffix true) fun suffix =>
      .of_get (fun _ => .bind (isLocal_demand _) fun _ => .bind (isLocal_skip 1) fun _ => .pure _)
        fun hk h => by rw [h.rest.head? hk]
  have hnamed : IsLocal takeNamedTag :=
    .bind isLocal_takeHandle fun _ => .bind (isLocal_takeSuffix false) fun _ =>
      .ite (.bind (isLocal_demand _) fun _ => .pure _) (.pure _)
  refine .bind isLocal_noteKey fun _ => .bind (isLocal_allowKey false) fun _ =>
    .bind ?_ fun token => ?_
  · exact .of_get (fun _ => .ite hverbatim hnamed) fun hk h => by
      rw [startsVerbatim_of_both hk h.rest]
  · exact .of_get (fun _ => .bind (isLocal_demand _) fun _ => isLocal_emit token) fun hk h => by
      rw [h.rest.atSpace hk, h.rest.head? hk, h.inFlow]

/-! ### Directives -/

theorem isLocal_takeVersionPart : IsLocal takeVersionPart :=
  .bind (isLocal_takeWhile _) fun _ => .bind (isLocal_demand _) fun _ => .pure _

theorem isLocal_skipBlanks :
    IsLocal (modify fun l => { l with cursor := l.cursor.skipBlanks } : Lex Unit) :=
  .modify (fun l => l.cursor.length_skip_le _) fun hk h hwithin =>
    { h with cursor := h.cursor.skipBlanks hk.isParted hwithin }

/-- Goes over the rest of a line that holds nothing but a comment. -/
def takeLineEnd : Lex Unit := scan fun c => c.skipLineEnd.map fun c => ((), c)

theorem takeLineEnd_eq :
    takeLineEnd = (do moveTo (← ((← get).cursor.skipLineEnd : Option _))) := by
  refine StateT.ext fun l => ?_
  rw [StateT.run_bind, StateT.run_get, pure_bind]
  dsimp only [takeLineEnd, scan, StateT.run]
  cases l.cursor.skipLineEnd <;> rfl

theorem isLocal_takeLineEnd : IsLocal takeLineEnd :=
  isLocal_scan (fun h => by
      obtain ⟨c₂, hend, heq⟩ := Option.map_eq_some_iff.mp h
      cases heq
      exact Cursor.length_skipLineEnd_le hend)
    fun hk h a c₁ htaken hwithin => by
      obtain ⟨c₂, hend, heq⟩ := Option.map_eq_some_iff.mp htaken
      cases heq
      obtain ⟨c₁', hend', hstep⟩ := h.skipLineEnd hk.isParted hend hwithin
      exact ⟨c₁', by rw [hend']; rfl, hstep⟩

theorem isLocal_takeDirective : IsLocal takeDirective := by
  unfold takeDirective
  rw [← takeLineEnd_eq]
  refine .bind isLocal_endAll fun _ => .bind (isLocal_skip 1) fun _ =>
    .bind (isLocal_takeWhile _) fun name => .of_get (fun _ => ?_) fun hk h => by
      rw [h.rest.atSpace hk]
  refine .bind (isLocal_demand _) fun _ => .bind isLocal_skipBlanks fun _ => ?_
  dsimp only
  split
  · refine .bind isLocal_takeVersionPart fun _ => .of_get (fun _ => ?_) fun hk h => by
      rw [h.rest.head? hk]
    exact .bind (isLocal_demand _) fun _ => .bind (isLocal_skip 1) fun _ =>
      .bind isLocal_takeVersionPart fun _ => .bind (isLocal_emit _) fun _ => isLocal_takeLineEnd
  · refine .bind isLocal_takeHandle fun _ => .bind (isLocal_demand _) fun _ =>
      .of_get (fun _ => ?_) fun hk h => by rw [h.rest.head? hk]
    refine .bind (isLocal_demand _) fun _ => .bind isLocal_skipBlanks fun _ =>
      .bind (isLocal_takeSuffix true) fun suffix => .of_get (fun _ => ?_) fun hk h => by
        rw [h.rest.atSpace hk]
    exact .bind (isLocal_demand _) fun _ => .bind (isLocal_emit _) fun _ => isLocal_takeLineEnd
  · exact .bind .failure fun _ => isLocal_takeLineEnd

theorem isLocal_takeDocumentMark (token : Token) : IsLocal (takeDocumentMark token) :=
  .bind isLocal_endAll fun _ => .bind (isLocal_skip 3) fun _ => isLocal_emit token

/-! ### Scalars -/

theorem takeBlockScalar_eq (style : Style) :
    takeBlockScalar style = (do
      dropKey
      allowKey true
      skip
      let l ← get
      let text ← scan (takeBlock (style == .folded) l.indent)
      emit (.scalar (String.ofList text) style)) := by
  refine bind_congr fun _ => bind_congr fun _ => bind_congr fun _ => StateT.ext fun l => ?_
  rw [StateT.run_bind, StateT.run_bind, StateT.run_get, pure_bind, pure_bind]
  dsimp only
  rw [StateT.run_bind, StateT.run_bind]
  dsimp only [scan, StateT.run]
  cases takeBlock (style == .folded) l.indent l.cursor <;> rfl

theorem isLocal_takeBlockScalar (style : Style) : IsLocal (takeBlockScalar style) := by
  rw [takeBlockScalar_eq]
  refine .bind isLocal_dropKey fun _ => .bind (isLocal_allowKey true) fun _ =>
    .bind (isLocal_skip 1) fun _ => .of_get (fun l => ?_) fun _ h => by rw [h.indent]
  exact .bind (isLocal_scan length_takeBlock_le fun hk h => h.takeBlock hk) fun _ => isLocal_emit _

theorem takeQuotedScalar_eq (quote : Char) :
    takeQuotedScalar quote = (do
      noteKey
      allowKey false
      skip
      let text ← scan fun c => takeQuoted quote (c.rest.length + 1) [] c
      emit (.scalar (String.ofList text) .quoted)) := by
  refine bind_congr fun _ => bind_congr fun _ => bind_congr fun _ => StateT.ext fun l => ?_
  rw [StateT.run_bind, StateT.run_get, pure_bind]
  dsimp only [rest]
  rw [StateT.run_bind, StateT.run_bind]
  dsimp only [scan, StateT.run]
  cases takeQuoted quote (l.cursor.rest.length + 1) [] l.cursor <;> rfl

theorem isLocal_takeQuotedScalar (quote : Char) : IsLocal (takeQuotedScalar quote) := by
  rw [takeQuotedScalar_eq]
  exact .bind isLocal_noteKey fun _ => .bind (isLocal_allowKey false) fun _ =>
    .bind (isLocal_skip 1) fun _ =>
    .bind (isLocal_scan length_takeQuoted_le fun hk h =>
      h.takeQuoted hk (Nat.lt_succ_self _) (Nat.lt_succ_self _)) fun _ => isLocal_emit _

/-- A plain scalar at a cursor, and whether the gap after it goes over the end of a line. -/
def plainAt (inFlow : Bool) (indent : Option Nat) (c : Cursor) :
    Option ((List Char × Bool) × Cursor) :=
  (takePlain inFlow (match indent with | some indent => indent + 1 | none => 0)
    (c.rest.length + 1) [] {} c).map fun taken => ((taken.1, taken.2.1), taken.2.2)

/-- The token of a plain scalar. Where a line has ended after it a key may begin. -/
def emitPlain (text : List Char) (isBroken : Bool) : Lex Unit := do
  emit (.scalar (String.ofList text) .plain)
  if isBroken then allowKey true

theorem takePlainScalar_eq :
    takePlainScalar = (do
      noteKey
      allowKey false
      let l ← get
      let (text, isBroken) ← scan (plainAt l.inFlow l.indent)
      emitPlain text isBroken) := by
  refine bind_congr fun _ => bind_congr fun _ => StateT.ext fun l => ?_
  rw [StateT.run_bind, StateT.run_bind, StateT.run_get, pure_bind, pure_bind]
  dsimp only [rest]
  rw [StateT.run_bind, StateT.run_bind]
  dsimp only [scan, StateT.run, plainAt]
  cases takePlain l.inFlow (match l.indent with | some indent => indent + 1 | none => 0)
    (l.cursor.rest.length + 1) [] {} l.cursor <;> rfl

theorem isLocal_emitPlain (text : List Char) (isBroken : Bool) :
    IsLocal (emitPlain text isBroken) :=
  .bind (isLocal_emit _) fun _ => .ite (isLocal_allowKey true) (.pure ())

theorem isLocal_takePlainScalar : IsLocal takePlainScalar := by
  rw [takePlainScalar_eq]
  refine .bind isLocal_noteKey fun _ => .bind (isLocal_allowKey false) fun _ =>
    .of_get (fun l => .bind ?_ fun _ => isLocal_emitPlain _ _) fun _ h => by rw [h.inFlow, h.indent]
  refine isLocal_scan (fun h => ?_) fun hk h _ c₁ htaken hwithin => ?_
  · obtain ⟨_, htaken, heq⟩ := Option.map_eq_some_iff.mp h
    cases heq
    exact length_takePlain_le htaken
  · obtain ⟨_, hplain, heq⟩ := Option.map_eq_some_iff.mp htaken
    cases heq
    obtain ⟨c₁', hplain', hstep⟩ := h.takePlain hk (Nat.lt_succ_self _) (Nat.lt_succ_self _)
      hplain hwithin
    exact ⟨c₁', by unfold plainAt; rw [hplain']; rfl, hstep⟩

/-! ### All tokens -/

/-- Goes over the blanks and the comment at a cursor. -/
def skipInLine (allowsTab : Bool) (c : Cursor) : Cursor :=
  (c.skipWhile fun x => x == ' ' || (allowsTab && x == '\t')).skipComment

theorem length_skipInLine_le (allowsTab : Bool) (c : Cursor) :
    (skipInLine allowsTab c).rest.length ≤ c.rest.length :=
  (Cursor.length_skipComment_le _).trans (c.length_skip_le _)

theorem steady_isTokenBlank (allowsTab : Bool) :
    Steady fun x => x == ' ' || (allowsTab && x == '\t') := by
  intro x x' hx hx'
  have hblank : (x == ' ') = (x' == ' ') := Fork.steady_eq (by decide) x x' hx hx'
  have htab : (x == '\t') = (x' == '\t') := Fork.steady_eq (by decide) x x' hx hx'
  simp only [hblank, htab]

theorem skipInLine_inStep (hk : k.IsParted) {allowsTab : Bool} {c c' : Cursor}
    (h : k.InStep c c') (hwithin : k.Within (skipInLine allowsTab c)) :
    k.InStep (skipInLine allowsTab c) (skipInLine allowsTab c') :=
  (h.skipWhile hk (hk _ (steady_isTokenBlank _))
    (hwithin.trans (Cursor.length_skipComment_le _))).skipComment hk hwithin

/-- Where the next token begins after blanks, comments and breaks, and whether it may be a key. -/
def skipSpace (inFlow : Bool) : (fuel : Nat) → (allowsKey : Bool) → Cursor → Bool × Cursor
  | 0, allowsKey, c => (allowsKey, c)
  | fuel + 1, allowsKey, c =>
    let next := skipInLine (inFlow || !allowsKey) c
    if !next.rest.isEmpty && atBreak next.rest then
      skipSpace inFlow fuel (allowsKey || !inFlow) next.skipBreak
    else (allowsKey, next)

theorem skipToToken_run (n : Nat) (l : Lexer) :
    (skipToToken n).run l =
      some ((), { l with
        allowsKey := (skipSpace l.inFlow n l.allowsKey l.cursor).1
        cursor := (skipSpace l.inFlow n l.allowsKey l.cursor).2 }) := by
  induction n generalizing l with
  | zero => rfl
  | succ n ih =>
    rw [skipToToken, StateT.run_bind, StateT.run_get, pure_bind, skipSpace]
    dsimp only
    generalize hnext : skipInLine (l.inFlow || !l.allowsKey) l.cursor = next
    rw [skipInLine] at hnext
    rw [hnext]
    split_ifs with hbreak
    · exact ih _
    · rfl

theorem length_skipSpace_le (inFlow : Bool) (n : Nat) (allowsKey : Bool) (c : Cursor) :
    (skipSpace inFlow n allowsKey c).2.rest.length ≤ c.rest.length := by
  induction n generalizing allowsKey c with
  | zero => exact le_rfl
  | succ n ih =>
    rw [skipSpace]
    refine le_trans ?_ (length_skipInLine_le (inFlow || !allowsKey) c)
    split_ifs
    · exact (ih _ _).trans (Cursor.length_takeBreak_le _)
    · exact le_rfl

theorem skipSpace_inStep (hk : k.IsParted) {n n' : Nat} {inFlow allowsKey : Bool} {c c' : Cursor}
    (h : k.InStep c c') (hn : c.rest.length < n) (hn' : c'.rest.length < n')
    (hwithin : k.Within (skipSpace inFlow n allowsKey c).2) :
    (skipSpace inFlow n allowsKey c).1 = (skipSpace inFlow n' allowsKey c').1 ∧
      k.InStep (skipSpace inFlow n allowsKey c).2 (skipSpace inFlow n' allowsKey c').2 := by
  induction n generalizing n' allowsKey c c' with
  | zero => omega
  | succ n ih =>
    obtain ⟨n', rfl⟩ : ∃ m, n' = m + 1 := ⟨n' - 1, by omega⟩
    rw [skipSpace] at hwithin ⊢
    rw [skipSpace]
    have hline : k.Within (skipInLine (inFlow || !allowsKey) c) := by
      refine hwithin.trans ?_
      split_ifs
      · exact (length_skipSpace_le _ _ _ _).trans (Cursor.length_takeBreak_le _)
      · exact le_rfl
    have hstep := skipInLine_inStep hk h hline
    rw [← hstep.rest.isEmpty hk, ← hstep.rest.atBreak hk]
    split_ifs at hwithin ⊢ with hbreak
    · have hlt := Cursor.length_takeBreak_lt_of_atBreak hbreak
      have hlt' := Cursor.length_takeBreak_lt_of_atBreak
        (by rwa [hstep.rest.isEmpty hk, hstep.rest.atBreak hk] at hbreak)
      have hle := length_skipInLine_le (inFlow || !allowsKey) c
      have hle' := length_skipInLine_le (inFlow || !allowsKey) c'
      exact ih (hstep.skipBreak hk (hwithin.trans (length_skipSpace_le _ _ _ _)))
        (by rw [Cursor.skipBreak]; omega) (by rw [Cursor.skipBreak]; omega) hwithin
    · exact ⟨rfl, hstep⟩

/-- Goes over blanks, comments and breaks to the next token. -/
def toToken : Lex Unit := do skipToToken ((← get).rest.length + 1)

theorem tracks_toToken (hk : k.IsParted) {l l' : Lexer} (h : k.SameState l l') :
    k.Tracks l l' toToken toToken := by
  intro a l₁ hrun hwithin
  have hrun : (skipToToken (l.rest.length + 1)).run l = some (a, l₁) := hrun
  rw [skipToToken_run] at hrun
  cases hrun
  obtain ⟨hallows, hstep⟩ := skipSpace_inStep hk h.cursor (Nat.lt_succ_self _)
    (Nat.lt_succ_self l'.rest.length) hwithin
  refine ⟨_, skipToToken_run _ l', ?_⟩
  rw [← h.inFlow, ← h.allowsKey]
  exact { h with cursor := hstep, allowsKey := hallows }

theorem isLocal_toToken : IsLocal toToken where
  shrinks {l a l₁} h := by
    have h : (skipToToken (l.rest.length + 1)).run l = some (a, l₁) := h
    rw [skipToToken_run] at h
    cases h
    exact length_skipSpace_le _ _ _ _
  tracks hk _ _ h := tracks_toToken hk.isParted h

/-- Whether a text starts with a mark of one character that is a token here. -/
def startsMark (mark : Char) (inFlow : Bool) : List Char → Bool
  | c :: rest => c == mark && (inFlow || atSpace rest)
  | [] => false

/-- The token that a scan takes by what it sees at the cursor. -/
def tokenAt (isDirective isMark inFlow isEntry isKey isValue isPlain : Bool) (head : Option Char) :
    Lex Unit :=
  if isDirective then takeDirective
  else if isMark then
    takeDocumentMark (if head == some '-' then .documentStart else .documentEnd)
  else
    match head with
    | some '[' => takeFlowStart .flowSequenceStart
    | some '{' => takeFlowStart .flowMappingStart
    | some ']' => takeFlowEnd .flowSequenceEnd
    | some '}' => takeFlowEnd .flowMappingEnd
    | some ',' => takeFlowEntry
    | some '*' => do emit (.alias (← takeName))
    | some '&' => do emit (.anchor (← takeName))
    | some '!' => takeTag
    | some '\'' => takeQuotedScalar '\''
    | some '"' => takeQuotedScalar '"'
    | some c =>
      if isEntry then takeBlockEntry
      else if isKey then takeKey
      else if isValue then takeValue
      else if c == '|' && !inFlow then takeBlockScalar .literal
      else if c == '>' && !inFlow then takeBlockScalar .folded
      else if isPlain then takePlainScalar
      else failure
    | none => failure

theorem takeToken_eq :
    takeToken = get >>= fun l =>
      tokenAt (l.cursor.column == 0 && l.rest.head? == some '%')
        (l.cursor.column == 0 && atDocumentMark l.rest) l.inFlow (startsMark '-' false l.rest)
        (startsMark '?' l.inFlow l.rest) (startsMark ':' l.inFlow l.rest)
        (startsPlain l.inFlow l.rest) l.rest.head? := by
  refine bind_congr fun l => ?_
  unfold tokenAt
  dsimp only
  split
  · rfl
  · split
    · rfl
    · cases hrest : l.rest with
      | nil => rfl
      | cons c rest =>
        simp only [List.head?_cons, startsMark, Bool.false_or]
        split <;> simp_all

theorem isLocal_tokenAt (isDirective isMark inFlow isEntry isKey isValue isPlain : Bool)
    (head : Option Char) :
    IsLocal (tokenAt isDirective isMark inFlow isEntry isKey isValue isPlain head) := by
  refine .ite isLocal_takeDirective (.ite (isLocal_takeDocumentMark _) ?_)
  split
  · exact isLocal_takeFlowStart _
  · exact isLocal_takeFlowStart _
  · exact isLocal_takeFlowEnd _
  · exact isLocal_takeFlowEnd _
  · exact isLocal_takeFlowEntry
  · exact .bind isLocal_takeName fun _ => isLocal_emit _
  · exact .bind isLocal_takeName fun _ => isLocal_emit _
  · exact isLocal_takeTag
  · exact isLocal_takeQuotedScalar _
  · exact isLocal_takeQuotedScalar _
  · exact .ite isLocal_takeBlockEntry <| .ite isLocal_takeKey <| .ite isLocal_takeValue <|
      .ite (isLocal_takeBlockScalar _) <| .ite (isLocal_takeBlockScalar _) <|
      .ite isLocal_takePlainScalar .failure
  · exact .failure

/-- What a scan sees at a fence does not go beyond it. -/
theorem startsMark_of_both (hk : k.IsFenced) {mark : Char} (hmark : isFence mark = false)
    {inFlow : Bool} {r r' : List Char} (h : k.Both r r') :
    startsMark mark inFlow r = startsMark mark inFlow r' := by
  obtain ⟨shared, rfl, rfl⟩ := h
  cases shared with
  | nil =>
    have hno (r : List Char) (hr : ∀ c ∈ r.head?, isFence c = true) :
        startsMark mark inFlow r = false := by
      cases r with
      | nil => rfl
      | cons x u =>
        have hx : (x == mark) = false := beq_false_of_ne (by rintro rfl; simp [hr x rfl] at hmark)
        rw [startsMark, hx, Bool.false_and]
    rw [List.nil_append, List.nil_append, hno _ hk.isFence, hno _ (hk.head ▸ hk.isFence)]
  | cons x shared =>
    rw [List.cons_append, List.cons_append, startsMark, startsMark,
      Fork.Both.atSpace ⟨shared, rfl, rfl⟩ hk]

theorem startsPlain_of_fence {inFlow : Bool} {x : Char} (hx : isFence x = true) (u : List Char) :
    startsPlain inFlow (x :: u) = false := by
  have hdash : (x == '-') = false := beq_false_of_ne (by rintro rfl; exact absurd hx (by decide))
  have hquestion : (x == '?') = false :=
    beq_false_of_ne (by rintro rfl; exact absurd hx (by decide))
  have hcolon : (x == ':') = false := beq_false_of_ne (by rintro rfl; exact absurd hx (by decide))
  have hmark : (isBlank x || isBreak x || indicators.contains x) = true := by
    simp only [isFence, Bool.or_eq_true, beq_iff_eq] at hx
    obtain hspace | rfl := hx
    · rw [Bool.or_eq_true, Bool.or_eq_true]
      exact .inl hspace
    · decide
  rw [startsPlain, hdash, hquestion, hcolon, hmark]
  rfl

theorem startsPlain_of_both (hk : k.IsFenced) {inFlow : Bool} {r r' : List Char}
    (h : k.Both r r') : startsPlain inFlow r = startsPlain inFlow r' := by
  obtain ⟨shared, rfl, rfl⟩ := h
  cases shared with
  | nil =>
    have hno (r : List Char) (hr : ∀ c ∈ r.head?, isFence c = true) :
        startsPlain inFlow r = false := by
      cases r with
      | nil => rfl
      | cons x u => exact startsPlain_of_fence (hr x rfl) u
    rw [List.nil_append, List.nil_append, hno _ hk.isFence, hno _ (hk.head ▸ hk.isFence)]
  | cons x shared =>
    rw [List.cons_append, List.cons_append, startsPlain, startsPlain,
      Fork.Both.atSpace ⟨shared, rfl, rfl⟩ hk, Fork.Both.head? ⟨shared, rfl, rfl⟩ hk]

theorem isLocal_takeToken : IsLocal takeToken := by
  rw [takeToken_eq]
  refine .of_get (fun _ => isLocal_tokenAt _ _ _ _ _ _ _ _) fun hk h => ?_
  rw [h.column, h.rest.head? hk, h.rest.atDocumentMark hk, h.inFlow,
    startsMark_of_both hk (by decide) h.rest, startsMark_of_both hk (by decide) h.rest,
    startsMark_of_both hk (by decide) h.rest, startsPlain_of_both hk h.rest]

/-- Comes to the next token: goes over what stands before it, gives up the keys that have ended and
ends the block collections that are over. -/
def approach : Lex Unit := do
  toToken
  dropStaleKeys
  let l ← get
  set (l.endBlocks fun column => l.cursor.column < column)

/-- Takes the token at the cursor and all that follow. -/
def takeHere (n : Nat) : Lex Unit := do
  if (← get).rest.isEmpty then endAll
  else
    takeToken
    takeAll n

theorem takeAll_succ (n : Nat) : takeAll (n + 1) = (do approach; takeHere n) := by
  simp only [takeAll, approach, toToken, bind_assoc]
  refine bind_congr fun _ => bind_congr fun _ => bind_congr fun _ => StateT.ext fun l => ?_
  let l₁ := l.endBlocks fun column => l.cursor.column < column
  change StateT.run (if l.rest.isEmpty then endAll else _) l₁ =
    StateT.run (if l₁.rest.isEmpty then endAll else _) l₁
  rw [show l₁.rest = l.rest from congrArg Cursor.rest (cursor_endBlocks _ _)]

end Lexer

end FeedSync.Yaml
