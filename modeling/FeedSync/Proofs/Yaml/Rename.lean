import FeedSync.Yaml.Record
import Mathlib.Tactic.SplitIfs

/-!
# Documents and the texts of their plain scalars

The shape of a document does not depend on what its plain scalars say: if these are replaced in the
tokens of a text, the document is the same with the same replacements. Only the empty text must be
left as it is, for it is also what stands where nothing is written.

## Main definitions

* `Token.rename`, `Node.rename`, `Document.rename`: other texts in plain scalars.
* `Builder.Renames`: a step that builds what it builds, renamed, from renamed tokens.

## Main statements

* `Content.ofTokens?_rename`: the content of renamed tokens is the renamed content.
-/

namespace FeedSync.Yaml

variable {α β α' β' : Type} {f : String → String}

/-! ### Renaming -/

/-- A token with another text, if it is a plain scalar. -/
def Token.rename (f : String → String) : Token → Token
  | .scalar text .plain => .scalar (f text) .plain
  | token => token

mutual

/-- A node with other texts in its plain scalars. -/
def Node.rename (f : String → String) : Node → Node
  | .scalar tag text .plain => .scalar tag (f text) .plain
  | .scalar tag text style => .scalar tag text style
  | .sequence tag items => .sequence tag (renameItems f items)
  | .mapping tag entries => .mapping tag (renameEntries f entries)
  | .alias anchor => .alias anchor

/-- The nodes of a sequence with other texts in their plain scalars. -/
def renameItems (f : String → String) : List Node → List Node
  | [] => []
  | item :: items => item.rename f :: renameItems f items

/-- The keys and values of a mapping with other texts in their plain scalars. -/
def renameEntries (f : String → String) : List (Node × Node) → List (Node × Node)
  | [] => []
  | (key, value) :: entries => (key.rename f, value.rename f) :: renameEntries f entries

end

/-- A document with other texts in its plain scalars. -/
def Document.rename (f : String → String) (document : Document) : Document where
  root := document.root.rename f
  anchored := document.anchored.map fun (anchor, node) => (anchor, node.rename f)

/-- The content of a text with other texts in its plain scalars. -/
def Content.rename (f : String → String) : Content → Content
  | .nothing => .nothing
  | .document d => .document (d.rename f)

/-- Whether a token is a plain scalar. -/
def Token.isPlain : Token → Bool
  | .scalar _ .plain => true
  | _ => false

theorem Token.rename_of_not_isPlain {token : Token} (h : token.isPlain = false) :
    token.rename f = token := by
  cases token with
  | scalar text style =>
    cases style with
    | plain => cases h
    | quoted | literal | folded => rfl
  | _ => rfl

theorem Token.isPlain_rename (token : Token) : (token.rename f).isPlain = token.isPlain := by
  cases token with
  | scalar text style => cases style <;> rfl
  | _ => rfl

/-- Renaming does not change whether a token is one that is no plain scalar. -/
theorem Token.beq_rename {token stop : Token} (h : stop.isPlain = false) :
    (token.rename f == stop) = (token == stop) := by
  cases hplain : token.isPlain with
  | false => rw [rename_of_not_isPlain hplain]
  | true =>
    have hne : token ≠ stop := by rintro rfl; simp_all
    have hne' : token.rename f ≠ stop := by
      rintro rfl
      simp_all [isPlain_rename]
    rw [beq_false_of_ne hne, beq_false_of_ne hne']

theorem Token.contains_rename {token : Token} {stops : List Token}
    (h : ∀ stop ∈ stops, stop.isPlain = false) :
    stops.contains (token.rename f) = stops.contains token := by
  induction stops with
  | nil => rfl
  | cons stop stops ih =>
    obtain ⟨hstop, hstops⟩ := List.forall_mem_cons.mp h
    rw [List.contains_cons, List.contains_cons, beq_rename hstop, ih hstops]

/-! ### Steps that build -/

namespace Builder

/-- A state with other texts in the plain scalars of its tokens and nodes. -/
def rename (f : String → String) (b : Builder) : Builder :=
  { b with
    tokens := b.tokens.map (Token.rename f)
    anchored := b.anchored.map fun x => { x with node := x.node.rename f } }

/-- **A step that renames**: from renamed tokens the second step builds what the first one builds
from the tokens themselves, renamed. -/
def Renames (f : String → String) (g : α → β) (m : Build α) (m' : Build β) : Prop :=
  ∀ b, m'.run (b.rename f) = (m.run b).map (Prod.map g (rename f))

namespace Renames

variable {g : α → β} {h : α' → β'} {m : Build α} {m' : Build β}

theorem pure {a : α} {b : β} (hab : g a = b) :
    Renames f g (Pure.pure a : Build α) (Pure.pure b) := by
  subst hab
  exact fun _ => rfl

theorem failure : Renames f g (failure : Build α) failure := fun _ => rfl

theorem bind {k : α → Build α'} {k' : β → Build β'} (hm : Renames f g m m')
    (hk : ∀ a, Renames f h (k a) (k' (g a))) : Renames f h (m >>= k) (m' >>= k') := by
  intro b
  rw [StateT.run_bind, StateT.run_bind, hm]
  cases hrun : m.run b with
  | none => rfl
  | some r => exact hk r.1 r.2

theorem ite {c : Prop} [Decidable c] {n : Build α} {n' : Build β} (hm : Renames f g m m')
    (hn : Renames f g n n') : Renames f g (if c then m else n) (if c then m' else n') := by
  split
  · exact hm
  · exact hn

/-- A step that looks only at what renaming leaves as it is. -/
theorem of_get {k : Builder → Build α} {k' : Builder → Build β}
    (hk : ∀ b, Renames f g (k b) (k' (b.rename f))) : Renames f g (get >>= k) (get >>= k') :=
  fun b => hk b b

theorem modify {change change' : Builder → Builder}
    (hchange : ∀ b, change' (b.rename f) = (change b).rename f) :
    Renames f id (modify change : Build Unit) (modify change') := by
  intro b
  change some ((), change' (b.rename f)) = some ((), (change b).rename f)
  rw [hchange]

/-- A step that looks at the next token, and does the same whatever a plain scalar there says. -/
theorem peek {k : Option Token → Build α} {k' : Option Token → Build β}
    (hk : ∀ token, Renames f g (k token) (k' (token.map (Token.rename f)))) :
    Renames f g (peek >>= k) (peek >>= k') := by
  intro b
  refine (congrArg (fun token => (k' token).run (b.rename f)) ?_).trans (hk b.tokens.head? b)
  exact List.head?_map

/-- A step that looks at the next token, which is a plain scalar or not. -/
theorem lookAt {k : Option Token → Build α} {k' : Option Token → Build β}
    (hk : ∀ token, token.any Token.isPlain = false → Renames f g (k token) (k' token))
    (hplain : ∀ text,
      Renames f g (k (some (.scalar text .plain))) (k' (some (.scalar (f text) .plain)))) :
    Renames f g (Builder.peek >>= k) (Builder.peek >>= k') := by
  refine peek fun token => ?_
  cases token with
  | none => exact hk none rfl
  | some token =>
    cases htoken : token.isPlain with
    | false =>
      rw [Option.map_some, Token.rename_of_not_isPlain htoken]
      exact hk (some token) htoken
    | true =>
      cases token with
      | scalar text style =>
        cases style with
        | plain => exact hplain text
        | quoted | literal | folded => cases htoken
      | _ => cases htoken

/-- A step that looks at the next token, and does the same if it is any plain scalar. -/
theorem look {k : Option Token → Build α} {k' : Option Token → Build β}
    (hk : ∀ token, Renames f g (k token) (k' token))
    (hplain : ∀ text, k' (some (.scalar (f text) .plain)) = k' (some (.scalar text .plain))) :
    Renames f g (Builder.peek >>= k) (Builder.peek >>= k') :=
  lookAt (fun token _ => hk token) fun text => (hplain text).symm ▸ hk _

end Renames

variable {g : α → β}

/-! ### Tokens -/

theorem renames_advance : Renames f id advance advance :=
  .modify fun b => by simp [rename]

theorem renames_demand {token : Token} (h : token.isPlain = false) :
    Renames f id (demand token) (demand token) := by
  refine .peek fun next => ?_
  have hnext : (next.map (Token.rename f) == some token) = (next == some token) := by
    cases next with
    | none => rfl
    | some next => exact Token.beq_rename h
  rw [hnext]
  exact .ite renames_advance .failure

theorem renames_isBefore {stops : List Token} (h : ∀ stop ∈ stops, stop.isPlain = false) :
    Renames f id (isBefore stops) (isBefore stops) := by
  refine .peek fun next => .pure ?_
  cases next with
  | none => rfl
  | some next => exact (Token.contains_rename h).symm

theorem renames_takeNumber (name : String) : Renames f id (takeNumber name) (takeNumber name) :=
  fun _ => rfl

theorem renames_resolveTag (handle suffix : String) :
    Renames f id (resolveTag handle suffix) (resolveTag handle suffix) := by
  unfold resolveTag
  refine .ite (.pure rfl) (.of_get fun b => ?_)
  dsimp only [rename]
  split
  · exact .pure rfl
  · exact .failure

theorem renames_takeAnchor : Renames f id takeAnchor takeAnchor := by
  refine .look (fun token => ?_) fun _ => rfl
  split
  · exact .bind renames_advance fun _ => .pure rfl
  · exact .pure rfl

theorem renames_takeTag : Renames f id takeTag takeTag := by
  refine .look (fun token => ?_) fun _ => rfl
  split
  · exact .bind renames_advance fun _ => .bind (renames_resolveTag _ _) fun _ => .pure rfl
  · exact .pure rfl

theorem renames_takeProperties : Renames f id takeProperties takeProperties := by
  refine .bind renames_takeAnchor fun name => ?_
  cases name with
  | some name => exact .bind renames_takeTag fun _ => .pure rfl
  | none =>
    refine .bind renames_takeTag fun tag => ?_
    cases tag with
    | some tag => exact .bind renames_takeAnchor fun _ => .pure rfl
    | none => exact .pure rfl

theorem renames_anchored? (name : Option String) {build build' : Build Node}
    (h : Renames f (Node.rename f) build build') :
    Renames f (Node.rename f) (anchored? name build) (anchored? name build') := by
  cases name with
  | none => exact h
  | some name =>
    refine .bind (renames_takeNumber name) fun anchor => .bind (g := id) (fun _ => rfl) fun order =>
      .bind h fun node => .bind (.modify fun b => ?_) fun _ => .pure rfl
    rfl

/-! ### Nodes -/

/-- All steps that build nodes with some fuel rename. -/
structure NodesRename (f : String → String) (fuel : Nat) : Prop where
  node : ∀ isBlock allowsFlush,
    Renames f (Node.rename f) (node isBlock allowsFlush fuel) (node isBlock allowsFlush fuel)
  content : ∀ isBlock allowsFlush mayBeEmpty tag, Renames f (Node.rename f)
    (content isBlock allowsFlush mayBeEmpty tag fuel)
    (content isBlock allowsFlush mayBeEmpty tag fuel)
  blockItems : Renames f (renameItems f) (blockItems fuel) (blockItems fuel)
  flushItems : Renames f (renameItems f) (flushItems fuel) (flushItems fuel)
  blockEntries : Renames f (renameEntries f) (blockEntries fuel) (blockEntries fuel)
  flowItems : ∀ isFirst, Renames f (renameItems f) (flowItems isFirst fuel) (flowItems isFirst fuel)
  flowEntries : ∀ isFirst,
    Renames f (renameEntries f) (flowEntries isFirst fuel) (flowEntries isFirst fuel)

section Nodes

variable {fuel : Nat}

theorem rename_empty (hf : f "" = "") (tag : Option String) :
    (Node.scalar tag "" .plain).rename f = .scalar tag "" .plain := by
  rw [Node.rename, hf]

/-- A node that may be left out. -/
theorem renames_orEmpty (hf : f "" = "") {isEmpty : Bool} {build : Build Node}
    {k k' : Node → Build α}
    {g : α → α} (hbuild : Renames f (Node.rename f) build build)
    (hk : ∀ node, Renames f g (k node) (k' (node.rename f))) :
    Renames f g (if isEmpty = true then (do let node ← pure .empty; k node)
        else (do let node ← build; k node))
      (if isEmpty = true then (do let node ← pure .empty; k' node)
        else (do let node ← build; k' node)) :=
  .ite (.bind (.pure (rename_empty hf none)) hk) (.bind hbuild hk)

/-- The value after a key, which may be left out. -/
theorem renames_value (hf : f "" = "") {stops : List Token}
    (hstops : ∀ stop ∈ stops, stop.isPlain = false) {build : Build Node} {k k' : Node → Build α}
    {g : α → α} (hbuild : Renames f (Node.rename f) build build)
    (hk : ∀ node, Renames f g (k node) (k' (node.rename f))) :
    Renames f g
      (do
        match ← peek with
        | some .value => do
          advance
          if ← isBefore stops then (do let node ← pure .empty; k node)
          else (do let node ← build; k node)
        | _ => do let node ← pure .empty; k node)
      (do
        match ← peek with
        | some .value => do
          advance
          if ← isBefore stops then (do let node ← pure .empty; k' node)
          else (do let node ← build; k' node)
        | _ => do let node ← pure .empty; k' node) := by
  refine .look (fun token => ?_) fun _ => rfl
  split
  · exact .bind renames_advance fun _ => .bind (renames_isBefore hstops) fun _ =>
      renames_orEmpty hf hbuild hk
  · exact .bind (.pure (rename_empty hf none)) hk

/-- The comma before an entry that is not the first one. -/
theorem renames_comma {isFirst : Bool} {k k' : Unit → Build α} {g : α → α}
    (hk : Renames f g (k ()) (k' ())) :
    Renames f g (if (!isFirst) = true then (do let u ← demand .flowEntry; k u) else k ())
      (if (!isFirst) = true then (do let u ← demand .flowEntry; k' u) else k' ()) :=
  .ite (.bind (renames_demand rfl) fun _ => hk) hk

variable (hf : f "" = "") (ih : NodesRename f fuel)

include ih

theorem renames_node (isBlock allowsFlush : Bool) : Renames f (Node.rename f)
    (node isBlock allowsFlush (fuel + 1)) (node isBlock allowsFlush (fuel + 1)) := by
  rw [node]
  refine .look (fun token => ?_) fun _ => rfl
  split
  · refine .bind renames_advance fun _ => .of_get fun b => ?_
    dsimp only [rename]
    split
    · exact .pure rfl
    · exact .failure
  · exact .bind renames_takeProperties fun properties => renames_anchored? _ (ih.content _ _ _ _)

include hf

theorem renames_content (isBlock allowsFlush mayBeEmpty : Bool) (tag : Option String) :
    Renames f (Node.rename f) (content isBlock allowsFlush mayBeEmpty tag (fuel + 1))
      (content isBlock allowsFlush mayBeEmpty tag (fuel + 1)) := by
  rw [content]
  have hempty : Renames f (Node.rename f)
      (if mayBeEmpty = true then Pure.pure (.scalar tag "" .plain) else failure : Build Node)
      (if mayBeEmpty = true then Pure.pure (.scalar tag "" .plain) else failure) :=
    .ite (.pure (rename_empty hf tag)) .failure
  refine .lookAt (fun token htoken => ?_) fun text => .bind renames_advance fun _ => .pure rfl
  split
  case h_1 text style =>
    refine .bind renames_advance fun _ => .pure ?_
    cases style with
    | plain => cases htoken
    | quoted | literal | folded => rfl
  case h_2 => exact .bind renames_advance fun _ => .bind (ih.flowItems true) fun _ => .pure rfl
  case h_3 => exact .bind renames_advance fun _ => .bind (ih.flowEntries true) fun _ => .pure rfl
  case h_4 => exact .ite (.bind ih.flushItems fun _ => .pure rfl) hempty
  case h_5 =>
    exact .ite (.bind renames_advance fun _ => .bind ih.blockItems fun _ => .pure rfl) hempty
  case h_6 =>
    exact .ite (.bind renames_advance fun _ => .bind ih.blockEntries fun _ => .pure rfl) hempty
  case h_7 => exact hempty

theorem renames_blockItems :
    Renames f (renameItems f) (blockItems (fuel + 1)) (blockItems (fuel + 1)) := by
  rw [blockItems]
  refine .look (fun token => ?_) fun _ => rfl
  split
  · exact .bind renames_advance fun _ => .pure rfl
  · exact .bind (renames_demand rfl) fun _ =>
      .bind (renames_isBefore (by simp [Token.isPlain])) fun _ =>
        renames_orEmpty hf (ih.node true false) fun _ => .bind ih.blockItems fun _ => .pure rfl

theorem renames_flushItems :
    Renames f (renameItems f) (flushItems (fuel + 1)) (flushItems (fuel + 1)) := by
  rw [flushItems]
  refine .look (fun token => ?_) fun _ => rfl
  split
  · exact .bind renames_advance fun _ =>
      .bind (renames_isBefore (by simp [Token.isPlain])) fun _ =>
      renames_orEmpty hf (ih.node true false) fun _ => .bind ih.flushItems fun _ => .pure rfl
  · exact .pure rfl

theorem renames_blockEntries :
    Renames f (renameEntries f) (blockEntries (fuel + 1)) (blockEntries (fuel + 1)) := by
  rw [blockEntries]
  refine .look (fun token => ?_) fun _ => rfl
  split
  · exact .bind renames_advance fun _ => .pure rfl
  · exact .bind (renames_demand rfl) fun _ =>
      .bind (renames_isBefore (by simp [Token.isPlain])) fun _ =>
        renames_orEmpty hf (ih.node true true) fun _ =>
          renames_value hf (by simp [Token.isPlain]) (ih.node true true) fun _ =>
            .bind ih.blockEntries fun _ => .pure rfl

theorem renames_flowItems (isFirst : Bool) :
    Renames f (renameItems f) (flowItems isFirst (fuel + 1)) (flowItems isFirst (fuel + 1)) := by
  rw [flowItems]
  refine .look (fun token => .ite (.bind renames_advance fun _ => .pure rfl) (renames_comma ?_))
    fun _ => rfl
  refine .look (fun token => ?_) fun _ => rfl
  split
  · exact .bind renames_advance fun _ => .pure rfl
  · refine .bind renames_advance fun _ =>
      .bind (renames_isBefore (by simp [Token.isPlain])) fun _ =>
        .ite (.bind renames_advance fun _ => .bind (.pure (rename_empty hf none)) fun key => ?_)
          (.bind (ih.node false false) fun key => ?_)
    all_goals
      exact renames_value hf (by simp [Token.isPlain]) (ih.node false false) fun _ =>
        .bind (ih.flowItems false) fun _ => .pure rfl
  · exact .bind (ih.node false false) fun _ => .bind (ih.flowItems false) fun _ => .pure rfl

theorem renames_flowEntries (isFirst : Bool) :
    Renames f (renameEntries f) (flowEntries isFirst (fuel + 1))
      (flowEntries isFirst (fuel + 1)) := by
  rw [flowEntries]
  refine .look (fun token => .ite (.bind renames_advance fun _ => .pure rfl) (renames_comma ?_))
    fun _ => rfl
  refine .look (fun token => ?_) fun _ => rfl
  split
  · exact .bind renames_advance fun _ => .pure rfl
  · exact .bind renames_advance fun _ =>
      .bind (renames_isBefore (by simp [Token.isPlain])) fun _ =>
      renames_orEmpty hf (ih.node false false) fun _ =>
        renames_value hf (by simp [Token.isPlain]) (ih.node false false) fun _ =>
          .bind (ih.flowEntries false) fun _ => .pure rfl
  · refine .bind (ih.node false false) fun _ => .bind (ih.flowEntries false) fun _ => .pure ?_
    rw [renameEntries, Node.empty, rename_empty hf]

end Nodes

/-- **Building renames**: with any fuel. -/
theorem nodesRename (hf : f "" = "") (fuel : Nat) : NodesRename f fuel := by
  induction fuel with
  | zero => exact ⟨fun _ _ => .failure, fun _ _ _ _ => .failure, .failure, .failure, .failure,
      fun _ => .failure, fun _ => .failure⟩
  | succ fuel ih => exact ⟨renames_node ih, renames_content hf ih, renames_blockItems hf ih,
      renames_flushItems hf ih, renames_blockEntries hf ih, renames_flowItems hf ih,
      renames_flowEntries hf ih⟩

/-! ### Documents -/

theorem renames_takeDirectives (fuel : Nat) (hasVersion : Bool) :
    Renames f id (takeDirectives fuel hasVersion) (takeDirectives fuel hasVersion) := by
  induction fuel generalizing hasVersion with
  | zero => exact .failure
  | succ fuel ih =>
    rw [takeDirectives]
    refine .look (fun token => ?_) fun _ => rfl
    split
    · exact .ite (.bind (g := id) .failure fun _ => .bind renames_advance fun _ => ih true)
        (.bind renames_advance fun _ => ih true)
    · refine .of_get fun b => .ite (.bind (g := id) .failure fun _ => ?_) ?_
      all_goals
        exact .bind renames_advance fun _ => .bind (.modify fun _ => rfl) fun _ => ih hasVersion
    · exact .pure rfl

theorem renames_isExplicit : Renames f id isExplicit isExplicit := by
  refine .look (fun token => ?_) fun _ => rfl
  split <;> exact .pure rfl

theorem renames_document (hf : f "" = "") (fuel : Nat) :
    Renames f (Node.rename f) (document fuel) (document fuel) := by
  have hnode := (nodesRename hf fuel).node true false
  refine .bind renames_isExplicit fun isExplicit => .ite ?_ ?_
  · exact .bind (renames_takeDirectives fuel false) fun _ => .bind (renames_demand rfl) fun _ =>
      .bind (.modify fun _ => rfl) fun _ =>
        .bind (renames_isBefore (by simp [Token.isPlain])) fun _ =>
          .bind renames_isExplicit fun _ => .ite (.pure (rename_empty hf none)) hnode
  · exact .bind (.modify fun _ => rfl) fun _ => hnode

theorem renames_takeEnds (fuel : Nat) : Renames f id (takeEnds fuel) (takeEnds fuel) := by
  induction fuel with
  | zero => exact .pure rfl
  | succ fuel ih =>
    rw [takeEnds]
    exact .look (fun token => .ite (.bind renames_advance fun _ => ih) (.pure rfl)) fun _ => rfl

end Builder

/-! ### Contents -/

namespace Content

/-- Builds a document from some tokens and goes over the marks after it. -/
def wholeDocument (length : Nat) : Build Node := do
  let root ← Builder.document (4 * length + 8)
  Builder.takeEnds length
  return root

/-- The document that was built, if no tokens are left. -/
def ofBuilt? (built : Node × Builder) : Option Content :=
  if !built.2.tokens.isEmpty then none
  else
    let latestFirst := built.2.anchored.mergeSort fun x y => y.order ≤ x.order
    some (.document { root := built.1, anchored := latestFirst.map fun x => (x.anchor, x.node) })

/-- The content that some tokens describe. -/
def ofTokens? (tokens : List Token) : Option Content :=
  if tokens.isEmpty then some .nothing
  else ((wholeDocument tokens.length).run { tokens }).bind ofBuilt?

/-- The document that a content is, if it is one. -/
def document? : Content → Option Document
  | .nothing => none
  | .document d => some d

theorem ofTokens?_of_document? {tokens : List Token} {document : Document}
    (h : (ofTokens? tokens).bind document? = some document) :
    ofTokens? tokens = some (.document document) := by
  obtain ⟨content, hcontent, h⟩ := Option.bind_eq_some_iff.mp h
  cases content with
  | nothing => cases h
  | document _ =>
    cases h
    exact hcontent

theorem ofText?_eq (text : String) : ofText? text = (tokens? text).bind ofTokens? := rfl

theorem renames_wholeDocument (hf : f "" = "") (length : Nat) :
    Builder.Renames f (Node.rename f) (wholeDocument length) (wholeDocument length) :=
  .bind (Builder.renames_document hf _) fun _ => .bind (Builder.renames_takeEnds length) fun _ =>
    .pure rfl

theorem ofBuilt?_rename (built : Node × Builder) :
    ofBuilt? (built.map (Node.rename f) (Builder.rename f)) = (ofBuilt? built).map (rename f) := by
  have hsort := List.map_mergeSort (l := built.2.anchored)
    (r := fun x y => decide (y.order ≤ x.order)) (s := fun x y => decide (y.order ≤ x.order))
    (f := fun x => { x with node := x.node.rename f }) fun _ _ _ _ => rfl
  simp only [ofBuilt?, Prod.map, Builder.rename, List.isEmpty_map, ← hsort]
  split_ifs
  · rfl
  · simp [rename, Document.rename, Function.comp_def]

/-- **The content of renamed tokens** is the renamed content. -/
theorem ofTokens?_rename (hf : f "" = "") (tokens : List Token) :
    ofTokens? (tokens.map (Token.rename f)) = (ofTokens? tokens).map (rename f) := by
  have hrun := renames_wholeDocument hf tokens.length { tokens }
  change (wholeDocument tokens.length).run { tokens := tokens.map (Token.rename f) } = _ at hrun
  rw [ofTokens?, ofTokens?, List.isEmpty_map, List.length_map, hrun]
  split_ifs
  · rfl
  · rw [Option.bind_map, Option.map_bind]
    exact Option.bind_congr fun built _ => ofBuilt?_rename built

end Content

end FeedSync.Yaml
