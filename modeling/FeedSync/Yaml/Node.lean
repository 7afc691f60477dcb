import FeedSync.Yaml.Token

/-!
# YAML documents

A document is a tree of scalars, sequences and mappings. Nodes can be **anchored** under a name, and
an alias stands for the node that was anchored last under its name where the alias is written.
-/

namespace FeedSync.Yaml

/-- A node of a document. -/
inductive Node where
  | scalar (tag : Option String) (text : String) (style : Style)
  | sequence (tag : Option String) (items : List Node)
  | mapping (tag : Option String) (entries : List (Node × Node))
  /-- Stands for the node with the number of an anchor. -/
  | alias (anchor : Nat)
  deriving Repr, Inhabited

/-- A document. -/
structure Document where
  root : Node
  /-- The anchored nodes with the numbers of their anchors. -/
  anchored : List (Nat × Node)
  deriving Repr

/-- The node that a node stands for. -/
def Document.resolve (document : Document) : Node → Option Node
  | .alias anchor => document.anchored.lookup anchor
  | node => some node

/-- The node where nothing is written. -/
def Node.empty : Node := .scalar none "" .plain

/-! ### From tokens to nodes -/

/-- An anchored node. -/
structure Anchored where
  /-- How many anchors were written before. -/
  order : Nat
  anchor : Nat
  node : Node

/-- What is known while a document is read from its tokens. -/
structure Builder where
  tokens : List Token
  /-- What the handles of tags stand for. -/
  handles : List (String × String) := []
  /-- The names of anchors with the numbers that they have now. -/
  anchors : List (String × Nat) := []
  /-- How many anchors have been written. -/
  written : Nat := 0
  anchored : List Anchored := []

/-- A step that builds part of a document, or refuses its tokens. -/
abbrev Build := StateT Builder Option

namespace Builder

/-- The next token. -/
def peek : Build (Option Token) := do return (← get).tokens.head?

/-- Goes over the next token. -/
def advance : Build Unit := modify fun b => { b with tokens := b.tokens.drop 1 }

/-- Goes over a token that has to come next. -/
def demand (token : Token) : Build Unit := do
  if (← peek) == some token then advance else failure

/-- Whether one of some tokens comes next, or the end. -/
def isBefore (tokens : List Token) : Build Bool := do
  return (← peek).all (tokens.contains ·)

/-- The number for an anchor that is written now. Numbers count names, so that a name that is used
twice leaves its second number to the next new name. -/
def takeNumber (name : String) : Build Nat := modifyGet fun b =>
  let number := b.anchors.length
  (number, { b with anchors := (name, number) :: b.anchors.filter (·.1 != name) })

/-- What a tag stands for. -/
def resolveTag (handle suffix : String) : Build String := do
  if handle.isEmpty then return suffix
  match (← get).handles.lookup handle with
  | some expansion => return expansion ++ suffix
  | none => failure

/-- Takes an anchor, if one comes next. -/
def takeAnchor : Build (Option String) := do
  match ← peek with
  | some (.anchor name) => advance; return some name
  | _ => return none

/-- Takes a tag, if one comes next. -/
def takeTag : Build (Option String) := do
  match ← peek with
  | some (.tag handle suffix) => advance; return some (← resolveTag handle suffix)
  | _ => return none

/-- Takes the anchor and the tag of a node, in either order. -/
def takeProperties : Build (Option String × Option String) := do
  match ← takeAnchor with
  | some name => return (some name, ← takeTag)
  | none =>
    match ← takeTag with
    | some tag => return (← takeAnchor, some tag)
    | none => return (none, none)

/-- Builds a node and remembers it under its anchor. -/
def anchored? (name : Option String) (build : Build Node) : Build Node := do
  match name with
  | none => build
  | some name =>
    let anchor ← takeNumber name
    let order ← modifyGet fun b => (b.written, { b with written := b.written + 1 })
    let node ← build
    modify fun b => { b with anchored := { order, anchor, node } :: b.anchored }
    return node

mutual

/-- Builds a node. In block context it may be a block collection; as a key or value of a block
mapping it may be a block sequence that is not indented. -/
def node (isBlock allowsFlush : Bool) : (fuel : Nat) → Build Node
  | 0 => failure
  | fuel + 1 => do
    match ← peek with
    | some (.alias name) =>
      advance
      match (← get).anchors.lookup name with
      | some anchor => return .alias anchor
      | none => failure
    | _ =>
      let (anchor, tag) ← takeProperties
      anchored? anchor (content isBlock allowsFlush (anchor.isSome || tag.isSome) tag fuel)

/-- Builds a node after its anchor and its tag. Only a node that has one may be left out. -/
def content (isBlock allowsFlush mayBeEmpty : Bool) (tag : Option String) :
    (fuel : Nat) → Build Node
  | 0 => failure
  | fuel + 1 => do
    match ← peek with
    | some (.scalar text style) =>
      advance
      return .scalar (tag.filter (· != "!")) text style
    | some .flowSequenceStart =>
      advance
      return .sequence tag (← flowItems true fuel)
    | some .flowMappingStart =>
      advance
      return .mapping tag (← flowEntries true fuel)
    | some .blockEntry =>
      if allowsFlush then return .sequence tag (← flushItems fuel)
      else if mayBeEmpty then return .scalar tag "" .plain
      else failure
    | some .blockSequenceStart =>
      if isBlock then
        advance
        return .sequence tag (← blockItems fuel)
      else if mayBeEmpty then return .scalar tag "" .plain
      else failure
    | some .blockMappingStart =>
      if isBlock then
        advance
        return .mapping tag (← blockEntries fuel)
      else if mayBeEmpty then return .scalar tag "" .plain
      else failure
    | _ => if mayBeEmpty then return .scalar tag "" .plain else failure

/-- Builds the items of a block sequence. -/
def blockItems : (fuel : Nat) → Build (List Node)
  | 0 => failure
  | fuel + 1 => do
    match ← peek with
    | some .blockEnd => advance; return []
    | _ =>
      demand .blockEntry
      let item ← if ← isBefore [.blockEntry, .blockEnd] then pure .empty else node true false fuel
      return item :: (← blockItems fuel)

/-- Builds the items of a block sequence that is not indented. -/
def flushItems : (fuel : Nat) → Build (List Node)
  | 0 => failure
  | fuel + 1 => do
    match ← peek with
    | some .blockEntry =>
      advance
      let item ← if ← isBefore [.blockEntry, .key, .value, .blockEnd] then pure .empty
        else node true false fuel
      return item :: (← flushItems fuel)
    | _ => return []

/-- Builds the entries of a block mapping. -/
def blockEntries : (fuel : Nat) → Build (List (Node × Node))
  | 0 => failure
  | fuel + 1 => do
    match ← peek with
    | some .blockEnd => advance; return []
    | _ =>
      demand .key
      let stops := [Token.key, .value, .blockEnd]
      let key ← if ← isBefore stops then pure .empty else node true true fuel
      let value ← match ← peek with
        | some .value => do
          advance
          if ← isBefore stops then pure .empty else node true true fuel
        | _ => pure .empty
      return (key, value) :: (← blockEntries fuel)

/-- Builds the items of a flow sequence. An item may be a mapping of one entry without brackets. -/
def flowItems (isFirst : Bool) : (fuel : Nat) → Build (List Node)
  | 0 => failure
  | fuel + 1 => do
    if (← peek) == some .flowSequenceEnd then
      advance
      return []
    if !isFirst then demand .flowEntry
    match ← peek with
    | some .flowSequenceEnd => advance; return []
    | some .key =>
      advance
      let key ← if ← isBefore [.value, .flowEntry, .flowSequenceEnd] then do advance; pure .empty
        else node false false fuel
      let value ← match ← peek with
        | some .value => do
          advance
          if ← isBefore [.flowEntry, .flowSequenceEnd] then pure .empty
          else node false false fuel
        | _ => pure .empty
      return .mapping none [(key, value)] :: (← flowItems false fuel)
    | _ =>
      let item ← node false false fuel
      return item :: (← flowItems false fuel)

/-- Builds the entries of a flow mapping. A key may stand without a value. -/
def flowEntries (isFirst : Bool) : (fuel : Nat) → Build (List (Node × Node))
  | 0 => failure
  | fuel + 1 => do
    if (← peek) == some .flowMappingEnd then
      advance
      return []
    if !isFirst then demand .flowEntry
    match ← peek with
    | some .flowMappingEnd => advance; return []
    | some .key =>
      advance
      let key ← if ← isBefore [.value, .flowEntry, .flowMappingEnd] then pure .empty
        else node false false fuel
      let value ← match ← peek with
        | some .value => do
          advance
          if ← isBefore [.flowEntry, .flowMappingEnd] then pure .empty
          else node false false fuel
        | _ => pure .empty
      return (key, value) :: (← flowEntries false fuel)
    | _ =>
      let key ← node false false fuel
      return (key, .empty) :: (← flowEntries false fuel)

end

/-- Takes the directives before a document. -/
def takeDirectives : (fuel : Nat) → (hasVersion : Bool) → Build Unit
  | 0, _ => failure
  | fuel + 1, hasVersion => do
    match ← peek with
    | some (.version major minor) =>
      if hasVersion || major != 1 || (minor != 1 && minor != 2) then failure
      advance
      takeDirectives fuel true
    | some (.tagHandle handle expansion) =>
      if ((← get).handles.lookup handle).isSome then failure
      advance
      modify fun b => { b with handles := (handle, expansion) :: b.handles }
      takeDirectives fuel hasVersion
    | _ => return

/-- The handles that every document knows. -/
def knownHandles : List (String × String) := [("!", "!"), ("!!", "tag:yaml.org,2002:")]

/-- Whether a document begins here that says so, perhaps after directives. -/
def isExplicit : Build Bool := do
  match ← peek with
  | some (.version ..) | some (.tagHandle ..) | some .documentStart => return true
  | _ => return false

/-- Builds a document. -/
def document (fuel : Nat) : Build Node := do
  if ← isExplicit then
    takeDirectives fuel false
    demand .documentStart
    modify fun b => { b with handles := b.handles ++ knownHandles }
    if (← isBefore [.documentEnd]) || (← isExplicit) then return .empty
    else node true false fuel
  else
    modify fun b => { b with handles := knownHandles }
    node true false fuel

/-- Goes over the marks after a document. -/
def takeEnds : (fuel : Nat) → Build Unit
  | 0 => return
  | fuel + 1 => do
    if (← peek) == some .documentEnd then
      advance
      takeEnds fuel

end Builder

/-- What a YAML text holds. -/
inductive Content where
  /-- Nothing at all. -/
  | nothing
  | document (document : Document)
  deriving Repr

/-- The content of a text with at most one document; anything else is refused. -/
def Content.ofText? (text : String) : Option Content := do
  let tokens ← tokens? text
  if tokens.isEmpty then return .nothing
  let fuel := 4 * tokens.length + 8
  let (root, b) ← (do
    let root ← Builder.document fuel
    Builder.takeEnds tokens.length
    return root : Build Node).run { tokens }
  if !b.tokens.isEmpty then none
  else
    let latestFirst := b.anchored.mergeSort fun x y => y.order ≤ x.order
    return .document { root, anchored := latestFirst.map fun x => (x.anchor, x.node) }

end FeedSync.Yaml
