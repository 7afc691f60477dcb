import FeedSync.Yaml.Scalar

/-!
# The tokens of a YAML text

A text is a sequence of tokens. Most are written, but those that tell where block collections begin
and end follow from the indentation of lines, and whether something is the **key** of a mapping
shows only at the `:` after it: then the token for the key, and where necessary the one for the
mapping, are put before it after the fact. Such a key stands on one line and is shorter than 1024
characters.
-/

namespace FeedSync.Yaml

/-- A token. -/
inductive Token where
  /-- `%YAML` with the two parts of a version. -/
  | version (major minor : Nat)
  /-- `%TAG` with a handle and what it stands for. -/
  | tagHandle (handle expansion : String)
  | documentStart
  | documentEnd
  | blockSequenceStart
  | blockMappingStart
  | blockEnd
  | flowSequenceStart
  | flowSequenceEnd
  | flowMappingStart
  | flowMappingEnd
  /-- The `-` before an item of a block sequence. -/
  | blockEntry
  /-- The comma between entries of a flow collection. -/
  | flowEntry
  | key
  | value
  | alias (name : String)
  | anchor (name : String)
  | tag (handle suffix : String)
  | scalar (text : String) (style : Style)
  deriving DecidableEq, Repr

/-- A place where a key may have begun. -/
structure PossibleKey where
  /-- How many tokens stand before it. -/
  position : Nat
  /-- Where it begins. -/
  start : Cursor
  /-- Whether nothing else can stand there. -/
  isRequired : Bool

/-- What is known while the tokens of a text are taken. -/
structure Lexer where
  cursor : Cursor
  tokens : List Token := []
  /-- The columns of the open block collections, the innermost first. -/
  indents : List Nat := []
  /-- Whether a key may begin here. -/
  allowsKey : Bool := true
  /-- For each open flow collection, the innermost first, and at last for the text around them, the
  place where the current key may have begun. -/
  keys : List (Option PossibleKey) := [none]

/-- A step that takes tokens from a text, or refuses it. -/
abbrev Lex := StateT Lexer Option

namespace Lexer

/-! ### Looking and moving -/

/-- What follows. -/
def rest (l : Lexer) : List Char := l.cursor.rest

/-- Whether the cursor is inside a flow collection. -/
def inFlow (l : Lexer) : Bool := l.keys.length > 1

/-- The column of the innermost block collection, if there is one. -/
def indent (l : Lexer) : Option Nat := l.indents.head?

/-- Goes over some characters. -/
def skip (n : Nat := 1) : Lex Unit := modify fun l => { l with cursor := l.cursor.skip n }

/-- Moves the cursor. -/
def moveTo (cursor : Cursor) : Lex Unit := modify fun l => { l with cursor }

/-- Appends a token. -/
def emit (token : Token) : Lex Unit := modify fun l => { l with tokens := l.tokens ++ [token] }

/-- Says whether a key may begin here. -/
def allowKey (allowsKey : Bool) : Lex Unit := modify fun l => { l with allowsKey }

/-- Goes on if a condition holds. -/
def demand (condition : Bool) : Lex Unit := if condition then return else failure

/-! ### Keys -/

/-- Gives up the key that may have begun; a required one must not be given up. -/
def dropKey : Lex Unit := do
  match (← get).keys with
  | some key :: keys =>
    demand !key.isRequired
    modify fun l => { l with keys := none :: keys }
  | _ => return

/-- Notes that a key may begin here, if one may. -/
def noteKey : Lex Unit := do
  let l ← get
  if l.allowsKey then
    dropKey
    let key : PossibleKey := {
      position := l.tokens.length
      start := l.cursor
      isRequired := !l.inFlow && l.indent == some l.cursor.column }
    modify fun l => { l with keys := some key :: l.keys.drop 1 }

/-- Whether a key that began at some place must have ended. -/
def isStale (key : PossibleKey) (c : Cursor) : Bool :=
  key.start.line < c.line || key.start.index + 1024 < c.index

/-- Gives up the keys that must have ended; required ones must not be among them. -/
def dropStaleKeys : Lex Unit := do
  let l ← get
  let keys ← l.keys.mapM fun
    | some key =>
      if isStale key l.cursor then do
        demand !key.isRequired
        return none
      else return some key
    | none => return none
  set { l with keys }

/-! ### Block collections -/

/-- Begins a block collection at a column, unless there is one or the place is inside a flow
collection. Its token is put at a position. -/
def beginBlock (column position : Nat) (token : Token) : Lex Unit := do
  let l ← get
  if !l.inFlow && l.indent.all (· < column) then
    set { l with
      indents := column :: l.indents
      tokens := l.tokens.take position ++ token :: l.tokens.drop position }

/-- Ends the block collections with a column that is not left of the given one. -/
def endBlocks (l : Lexer) (isOver : Nat → Bool) : Lexer :=
  if l.inFlow then l
  else
    let ended := l.indents.takeWhile isOver
    { l with
      indents := l.indents.drop ended.length
      tokens := l.tokens ++ List.replicate ended.length .blockEnd }

/-- Ends all block collections and gives up the key that may have begun. -/
def endAll : Lex Unit := do
  modify (endBlocks · fun _ => true)
  dropKey
  allowKey false

/-! ### Tokens of one character -/

/-- `[` or `{`. -/
def takeFlowStart (token : Token) : Lex Unit := do
  noteKey
  modify fun l => { l with keys := none :: l.keys }
  allowKey true
  skip
  emit token

/-- `]` or `}`. -/
def takeFlowEnd (token : Token) : Lex Unit := do
  dropKey
  modify fun l => { l with keys := if l.inFlow then l.keys.drop 1 else l.keys }
  allowKey false
  skip
  emit token

/-- The comma between entries of a flow collection. -/
def takeFlowEntry : Lex Unit := do
  dropKey
  allowKey true
  skip
  emit .flowEntry

/-- The `-` of a block sequence. -/
def takeBlockEntry : Lex Unit := do
  let l ← get
  if !l.inFlow then
    demand l.allowsKey
    beginBlock l.cursor.column l.tokens.length .blockSequenceStart
  dropKey
  allowKey true
  skip
  emit .blockEntry

/-- The `?` before a key. -/
def takeKey : Lex Unit := do
  let l ← get
  if !l.inFlow then
    demand l.allowsKey
    beginBlock l.cursor.column l.tokens.length .blockMappingStart
  dropKey
  allowKey !l.inFlow
  skip
  emit .key

/-- The `:` before a value. -/
def takeValue : Lex Unit := do
  let l ← get
  match l.keys with
  | some key :: keys =>
    set { l with
      keys := none :: keys
      tokens := l.tokens.take key.position ++ Token.key :: l.tokens.drop key.position }
    beginBlock key.start.column key.position .blockMappingStart
    allowKey false
  | _ =>
    if !l.inFlow then
      demand l.allowsKey
      beginBlock l.cursor.column l.tokens.length .blockMappingStart
    allowKey !l.inFlow
  skip
  emit .value

/-! ### Names and tags -/

/-- Takes the characters of a class. -/
def takeWhile (p : Char → Bool) : Lex String := do
  let (text, cursor) := (← get).cursor.takeWhile p
  moveTo cursor
  return String.ofList text

/-- The name of an anchor or an alias, after its mark. -/
def takeName : Lex String := do
  noteKey
  allowKey false
  skip
  let name ← takeWhile isWord
  let rest := (← get).rest
  demand !name.isEmpty
  demand (atSpace rest || rest.head?.any (['?', ':', ',', ']', '}', '%', '@', '\x60'].contains ·))
  return name

/-- Whether a character may stand in a tag. -/
def isTagChar (isVerbatim : Bool) (c : Char) : Bool :=
  isWord c || ";/?:@&=+$.!~*'()".contains c || (isVerbatim && ",[]".contains c)

/-- The number of bytes of a character in UTF-8 by its first byte. -/
def utf8Width? (b : Nat) : Option Nat :=
  if b < 0x80 then some 1
  else if 0xC0 ≤ b && b < 0xE0 then some 2
  else if 0xE0 ≤ b && b < 0xF0 then some 3
  else if 0xF0 ≤ b && b < 0xF8 then some 4
  else none

/-- Takes some escaped bytes. -/
def takeEscapedBytes : Nat → List Char → Option (List Nat × List Char)
  | 0, cs => some ([], cs)
  | n + 1, '%' :: a :: b :: cs => do
    let byte ← Text.numberIn? 16 [a, b]
    let (bytes, cs) ← takeEscapedBytes n cs
    return (byte :: bytes, cs)
  | _, _ => none

/-- Takes a character of a tag that is written as its escaped bytes. -/
def takeEscapedChar (cs : List Char) : Option (Char × List Char) := do
  let (first, _) ← takeEscapedBytes 1 cs
  let width ← utf8Width? (first.headD 0)
  let (bytes, cs) ← takeEscapedBytes width cs
  if (bytes.drop 1).any fun b => b / 0x40 != 2 then none
  else
    let text := String.fromUTF8? (ByteArray.mk (bytes.map UInt8.ofNat).toArray)
    return ((text.bind (·.toList.head?)).getD '\ufffd', cs)

/-- Takes the characters of a tag. -/
def takeTagChars (isVerbatim : Bool) : (fuel : Nat) → List Char → Option (List Char × List Char)
  | 0, cs => some ([], cs)
  | fuel + 1, cs =>
    match cs with
    | '%' :: _ => do
      let (c, cs) ← takeEscapedChar cs
      let (text, cs) ← takeTagChars isVerbatim fuel cs
      return (c :: text, cs)
    | c :: rest =>
      if isTagChar isVerbatim c then do
        let (text, cs) ← takeTagChars isVerbatim fuel rest
        return (c :: text, cs)
      else some ([], cs)
    | [] => some ([], [])

/-- Takes what stands in a tag, or after its handle. -/
def takeSuffix (isVerbatim : Bool) : Lex String := do
  let cs := (← get).rest
  let (text, rest) ← (takeTagChars isVerbatim cs.length cs : Option _)
  skip (cs.length - rest.length)
  return String.ofList text

/-- Takes the handle of a tag: `!`, or a name between two of them. The second one may be missing,
and then it may not be a handle at all. -/
def takeHandle : Lex String := do
  demand ((← get).rest.head? == some '!')
  skip
  let name ← takeWhile isWord
  if (← get).rest.head? == some '!' then
    skip
    return "!" ++ name ++ "!"
  else return "!" ++ name

/-- Takes a tag. -/
def takeTag : Lex Unit := do
  noteKey
  allowKey false
  let token ← match (← get).rest with
    | '!' :: '<' :: _ => do
      skip 2
      let suffix ← takeSuffix true
      demand (!suffix.isEmpty && (← get).rest.head? == some '>')
      skip
      pure (Token.tag "" suffix)
    | _ => do
      let handle ← takeHandle
      let suffix ← takeSuffix false
      if handle.length > 1 && handle.endsWith "!" then do
        demand !suffix.isEmpty
        pure (.tag handle suffix)
      else
        let whole := (handle.drop 1).toString ++ suffix
        pure (if whole.isEmpty then .tag "" "!" else .tag "!" whole)
  let l ← get
  demand (atSpace l.rest || (l.inFlow && l.rest.head? == some ','))
  emit token

/-! ### Directives -/

/-- Takes a part of a version. -/
def takeVersionPart : Lex Nat := do
  let digits ← takeWhile Char.isDigit
  demand (!digits.isEmpty && digits.length ≤ 9)
  return Text.digitsValue digits.toList

/-- Takes a directive. -/
def takeDirective : Lex Unit := do
  endAll
  skip
  let name ← takeWhile isWord
  demand (atSpace (← get).rest)
  modify fun l => { l with cursor := l.cursor.skipBlanks }
  match name with
  | "YAML" => do
    let major ← takeVersionPart
    demand ((← get).rest.head? == some '.')
    skip
    let minor ← takeVersionPart
    emit (.version major minor)
  | "TAG" => do
    let handle ← takeHandle
    demand (handle == "!" || handle.endsWith "!")
    demand ((← get).rest.head?.any isBlank)
    modify fun l => { l with cursor := l.cursor.skipBlanks }
    let expansion ← takeSuffix true
    demand (!expansion.isEmpty && atSpace (← get).rest)
    emit (.tagHandle handle expansion)
  | _ => failure
  moveTo (← ((← get).cursor.skipLineEnd : Option _))

/-- Takes the mark of a document's start or end. -/
def takeDocumentMark (token : Token) : Lex Unit := do
  endAll
  skip 3
  emit token

/-! ### Scalars -/

/-- Takes a block scalar. -/
def takeBlockScalar (style : Style) : Lex Unit := do
  dropKey
  allowKey true
  skip
  let l ← get
  let (text, cursor) ← (takeBlock (style == .folded) l.indent l.cursor : Option _)
  moveTo cursor
  emit (.scalar (String.ofList text) style)

/-- Takes a quoted scalar. -/
def takeQuotedScalar (quote : Char) : Lex Unit := do
  noteKey
  allowKey false
  skip
  let l ← get
  let (text, cursor) ← (takeQuoted quote (l.rest.length + 1) [] l.cursor : Option _)
  moveTo cursor
  emit (.scalar (String.ofList text) .quoted)

/-- Takes a plain scalar. -/
def takePlainScalar : Lex Unit := do
  noteKey
  allowKey false
  let l ← get
  let margin := match l.indent with
    | some indent => indent + 1
    | none => 0
  let (text, isBroken, cursor) ←
    (takePlain l.inFlow margin (l.rest.length + 1) [] {} l.cursor : Option _)
  moveTo cursor
  emit (.scalar (String.ofList text) .plain)
  if isBroken then allowKey true

/-! ### All tokens -/

/-- Goes over blanks, comments and breaks to the next token. Tabs may stand only where no key may
begin. -/
def skipToToken : (fuel : Nat) → Lex Unit
  | 0 => return
  | fuel + 1 => do
    let l ← get
    let allowsTab := l.inFlow || !l.allowsKey
    let c := (l.cursor.skipWhile fun c => c == ' ' || (allowsTab && c == '\t')).skipComment
    if !c.rest.isEmpty && atBreak c.rest then
      set { l with cursor := c.skipBreak, allowsKey := l.allowsKey || !l.inFlow }
      skipToToken fuel
    else moveTo c

/-- The marks with which no plain scalar begins. -/
def indicators : List Char :=
  ['[', ']', '{', '}', ',', '#', '&', '*', '!', '|', '>', '\'', '"', '%', '@', '\x60']

/-- Whether a plain scalar may begin with some text. -/
def startsPlain (inFlow : Bool) : List Char → Bool
  | [] => false
  | c :: rest =>
    if c == '-' then !rest.head?.any isBlank
    else if c == '?' || c == ':' then !inFlow && !atSpace rest
    else !(isBlank c || isBreak c || indicators.contains c)

/-- Takes the next token, which begins at the cursor. -/
def takeToken : Lex Unit := do
  let l ← get
  let blockMark (rest : List Char) := l.inFlow || atSpace rest
  if l.cursor.column == 0 && l.rest.head? == some '%' then takeDirective
  else if l.cursor.column == 0 && atDocumentMark l.rest then
    takeDocumentMark (if l.rest.head? == some '-' then .documentStart else .documentEnd)
  else
    match l.rest with
    | '[' :: _ => takeFlowStart .flowSequenceStart
    | '{' :: _ => takeFlowStart .flowMappingStart
    | ']' :: _ => takeFlowEnd .flowSequenceEnd
    | '}' :: _ => takeFlowEnd .flowMappingEnd
    | ',' :: _ => takeFlowEntry
    | '*' :: _ => do emit (.alias (← takeName))
    | '&' :: _ => do emit (.anchor (← takeName))
    | '!' :: _ => takeTag
    | '\'' :: _ => takeQuotedScalar '\''
    | '"' :: _ => takeQuotedScalar '"'
    | c :: rest =>
      if c == '-' && atSpace rest then takeBlockEntry
      else if c == '?' && blockMark rest then takeKey
      else if c == ':' && blockMark rest then takeValue
      else if c == '|' && !l.inFlow then takeBlockScalar .literal
      else if c == '>' && !l.inFlow then takeBlockScalar .folded
      else if startsPlain l.inFlow l.rest then takePlainScalar
      else failure
    | [] => failure

/-- Takes all tokens up to the end of the text. -/
def takeAll : (fuel : Nat) → Lex Unit
  | 0 => failure
  | fuel + 1 => do
    skipToToken ((← get).rest.length + 1)
    dropStaleKeys
    let l ← get
    set (l.endBlocks fun column => l.cursor.column < column)
    if l.rest.isEmpty then endAll
    else
      takeToken
      takeAll fuel

end Lexer

/-- The tokens of a text. A byte order mark may stand at its beginning. -/
def tokens? (text : String) : Option (List Token) :=
  let cs := text.toList
  if cs.all isAllowed then
    let start : Cursor := { rest := cs }
    let start := if cs.head? == some '\ufeff' then start.skip else start
    ((Lexer.takeAll (cs.length + 1)).run { cursor := start }).map fun (_, l) => l.tokens
  else none

end FeedSync.Yaml
