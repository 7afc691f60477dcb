import FeedSync.Text.Digits
import FeedSync.Yaml.Cursor

/-!
# Scalars in a YAML text

The five styles in which a scalar can be written, and how each is read. Line breaks inside plain and
quoted scalars are **folded**: a single one becomes a blank, of several the first one is dropped.
-/

namespace FeedSync.Yaml

/-- How a scalar is written. -/
inductive Style where
  | plain
  | quoted
  | literal
  | folded
  deriving DecidableEq, Repr

/-! ### Gaps between words -/

/-- The blanks and breaks between two words of a scalar. -/
structure Gap where
  /-- Whether the gap goes over the end of a line. -/
  isBroken : Bool := false
  /-- The blanks, if it does not. -/
  blanks : List Char := []
  /-- The first break. -/
  first : List Char := []
  /-- The breaks after the first one. -/
  more : List Char := []

/-- What a gap stands for in the scalar. -/
def Gap.fold (gap : Gap) : List Char :=
  if !gap.isBroken then gap.blanks
  else if gap.first == ['\n'] then (if gap.more.isEmpty then [' '] else gap.more)
  else gap.first ++ gap.more

/-- Takes the blanks and breaks at the cursor. Tabs may not stand left of the margin of a line. -/
def takeGap (margin : Nat) : (fuel : Nat) → Gap → Cursor → Option (Gap × Cursor)
  | 0, gap, c => some (gap, c)
  | fuel + 1, gap, c =>
    match c.rest with
    | [] => some (gap, c)
    | x :: _ =>
      if isBlank x then
        if !gap.isBroken then takeGap margin fuel { gap with blanks := gap.blanks ++ [x] } c.skip
        else if x == '\t' && c.column < margin then none
        else takeGap margin fuel gap c.skip
      else if isBreak x then
        let (text, next) := c.takeBreak
        if gap.isBroken then takeGap margin fuel { gap with more := gap.more ++ text } next
        else takeGap margin fuel { isBroken := true, first := text } next
      else some (gap, c)

/-! ### Plain scalars -/

/-- The brackets and the comma of flow collections. -/
def isFlowMark (c : Char) : Bool := c == ',' || c == '[' || c == ']' || c == '{' || c == '}'

/-- Takes a word of a plain scalar. -/
def takePlainWord (inFlow : Bool) : List Char → Option (List Char)
  | [] => some []
  | c :: rest =>
    if isBlank c || isBreak c then some []
    else if inFlow && c == ':' && (rest.head?.any fun d => isFlowMark d || d == '?') then none
    else if c == ':' && atSpace rest then some []
    else if inFlow && isFlowMark c then some []
    else (takePlainWord inFlow rest).map (c :: ·)

/-- Takes the words of a plain scalar after a gap. The answer is the scalar, and whether the gap
after it goes over the end of a line. -/
def takePlain (inFlow : Bool) (margin : Nat) :
    (fuel : Nat) → (text : List Char) → Gap → Cursor → Option (List Char × Bool × Cursor)
  | 0, _, _, _ => none
  | fuel + 1, text, gap, c =>
    if (c.column == 0 && atDocumentMark c.rest) || c.rest.head? == some '#' then
      some (text, gap.isBroken, c)
    else do
      let word ← takePlainWord inFlow c.rest
      let (text, gap) := if word.isEmpty then (text, gap) else (text ++ gap.fold ++ word, {})
      let c := c.skip word.length
      if c.rest.isEmpty || !atSpace c.rest then return (text, gap.isBroken, c)
      let (gap, c) ← takeGap margin c.rest.length {} c
      if !inFlow && c.column < margin then return (text, gap.isBroken, c)
      takePlain inFlow margin fuel text gap c

/-! ### Quoted scalars -/

/-- The character that a one-letter escape stands for. -/
def escaped? : Char → Option Char
  | '0' => some '\x00'
  | 'a' => some '\x07'
  | 'b' => some '\x08'
  | 't' => some '\t'
  | '\t' => some '\t'
  | 'n' => some '\n'
  | 'v' => some '\x0b'
  | 'f' => some '\x0c'
  | 'r' => some '\r'
  | 'e' => some '\x1b'
  | ' ' => some ' '
  | '"' => some '"'
  | '/' => some '/'
  | '\\' => some '\\'
  | 'N' => some '\u0085'
  | '_' => some '\u00a0'
  | 'L' => some '\u2028'
  | 'P' => some '\u2029'
  | _ => none

/-- The number of digits after a numeric escape. -/
def escapeDigits? : Char → Option Nat
  | 'x' => some 2
  | 'u' => some 4
  | 'U' => some 8
  | _ => none

/-- The character with a number. -/
def charOf? (n : Nat) : Option Char := if n.isValidChar then some (Char.ofNat n) else none

/-- Takes the characters of a quoted scalar up to a blank, a break, the closing quote or an escaped
break. The answer tells how many characters were taken, and whether an escaped break follows. -/
def takeQuotedWord (quote : Char) : (fuel : Nat) → List Char → Option (List Char × Nat × Bool)
  | 0, _ => none
  | fuel + 1, cs =>
    let goOn (c : Char) (taken : Nat) := do
      let (word, n, isBroken) ← takeQuotedWord quote fuel (cs.drop taken)
      return (c :: word, n + taken, isBroken)
    match cs with
    | [] => some ([], 0, false)
    | c :: rest =>
      if isBlank c || isBreak c then some ([], 0, false)
      else if quote == '\'' && c == '\'' && rest.head? == some '\'' then goOn c 2
      else if c == quote then some ([], 0, false)
      else if quote == '"' && c == '\\' then
        if !rest.isEmpty && atBreak rest then some ([], 0, true)
        else do
          let kind ← rest.head?
          match escapeDigits? kind with
          | some digits =>
            let hex := (rest.drop 1).take digits
            if hex.length < digits then none
            else goOn (← charOf? (← Text.numberIn? 16 hex)) (digits + 2)
          | none => goOn (← escaped? kind) 2
      else goOn c 1

/-- Takes a quoted scalar after its opening quote. -/
def takeQuoted (quote : Char) :
    (fuel : Nat) → (text : List Char) → Cursor → Option (List Char × Cursor)
  | 0, _, _ => none
  | fuel + 1, text, c =>
    if c.rest.isEmpty || (c.column == 0 && atDocumentMark c.rest) then none
    else do
      let (word, n, isBroken) ← takeQuotedWord quote (c.rest.length + 1) c.rest
      let text := text ++ word
      let c := c.skip n
      let c := if isBroken then c.skip.skipBreak else c
      if c.rest.head? == some quote then return (text, c.skip)
      let (gap, c) ← takeGap 0 c.rest.length { isBroken } c
      takeQuoted quote fuel (text ++ gap.fold) c

/-! ### Block scalars -/

/-- What becomes of the breaks at the end of a block scalar. -/
inductive Chomping where
  | strip
  | clip
  | keep
  deriving DecidableEq, Repr

/-- Takes the mark after `|` or `>` that says what becomes of the last breaks. -/
def takeChomping (c : Cursor) : Option Chomping × Cursor :=
  match c.rest with
  | '+' :: _ => (some .keep, c.skip)
  | '-' :: _ => (some .strip, c.skip)
  | _ => (none, c)

/-- Takes the digit after `|` or `>` that says how far the block scalar is indented. -/
def takeIncrement (c : Cursor) : Option (Option Nat × Cursor) :=
  match c.rest with
  | d :: _ =>
    if d == '0' then none
    else if d.isDigit then some (some (Text.digitValue d), c.skip)
    else some (none, c)
  | [] => some (none, c)

/-- Takes the marks after `|` or `>`, in either order. -/
def takeHeader (c : Cursor) : Option (Chomping × Option Nat × Cursor) := do
  match takeChomping c with
  | (some chomping, c) =>
    let (increment, c) ← takeIncrement c
    return (chomping, increment, c)
  | (none, c) =>
    let (increment, c) ← takeIncrement c
    match increment with
    | none => return (.clip, none, c)
    | some _ =>
      let (chomping, c) := takeChomping c
      return (chomping.getD .clip, increment, c)

/-- Takes the indentation of a line of a block scalar, and the empty lines before it. The answer
tells the greatest column that was reached, and the breaks. Without an indentation, which may not be
known yet, all blanks are taken. -/
def takeMargin (indent : Option Nat) :
    (fuel : Nat) → (widest : Nat) → (breaks : List Char) → Cursor →
    Option (Nat × List Char × Cursor)
  | 0, _, _, _ => none
  | fuel + 1, widest, breaks, c =>
    let blanks := (c.rest.takeWhile (· == ' ')).length
    let c := c.skip (match indent with
      | some indent => min blanks (indent - c.column)
      | none => blanks)
    let widest := max widest c.column
    if c.rest.head? == some '\t' && (indent.all (c.column < ·)) then none
    else if !c.rest.isEmpty && atBreak c.rest then
      let (text, c) := c.takeBreak
      takeMargin indent fuel widest (breaks ++ text) c
    else some (widest, breaks, c)

/-- The lines of a block scalar so far. -/
structure BlockText where
  text : List Char := []
  /-- The break after the last line. -/
  first : List Char := []
  /-- The breaks after that one. -/
  more : List Char := []
  /-- Whether the last line starts with a blank. -/
  isIndented : Bool := false

/-- The breaks after the last line as they stand before the next one, which starts with a blank or
not. -/
def BlockText.join (block : BlockText) (isFolded startsBlank : Bool) : List Char :=
  if isFolded && block.first == ['\n'] && !block.isIndented && !startsBlank then
    if block.more.isEmpty then [' '] else block.more
  else block.first ++ block.more

/-- Takes the lines of a block scalar. -/
def takeLines (isFolded : Bool) (indent : Nat) :
    (fuel : Nat) → BlockText → Cursor → Option (BlockText × Cursor)
  | 0, _, _ => none
  | fuel + 1, block, c =>
    if c.column == indent && !c.rest.isEmpty then do
      let startsBlank := c.rest.head?.any isBlank
      let (line, c) := c.takeWhile (!isBreak ·)
      let (first, c) := c.takeBreak
      let (_, more, c) ← takeMargin (some indent) (c.rest.length + 1) 0 [] c
      let text := block.text ++ block.join isFolded startsBlank ++ line
      takeLines isFolded indent fuel { text, first, more, isIndented := startsBlank } c
    else some (block, c)

/-- Takes a block scalar after its `|` or `>`, in a collection with an indentation, which is missing
at the top. -/
def takeBlock (isFolded : Bool) (outer : Option Nat) (c : Cursor) :
    Option (List Char × Cursor) := do
  let (chomping, increment, c) ← takeHeader c
  let c ← c.skipLineEnd
  let given := increment.map (outer.getD 0 + ·)
  let (widest, more, c) ← takeMargin given (c.rest.length + 1) 0 [] c
  let least := match outer with
    | some outer => outer + 1
    | none => 1
  let indent := given.getD (max widest (max least 1))
  let (block, c) ← takeLines isFolded indent (c.rest.length + 1) { more } c
  let tail := match chomping with
    | .strip => []
    | .clip => block.first
    | .keep => block.first ++ block.more
  return (block.text ++ tail, c)

end FeedSync.Yaml
