import FeedSync.Json.Text
import FeedSync.Text.Digits

/-!
# Numbers inside JSON texts

`readNumeral` reads a number as a value: an integer if it is written as one and fits into 64 bits
with or without a sign, otherwise a float. A float is kept without its value, since no field takes
one; but a float beyond the largest double is refused, so the sizes of doubles are computed here.
`skipNumeral` only looks for the end of a number, without regard to its size.
-/

namespace FeedSync.Json

open FeedSync.Text

/-- A number as it is read. -/
inductive Numeral where
  | integer (value : Int)
  /-- A number with a fraction or an exponent, minus zero, or an integer beyond 64 bits. -/
  | float
  deriving DecidableEq, Repr

/-- The greatest unsigned number of 64 bits. -/
def greatestWord : Nat := UInt64.size - 1

/-! ### The size of a float -/

/-- A natural number rounded to 53 binary digits, ties to the even neighbour. -/
def roundToDouble (n : Nat) : Nat :=
  let excess := n.log2 + 1 - 53
  let quotient := n >>> excess
  let unit := 1 <<< excess
  let remainder := n % unit
  let up := 2 * remainder > unit || (2 * remainder == unit && quotient % 2 == 1)
  (if excess > 0 && up then quotient + 1 else quotient) <<< excess

/-- Whether `significand · 10 ^ exponent` stays below the doubles' infinity. Significand and power
are rounded before they are multiplied; powers of ten above the 308th are never tried. -/
def fitsDouble (significand : Nat) (exponent : Int) : Bool :=
  if exponent ≤ 0 then true
  else if exponent > 308 then significand == 0
  else
    let infinity := (1 <<< 1024) - (1 <<< 970)
    roundToDouble significand * roundToDouble (Nat.pow 10 exponent.toNat) < infinity

/-! ### Reading -/

/-- Takes digits into a significand as long as it stays within 64 bits, and gives the digits from
the first one that does not fit. -/
def accumulate (significand : Nat) : List Char → Nat × List Char
  | [] => (significand, [])
  | c :: cs =>
    if 10 * significand + digitValue c ≤ greatestWord then
      accumulate (10 * significand + digitValue c) cs
    else (significand, c :: cs)

/-- The verdict on a float: it must not reach infinity. -/
def floatWithin (significand : Nat) (exponent : Int) (rest : List Char) :
    Except Fault (Numeral × List Char) :=
  if fitsDouble significand exponent then .ok (.float, rest) else .error .malformed

/-- Reads the exponent of a float after its `e`. An exponent beyond 32 bits is infinitely large or
makes the number zero. -/
def readExponent (significand : Nat) (exponent : Int) (cs : List Char) :
    Except Fault (Numeral × List Char) :=
  let (negative, cs) : Bool × List Char :=
    match cs with
    | '+' :: cs => (false, cs)
    | '-' :: cs => (true, cs)
    | cs => (false, cs)
  match cs with
  | [] => .error .truncated
  | c :: _ =>
    if c.isDigit then
      let run := cs.takeWhile Char.isDigit
      let rest := cs.dropWhile Char.isDigit
      let value : Int := digitsValue run
      if value > Int32.maxValue.toInt then
        if significand ≠ 0 && !negative then .error .malformed else .ok (.float, rest)
      else floatWithin significand (if negative then exponent - value else exponent + value) rest
    else .error .malformed

/-- Reads what follows the fraction of a float, or its integer part if that is beyond 64 bits. -/
def readFloatEnd (significand : Nat) (exponent : Int) (cs : List Char) :
    Except Fault (Numeral × List Char) :=
  match cs with
  | c :: rest =>
    if c == 'e' || c == 'E' then readExponent significand exponent rest
    else floatWithin significand exponent cs
  | [] => floatWithin significand exponent []

/-- Reads the fraction of a float after its point. Digits that no longer fit into the significand
are dropped. -/
def readFraction (significand : Nat) (exponent : Int) (cs : List Char) :
    Except Fault (Numeral × List Char) :=
  match cs with
  | [] => .error .truncated
  | c :: _ =>
    if c.isDigit then
      let run := cs.takeWhile Char.isDigit
      let (significand, dropped) := accumulate significand run
      readFloatEnd significand (exponent - (run.length - dropped.length : Nat))
        (cs.dropWhile Char.isDigit)
    else .error .malformed

/-- An integer of the given sign and size, which is within 64 bits. Minus zero, and what is below
the least signed number of 64 bits, are floats. -/
def integerOf (negative : Bool) (size : Nat) : Numeral :=
  if !negative then .integer size
  else if size = 0 || -size < Int64.minValue.toInt then .float
  else .integer (-size)

/-- Reads a number without its sign. -/
def readUnsigned (negative : Bool) (cs : List Char) : Except Fault (Numeral × List Char) :=
  match cs with
  | [] => .error .truncated
  | c :: after =>
    if !c.isDigit then .error .malformed
    else if c == '0' && (after.head?.any Char.isDigit) then .error .malformed
    else
      let run := cs.takeWhile Char.isDigit
      let rest := cs.dropWhile Char.isDigit
      let (significand, dropped) := accumulate 0 run
      let exponent : Int := dropped.length
      match rest with
      | '.' :: rest => readFraction significand exponent rest
      | 'e' :: rest => readExponent significand exponent rest
      | 'E' :: rest => readExponent significand exponent rest
      | rest =>
        if dropped.isEmpty then .ok (integerOf negative significand, rest)
        else floatWithin significand exponent rest

/-- Reads a number and gives what follows. -/
def readNumeral (cs : List Char) : Except Fault (Numeral × List Char) :=
  match cs with
  | '-' :: cs => readUnsigned true cs
  | cs => readUnsigned false cs

/-! ### Skipping -/

/-- Skips at least one digit. -/
def skipDigits (cs : List Char) : Except Fault (List Char) :=
  if cs.head?.any Char.isDigit then .ok (cs.dropWhile Char.isDigit) else .error .malformed

/-- Skips an exponent, if there is one. -/
def skipExponent (cs : List Char) : Except Fault (List Char) :=
  match cs with
  | c :: rest =>
    if c == 'e' || c == 'E' then
      match rest with
      | s :: rest' => if s == '+' || s == '-' then skipDigits rest' else skipDigits rest
      | [] => .error .malformed
    else .ok cs
  | [] => .ok []

/-- Skips a number. A number that ends too early is malformed, not truncated. -/
def skipNumeral (cs : List Char) : Except Fault (List Char) := do
  let cs := if cs.head? == some '-' then cs.tail else cs
  let rest ← skipDigits cs
  if cs.head? == some '0' && cs.tail.head?.any Char.isDigit then .error .malformed
  else
    match rest with
    | '.' :: rest => skipDigits rest >>= skipExponent
    | rest => skipExponent rest

end FeedSync.Json
