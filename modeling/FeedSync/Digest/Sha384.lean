/-!
# SHA-384

The digest by which a text that was used once is recognised later. The constants are computed from
their definition: the first 64 bits of the fractions of roots of the first primes.
-/

namespace FeedSync.Sha384

/-! ### Constants -/

/-- Whether a number is prime. -/
def isPrime (n : Nat) : Bool :=
  2 ≤ n && (List.range n).all fun d => d < 2 || n % d != 0

/-- The first eighty primes. -/
def primes : List Nat := (List.range 410).filter isPrime

/-- The greatest number whose `k`th power is at most `n`, built from its binary digits below
`2 ^ digits`, on top of the digits found so far. -/
def root (k n : Nat) : (digits : Nat) → (found : Nat) → Nat
  | 0, found => found
  | digits + 1, found =>
    let more := found + (1 <<< digits)
    root k n digits (if Nat.pow more k ≤ n then more else found)

/-- The first 64 bits of the fraction of the `k`th root of a number. -/
def rootFraction (k n : Nat) : UInt64 := UInt64.ofNat (root k (n <<< (64 * k)) 70 0)

/-- The constants of the rounds: cube roots of the first eighty primes. -/
def roundConstants : List UInt64 := primes.map (rootFraction 3)

/-- Eight words. -/
structure Words where
  a : UInt64
  b : UInt64
  c : UInt64
  d : UInt64
  e : UInt64
  f : UInt64
  g : UInt64
  h : UInt64
  deriving DecidableEq, Repr

/-- The words to start from: square roots of the ninth to the sixteenth prime. -/
def start : Words where
  a := rootFraction 2 23
  b := rootFraction 2 29
  c := rootFraction 2 31
  d := rootFraction 2 37
  e := rootFraction 2 41
  f := rootFraction 2 43
  g := rootFraction 2 47
  h := rootFraction 2 53

/-! ### Blocks -/

/-- A word rotated to the right. -/
def rotate (w : UInt64) (n : UInt64) : UInt64 := (w >>> n) ||| (w <<< (64 - n))

/-- The words of a block, the sixteen given ones first and the others computed from them, most
recent first. -/
def expand : (more : Nat) → List UInt64 → List UInt64
  | 0, ws => ws
  | more + 1, ws =>
    let x := ws.getD 14 0
    let y := ws.getD 1 0
    let s := rotate x 1 ^^^ rotate x 8 ^^^ (x >>> 7)
    let t := rotate y 19 ^^^ rotate y 61 ^^^ (y >>> 6)
    expand more ((ws.getD 15 0 + s + ws.getD 6 0 + t) :: ws)

/-- One round with its constant and its word of the block. -/
def round (v : Words) (constant word : UInt64) : Words :=
  let s := rotate v.e 14 ^^^ rotate v.e 18 ^^^ rotate v.e 41
  let choice := (v.e &&& v.f) ^^^ (~~~v.e &&& v.g)
  let t := v.h + s + choice + constant + word
  let u := rotate v.a 28 ^^^ rotate v.a 34 ^^^ rotate v.a 39
  let majority := (v.a &&& v.b) ^^^ (v.a &&& v.c) ^^^ (v.b &&& v.c)
  { a := t + u + majority, b := v.a, c := v.b, d := v.c
    e := v.d + t, f := v.e, g := v.f, h := v.g }

/-- Takes a block of sixteen words into account. -/
def absorb (constants : List UInt64) (v : Words) (block : List UInt64) : Words :=
  let words := (expand 64 block.reverse).reverse
  let w := (constants.zip words).foldl (fun w (constant, word) => round w constant word) v
  { a := v.a + w.a, b := v.b + w.b, c := v.c + w.c, d := v.d + w.d
    e := v.e + w.e, f := v.f + w.f, g := v.g + w.g, h := v.h + w.h }

/-! ### Messages -/

/-- A message filled up to whole blocks: a one bit, zeros, and its length in bits. -/
def fill (message : List UInt8) : List UInt8 :=
  let zeros := (111 + 128 - message.length % 128) % 128
  let length := (List.range 16).map fun i => UInt8.ofNat (8 * message.length / Nat.pow 256 (15 - i))
  message ++ 0x80 :: List.replicate zeros 0 ++ length

/-- The pieces of a list that are so long. -/
def pieces {α : Type} (size : Nat) (count : Nat) (xs : List α) : List (List α) :=
  (List.range count).map fun i => (xs.drop (size * i)).take size

/-- The word with the given bytes, the highest first. -/
def wordOf (bytes : List UInt8) : UInt64 := bytes.foldl (fun w b => (w <<< 8) ||| b.toUInt64) 0

/-- The hexadecimal digits of a word. -/
def hex (w : UInt64) : List Char :=
  (List.range 16).map fun i => Nat.digitChar ((w >>> UInt64.ofNat (4 * (15 - i))).toNat % 16)

/-- The digest of a message in hexadecimal digits. -/
def digest (message : List UInt8) : String :=
  let filled := fill message
  let blocks := (pieces 128 (filled.length / 128) filled).map fun block =>
    (pieces 8 16 block).map wordOf
  let v := blocks.foldl (absorb roundConstants) start
  String.ofList ([v.a, v.b, v.c, v.d, v.e, v.f].flatMap hex)

end FeedSync.Sha384
