import FeedSync.Text.Digits
import FeedSync.Text.Percent

/-!
# Hosts of addresses

The host of a web address is a domain, an IPv4 address in any of its spellings, or an IPv6 address
in brackets. Where the scheme says nothing about hosts, any text without separators will do.
-/

namespace FeedSync.Url

open FeedSync.Text

/-- A character that no host holds. -/
def isForbiddenInHost (c : Char) : Bool := c ∈ "\x00\t\n\r #/:<>?@[\\]^|".toList

/-- A character that no domain holds. -/
def isForbiddenInDomain (c : Char) : Bool :=
  isForbiddenInHost c || c.toNat < 0x20 || c == '%' || c == '\x7f'

/-- A character that is written as it is nowhere in an address. -/
def isControl (c : Char) : Bool := c.toNat < 0x20 || 0x7e < c.toNat

/-! ### IPv4 -/

/-- A part of an IPv4 address: decimal, octal after `0`, or hexadecimal after `0x`. -/
def ipv4Number? : List Char → Option Nat
  | [] => none
  | '0' :: 'x' :: cs | '0' :: 'X' :: cs => numberIn? 16 cs
  | '0' :: c :: cs => numberIn? 8 (c :: cs)
  | cs => numberIn? 10 cs

/-- The parts of a domain; an empty one at the end does not count. -/
def domainParts (cs : List Char) : List (List Char) :=
  let parts := cs.splitOn '.'
  match parts.getLast? with
  | some [] => if parts.length > 1 then parts.dropLast else parts
  | _ => parts

/-- Whether the last part of a domain is a number, so that it can only be an IPv4 address. -/
def endsInNumber (cs : List Char) : Bool :=
  match (domainParts cs).getLast? with
  | none => false
  | some part => (!part.isEmpty && part.all Char.isDigit) || (ipv4Number? part).isSome

/-- The number that an IPv4 address stands for: its parts are bytes, except that the last one fills
all bytes that are left. -/
def ipv4? (cs : List Char) : Option Nat := do
  let parts ← (domainParts cs).mapM ipv4Number?
  let last ← parts.getLast?
  let front := parts.dropLast
  if front.length < 4 && front.all (· < 256) && last < Nat.pow 256 (4 - front.length) then
    some (Nat.pow 256 (4 - front.length) * front.foldl (fun n byte => 256 * n + byte) 0 + last)
  else none

/-- An IPv4 address in its usual form. -/
def ipv4Text (n : Nat) : List Char :=
  ['.'].intercalate ([3, 2, 1, 0].map fun i => decimal (n / Nat.pow 256 i % 256))

/-! ### IPv6 -/

/-- Whether a text is a byte in decimal, without leading zeros. -/
def isByte (cs : List Char) : Bool :=
  !cs.isEmpty && cs.all Char.isDigit && digitsValue cs < 256 && decimal (digitsValue cs) == cs

/-- How many groups a piece of an IPv6 address between colons fills; an IPv4 address may stand last
and fills two. -/
def groupSize (isLast : Bool) (cs : List Char) : Option Nat :=
  if !cs.isEmpty && cs.length ≤ 4 && cs.all (hexValue? · |>.isSome) then some 1
  else
    let bytes := cs.splitOn '.'
    if isLast && bytes.length == 4 && bytes.all isByte then some 2 else none

/-- How many groups a run of pieces fills. -/
def groupCount (isLast : Bool) : List (List Char) → Option Nat
  | [] => some 0
  | [cs] => groupSize isLast cs
  | cs :: rest => do return (← groupSize false cs) + (← groupCount isLast rest)

/-- The pieces of a run; an empty run has none. -/
def groups (cs : List Char) : List (List Char) := if cs.isEmpty then [] else cs.splitOn ':'

/-- Splits a text at the first double colon. -/
def atDoubleColon : List Char → Option (List Char × List Char)
  | ':' :: ':' :: rest => some ([], rest)
  | c :: rest => (atDoubleColon rest).map fun (front, back) => (c :: front, back)
  | [] => none

/-- Whether a text is an IPv6 address: eight groups, or fewer with one double colon. -/
def isIpv6 (cs : List Char) : Bool :=
  match atDoubleColon cs with
  | none => groupCount true (groups cs) == some 8
  | some (front, back) =>
    match groupCount false (groups front), groupCount true (groups back) with
    | some m, some n => m + n ≤ 7
    | _, _ => false

/-! ### Hosts -/

/-- The host of a web address. -/
def domain? (cs : List Char) : Option (List Char) :=
  let decoded := (utf8Lenient (percentDecode cs)).toLower.toList
  if decoded.isEmpty || decoded.any isForbiddenInDomain then none
  else if endsInNumber decoded then (ipv4? decoded).map ipv4Text
  else some decoded

/-- The host of an address with a scheme that says nothing about hosts. -/
def opaqueHost? (cs : List Char) : Option (List Char) :=
  if cs.any isForbiddenInHost then none else some (percentEncode isControl cs)

/-- A host as it stands in an address. -/
def host? (isWeb : Bool) (cs : List Char) : Option (List Char) :=
  match cs with
  | '[' :: rest =>
    if rest.getLast? = some ']' && isIpv6 rest.dropLast then some (cs.map Char.toLower) else none
  | _ => if isWeb then domain? cs else opaqueHost? cs

end FeedSync.Url
