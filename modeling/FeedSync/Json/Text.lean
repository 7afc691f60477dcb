import FeedSync.Text.Digits

/-!
# Strings inside JSON texts

Every function here starts right after the opening quote. `unescape` reads a string and gives its
characters; `skipString` only looks for its end and so accepts escapes that denote no character,
which `unescape` refuses. `quote` writes a string. Main statement: what `quote` writes, `unescape`
reads back (`unescape_escape`).
-/

namespace FeedSync.Json

open FeedSync.Text (hexValue?)

/-- What is wrong with a JSON text, for whoever reads it from the left. -/
inductive Fault where
  /-- It is no JSON. -/
  | malformed
  /-- It is JSON, but no value of the kind that is asked for. -/
  | mismatched
  /-- It ends too early. -/
  | truncated
  deriving DecidableEq, Repr

/-- The number of bytes of a text in UTF-8. -/
def utf8Length (cs : List Char) : Nat := cs.foldl (fun n c => n + c.utf8Size) 0

/-- Takes the four hexadecimal digits of an escape. The text is truncated only if fewer than four
bytes are left. -/
def takeHex (cs : List Char) : Except Fault (Nat × List Char) :=
  match cs with
  | a :: b :: c :: d :: rest =>
    match hexValue? a, hexValue? b, hexValue? c, hexValue? d with
    | some a, some b, some c, some d => .ok (((a * 16 + b) * 16 + c) * 16 + d, rest)
    | _, _, _, _ => .error .malformed
  | _ => if utf8Length cs < 4 then .error .truncated else .error .malformed

/-- The character that a one-letter escape denotes. -/
def simpleEscape? (c : Char) : Option Char :=
  if c == '"' || c == '\\' || c == '/' then some c
  else if c == 'b' then some '\x08'
  else if c == 'f' then some '\x0c'
  else if c == 'n' then some '\n'
  else if c == 'r' then some '\r'
  else if c == 't' then some '\t'
  else none

/-- The character of a pair of surrogates. -/
def pairedChar (high low : Nat) : Char :=
  Char.ofNat ((high - 0xD800) * 0x400 + (low - 0xDC00) + 0x10000)

/-- Takes a numeric escape after its `\u`, with the second half of a pair of surrogates if the first
half is one. -/
def takeUnicodeEscape (cs : List Char) : Except Fault (Char × List Char) := do
  let (unit, rest) ← takeHex cs
  if 0xDC00 ≤ unit && unit ≤ 0xDFFF then .error .malformed
  else if unit < 0xD800 || 0xDBFF < unit then .ok (Char.ofNat unit, rest)
  else
    match rest with
    | [] => .error .truncated
    | '\\' :: [] => .error .truncated
    | '\\' :: 'u' :: rest =>
      let (low, rest) ← takeHex rest
      if 0xDC00 ≤ low && low ≤ 0xDFFF then .ok (pairedChar unit low, rest)
      else .error .malformed
    | _ => .error .malformed

/-- One piece of a string. -/
inductive Piece where
  /-- The closing quote, and what follows it. -/
  | close (rest : List Char)
  /-- One character, and what follows it. -/
  | char (c : Char) (rest : List Char)

/-- The first piece of a string: its end, a character or an escape. Control characters must be
escaped. -/
def takePiece (cs : List Char) : Except Fault Piece :=
  match cs with
  | [] => .error .truncated
  | c :: cs =>
    if c == '"' then .ok (.close cs)
    else if c == '\\' then
      match cs with
      | [] => .error .truncated
      | e :: cs =>
        if e == 'u' then (takeUnicodeEscape cs).map fun (c, rest) => .char c rest
        else
          match simpleEscape? e with
          | some c => .ok (.char c cs)
          | none => .error .malformed
    else if c < ' ' then .error .malformed
    else .ok (.char c cs)

theorem takeHex_length {cs rest : List Char} {n : Nat} (h : takeHex cs = .ok (n, rest)) :
    rest.length < cs.length := by
  unfold takeHex at h
  split at h
  · split at h
    · cases h; simp only [List.length_cons]; omega
    · cases h
  · split at h <;> cases h

theorem takeUnicodeEscape_length {cs rest : List Char} {c : Char}
    (h : takeUnicodeEscape cs = .ok (c, rest)) : rest.length < cs.length := by
  unfold takeUnicodeEscape at h
  cases hex : takeHex cs with
  | error f => simp [hex, bind, Except.bind] at h
  | ok p =>
    have hp := takeHex_length hex
    simp only [hex, bind, Except.bind] at h
    split at h
    · simp at h
    split at h
    · simp only [Except.ok.injEq, Prod.mk.injEq] at h
      rw [← h.2]; exact hp
    split at h
    · simp at h
    · simp at h
    · rename_i tail hrest
      cases hex' : takeHex tail with
      | error f => simp [hex'] at h
      | ok q =>
        have hq := takeHex_length hex'
        simp only [hex'] at h
        split at h
        · simp only [Except.ok.injEq, Prod.mk.injEq] at h
          have : p.2.length = tail.length + 2 := by simp [hrest]
          rw [← h.2]; omega
        · simp at h
    · simp at h

theorem takePiece_length {cs rest : List Char} {c : Char}
    (h : takePiece cs = .ok (.char c rest)) : rest.length < cs.length := by
  unfold takePiece at h
  split at h
  · cases h
  rename_i x xs
  split at h
  · cases h
  split at h
  · split at h
    · cases h
    · rename_i e es
      split at h
      · cases hu : takeUnicodeEscape es with
        | error f => simp [hu, Except.map] at h
        | ok p =>
          simp only [hu, Except.map, Except.ok.injEq, Piece.char.injEq] at h
          have := @takeUnicodeEscape_length es p.2 p.1 hu
          simp only [List.length_cons, ← h.2]
          omega
      · split at h
        · cases h; simp only [List.length_cons]; omega
        · cases h
  split at h
  · cases h
  · cases h; simp

/-- Reads a string up to its closing quote, and gives its characters and what follows. -/
def unescape (cs : List Char) : Except Fault (List Char × List Char) :=
  match h : takePiece cs with
  | .error fault => .error fault
  | .ok (.close rest) => .ok ([], rest)
  | .ok (.char c rest) =>
    have := takePiece_length h
    (unescape rest).map fun (chars, rest) => (c :: chars, rest)
  termination_by cs.length

/-- Looks for the end of a string and gives what follows. An escape must be well-formed, but need
not denote a character. -/
def skipString (cs : List Char) : Except Fault (List Char) :=
  match cs with
  | [] => .error .truncated
  | c :: cs =>
    if c == '"' then .ok cs
    else if c == '\\' then
      match cs with
      | [] => .error .truncated
      | e :: cs =>
        if e == 'u' then
          match h : takeHex cs with
          | .error fault => .error fault
          | .ok (_, rest) =>
            have := takeHex_length h
            skipString rest
        else
          match simpleEscape? e with
          | some _ => skipString cs
          | none => .error .malformed
    else if c < ' ' then .error .malformed
    else skipString cs
  termination_by cs.length

/-! ### Writing -/

/-- The hexadecimal digit of a value below 16, in lower case. -/
def hexDigit (n : Nat) : Char := Nat.digitChar n

/-- One character as it is written inside a string: the quote, the backslash and the control
characters are escaped, all others stand for themselves. -/
def escapeChar (c : Char) : List Char :=
  if c == '"' then ['\\', '"']
  else if c == '\\' then ['\\', '\\']
  else if c == '\x08' then ['\\', 'b']
  else if c == '\x0c' then ['\\', 'f']
  else if c == '\n' then ['\\', 'n']
  else if c == '\r' then ['\\', 'r']
  else if c == '\t' then ['\\', 't']
  else if c < ' ' then ['\\', 'u', '0', '0', hexDigit (c.toNat / 16), hexDigit (c.toNat % 16)]
  else [c]

/-- The characters of a string as they are written between the quotes. -/
def escape (chars : List Char) : List Char := chars.flatMap escapeChar

/-- A string as it is written, with its quotes. -/
def quote (s : String) : List Char := '"' :: escape s.toList ++ ['"']

/-! ### Reading back -/

theorem hexValue?_hexDigit : ∀ k < 16, hexValue? (hexDigit k) = some k := by decide

/-- A numeric escape below U+0020 reads back as its character. -/
theorem takeUnicodeEscape_control {n : Nat} (h : n < 32) (rest : List Char) :
    takeUnicodeEscape ('0' :: '0' :: hexDigit (n / 16) :: hexDigit (n % 16) :: rest) =
      .ok (Char.ofNat n, rest) := by
  have zero : hexValue? '0' = some 0 := by decide
  have value : n / 16 * 16 + n % 16 = n := by omega
  have low : ¬ 56320 ≤ n := by omega
  have high : n < 55296 := by omega
  have hex : takeHex ('0' :: '0' :: hexDigit (n / 16) :: hexDigit (n % 16) :: rest) =
      .ok (n, rest) := by
    simp [takeHex, zero, hexValue?_hexDigit (n / 16) (by omega),
      hexValue?_hexDigit (n % 16) (by omega), value]
  simp [takeUnicodeEscape, hex, bind, Except.bind, low, high]

/-- A written character is one piece of the string. -/
theorem takePiece_escapeChar (c : Char) (rest : List Char) :
    takePiece (escapeChar c ++ rest) = .ok (.char c rest) := by
  unfold escapeChar
  repeat' split
  all_goals simp_all [takePiece, simpleEscape?]
  rename_i hc
  have hn : c.toNat < 32 := hc
  rw [takeUnicodeEscape_control hn]
  simp [Except.map, Char.ofNat_toNat]

theorem unescape_of_close {cs rest : List Char} (h : takePiece cs = .ok (.close rest)) :
    unescape cs = .ok ([], rest) := by
  rw [unescape]
  split <;> simp_all

theorem unescape_of_char {cs rest : List Char} {c : Char}
    (h : takePiece cs = .ok (.char c rest)) :
    unescape cs = (unescape rest).map fun (chars, rest) => (c :: chars, rest) := by
  rw [unescape]
  split
  · simp_all
  · simp_all
  · rename_i h'
    rw [h] at h'
    simp only [Except.ok.injEq, Piece.char.injEq] at h'
    obtain ⟨rfl, rfl⟩ := h'
    rfl

/-- **Strings read back.** What `escape` writes, closed by a quote, is read as the same
characters. -/
theorem unescape_escape (chars rest : List Char) :
    unescape (escape chars ++ '"' :: rest) = .ok (chars, rest) := by
  induction chars with
  | nil => exact unescape_of_close (by simp [escape, takePiece])
  | cons c cs ih =>
    have split : escape (c :: cs) ++ '"' :: rest =
        escapeChar c ++ (escape cs ++ '"' :: rest) := by simp [escape]
    rw [split, unescape_of_char (takePiece_escapeChar c _), ih]
    rfl

end FeedSync.Json
