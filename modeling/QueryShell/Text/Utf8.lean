/-
UTF-8. `decode` reads bytes into characters and marks what is not UTF-8: each longest piece that
could still have started a character, or else a single byte, becomes one `none`. `text?` reads
bytes that are UTF-8 throughout.
-/
namespace QueryShell.Text.Utf8

/-- A character under way: its bits so far, the bytes still owed, and the least and greatest byte
that may come next. -/
structure Partial where
  bits : Nat
  owed : Nat
  least : Nat := 0x80
  greatest : Nat := 0xbf

/-- What the first byte of a character means: a whole character, the start of a longer one, or
nothing. -/
def first (b : Nat) : Option (Char ⊕ Partial) :=
  if b ≤ 0x7f then some (.inl (Char.ofNat b))
  else if 0xc2 ≤ b ∧ b ≤ 0xdf then some (.inr { bits := b - 0xc0, owed := 1 })
  else if 0xe0 ≤ b ∧ b ≤ 0xef then
    -- the narrower second byte keeps out overlong forms and surrogates
    some (.inr { bits := b - 0xe0, owed := 2
                 least := if b = 0xe0 then 0xa0 else 0x80
                 greatest := if b = 0xed then 0x9f else 0xbf })
  else if 0xf0 ≤ b ∧ b ≤ 0xf4 then
    some (.inr { bits := b - 0xf0, owed := 3
                 least := if b = 0xf0 then 0x90 else 0x80
                 greatest := if b = 0xf4 then 0x8f else 0xbf })
  else none

/-- Decodes bytes after a character under way, if there is one. -/
def decodeAfter : Option Partial → List UInt8 → List (Option Char)
  | none, [] => []
  | some _, [] => [none]
  | none, b :: rest =>
    match first b.toNat with
    | some (.inl c) => some c :: decodeAfter none rest
    | some (.inr p) => decodeAfter (some p) rest
    | none => none :: decodeAfter none rest
  | some p, b :: rest =>
    if p.least ≤ b.toNat ∧ b.toNat ≤ p.greatest then
      let bits := p.bits * 64 + (b.toNat - 0x80)
      if p.owed ≤ 1 then some (Char.ofNat bits) :: decodeAfter none rest
      else decodeAfter (some { bits, owed := p.owed - 1 }) rest
    else
      -- the byte does not belong to the character under way and starts afresh
      none ::
        match first b.toNat with
        | some (.inl c) => some c :: decodeAfter none rest
        | some (.inr p) => decodeAfter (some p) rest
        | none => none :: decodeAfter none rest

/-- The characters of a byte sequence, `none` for each piece that is not UTF-8. -/
def decode (bytes : List UInt8) : List (Option Char) :=
  decodeAfter none bytes

/-- The characters of a byte sequence that is UTF-8 throughout. -/
def text? (bytes : List UInt8) : Option (List Char) :=
  (decode bytes).mapM id

/-- The bytes of one character. -/
def encodeChar (c : Char) : List Nat :=
  let n := c.toNat
  if n < 0x80 then [n]
  else if n < 0x800 then [0xc0 + n / 64, 0x80 + n % 64]
  else if n < 0x10000 then [0xe0 + n / 4096, 0x80 + n / 64 % 64, 0x80 + n % 64]
  else [0xf0 + n / 262144, 0x80 + n / 4096 % 64, 0x80 + n / 64 % 64, 0x80 + n % 64]

/-- The bytes of a text. -/
def encode (cs : List Char) : List Nat :=
  cs.flatMap encodeChar

/-- The bytes of a text. -/
def bytes (text : String) : List UInt8 :=
  (encode text.toList).map UInt8.ofNat

end QueryShell.Text.Utf8
