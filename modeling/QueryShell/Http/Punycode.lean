/-
Punycode: the labels of international domain names in letters, digits and hyphens. The ASCII
characters come first; then each other character, in the order of code points, as the number of
states that are passed before it is inserted, in a base whose thresholds adapt to the numbers so far.

`encode` writes a label and `decode?` reads one.
-/
namespace QueryShell.Http.Punycode

/-- The digit of a value below 36. -/
def digit (n : Nat) : Char :=
  if n < 26 then Char.ofNat (97 + n) else Char.ofNat (22 + n)

/-- The threshold of the digit at place `k`. -/
def threshold (k bias : Nat) : Nat :=
  min 26 (max 1 (k - bias))

/-- Divides until the rest is small, and counts. -/
def shrink : Nat → Nat → Nat → Nat × Nat
  | 0, delta, k => (delta, k)
  | fuel + 1, delta, k => if delta > 455 then shrink fuel (delta / 35) (k + 36) else (delta, k)

/-- The bias after a number. -/
def adapt (delta points : Nat) (first : Bool) : Nat :=
  let delta := if first then delta / 700 else delta / 2
  let delta := delta + delta / points
  let (delta, k) := shrink delta delta 0
  k + 36 * delta / (delta + 38)

/-! ## Writing -/

/-- The digits of a number. -/
def digitsOf : Nat → Nat → Nat → Nat → List Char
  | 0, _, _, q => [digit q]
  | fuel + 1, bias, k, q =>
    let t := threshold k bias
    if q < t then [digit q]
    else digit (t + (q - t) % (36 - t)) :: digitsOf fuel bias (k + 36) ((q - t) / (36 - t))

/-- The insertion of further characters. -/
structure Progress where
  least : Nat := 128
  delta : Nat := 0
  bias : Nat := 72
  handled : Nat
  out : List Char := []

/-- Goes through the text once and inserts the character `m`. -/
def insertAll (basic m : Nat) (p : Progress) (codes : List Nat) : Progress :=
  let start := { p with delta := p.delta + (m - p.least) * (p.handled + 1), least := m }
  let p := codes.foldl (fun p c =>
    if c < m then { p with delta := p.delta + 1 }
    else if c = m then
      { p with
        out := p.out ++ digitsOf (p.delta + 1) p.bias 36 p.delta
        bias := adapt p.delta (p.handled + 1) (p.handled == basic)
        delta := 0
        handled := p.handled + 1 }
    else p) start
  { p with delta := p.delta + 1, least := m + 1 }

/-- The Punycode of a label. -/
def encode (label : List Char) : List Char :=
  let ascii := label.filter fun c => c.toNat < 128
  let codes := label.map Char.toNat
  let further := ((codes.filter (128 ≤ ·)).mergeSort).eraseDups
  let p := further.foldl (fun p m => insertAll ascii.length m p codes) { handled := ascii.length }
  (if ascii.isEmpty then [] else ascii ++ ['-']) ++ p.out

/-! ## Reading -/

/-- The value of a digit. -/
def value? (c : Char) : Option Nat :=
  if c.isLower then some (c.toNat - 97)
  else if c.isUpper then some (c.toNat - 65)
  else if c.isDigit then some (c.toNat - 22)
  else none

/-- All numbers stay below. -/
def bound : Nat := Nat.pow 2 32

/-- Reads a number and adds it: `weight` is the weight of the digit at place `k`. -/
def readNumber (bias k weight sum : Nat) : List Char → Option (Nat × List Char)
  | [] => none
  | c :: rest =>
    match value? c with
    | none => none
    | some digit =>
      let t := threshold k bias
      let sum := sum + digit * weight
      if bound ≤ sum then none
      else if digit < t then some (sum, rest)
      else if bound ≤ weight * (36 - t) then none
      else readNumber bias (k + 36) (weight * (36 - t)) sum rest

theorem readNumber_length {bias k weight sum : Nat} {cs : List Char} {r : Nat × List Char}
    (h : readNumber bias k weight sum cs = some r) : r.2.length < cs.length := by
  induction cs generalizing k weight sum with
  | nil => simp [readNumber] at h
  | cons c rest ih =>
    unfold readNumber at h
    split at h
    · simp at h
    · dsimp only at h
      split at h
      · simp at h
      · split at h
        · cases h; simp
        · split at h
          · simp at h
          · have := ih h
            simp; omega

/-- Inserts the characters of the numbers that are left. The state is the last character that was
inserted, and the place behind it. -/
def insertFrom (bias last place : Nat) (out cs : List Char) : Option (List Char) :=
  if cs.isEmpty then some out
  else
    match _h : readNumber bias 36 1 place cs with
    | none => none
    | some (sum, rest) =>
      let size := out.length + 1
      let code := last + sum / size
      if code.isValidChar then
        insertFrom (adapt (sum - place) size (place == 0)) code (sum % size + 1)
          (out.insertIdx (sum % size) (Char.ofNat code)) rest
      else none
termination_by cs.length
decreasing_by exact readNumber_length _h

/-- Reads a label; the ASCII characters stand in front of the last hyphen. -/
def decode? (cs : List Char) : Option (List Char) :=
  if !cs.all fun c => c.toNat < 128 then none
  else
    match cs.reverse.span (· != '-') with
    | (_, []) => insertFrom 72 128 0 [] cs
    | (_, [_]) => none
    | (further, _ :: ascii) => insertFrom 72 128 0 ascii.reverse further.reverse

end QueryShell.Http.Punycode
