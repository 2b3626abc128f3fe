/-
The grammar of JSON texts. `Tree.read?` reads a whole text into a tree that keeps numbers and
strings as they were written and members in their order, so that a reader who has no use for a part
need not understand it; `QueryShell.Json.Reader` turns trees into values.
-/
namespace QueryShell.Json

/-- A number as it was written. -/
structure NumberText where
  negative : Bool
  /-- The digits before the point. -/
  whole : List Nat
  /-- The digits after the point, if there is one. -/
  fraction : Option (List Nat)
  /-- The sign (`true` for minus) and digits of the exponent, if there is one. -/
  exponent : Option (Bool × List Nat)
deriving DecidableEq, Repr

/-- One piece of a string as it was written. -/
inductive StringPiece where
  | char (c : Char)
  /-- An escape by the number of a UTF-16 unit. -/
  | unit (n : Nat)
deriving DecidableEq, Repr

/-- A JSON text, taken apart. -/
inductive Tree where
  | null
  | bool (b : Bool)
  | number (n : NumberText)
  | string (pieces : List StringPiece)
  | array (items : List Tree)
  | object (members : List (List StringPiece × Tree))
deriving Repr, Inhabited

/-- Blank space between the parts of a text. -/
def isSpace (c : Char) : Bool :=
  c == ' ' || c == '\n' || c == '\t' || c == '\r'

/-- Drops blank space. -/
def skipSpace (cs : List Char) : List Char :=
  cs.dropWhile isSpace

/-! ## Numbers -/

/-- The value of a decimal digit. -/
def digit? (c : Char) : Option Nat :=
  if '0' ≤ c ∧ c ≤ '9' then some (c.toNat - 48) else none

/-- Takes the digits off the front. -/
def cutDigits : List Char → List Nat × List Char
  | [] => ([], [])
  | c :: rest =>
    match digit? c with
    | some d => let (ds, rest) := cutDigits rest; (d :: ds, rest)
    | none => ([], c :: rest)

/-- Takes an exponent off the front, if there is one; `none` if it has no digits. -/
def cutExponent (cs : List Char) : Option (Option (Bool × List Nat) × List Char) :=
  match cs with
  | c :: rest =>
    if c == 'e' || c == 'E' then
      let (negative, rest) := match rest with
        | '-' :: rest => (true, rest)
        | '+' :: rest => (false, rest)
        | rest => (false, rest)
      match cutDigits rest with
      | ([], _) => none
      | (ds, rest) => some (some (negative, ds), rest)
    else some (none, cs)
  | [] => some (none, [])

/-- Takes a fraction off the front, if there is one; `none` if it has no digits. -/
def cutFraction (cs : List Char) : Option (Option (List Nat) × List Char) :=
  match cs with
  | '.' :: rest =>
    match cutDigits rest with
    | ([], _) => none
    | (ds, rest) => some (some ds, rest)
  | _ => some (none, cs)

/-- Takes a number off the front. Only zero starts with a zero. -/
def cutNumber (cs : List Char) : Option (NumberText × List Char) :=
  let (negative, cs) := match cs with
    | '-' :: rest => (true, rest)
    | cs => (false, cs)
  match cutDigits cs with
  | ([], _) | (0 :: _ :: _, _) => none
  | (whole, cs) =>
    (cutFraction cs).bind fun (fraction, cs) =>
      (cutExponent cs).map fun (exponent, cs) => (⟨negative, whole, fraction, exponent⟩, cs)

/-! ## Strings -/

/-- The value of a hexadecimal digit. -/
def hexValue? (c : Char) : Option Nat :=
  if '0' ≤ c ∧ c ≤ '9' then some (c.toNat - 48)
  else if 'a' ≤ c ∧ c ≤ 'f' then some (c.toNat - 87)
  else if 'A' ≤ c ∧ c ≤ 'F' then some (c.toNat - 55)
  else none

/-- The number that four hexadecimal digits stand for. -/
def unit? (a b c d : Char) : Option Nat := do
  let a ← hexValue? a
  let b ← hexValue? b
  let c ← hexValue? c
  let d ← hexValue? d
  return ((a * 16 + b) * 16 + c) * 16 + d

/-- The character that a one-letter escape stands for. -/
def shortEscape? (c : Char) : Option Char :=
  match c with
  | '"' | '\\' | '/' => some c
  | 'b' => some '\x08'
  | 'f' => some '\x0c'
  | 'n' => some '\n'
  | 'r' => some '\r'
  | 't' => some '\t'
  | _ => none

/-- Takes a string off the front, after its opening quote. -/
def cutString : List Char → Option (List StringPiece × List Char)
  | [] => none
  | '"' :: rest => some ([], rest)
  | '\\' :: 'u' :: a :: b :: c :: d :: rest =>
    (unit? a b c d).bind fun n =>
      (cutString rest).map fun (pieces, rest) => (.unit n :: pieces, rest)
  | '\\' :: e :: rest =>
    (shortEscape? e).bind fun c =>
      (cutString rest).map fun (pieces, rest) => (.char c :: pieces, rest)
  | c :: rest =>
    if c.toNat < 0x20 || c == '\\' then none
    else (cutString rest).map fun (pieces, rest) => (.char c :: pieces, rest)

/-! ## Values -/

mutual

/-- Takes a value off the front; `fuel` bounds the number of steps. -/
def cutTree : Nat → List Char → Option (Tree × List Char)
  | 0, _ => none
  | fuel + 1, cs =>
    match skipSpace cs with
    | 'n' :: 'u' :: 'l' :: 'l' :: rest => some (.null, rest)
    | 't' :: 'r' :: 'u' :: 'e' :: rest => some (.bool true, rest)
    | 'f' :: 'a' :: 'l' :: 's' :: 'e' :: rest => some (.bool false, rest)
    | '"' :: rest => (cutString rest).map fun (pieces, rest) => (.string pieces, rest)
    | '[' :: rest =>
      match skipSpace rest with
      | ']' :: rest => some (.array [], rest)
      | rest => (cutItems fuel rest).map fun (items, rest) => (.array items, rest)
    | '\x7b' :: rest =>
      match skipSpace rest with
      | '\x7d' :: rest => some (.object [], rest)
      | rest => (cutMembers fuel rest).map fun (members, rest) => (.object members, rest)
    | cs => (cutNumber cs).map fun (n, rest) => (.number n, rest)

/-- Takes the items of an array and its closing bracket off the front. -/
def cutItems : Nat → List Char → Option (List Tree × List Char)
  | 0, _ => none
  | fuel + 1, cs =>
    (cutTree fuel cs).bind fun (v, rest) =>
      match skipSpace rest with
      | ',' :: rest => (cutItems fuel rest).map fun (items, rest) => (v :: items, rest)
      | ']' :: rest => some ([v], rest)
      | _ => none

/-- Takes the members of an object and its closing brace off the front. -/
def cutMembers : Nat → List Char → Option (List (List StringPiece × Tree) × List Char)
  | 0, _ => none
  | fuel + 1, cs =>
    match skipSpace cs with
    | '"' :: rest =>
      (cutString rest).bind fun (key, rest) =>
        match skipSpace rest with
        | ':' :: rest =>
          (cutTree fuel rest).bind fun (v, rest) =>
            match skipSpace rest with
            | ',' :: rest =>
              (cutMembers fuel rest).map fun (members, rest) => ((key, v) :: members, rest)
            | '\x7d' :: rest => some ([(key, v)], rest)
            | _ => none
        | _ => none
    | _ => none

end

/-- Reads a text that is one JSON value, with blank space around it. Every second step takes a
character off, so twice the length bounds their number. -/
def Tree.read? (cs : List Char) : Option Tree :=
  match cutTree (2 * cs.length + 2) cs with
  | some (tree, rest) => if (skipSpace rest).isEmpty then some tree else none
  | none => none

end QueryShell.Json
