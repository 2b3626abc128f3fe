import QueryShell.Text.Normal.Tables
import Std.Data.HashMap

/-
The composed normal form of a text. Each character is taken apart into what it consists of, marks on
one character are put into the order of their combining classes, and then each mark that makes one
character with what it stands on is joined to it. Hangul syllables are taken apart and put together
by their numbers, all others by the tables.
-/
namespace QueryShell.Text.Normal

/-! ## Hangul -/

/-- Characters that are numbered from the first one on. -/
structure Series where
  first : Nat
  count : Nat

/-- The number of a character. -/
def Series.place? (s : Series) (c : Char) : Option Nat :=
  if s.first ≤ c.toNat ∧ c.toNat < s.first + s.count then some (c.toNat - s.first) else none

/-- The character of a number. -/
def Series.char (s : Series) (i : Nat) : Char :=
  Char.ofNat (s.first + i)

/-- Consonants that a syllable starts with. -/
def leading : Series := { first := 0x1100, count := 19 }

/-- Vowels. -/
def vowels : Series := { first := 0x1161, count := 21 }

/-- Consonants that a syllable ends with; number zero stands for none. -/
def trailing : Series := { first := 0x11a7, count := 28 }

/-- Syllables: each consonant with each vowel, and those with each consonant at the end. -/
def syllables : Series :=
  { first := 0xac00, count := leading.count * vowels.count * trailing.count }

/-- The two parts of a syllable: the last consonant and what is in front of it, or, without a last
consonant, the first one and the vowel. -/
def syllableParts (i : Nat) : List Char :=
  if i % trailing.count = 0 then
    let i := i / trailing.count
    [leading.char (i / vowels.count), vowels.char (i % vowels.count)]
  else [syllables.char (i - i % trailing.count), trailing.char (i % trailing.count)]

/-- The syllable of two parts. -/
def syllable? (a b : Char) : Option Char :=
  match leading.place? a, vowels.place? b, syllables.place? a, trailing.place? b with
  | some i, some j, _, _ => some (syllables.char ((i * vowels.count + j) * trailing.count))
  | _, _, some i, some (j + 1) =>
    if i % trailing.count = 0 then some (syllables.char (i + j + 1)) else none
  | _, _, _, _ => none

/-! ## Taking apart -/

/-- What a character consists of, in one step. -/
def parts? (c : Char) : Option (List Char) :=
  match syllables.place? c with
  | some i => some (syllableParts i)
  | none => (decompositions.value? c.toNat).map fun parts => parts.map Char.ofNat

/-- Takes a character apart, down to a depth. -/
def decomposeChar : Nat → Char → List Char
  | 0, c => [c]
  | depth + 1, c =>
    match parts? c with
    | none => [c]
    | some parts => parts.flatMap (decomposeChar depth)

/-- No character has to be taken apart more often. -/
def greatestDepth : Nat := 4

/-- Takes all characters apart. -/
def decompose (cs : List Char) : List Char :=
  cs.flatMap (decomposeChar greatestDepth)

/-! ## Marks -/

/-- The combining class of a character; it is zero for what marks stand on. -/
def combiningClass (c : Char) : Nat :=
  (combiningClasses.value? c.toNat).getD 0

/-- A character with its combining class. -/
structure Classed where
  char : Char
  level : Nat := combiningClass char
deriving DecidableEq, Repr

/-- Puts a character in front of a text, but a mark behind the marks of lower classes there. -/
def insertMark (c : Classed) : List Classed → List Classed
  | [] => [c]
  | d :: rest =>
    if d.level ≠ 0 ∧ d.level < c.level then d :: insertMark c rest else c :: d :: rest

/-- Puts marks into the order of their classes; those of one class stay in place. -/
def sortMarks (cs : List Classed) : List Classed :=
  cs.foldr insertMark []

theorem insertMark_perm (c : Classed) (cs : List Classed) : (insertMark c cs).Perm (c :: cs) := by
  induction cs with
  | nil => exact .refl _
  | cons d rest ih =>
    unfold insertMark
    split
    · exact (ih.cons d).trans (.swap c d rest)
    · exact .refl _

/-- No character is lost or added. -/
theorem sortMarks_perm (cs : List Classed) : (sortMarks cs).Perm cs := by
  induction cs with
  | nil => exact .refl _
  | cons c rest ih => exact (insertMark_perm c _).trans (ih.cons c)

/-! ## Putting together -/

/-- The characters of two parts, by their parts. -/
def composites : Std.HashMap (Nat × Nat) Char :=
  .ofList (decompositions.toList.filterMap fun s =>
    match s.value with
    | [a, b] =>
      if separate.covers s.first then none
      else some ((a, b), Char.ofNat s.first)
    | _ => none)

/-- The character of two parts. -/
def composite? (a b : Char) : Option Char :=
  (syllable? a b).orElse fun _ => composites[(a.toNat, b.toNat)]?

/-- Joins to a character what follows it. The marks that are kept on the character are in reverse; the
last of them hides a mark of the same or of a lower class. -/
def composeFrom (base : Char) (kept : List Classed) : List Classed → List Char
  | [] => base :: kept.reverse.map (·.char)
  | c :: rest =>
    let hidden := kept.head?.any fun k => c.level ≤ k.level
    match if hidden then none else composite? base c.char with
    | some joined => composeFrom joined kept rest
    | none =>
      if c.level = 0 then base :: kept.reverse.map (·.char) ++ composeFrom c.char [] rest
      else composeFrom base (c :: kept) rest

/-- Joins what can be joined. -/
def compose : List Classed → List Char
  | [] => []
  | c :: rest => composeFrom c.char [] rest

/-- The composed normal form. -/
def normalize (cs : List Char) : List Char :=
  compose (sortMarks ((decompose cs).map fun char => { char }))

end QueryShell.Text.Normal
