import QueryShell.Http.Domain.Spelling
import QueryShell.Http.Punycode
import QueryShell.Text.Direction
import QueryShell.Text.Joining
import QueryShell.Text.Mark

/-
Labels of domain names, which are the parts between dots. A label may be given in ASCII, behind a
mark; it is the label that it stands for. No label starts with a mark on a letter, and invisible
joiners stand only where they change how letters are written.
-/
namespace QueryShell.Http.Domain

open Text (Joining Direction)

/-! ## Joiners -/

/-- Keeps its neighbours from joining. -/
def nonJoiner : Char := '\u200c'

/-- Makes its neighbours join. -/
def joiner : Char := '\u200d'

/-- The combining class of marks that take the vowel from a letter. -/
def viramaClass : Nat := 9

/-- The next character that is not transparent joins on one of the sides. -/
def joins (sides : List Joining) (cs : List Char) : Bool :=
  match cs.dropWhile (Text.joining? · = some .transparent) with
  | [] => false
  | c :: _ => (Text.joining? c).any (sides.contains ·)

/-- A joiner may stand behind a mark that takes the vowel; a non-joiner may also stand between
letters that would join. What is in front is in reverse. -/
def mayStand (c : Char) (front behind : List Char) : Bool :=
  (front.head?.any fun d => Text.Normal.combiningClass d = viramaClass) ||
    (c == nonJoiner && joins [.left, .both] front && joins [.right, .both] behind)

/-- All joiners stand where they may. -/
def joinersStand (front : List Char) : List Char → Bool
  | [] => true
  | c :: rest =>
    ((c != nonJoiner && c != joiner) || mayStand c front rest) && joinersStand (c :: front) rest

/-! ## Labels -/

/-- All characters are ASCII. -/
def isAscii (cs : List Char) : Bool :=
  cs.all fun c => c.toNat < 128

/-- The greatest length of a label that is not ASCII. -/
def greatestLength : Nat := 1000

/-- The greatest length of a label in ASCII that stands for another. -/
def greatestCode : Nat := 2000

/-- A label in its usual spelling is one that may be used. -/
def isValid (label : List Char) : Bool :=
  isAscii label ||
    (label.length ≤ greatestLength && !label.head?.any Text.isMark && joinersStand [] label)

/-- The mark in front of a label that stands for another. -/
def codeMark : List Char := ['x', 'n', '-', '-']

/-- The label that a code stands for; it has to be in its usual spelling. -/
def decoded? (code : List Char) : Option (List Char) :=
  if code.isEmpty || code.getLast? = some '-' || greatestCode < code.length then none
  else (Punycode.decode? code).filter fun label =>
    usual? label = some label && !label.any fun c => forbidden c || c == '.'

/-- The label that a label in its usual spelling stands for. -/
def label? (cs : List Char) : Option (List Char) :=
  let label? := if codeMark.isPrefixOf cs then decoded? (cs.drop codeMark.length) else some cs
  label?.filter isValid

/-- The text of a label in ASCII. -/
def labelText (label : List Char) : List Char :=
  if isAscii label then label else codeMark ++ Punycode.encode label

/-! ## Directions -/

/-- Drops the marks at the end. -/
def dropMarks (cs : List Char) : List Char :=
  (cs.reverse.dropWhile (Text.direction · = .mark)).reverse

/-- The directions of characters are among these, and that of the last one among those. -/
def within (inside last : List Direction) (directions : List Direction) : Bool :=
  directions.all inside.contains && directions.getLast?.all last.contains

/-- A label is read in one direction, which its first character gives, so that it is the same in
lines of both directions. Numbers of one kind only stand in a label from right to left. -/
def isReadable (label : List Char) : Bool :=
  match label with
  | [] => true
  | c :: rest =>
    let directions := (dropMarks rest).map Text.direction
    match Text.direction c with
    | .left => within [.left, .number, .neutral, .mark] [.left, .number] directions
    | .right =>
      within [.right, .number, .arabicNumber, .neutral, .mark] [.right, .number, .arabicNumber]
          directions &&
        !(directions.contains .number && directions.contains .arabicNumber)
    | _ => false

/-- Some character is written from right to left. -/
def hasRight (label : List Char) : Bool :=
  label.any fun c => Text.direction c = .right || Text.direction c = .arabicNumber

end QueryShell.Http.Domain
