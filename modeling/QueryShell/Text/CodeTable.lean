import QueryShell.Text.Cut

/-
Tables over code points, written as text: words with blanks between them, each a code point or a
stretch `A-B` of them in hexadecimal. In a table of lists the code points of the list stand behind
a colon, with commas between them.

`CodeTable.find?` looks a code point up by halving; what it finds is a stretch of the table that
covers the code point.
-/
namespace QueryShell.Text

/-- A stretch of code points that share a value. -/
structure Stretch (α : Type) where
  first : Nat
  last : Nat
  value : α
deriving DecidableEq, Repr

/-- The code point lies in the stretch. -/
def Stretch.covers {α : Type} (s : Stretch α) (n : Nat) : Bool :=
  s.first ≤ n && n ≤ s.last

/-- Stretches in ascending order. -/
abbrev CodeTable (α : Type) := Array (Stretch α)

namespace CodeTable

variable {α : Type}

/-! ## Reading -/

/-- The value of a hexadecimal digit in upper case. -/
def digit (c : Char) : Nat :=
  if c ≤ '9' then c.toNat - 48 else c.toNat - 55

/-- The value of a hexadecimal number. -/
def number (cs : List Char) : Nat :=
  cs.foldl (fun n c => n * 16 + digit c) 0

/-- The words of a text. -/
def words (text : String) : List (List Char) :=
  let cs := text.toList.map fun c => if c = '\n' then ' ' else c
  (cutAt ' ' cs).filter (!·.isEmpty)

/-- A stretch with its value. -/
def stretch (value : α) (word : List Char) : Stretch α :=
  match cutAt '-' word with
  | [first, last] => { first := number first, last := number last, value }
  | _ => { first := number word, last := number word, value }

/-- The code points of a list. -/
def numbers (word : List Char) : List Nat :=
  if word.isEmpty then [] else (cutAt ',' word).map number

/-- A stretch with the list behind its colon. -/
def row (word : List Char) : Stretch (List Nat) :=
  match cutAt ':' word with
  | [place, list] => stretch (numbers list) place
  | _ => stretch [] word

/-- The table of several sets of code points, each with its value. -/
def ofSets (sets : List (α × String)) : CodeTable α :=
  let stretches := sets.flatMap fun (value, text) => (words text).map (stretch value)
  (stretches.mergeSort fun s t => s.first ≤ t.first).toArray

/-- The table of one set of code points. -/
def ofSet (text : String) : CodeTable Unit :=
  ofSets [((), text)]

/-- The table of rows that are in ascending order. -/
def ofRows (text : String) : CodeTable (List Nat) :=
  ((words text).map row).toArray

/-! ## Looking up -/

/-- Looks a code point up between two places of a table. -/
def findIn (t : CodeTable α) (n lo hi : Nat) : Option (Stretch α) :=
  if lo < hi then
    match t[(lo + hi) / 2]? with
    | none => none
    | some s =>
      if n < s.first then findIn t n lo ((lo + hi) / 2)
      else if s.last < n then findIn t n ((lo + hi) / 2 + 1) hi
      else some s
  else none
termination_by hi - lo

/-- The stretch that covers a code point. -/
def find? (t : CodeTable α) (n : Nat) : Option (Stretch α) :=
  findIn t n 0 t.size

/-- The value at a code point. -/
def value? (t : CodeTable α) (n : Nat) : Option α :=
  (t.find? n).map (·.value)

/-- The table covers a code point. -/
def covers (t : CodeTable α) (n : Nat) : Bool :=
  (t.find? n).isSome

theorem covers_of_findIn {t : CodeTable α} {n lo hi : Nat} {s : Stretch α}
    (h : findIn t n lo hi = some s) : s ∈ t ∧ s.covers n = true := by
  fun_induction findIn t n lo hi with
  | case1 => simp at h
  | case2 _ _ _ _ _ _ ih => exact ih h
  | case3 _ _ _ _ _ _ _ ih => exact ih h
  | case4 lo hi _ r hr h1 h2 =>
    cases h
    refine ⟨?_, by simp [Stretch.covers]; omega⟩
    exact Array.mem_of_getElem? hr
  | case5 => simp at h

/-- What is found covers the code point. -/
theorem covers_of_find? {t : CodeTable α} {n : Nat} {s : Stretch α} (h : t.find? n = some s) :
    s ∈ t ∧ s.covers n = true :=
  covers_of_findIn h

end CodeTable

end QueryShell.Text
