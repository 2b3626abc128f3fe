/-
Blank characters: the Unicode property White_Space, and trimming by it. Statements, commands and
history entries are all trimmed with `trim`; `isBlank_of_isWhitespace` ties the property to core's
smaller class.
-/
namespace QueryShell.Text

/-- The Unicode property White_Space. -/
def isBlank (c : Char) : Bool :=
  c == ' ' || (c.val ≥ 0x9 && c.val ≤ 0xd) || c.val == 0x85 || c.val == 0xa0 || c.val == 0x1680 ||
    (c.val ≥ 0x2000 && c.val ≤ 0x200a) || c.val == 0x2028 || c.val == 0x2029 || c.val == 0x202f ||
    c.val == 0x205f || c.val == 0x3000

theorem isBlank_of_isWhitespace {c : Char} (h : c.isWhitespace = true) : isBlank c = true := by
  simp only [Char.isWhitespace, Bool.or_eq_true, decide_eq_true_eq] at h
  rcases h with ((rfl | rfl) | rfl) | rfl <;> rfl

/-- The text without the blank characters at both its ends. -/
def trimChars (cs : List Char) : List Char :=
  ((cs.dropWhile isBlank).reverse.dropWhile isBlank).reverse

/-- The string without the blank characters at both its ends. -/
def trim (s : String) : String :=
  String.ofList (trimChars s.toList)

/-- The text holds nothing but blank characters. -/
def allBlank (s : String) : Bool :=
  s.toList.all isBlank

/-- Cuts a line at its first blank character, which belongs to neither part. -/
def cutAtBlank (cs : List Char) : List Char × Option (List Char) :=
  match cs.dropWhile (fun c => !isBlank c) with
  | [] => (cs, none)
  | _ :: rest => (cs.takeWhile (fun c => !isBlank c), some rest)

end QueryShell.Text
