import QueryShell.Text.Emoji
import QueryShell.Text.Ligature
import QueryShell.Text.Width.Alone

/-
The width of a line in terminal columns. It is the sum over the characters, from the last to the
first, of what each adds to the line behind it: emoji sequences and the signs that letters form
together have one width as a whole, and a selector gives the character before it the presentation
of an emoji, of text, or of a fullwidth quotation mark.
-/
namespace QueryShell.Text

/-- The presentation that a selector asks of the character on its left. -/
inductive Selector where
  | emoji
  | text
  | fullwidth
deriving DecidableEq, Repr

/-- The variation selectors 16, 15 and 2. -/
def Selector.ofChar? (c : Char) : Option Selector :=
  if c = '\ufe0f' then some .emoji
  else if c = '\ufe0e' then some .text
  else if c = '\ufe01' then some .fullwidth
  else none

/-- The end of a sequence that the character on its left may belong to. -/
inductive Tail where
  | plain
  | emoji (tail : EmojiTail)
  | ligature (tail : LigatureTail)
deriving DecidableEq, Repr

namespace Tail

/-- The tail that a character begins. -/
def ofChar (c : Char) : Tail :=
  match EmojiTail.ofChar? c, LigatureTail.ofChar? c with
  | some tail, _ => .emoji tail
  | none, some tail => .ligature tail
  | none, none => .plain

/-- An emoji that a joiner joins to the character on its left. -/
def isJoinedEmoji : Tail → Bool
  | .emoji tail => tail.isJoined
  | _ => false

/-- The tail that is left once a selector does not apply to the character on its left. -/
def acrossSelector : Tail → Tail
  | .ligature tail => if tail.spansSelectors then .ligature tail else .plain
  | _ => .plain

/-- The tail with a selector to its left. Only emoji presentation leaves a joined emoji in view. -/
def select (tail : Tail) (selector : Selector) : Tail :=
  if selector = .emoji && tail.isJoinedEmoji then tail else tail.acrossSelector

/-- The columns that a character to the left of a tail adds when it belongs to the sequence. -/
def extend? (tail : Tail) (c : Char) : Option (Int × Tail) :=
  match tail with
  | .plain => none
  | .emoji tail => (tail.extend? c).map fun (w, tail) => (w, .emoji tail)
  | .ligature tail => (tail.extend? c).map fun (w, tail) => (w, (tail.map ligature).getD .plain)

end Tail

/-- What stands to the right of a character, as far as it matters for the character's width. -/
structure Right where
  selector : Option Selector
  tail : Tail
deriving DecidableEq, Repr

/-- Nothing that matters. -/
def Right.plain : Right := ⟨none, .plain⟩

/-- The quotation marks that have a fullwidth form. -/
def isQuotationMark (c : Char) : Bool :=
  c = '\u2018' || c = '\u2019' || c = '\u201c' || c = '\u201d'

/-- Emoji that text presentation makes narrow. Enclosed ideographs stay wide as text. -/
def isNarrowAsText (c : Char) : Bool :=
  isEmoji c && hasVariations c && !(0x1f200 ≤ c.toNat && c.toNat ≤ 0x1f2ff)

/-- The width of a character that heeds the selector on its right, and the tail that it begins. -/
def selectedWidth? (right : Right) (c : Char) : Option (Nat × Tail) :=
  match right.selector with
  | some .emoji =>
    if hasVariations c then some (if right.tail.isJoinedEmoji then 0 else 2, .emoji .emoji)
    else none
  | some .text => if isNarrowAsText c then some (1, .plain) else none
  | some .fullwidth => if isQuotationMark c then some (2, .plain) else none
  | none => none

/-- The columns that a character adds to what stands to its right, and what it leaves to its left.
-/
def widthBefore (right : Right) (c : Char) : Int × Right :=
  match selectedWidth? right c with
  | some (w, tail) => (w, ⟨none, tail⟩)
  | none =>
    if c.toNat ≤ 0xa0 then (1, .plain)
    else
      let tail := if right.selector.isSome then right.tail.acrossSelector else right.tail
      match Selector.ofChar? c, tail.extend? c with
      | some selector, _ => (0, ⟨some selector, tail.select selector⟩)
      | none, some (w, tail) => (w, ⟨none, tail⟩)
      | none, none => (aloneWidth c, ⟨none, .ofChar c⟩)

/-- The number of columns that a line takes. -/
def width (line : List Char) : Nat :=
  (line.foldr (fun c (sum, right) =>
    let (w, here) := widthBefore right c
    (w + sum, here)) ((0 : Int), Right.plain)).1.toNat

end QueryShell.Text
