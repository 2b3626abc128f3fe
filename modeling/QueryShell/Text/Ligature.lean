import QueryShell.Text.Emoji
import QueryShell.Text.Joining
import QueryShell.Text.Width.Alone

/-
Signs that letters form together in some scripts, read from their last letter to their first. A
letter that may end such a sign is a tail; a character to the left of a tail may complete the sign
or extend the tail.
-/
namespace QueryShell.Text

/-! ## Kinds of letters -/

/-- The Arabic letters of the joining group alef. -/
def isAlef (c : Char) : Bool :=
  inRanges [(0x622, 0x623), (0x625, 0x625), (0x627, 0x627), (0x671, 0x673), (0x675, 0x675),
    (0x773, 0x774), (0x870, 0x882)] c.toNat

/-- The Arabic letters of the joining group lam. -/
def isLam (c : Char) : Bool :=
  inRanges [(0x644, 0x644), (0x6b5, 0x6b8), (0x76a, 0x76a), (0x8a6, 0x8a6), (0x8c7, 0x8c7)] c.toNat

/-- Marks without width over which Arabic letters join. -/
def isTransparentMark (c : Char) : Bool :=
  isZeroWidth c && joining? c = some .transparent

/-- The Khmer letters that are drawn below the letter before them when a coeng precedes them. -/
def isSubscriptLetter (c : Char) : Bool :=
  inRanges [(0x1780, 0x1782), (0x1784, 0x1787), (0x1789, 0x178c), (0x178e, 0x1793),
    (0x1795, 0x1798), (0x179b, 0x179d), (0x17a0, 0x17a0), (0x17a2, 0x17a2), (0x17a7, 0x17a7),
    (0x17ab, 0x17ac), (0x17af, 0x17af)] c.toNat

/-- The Tifinagh consonants. -/
def isTifinaghConsonant (c : Char) : Bool :=
  inRanges [(0x2d31, 0x2d65), (0x2d6f, 0x2d6f)] c.toNat

/-- The Lisu tone letters that stand first in a pair. -/
def isFirstTone (c : Char) : Bool := 0xa4f8 ≤ c.toNat && c.toNat ≤ 0xa4fb

/-- The Lisu tone letters that stand second in a pair. -/
def isSecondTone (c : Char) : Bool := 0xa4fc ≤ c.toNat && c.toNat ≤ 0xa4fd

/-- Invisible combining marks, which no sign takes notice of. -/
def isIgnoredMark (c : Char) : Bool :=
  inRanges [(0x34f, 0x34f), (0x17b4, 0x17b5), (0x180b, 0x180d), (0x180f, 0x180f),
    (0xfe00, 0xfe0f), (0xe0100, 0xe01ef)] c.toNat

/-! ## Tails -/

/-- The end of a sign of several letters; `joined` says whether a joiner stands to its left. -/
inductive LigatureTail where
  | alef
  | lamed (joined : Bool)
  | subscriptLetter
  | buginese (joined : Bool)
  /-- The Buginese vowel i, a joiner and the letter ya. -/
  | bugineseVowel
  | tifinagh (joined : Bool)
  /-- A Tifinagh consonant with the consonant joiner to its left. -/
  | tifinaghJoiner
  | secondTone
  | orkhon (joined : Bool)
  | kiratE
  | kiratAi
deriving DecidableEq, Repr

namespace LigatureTail

/-- The tail that a letter begins. -/
def ofChar? (c : Char) : Option LigatureTail :=
  if isAlef c then some .alef
  else if c = '\u05dc' then some (.lamed false)
  else if isSubscriptLetter c then some .subscriptLetter
  else if c = '\u1a10' then some (.buginese false)
  else if isTifinaghConsonant c then some (.tifinagh false)
  else if isSecondTone c then some .secondTone
  else if c = Char.ofNat 0x10c03 then some (.orkhon false)
  else if c = Char.ofNat 0x16d67 then some .kiratE
  else if c = Char.ofNat 0x16d68 then some .kiratAi
  else none

/-- The tail with a joiner to its left. -/
def join : LigatureTail → LigatureTail
  | .lamed _ => .lamed true
  | .buginese _ => .buginese true
  | .tifinagh _ => .tifinagh true
  | .orkhon _ => .orkhon true
  | tail => tail

/-- The sign forms across selectors. The Kirat Rai vowels form only where they touch. -/
def spansSelectors : LigatureTail → Bool
  | .kiratE | .kiratAi => false
  | _ => true

/-- The sign forms across joiners and invisible marks. Arabic goes by the joining types instead. -/
def spansMarks : LigatureTail → Bool
  | .alef => false
  | tail => tail.spansSelectors

/-- The Kirat Rai vowel e with a vowel to its left. Two of it are the vowel ai. -/
def extendKiratE? (c : Char) : Option (Int × Option LigatureTail) :=
  if c = Char.ofNat 0x16d63 then some (0, none)
  else if c = Char.ofNat 0x16d67 then some (0, some .kiratAi)
  else if c = Char.ofNat 0x16d68 then some (1, some .kiratE)
  else if c = Char.ofNat 0x16d69 then some (0, none)
  else none

/-- The columns that a letter or mark to the left of a tail adds when it belongs to the sign, and
the tail that is left, if the sign may still grow. -/
def complete? (tail : LigatureTail) (c : Char) : Option (Int × Option LigatureTail) :=
  match tail with
  | .alef =>
    if isLam c then some (0, none)
    else if isTransparentMark c then some (0, some .alef)
    else none
  | .lamed joined => if joined && c = '\u05d0' then some (0, none) else none
  | .subscriptLetter => if c = '\u17d2' then some (-1, none) else none
  | .buginese joined => if joined && c = '\u1a17' then some (0, some .bugineseVowel) else none
  | .bugineseVowel => if c = '\u1a15' then some (0, none) else none
  | .tifinagh joined =>
    if c = '\u2d7f' then some (1, some .tifinaghJoiner)
    else if joined && isTifinaghConsonant c then some (0, none)
    else none
  | .tifinaghJoiner => if isTifinaghConsonant c then some (-1, none) else none
  | .secondTone => if isFirstTone c then some (0, none) else none
  | .orkhon joined => if joined && c = Char.ofNat 0x10c32 then some (0, none) else none
  | .kiratE => extendKiratE? c
  | .kiratAi => if c = Char.ofNat 0x16d63 then some (0, none) else none

/-- The columns that any character to the left of a tail adds, and the tail that is left; none if it
ends the sign. -/
def extend? (tail : LigatureTail) (c : Char) : Option (Int × Option LigatureTail) :=
  if tail.spansMarks && c = joiner then some (0, some tail.join)
  else if tail.spansMarks && isIgnoredMark c then some (0, some tail)
  else tail.complete? c

end LigatureTail

end QueryShell.Text
