import QueryShell.Statement.Accumulator

/-
The grammar of statements, over a whole text at once. A query is a sequence of tokens: quoted
literals, comments, a backslash with the character after it, and single characters. It ends at its
first terminator outside all brackets, and a command ends with its line. `split` cuts a text into
statements by that grammar alone; nothing is remembered from one token to the next but the depth of
the brackets. By `tokens_text` no character gets lost between the tokens.
-/
namespace QueryShell.Statement

open Text

/-! ## Tokens -/

/-- A token of query text. -/
inductive Token where
  /-- A quoted literal or a comment; nothing inside it counts. -/
  | inert (text : List Char)
  /-- A backslash and the character after it. -/
  | pair (c : Char)
  | single (c : Char)
deriving DecidableEq, Repr

namespace Token

/-- The characters of a token. -/
def text : Token → List Char
  | .inert cs => cs
  | .pair c => ['\\', c]
  | .single c => [c]

/-- The character of a token that counts as a bracket or a terminator; a backslash before it does
not matter. -/
def mark? : Token → Option Char
  | .inert _ => none
  | .pair c | .single c => some c

/-- The depth of the brackets behind a token; a closing bracket without an opening one is ignored. -/
def depthAfter (depth : Nat) (t : Token) : Nat :=
  match t.mark? with
  | none => depth
  | some c =>
    if c ∈ ['(', '[', '{'] then depth + 1 else if c ∈ [')', ']', '}'] then depth - 1 else depth

/-- The token is a terminator. -/
def ends (t : Token) : Bool :=
  t.mark? = some ';'

end Token

/-! ## Lines -/

/-- The text up to the next line feed. -/
def lineOf (cs : List Char) : List Char :=
  cs.takeWhile (· ≠ '\n')

/-- The text from the next line feed on. -/
def fromLineEnd (cs : List Char) : List Char :=
  cs.dropWhile (· ≠ '\n')

/-- What stands behind the last line feed. -/
def lastLine (cs : List Char) : List Char :=
  (cs.reverse.takeWhile (· ≠ '\n')).reverse

theorem lineOf_append (cs : List Char) : lineOf cs ++ fromLineEnd cs = cs :=
  List.takeWhile_append_dropWhile

theorem fromLineEnd_length (cs : List Char) : (fromLineEnd cs).length ≤ cs.length :=
  (List.dropWhile_sublist _).length_le

theorem fromLineEnd_cases (cs : List Char) :
    fromLineEnd cs = [] ∨ ∃ rest, fromLineEnd cs = '\n' :: rest := by
  induction cs with
  | nil => exact .inl rfl
  | cons c cs ih =>
    by_cases hc : c = '\n'
    · exact .inr ⟨cs, by simp [fromLineEnd, hc]⟩
    · simpa [fromLineEnd, hc] using ih

/-! ## Cutting tokens off -/

/-- Cuts a literal off behind its closing quote, the first that is no second half of a backslash
pair. Without one the literal takes the whole text. -/
def cutLiteral (close : Char) : List Char → List Char × List Char
  | [] => ([], [])
  | '\\' :: c :: rest => ('\\' :: c :: (cutLiteral close rest).1, (cutLiteral close rest).2)
  | c :: rest =>
    if c = close then ([c], rest) else (c :: (cutLiteral close rest).1, (cutLiteral close rest).2)

/-- Cuts a block comment off behind the first `*/`, or takes the whole text. -/
def cutComment : List Char → List Char × List Char
  | [] => ([], [])
  | '*' :: '/' :: rest => (['*', '/'], rest)
  | c :: rest => (c :: (cutComment rest).1, (cutComment rest).2)

theorem cutLiteral_append (close : Char) (cs : List Char) :
    (cutLiteral close cs).1 ++ (cutLiteral close cs).2 = cs := by
  fun_induction cutLiteral close cs <;> simp_all

theorem cutComment_append (cs : List Char) : (cutComment cs).1 ++ (cutComment cs).2 = cs := by
  fun_induction cutComment cs <;> simp_all

theorem cutLiteral_length (close : Char) (cs : List Char) :
    (cutLiteral close cs).2.length ≤ cs.length := by
  have := congrArg List.length (cutLiteral_append close cs)
  simp only [List.length_append] at this
  omega

theorem cutComment_length (cs : List Char) : (cutComment cs).2.length ≤ cs.length := by
  have := congrArg List.length (cutComment_append cs)
  simp only [List.length_append] at this
  omega

/-- The tokens of a query text. -/
def tokens : List Char → List Token
  | [] => []
  | '\\' :: c :: rest => .pair c :: tokens rest
  | '/' :: '/' :: rest => .inert ('/' :: '/' :: lineOf rest) :: tokens (fromLineEnd rest)
  | '/' :: '*' :: rest => .inert ('/' :: '*' :: (cutComment rest).1) :: tokens (cutComment rest).2
  | c :: rest =>
    if c = '\'' ∨ c = '"' ∨ c = '\x60' then
      .inert (c :: (cutLiteral c rest).1) :: tokens (cutLiteral c rest).2
    else .single c :: tokens rest
termination_by cs => cs.length
decreasing_by
  all_goals simp only [List.length_cons]
  all_goals first
    | omega
    | have := fromLineEnd_length rest; omega
    | have := cutComment_length rest; omega
    | have := cutLiteral_length c rest; omega

/-- The tokens of a text are the text. -/
theorem tokens_text (cs : List Char) : (tokens cs).flatMap Token.text = cs := by
  fun_induction tokens cs <;>
    simp_all [Token.text, cutLiteral_append, cutComment_append, lineOf_append]

/-! ## Cutting statements off -/

/-- Puts text in front of what was cut off, if anything was. -/
def inFront {α : Type} (front : List Char) : Option (List Char × α) → Option (List Char × α)
  | none => none
  | some (cs, rest) => some (front ++ cs, rest)

/-- Cuts a query off behind its first terminator outside all brackets; `depth` brackets are open in
front of the tokens. -/
def cutQuery (depth : Nat) : List Token → Option (List Char × List Token)
  | [] => none
  | t :: rest =>
    if t.ends ∧ depth = 0 then some (t.text, rest)
    else inFront t.text (cutQuery (t.depthAfter depth) rest)

theorem inFront_eq_some {α : Type} {front cs : List Char} {cut : Option (List Char × α)} {rest : α}
    (h : inFront front cut = some (cs, rest)) : ∃ cs', cut = some (cs', rest) ∧ cs = front ++ cs' := by
  rcases cut with _ | ⟨cs', rest'⟩
  · cases h
  · obtain ⟨rfl, rfl⟩ := Prod.mk.inj (Option.some.inj h)
    exact ⟨cs', rfl, rfl⟩

theorem cutQuery_append {depth : Nat} {ts rest : List Token} {query : List Char}
    (h : cutQuery depth ts = some (query, rest)) :
    query ++ rest.flatMap Token.text = ts.flatMap Token.text := by
  induction ts generalizing depth query with
  | nil => simp [cutQuery] at h
  | cons t ts ih =>
    simp only [cutQuery] at h
    split at h
    · simp_all
    · obtain ⟨query', hcut, rfl⟩ := inFront_eq_some h
      simp [ih hcut]

theorem cutQuery_ne_nil {depth : Nat} {ts rest : List Token} {query : List Char}
    (h : cutQuery depth ts = some (query, rest)) : query ≠ [] := by
  induction ts generalizing depth query with
  | nil => simp [cutQuery] at h
  | cons t ts ih =>
    simp only [cutQuery] at h
    split at h
    · rename_i hends
      obtain ⟨rfl, rfl⟩ := Prod.mk.inj (Option.some.inj h)
      cases t <;> simp_all [Token.text, Token.ends, Token.mark?]
    · obtain ⟨query', hcut, rfl⟩ := inFront_eq_some h
      simp [ih hcut]

/-- Cuts off the statement that a text starts with. Tells also whether the rest starts with a line,
which it does behind a command: the end of its line belongs to neither. -/
def cutStatement : List Char → Option (List Char × Bool × List Char)
  | ':' :: cs => some (':' :: lineOf cs, true, (fromLineEnd cs).drop 1)
  | cs => (cutQuery 0 (tokens cs)).map fun (query, ts) => (query, false, ts.flatMap Token.text)

theorem cutStatement_query {cs : List Char} (h : cs.head? ≠ some ':') :
    cutStatement cs =
      (cutQuery 0 (tokens cs)).map fun (query, ts) => (query, false, ts.flatMap Token.text) := by
  unfold cutStatement
  split
  · simp at h
  · rfl

/-- A statement is cut off in one piece: what it leaves out of the text in front of the rest is at
most one line feed. -/
theorem cutStatement_append {cs statement rest : List Char} {lineStart : Bool}
    (h : cutStatement cs = some (statement, lineStart, rest)) :
    statement ≠ [] ∧ ∃ gap, cs = statement ++ gap ++ rest ∧ (gap = [] ∨ gap = ['\n']) := by
  unfold cutStatement at h
  split at h
  · rename_i cs
    simp only [Option.some.injEq, Prod.mk.injEq] at h
    obtain ⟨rfl, -, rfl⟩ := h
    refine ⟨by simp, ?_⟩
    have happ := lineOf_append cs
    rcases fromLineEnd_cases cs with hd | ⟨rest, hd⟩ <;> rw [hd] at happ ⊢
    · exact ⟨[], by simpa using happ.symm, .inl rfl⟩
    · exact ⟨['\n'], by simpa using happ.symm, .inr rfl⟩
  · obtain ⟨⟨query, ts⟩, hcut, heq⟩ := Option.map_eq_some_iff.1 h
    obtain ⟨rfl, -, rfl⟩ : _ ∧ _ ∧ _ := by simpa using heq
    have happ := cutQuery_append hcut
    rw [tokens_text] at happ
    exact ⟨cutQuery_ne_nil hcut, [], by simpa using happ.symm, .inl rfl⟩

theorem cutStatement_length {cs statement rest : List Char} {lineStart : Bool}
    (h : cutStatement cs = some (statement, lineStart, rest)) : rest.length < cs.length := by
  obtain ⟨hne, gap, rfl, -⟩ := cutStatement_append h
  have := List.length_pos_iff.2 hne
  simp only [List.length_append]
  omega

/-- What a statement keeps of the blank text in front of it: everything, unless a whole line of that
is blank; then only what stands on the statement's own line. `lineStart` tells whether the blank text
starts with a line. -/
def keptBefore (lineStart : Bool) (blank : List Char) : List Char :=
  if lineStart ∨ 2 ≤ blank.count '\n' then lastLine blank else blank

/-- What is left of the blank text at the end: everything, unless a whole line of it is blank. -/
def keptAtEnd (lineStart : Bool) (blank : List Char) : List Char :=
  if lineStart ∨ 1 ≤ blank.count '\n' then [] else blank

/-- One more statement in front of a split text. -/
def consStatement (statement : List Char) (rest : List String × String) : List String × String :=
  (String.ofList statement :: rest.1, rest.2)

/-- Cuts a text into its statements and what is left without an end. `lineStart` tells whether the
text starts with a line, or behind a query on the same line. -/
def split (lineStart : Bool) (text : List Char) : List String × String :=
  let blank := text.takeWhile isBlank
  let visible := text.dropWhile isBlank
  match _h : cutStatement visible with
  | none =>
    let kept := if visible = [] then keptAtEnd lineStart blank else keptBefore lineStart blank
    ([], String.ofList (kept ++ visible))
  | some (statement, lineStart', rest) =>
    consStatement (keptBefore lineStart blank ++ statement) (split lineStart' rest)
termination_by text.length
decreasing_by
  have hrest := cutStatement_length ‹_›
  have hvisible : visible.length ≤ text.length := (List.dropWhile_sublist _).length_le
  omega

/-- Every text is blank text and then visible text. -/
theorem exists_visible (text : List Char) : ∃ blank visible, text = blank ++ visible ∧
    (∀ c ∈ blank, isBlank c) ∧ ∀ c ∈ visible.head?, ¬ isBlank c := by
  refine ⟨text.takeWhile isBlank, text.dropWhile isBlank, List.takeWhile_append_dropWhile.symm,
    List.all_eq_true.1 List.all_takeWhile, fun c hc => ?_⟩
  obtain ⟨cs, hcs⟩ := List.head?_eq_some_iff.1 hc
  have hhead := List.head_dropWhile_not isBlank (l := text) (by simp [hcs])
  simpa [hcs] using hhead

/-- `split` step by step: the blank text in front, then one statement, then the rest. -/
theorem split_eq (lineStart : Bool) {blank visible : List Char} (hblank : ∀ c ∈ blank, isBlank c)
    (hvisible : ∀ c ∈ visible.head?, ¬ isBlank c) :
    split lineStart (blank ++ visible) =
      match cutStatement visible with
      | none =>
        let kept := if visible = [] then keptAtEnd lineStart blank else keptBefore lineStart blank
        ([], String.ofList (kept ++ visible))
      | some (statement, lineStart', rest) =>
        consStatement (keptBefore lineStart blank ++ statement) (split lineStart' rest) := by
  have htake : (blank ++ visible).takeWhile isBlank = blank := by
    rw [List.takeWhile_append_of_pos hblank]
    cases visible <;> simp_all
  have hdrop : (blank ++ visible).dropWhile isBlank = visible := by
    rw [List.dropWhile_append_of_pos hblank]
    cases visible <;> simp_all
  rw [split]
  simp only [htake, hdrop]
  split <;> rename_i h <;> rw [hdrop] at h <;> rw [h]

end QueryShell.Statement
