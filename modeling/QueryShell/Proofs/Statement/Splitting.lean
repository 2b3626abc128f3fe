import QueryShell.Proofs.Statement.Grammar

/-
The accumulator, which reads one character after the other and one line after the other, cuts
statements exactly where the grammar of the whole text cuts them. `scan` is the accumulator's way
through a query; `scan_eq_cutQuery` compares it with the tokens, mode by mode.
-/
namespace QueryShell.Statement

open Text

/-! ## A query, one character after the other -/

/-- Reads a query one character after the other, and cuts it off where it ends. -/
def scan (depth : Nat) (mode : Mode) : List Char → Option (List Char × List Char)
  | [] => none
  | c :: cs =>
    match mode.next depth c with
    | none => some ([c], cs)
    | some (depth, mode) => inFront [c] (scan depth mode cs)

@[simp]
theorem inFront_nil {α : Type} (cut : Option (List Char × α)) : inFront [] cut = cut := by
  rcases cut with _ | ⟨_, _⟩ <;> rfl

@[simp]
theorem inFront_inFront {α : Type} (front more : List Char) (cut : Option (List Char × α)) :
    inFront front (inFront more cut) = inFront (front ++ more) cut := by
  rcases cut with _ | ⟨_, _⟩ <;> simp [inFront]

theorem scan_cons_some {depth depth' : Nat} {mode mode' : Mode} {c : Char} (cs : List Char)
    (h : mode.next depth c = some (depth', mode')) :
    scan depth mode (c :: cs) = inFront [c] (scan depth' mode' cs) := by
  rw [scan, h]

theorem scan_cons_none {depth : Nat} {mode : Mode} {c : Char} (cs : List Char)
    (h : mode.next depth c = none) : scan depth mode (c :: cs) = some ([c], cs) := by
  rw [scan, h]

/-! ## Literals and comments -/

theorem scan_quoted (depth : Nat) {close : Char} (hclose : close ≠ '\\') (cs : List Char) :
    scan depth (.quoted close false) cs =
      inFront (cutLiteral close cs).1 (scan depth (.plain .nothing) (cutLiteral close cs).2) := by
  fun_induction cutLiteral close cs with
  | case1 => rfl
  | case2 c rest ih =>
    have h1 : (Mode.quoted close false).next depth '\\' = some (depth, .quoted close true) := rfl
    have h2 : (Mode.quoted close true).next depth c = some (depth, .quoted close false) := rfl
    rw [scan_cons_some _ h1, scan_cons_some _ h2, ih]
    simp
  | case3 rest _ =>
    have h : (Mode.quoted close false).next depth close = some (depth, .plain .nothing) := by
      simp [Mode.next, hclose]
    rw [scan_cons_some _ h]
  | case4 c rest hpair hc ih =>
    by_cases hesc : c = '\\'
    · -- at the end of the text a backslash has nothing to protect
      subst hesc
      cases rest with
      | nil => rfl
      | cons d rest => exact absurd rfl (hpair d rest rfl)
    · have h : (Mode.quoted close false).next depth c = some (depth, .quoted close false) := by
        simp [Mode.next, hesc, hc]
      rw [scan_cons_some _ h, ih]
      simp

/-- A comment's line feed is plain text, whichever of the two it is counted to. -/
theorem scan_lineComment (depth : Nat) (cs : List Char) :
    scan depth .lineComment cs =
      inFront (lineOf cs) (scan depth (.plain .nothing) (fromLineEnd cs)) := by
  induction cs with
  | nil => rfl
  | cons c cs ih =>
    by_cases hc : c = '\n'
    · subst hc
      have h1 : Mode.lineComment.next depth '\n' = some (depth, .plain .nothing) := rfl
      have h2 : (Mode.plain .nothing).next depth '\n' = some (depth, .plain .nothing) := rfl
      rw [scan_cons_some _ h1]
      simp [lineOf, fromLineEnd, scan_cons_some _ h2]
    · have h : Mode.lineComment.next depth c = some (depth, .lineComment) := by simp [Mode.next, hc]
      rw [scan_cons_some _ h, ih]
      simp [lineOf, fromLineEnd, hc]

/-- A star that no slash follows closes nothing. -/
theorem scan_afterStar (depth : Nat) {cs : List Char} (h : cs.head? ≠ some '/') :
    scan depth (.blockComment true) cs = scan depth (.blockComment false) cs := by
  cases cs with
  | nil => rfl
  | cons c cs =>
    have hc : c ≠ '/' := by simpa using h
    simp [scan, Mode.next, hc]

theorem scan_blockComment (depth : Nat) (cs : List Char) :
    scan depth (.blockComment false) cs =
      inFront (cutComment cs).1 (scan depth (.plain .nothing) (cutComment cs).2) := by
  fun_induction cutComment cs with
  | case1 => rfl
  | case2 rest =>
    have h1 : (Mode.blockComment false).next depth '*' = some (depth, .blockComment true) := rfl
    have h2 : (Mode.blockComment true).next depth '/' = some (depth, .plain .nothing) := rfl
    rw [scan_cons_some _ h1, scan_cons_some _ h2]
    simp
  | case3 c rest hend ih =>
    have h : (Mode.blockComment false).next depth c = some (depth, .blockComment (c == '*')) := by
      simp [Mode.next]
    rw [scan_cons_some _ h]
    -- the machine remembers a star that closes nothing; the next character makes it forget
    by_cases hc : c = '*'
    · subst hc
      have hrest : rest.head? ≠ some '/' := by
        rintro hslash
        obtain ⟨cs, rfl⟩ := List.head?_eq_some_iff.1 hslash
        exact hend cs rfl rfl
      simp [scan_afterStar depth hrest, ih]
    · have hstar : (c == '*') = false := by simpa using hc
      simp [hstar, ih]

/-! ## Tokens -/

/-- A slash that neither a slash nor a star follows opens nothing. -/
theorem scan_afterSlash (depth : Nat) {cs : List Char} (h1 : cs.head? ≠ some '/')
    (h2 : cs.head? ≠ some '*') :
    scan depth (.plain .slash) cs = scan depth (.plain .nothing) cs := by
  cases cs with
  | nil => rfl
  | cons c cs =>
    have hslash : c ≠ '/' := by simpa using h1
    have hstar : c ≠ '*' := by simpa using h2
    simp [scan, Mode.next, Look.next, hslash, hstar]

/-- Brackets and terminators count alike, alone and behind a backslash. -/
theorem countBracket_eq (depth : Nat) {t : Token} {c : Char} (h : t.mark? = some c) :
    countBracket depth c = if t.ends ∧ depth = 0 then none else some (t.depthAfter depth) := by
  by_cases hopen : c ∈ ['(', '[', '{']
  · have hends : c ≠ ';' := by rintro rfl; simp at hopen
    simp_all [countBracket, Token.ends, Token.depthAfter, or_assoc]
  · by_cases hclose : c ∈ [')', ']', '}']
    · have hends : c ≠ ';' := by rintro rfl; simp at hclose
      simp_all [countBracket, Token.ends, Token.depthAfter, or_assoc]
    · simp_all [countBracket, Token.ends, Token.depthAfter, terminator]

/-- A character that is only counted is read like the token that it ends. -/
theorem scan_counted {depth : Nat} {mode : Mode} {c : Char} {t : Token} (cs : List Char)
    (hmode : mode.next depth c = (countBracket depth c).map (·, .plain .nothing))
    (ht : t.mark? = some c) :
    scan depth mode (c :: cs) =
      if t.ends ∧ depth = 0 then some ([c], cs)
      else inFront [c] (scan (t.depthAfter depth) (.plain .nothing) cs) := by
  rw [countBracket_eq depth ht] at hmode
  split at hmode
  · rename_i hends
    rw [scan_cons_none _ hmode, if_pos hends]
  · rename_i hends
    rw [scan_cons_some _ hmode, if_neg hends]

/-- What is left of a text behind the query that its tokens start with. -/
def restText (cut : Option (List Char × List Token)) : Option (List Char × List Char) :=
  cut.map fun (query, ts) => (query, ts.flatMap Token.text)

theorem restText_inFront (front : List Char) (cut : Option (List Char × List Token)) :
    restText (inFront front cut) = inFront front (restText cut) := by
  rcases cut with _ | ⟨_, _⟩ <;> rfl

theorem restText_cutQuery_inert (depth : Nat) (text : List Char) (ts : List Token) :
    restText (cutQuery depth (.inert text :: ts)) = inFront text (restText (cutQuery depth ts)) := by
  rw [cutQuery, if_neg (by simp [Token.ends, Token.mark?]), restText_inFront]
  rfl

theorem restText_cutQuery_cons (depth : Nat) (t : Token) (ts : List Token) :
    restText (cutQuery depth (t :: ts)) =
      if t.ends ∧ depth = 0 then some (t.text, ts.flatMap Token.text)
      else inFront t.text (restText (cutQuery (t.depthAfter depth) ts)) := by
  rw [cutQuery]
  split
  · rfl
  · rw [restText_inFront]

/-- Reading a query one character after the other cuts it off where its tokens do. -/
theorem scan_eq_cutQuery (depth : Nat) (cs : List Char) :
    scan depth (.plain .nothing) cs = restText (cutQuery depth (tokens cs)) := by
  -- one case for each kind of token: behind it the machine is in its plain mode again
  fun_induction tokens cs generalizing depth with
  | case1 => rfl
  | case2 c rest ih =>
    have h : (Mode.plain .nothing).next depth '\\' = some (depth, .plain .escape) := rfl
    rw [scan_cons_some _ h, scan_counted (t := .pair c) rest rfl rfl, restText_cutQuery_cons]
    split
    · simp [inFront, Token.text, tokens_text]
    · rw [ih]; simp [Token.text]
  | case3 rest ih =>
    have h1 : (Mode.plain .nothing).next depth '/' = some (depth, .plain .slash) := rfl
    have h2 : (Mode.plain .slash).next depth '/' = some (depth, .lineComment) := rfl
    rw [scan_cons_some _ h1, scan_cons_some _ h2, scan_lineComment, ih, restText_cutQuery_inert]
    simp
  | case4 rest ih =>
    have h1 : (Mode.plain .nothing).next depth '/' = some (depth, .plain .slash) := rfl
    have h2 : (Mode.plain .slash).next depth '*' = some (depth, .blockComment false) := rfl
    rw [scan_cons_some _ h1, scan_cons_some _ h2, scan_blockComment, ih, restText_cutQuery_inert]
    simp
  | case5 c rest _ _ _ hc ih =>
    have h : (Mode.plain .nothing).next depth c = some (depth, .quoted c false) := by
      rcases hc with rfl | rfl | rfl <;> rfl
    have hne : c ≠ '\\' := by rcases hc with rfl | rfl | rfl <;> decide
    rw [scan_cons_some _ h, scan_quoted depth hne, ih, restText_cutQuery_inert]
    simp
  | case6 c rest hpair hline hblock hc ih =>
    by_cases hesc : c = '\\'
    · -- a last backslash has nothing behind it to stand in front of
      subst hesc
      cases rest with
      | nil =>
        simp [scan, tokens, cutQuery, restText, Mode.next, Look.next, inFront, Token.ends,
          Token.mark?]
      | cons d rest => exact absurd rfl (hpair d rest rfl)
    rw [restText_cutQuery_cons, tokens_text, ← ih]
    by_cases hslash : c = '/'
    · subst hslash
      have h : (Mode.plain .nothing).next depth '/' = some (depth, .plain .slash) := rfl
      have h1 : rest.head? ≠ some '/' := by
        intro hhead
        obtain ⟨cs, rfl⟩ := List.head?_eq_some_iff.1 hhead
        exact hline cs rfl rfl
      have h2 : rest.head? ≠ some '*' := by
        intro hhead
        obtain ⟨cs, rfl⟩ := List.head?_eq_some_iff.1 hhead
        exact hblock cs rfl rfl
      rw [scan_cons_some _ h, scan_afterSlash depth h1 h2]
      rfl
    · have hquote : isQuote c = false := by simpa [isQuote, and_assoc] using hc
      have h : (Mode.plain .nothing).next depth c =
          (countBracket depth c).map (·, .plain .nothing) := by
        simp [Mode.next, Look.next, hesc, hquote, hslash]
      exact scan_counted (t := .single c) rest h rfl

/-! ## The accumulator inside a line -/

namespace Accumulator

/-- Takes in the rest of a line and the lines after it. -/
def takeRest (a : Accumulator) (line : List Char) (lines : List String) :
    Accumulator × List String :=
  let (a, outs) := a.pushAll line
  let (a, last) := a.endLine
  let (a, more) := a.feedLines lines
  (a, outs ++ last ++ more)

/-- What can be seen of a feed: the statements, and the text that is left. -/
def report (fed : Accumulator × List String) : List String × String :=
  (fed.2, fed.1.buffer)

/-- A piece under way. -/
def under (piece : List Char) (stage : Stage) : Accumulator :=
  { buffer := String.ofList piece, stage }

@[simp]
theorem under_buffer (piece : List Char) (stage : Stage) :
    (under piece stage).buffer = String.ofList piece := rfl

@[simp]
theorem under_stage (piece : List Char) (stage : Stage) : (under piece stage).stage = stage := rfl

theorem push_ofList (piece : List Char) (c : Char) :
    (String.ofList piece).push c = String.ofList (piece ++ [c]) := by
  simp

theorem push_some {piece : List Char} {stage stage' : Stage} {c : Char}
    (h : stage.next c = some stage') :
    (under piece stage).push c = (under (piece ++ [c]) stage', []) := by
  simp only [push, under, h, push_ofList]

theorem push_none {piece : List Char} {stage : Stage} {c : Char} (h : stage.next c = none) :
    (under piece stage).push c = (under [] (.blank false), [String.ofList (piece ++ [c])]) := by
  simp only [push, under, h, push_ofList]

theorem takeRest_some {piece : List Char} {stage stage' : Stage} {c : Char} (line : List Char)
    (lines : List String) (h : stage.next c = some stage') :
    (under piece stage).takeRest (c :: line) lines =
      (under (piece ++ [c]) stage').takeRest line lines := by
  simp [takeRest, pushAll, push_some h]

theorem takeRest_none {piece : List Char} {stage : Stage} {c : Char} (line : List Char)
    (lines : List String) (h : stage.next c = none) :
    report ((under piece stage).takeRest (c :: line) lines) =
      consStatement (piece ++ [c]) (report ((under [] (.blank false)).takeRest line lines)) := by
  simp [takeRest, pushAll, push_none h, report, consStatement]

/-- The rest of a line and the lines after it, as one text. -/
def textFrom (line : List Char) (lines : List String) : List Char :=
  line ++ lines.flatMap fun l => '\n' :: l.toList

@[simp]
theorem textFrom_cons (c : Char) (line : List Char) (lines : List String) :
    textFrom (c :: line) lines = c :: textFrom line lines := rfl

/-- A query goes on over the end of a line, whose line feed belongs to it. -/
theorem takeRest_nextLine (piece : List Char) (depth : Nat) (mode : Mode) (l : String)
    (lines : List String) :
    (under piece (.query depth mode)).takeRest [] (l :: lines) =
      (under piece (.query depth mode)).takeRest ('\n' :: l.toList) lines := by
  simp [takeRest, pushAll, endLine, feedLines, feedLine, hasPendingText, joinLine, under]

/-- A line feed never ends a query. -/
theorem next_lineFeed (depth : Nat) (mode : Mode) :
    ∃ mode', mode.next depth '\n' = some (depth, mode') := by
  cases mode with
  | plain look => cases look <;> exact ⟨_, rfl⟩
  | quoted close escaped =>
    by_cases hclose : '\n' = close
    · subst hclose
      cases escaped <;> exact ⟨_, rfl⟩
    · cases escaped <;> simp [Mode.next, hclose]
  | lineComment => exact ⟨_, rfl⟩
  | blockComment afterStar => exact ⟨_, rfl⟩

/-- The lines have no line feed inside. -/
def Physical (line : List Char) (lines : List String) : Prop :=
  '\n' ∉ line ∧ ∀ l ∈ lines, '\n' ∉ l.toList

/-- What becomes of a query under way: it stays without an end, or it is cut off where `scan` does,
and the accumulator goes on behind it. -/
def Reads (piece : List Char) (depth : Nat) (mode : Mode) (line : List Char)
    (lines : List String) : Prop :=
  (scan depth mode (textFrom line lines) = none ∧
    report ((under piece (.query depth mode)).takeRest line lines) =
      ([], String.ofList (piece ++ textFrom line lines))) ∨
  ∃ query line' lines', scan depth mode (textFrom line lines) = some (query, textFrom line' lines') ∧
    Physical line' lines' ∧
    report ((under piece (.query depth mode)).takeRest line lines) =
      consStatement (piece ++ query) (report ((under [] (.blank false)).takeRest line' lines'))

theorem reads_some {piece line : List Char} {depth depth' : Nat} {mode mode' : Mode} {c : Char}
    {lines : List String} (h : mode.next depth c = some (depth', mode'))
    (hreads : Reads (piece ++ [c]) depth' mode' line lines) :
    Reads piece depth mode (c :: line) lines := by
  have hstage : (Stage.query depth mode).next c = some (.query depth' mode') := by
    simp [Stage.next, h]
  unfold Reads
  rw [textFrom_cons, scan_cons_some _ h, takeRest_some _ _ hstage]
  rcases hreads with ⟨hscan, hrep⟩ | ⟨query, line', lines', hscan, hphys, hrep⟩
  · left
    rw [hscan, hrep]
    simp [inFront]
  · right
    refine ⟨c :: query, line', lines', ?_, hphys, ?_⟩
    · rw [hscan]
      rfl
    · rw [hrep]
      simp

theorem reads_cons {piece line : List Char} {depth : Nat} {mode : Mode} {c : Char}
    {lines : List String} (hphys : Physical line lines)
    (hreads : ∀ piece depth mode, Reads piece depth mode line lines) :
    Reads piece depth mode (c :: line) lines := by
  cases hnext : mode.next depth c with
  | some next => exact reads_some hnext (hreads _ _ _)
  | none =>
    have hstage : (Stage.query depth mode).next c = none := by simp [Stage.next, hnext]
    refine .inr ⟨[c], line, lines, ?_, hphys, ?_⟩
    · rw [textFrom_cons, scan_cons_none _ hnext]
    · rw [takeRest_none _ _ hstage]

theorem Physical.tail {c : Char} {line : List Char} {lines : List String}
    (h : Physical (c :: line) lines) : Physical line lines :=
  ⟨fun hmem => h.1 (List.mem_cons_of_mem _ hmem), h.2⟩

theorem Physical.nextLine {line : List Char} {l : String} {lines : List String}
    (h : Physical line (l :: lines)) : Physical l.toList lines :=
  ⟨h.2 l List.mem_cons_self, fun m hm => h.2 m (List.mem_cons_of_mem _ hm)⟩

/-- The accumulator reads a query like `scan`, over the ends of lines. -/
theorem takeRest_query (piece : List Char) (depth : Nat) (mode : Mode) (line : List Char)
    (lines : List String) (hphys : Physical line lines) : Reads piece depth mode line lines := by
  -- outside the lines that follow, inside the characters of this one
  induction lines generalizing piece depth mode line with
  | nil =>
    induction line generalizing piece depth mode with
    | nil =>
      left
      simp [textFrom, scan, takeRest, pushAll, endLine, feedLines, under, report]
    | cons c line ih =>
      exact reads_cons hphys.tail fun piece depth mode => ih piece depth mode hphys.tail
  | cons l lines ihlines =>
    induction line generalizing piece depth mode with
    | nil =>
      -- the line feed is read like any other character, then the next line follows
      obtain ⟨mode', hnext⟩ := next_lineFeed depth mode
      have hreads := reads_some hnext (ihlines (piece ++ ['\n']) depth mode' l.toList hphys.nextLine)
      have htext : textFrom [] (l :: lines) = textFrom ('\n' :: l.toList) lines := by simp [textFrom]
      unfold Reads at hreads ⊢
      rw [takeRest_nextLine, htext]
      exact hreads
    | cons c line ih =>
      exact reads_cons hphys.tail fun piece depth mode => ih piece depth mode hphys.tail

/-! ## The start of a piece -/

/-- The lines as one text, joined by line feeds. -/
def joined : List String → List Char
  | [] => []
  | l :: lines => textFrom l.toList lines

theorem length_joined_le (line : List Char) (lines : List String) :
    (joined lines).length ≤ (textFrom line lines).length := by
  cases lines with
  | nil => simp [joined]
  | cons l lines =>
    simp only [joined, textFrom, List.flatMap_cons, List.length_append, List.length_cons]
    omega

theorem length_joined_lt (line : List Char) (hline : line ≠ []) (lines : List String) :
    (joined lines).length < (textFrom line lines).length := by
  have hpos := List.length_pos_iff.2 hline
  cases lines with
  | nil => simpa [joined, textFrom] using hpos
  | cons l lines =>
    simp only [joined, textFrom, List.flatMap_cons, List.length_append, List.length_cons]
    omega

/-- Blank text in front of a piece is kept until it is known what follows. -/
theorem takeRest_blank {blank : List Char} (hblank : ∀ c ∈ blank, isBlank c) (piece line : List Char)
    (lines : List String) :
    (under piece (.blank false)).takeRest (blank ++ line) lines =
      (under (piece ++ blank) (.blank false)).takeRest line lines := by
  induction blank generalizing piece with
  | nil => simp
  | cons c blank ih =>
    have hc : (Stage.blank false).next c = some (.blank false) := by
      simp [Stage.next, hblank c List.mem_cons_self]
    rw [List.cons_append, takeRest_some _ _ hc, ih fun d hd => hblank d (List.mem_cons_of_mem _ hd)]
    simp

/-- A command takes the rest of its line, and the lines after it start afresh. -/
theorem takeRest_command (piece line : List Char) (lines : List String) :
    report ((under piece .command).takeRest line lines) =
      consStatement (piece ++ line) (report (feedLines empty lines)) := by
  induction line generalizing piece with
  | nil => simp [takeRest, pushAll, endLine, under, report, consStatement]
  | cons c line ih =>
    rw [takeRest_some _ _ (by rfl : Stage.command.next c = some .command), ih]
    simp

theorem lineOf_textFrom {line : List Char} (h : '\n' ∉ line) (lines : List String) :
    lineOf (textFrom line lines) = line := by
  have hline : ∀ c ∈ line, decide (c ≠ '\n') := fun c hc => by
    simpa using fun heq : c = '\n' => h (heq ▸ hc)
  unfold lineOf textFrom
  rw [List.takeWhile_append_of_pos hline]
  cases lines <;> simp

theorem fromLineEnd_textFrom {line : List Char} (h : '\n' ∉ line) (lines : List String) :
    (fromLineEnd (textFrom line lines)).drop 1 = joined lines := by
  have hline : ∀ c ∈ line, decide (c ≠ '\n') := fun c hc => by
    simpa using fun heq : c = '\n' => h (heq ▸ hc)
  unfold fromLineEnd textFrom
  rw [List.dropWhile_append_of_pos hline]
  cases lines <;> simp [joined, textFrom]

/-- The accumulator and the grammar agree on all texts shorter than `n`, at the start of a line and
behind a query. -/
structure Agree (n : Nat) : Prop where
  inLine : ∀ line lines, Physical line lines → (textFrom line lines).length < n →
    report ((under [] (.blank false)).takeRest line lines) = split false (textFrom line lines)
  atLine : ∀ lines, (∀ l ∈ lines, '\n' ∉ l.toList) → (joined lines).length < n →
    report (feedLines empty lines) = split true (joined lines)

/-- From its first visible character on a piece is read as the grammar cuts it off. -/
theorem takeRest_visible {n : Nat} (hagree : Agree n) (blank : List Char) {c : Char}
    {line : List Char} {lines : List String} (hc : ¬ isBlank c) (hphys : Physical (c :: line) lines)
    (hlen : (textFrom (c :: line) lines).length ≤ n) :
    report ((under blank (.blank false)).takeRest (c :: line) lines) =
      match cutStatement (textFrom (c :: line) lines) with
      | none => ([], String.ofList (blank ++ textFrom (c :: line) lines))
      | some (statement, lineStart, rest) =>
        consStatement (blank ++ statement) (split lineStart rest) := by
  by_cases hcommand : c = ':'
  · subst hcommand
    have hnext : (Stage.blank false).next ':' = some .command := rfl
    have hline := hphys.tail.1
    -- the colon is read here, so what follows the command's line is shorter
    have hshort : (joined lines).length < n := by
      have := congrArg List.length (lineOf_append (textFrom line lines))
      have hdrop := congrArg List.length (fromLineEnd_textFrom hline lines)
      simp only [List.length_append, List.length_drop, textFrom_cons, List.length_cons] at *
      omega
    rw [takeRest_some _ _ hnext, takeRest_command, hagree.atLine lines hphys.2 hshort]
    simp [cutStatement, lineOf_textFrom hline, ← fromLineEnd_textFrom hline]
  · have hhead : (textFrom (c :: line) lines).head? ≠ some ':' := by simpa using hcommand
    have hstage : (Stage.blank false).next c = (Stage.query 0 (.plain .nothing)).next c := by
      simp [Stage.next, hc, commandMark, hcommand]
    have hquery : (under blank (.blank false)).takeRest (c :: line) lines =
        (under blank (.query 0 (.plain .nothing))).takeRest (c :: line) lines := by
      simp only [takeRest, pushAll, push, under, hstage]
    rw [cutStatement_query hhead, hquery]
    have hcut := scan_eq_cutQuery 0 (textFrom (c :: line) lines)
    rcases takeRest_query blank 0 (.plain .nothing) (c :: line) lines hphys with
      ⟨hscan, hrep⟩ | ⟨query, line', lines', hscan, hphys', hrep⟩
    · rw [hrep, Option.map_eq_none_iff.1 (hcut.symm.trans hscan)]
      rfl
    · obtain ⟨⟨_, ts⟩, hsome, heq⟩ := Option.map_eq_some_iff.1 (hcut.symm.trans hscan)
      obtain ⟨rfl, htext⟩ := Prod.mk.inj heq
      have happ := congrArg List.length (cutQuery_append hsome)
      have hpos := List.length_pos_iff.2 (cutQuery_ne_nil hsome)
      rw [tokens_text, htext, List.length_append] at happ
      rw [hrep, hsome, hagree.inLine line' lines' hphys' (by omega), ← htext]
      rfl

/-! ## Blank lines -/

theorem lastLine_append (front cs : List Char) : lastLine (front ++ '\n' :: cs) = lastLine cs := by
  unfold lastLine
  rw [List.reverse_append, List.reverse_cons, List.append_assoc, List.takeWhile_append]
  split
  · rename_i hall
    rw [(List.takeWhile_sublist _).eq_of_length hall]
    simp
  · rfl

theorem lastLine_of_not_mem {cs : List Char} (h : '\n' ∉ cs) : lastLine cs = cs := by
  have hall : ∀ c ∈ cs.reverse, decide (c ≠ '\n') := fun c hc => by
    simpa using fun heq : c = '\n' => h (heq ▸ List.mem_reverse.1 hc)
  unfold lastLine
  rw [← List.append_nil cs.reverse, List.takeWhile_append_of_pos hall]
  simp

theorem split_of_blank (lineStart : Bool) {blank : List Char} (hblank : ∀ c ∈ blank, isBlank c) :
    split lineStart blank = ([], String.ofList (keptAtEnd lineStart blank)) := by
  have heq := split_eq lineStart hblank (by simp : ∀ c ∈ ([] : List Char).head?, ¬ isBlank c)
  simpa [cutStatement, tokens, cutQuery] using heq

theorem isBlank_append_lineFeed {blank front : List Char} (hblank : ∀ c ∈ blank, isBlank c)
    (hfront : ∀ c ∈ front, isBlank c) : ∀ c ∈ blank ++ '\n' :: front, isBlank c := by
  intro c hc
  rcases List.mem_append.1 hc with hc | hc
  · exact hblank c hc
  · rcases List.mem_cons.1 hc with rfl | hc
    · rfl
    · exact hfront c hc

/-- A whole blank line drops out, with all blank text in front of it. -/
theorem split_skip {lineStart : Bool} {blank : List Char} (hblank : ∀ c ∈ blank, isBlank c)
    (hwhole : lineStart ∨ '\n' ∈ blank) (text : List Char) :
    split lineStart (blank ++ '\n' :: text) = split true text := by
  have hcount : lineStart ∨ 1 ≤ blank.count '\n' := hwhole.imp_right List.count_pos_iff.2
  obtain ⟨front, visible, rfl, hfront, hvisible⟩ := exists_visible text
  have hbefore : keptBefore lineStart (blank ++ '\n' :: front) = keptBefore true front := by
    unfold keptBefore
    rw [List.count_append, List.count_cons_self, lastLine_append,
      if_pos (hcount.imp_right fun _ => by omega), if_pos (.inl rfl)]
  have hend : keptAtEnd lineStart (blank ++ '\n' :: front) = keptAtEnd true front := by
    unfold keptAtEnd
    rw [List.count_append, List.count_cons_self, if_pos (.inr (by omega)), if_pos (.inl rfl)]
  have hleft := split_eq lineStart (isBlank_append_lineFeed hblank hfront) hvisible
  rw [hbefore, hend, List.append_assoc, List.cons_append] at hleft
  rw [hleft, split_eq true hfront hvisible]

theorem split_blankLine {lineStart : Bool} {blank : List Char} (hblank : ∀ c ∈ blank, isBlank c)
    (hwhole : lineStart ∨ '\n' ∈ blank) (lines : List String) :
    split lineStart (textFrom blank lines) = split true (joined lines) := by
  cases lines with
  | cons l lines =>
    have hskip := split_skip hblank hwhole (textFrom l.toList lines)
    simpa [textFrom, joined] using hskip
  | nil =>
    have hcount : lineStart ∨ 1 ≤ blank.count '\n' := hwhole.imp_right List.count_pos_iff.2
    have hnil : textFrom blank [] = blank := by simp [textFrom]
    rw [hnil, split_of_blank lineStart hblank]
    show _ = split true []
    rw [split_of_blank true (by simp)]
    unfold keptAtEnd
    rw [if_pos hcount, if_pos (.inl rfl)]

/-! ## The accumulator and the grammar -/

theorem feedLines_cons_blank {a : Accumulator} (ha : a.hasPendingText = false) {l : String}
    (h : allBlank l) (lines : List String) : feedLines a (l :: lines) = feedLines empty lines := by
  simp [feedLines, feedLine, ha, h]

theorem feedLines_cons_visible {l : String} (h : ¬ allBlank l) (lines : List String)
    (piece : List Char) :
    feedLines (under piece (.blank false)) (l :: lines) =
      (under (piece ++ ['\n']) (.blank false)).takeRest l.toList lines := by
  have hnext : (Stage.blank false).next '\n' = some (.blank false) := rfl
  have hjoin : (under piece (.blank false)).joinLine = (under (piece ++ ['\n']) (.blank false), []) :=
    push_some hnext
  simp [feedLines, feedLine, takeRest, hasPendingText, h, hjoin]

theorem feedLines_empty_visible {l : String} (h : ¬ allBlank l) (lines : List String) :
    feedLines empty (l :: lines) = (under [] (.blank false)).takeRest l.toList lines := by
  simp [feedLines, feedLine, takeRest, hasPendingText, h, joinLine, under, empty]

/-- A piece that starts on this line: the blank text in front is kept, and the rest is read as the
grammar cuts it off. -/
theorem takeRest_piece {n : Nat} (hagree : Agree n) {lineStart : Bool} {piece line : List Char}
    {lines : List String} (hpiece : ∀ c ∈ piece, isBlank c)
    (hkept : ∀ blank, '\n' ∉ blank → keptBefore lineStart (piece ++ blank) = piece ++ blank)
    (hline : ¬ ∀ c ∈ line, isBlank c) (hphys : Physical line lines)
    (hlen : (textFrom line lines).length ≤ n) :
    report ((under piece (.blank false)).takeRest line lines) =
      split lineStart (piece ++ textFrom line lines) := by
  obtain ⟨blank, visible, rfl, hblank, hvisible⟩ := exists_visible line
  cases visible with
  | nil => exact absurd (by simpa using hblank) hline
  | cons c visible =>
    have hc : ¬ isBlank c := hvisible c rfl
    have hall : ∀ d ∈ piece ++ blank, isBlank d := fun d hd =>
      (List.mem_append.1 hd).elim (hpiece d) (hblank d)
    have hphys' : Physical (c :: visible) lines :=
      ⟨fun hmem => hphys.1 (List.mem_append_right _ hmem), hphys.2⟩
    have hnl : '\n' ∉ blank := fun hmem => hphys.1 (List.mem_append_left _ hmem)
    have htext : textFrom (blank ++ c :: visible) lines = blank ++ textFrom (c :: visible) lines := by
      simp [textFrom]
    rw [htext, List.length_append] at hlen
    rw [takeRest_blank hblank, takeRest_visible hagree (piece ++ blank) hc hphys' (by omega), htext,
      ← List.append_assoc, split_eq lineStart hall (by simpa using hc), hkept blank hnl]
    rfl

/-- Blank text waits in the buffer while further lines come. If the next line is blank as well, all
of it drops out; otherwise it stands in front of a piece that starts on that line. -/
theorem feedLines_waiting {n : Nat} (hagree : Agree n) {blank : List Char}
    (hblank : ∀ c ∈ blank, isBlank c) {l : String} {lines : List String}
    (hphys : Physical blank (l :: lines)) (hlen : (textFrom blank (l :: lines)).length ≤ n) :
    report (feedLines (under blank (.blank false)) (l :: lines)) =
      split false (textFrom blank (l :: lines)) := by
  by_cases hl : allBlank l
  · have htext : textFrom blank (l :: lines) = textFrom (blank ++ '\n' :: l.toList) lines := by
      simp [textFrom]
    have hall := isBlank_append_lineFeed hblank (List.all_eq_true.1 hl)
    have hshort := length_joined_lt (blank ++ '\n' :: l.toList) (by simp) lines
    rw [htext] at hlen ⊢
    rw [feedLines_cons_blank rfl hl, split_blankLine hall (.inr (by simp)),
      hagree.atLine lines hphys.nextLine.2 (by omega)]
  · have hpiece : ∀ c ∈ blank ++ ['\n'], isBlank c :=
      isBlank_append_lineFeed hblank fun c hc => by cases hc
    -- one line feed is kept: the lines in front of the piece are not blank as a whole
    have hkept : ∀ more, '\n' ∉ more →
        keptBefore false (blank ++ ['\n'] ++ more) = blank ++ ['\n'] ++ more := by
      intro more hnl
      simp [keptBefore, List.count_append, List.count_eq_zero_of_not_mem hnl,
        List.count_eq_zero_of_not_mem hphys.1]
    have hl' : ¬ ∀ c ∈ l.toList, isBlank c := fun hall => hl (List.all_eq_true.2 hall)
    have htext : textFrom blank (l :: lines) = blank ++ ['\n'] ++ textFrom l.toList lines := by
      simp [textFrom]
    rw [htext, List.length_append] at hlen
    rw [feedLines_cons_visible hl, htext,
      takeRest_piece hagree hpiece hkept hl' hphys.nextLine (by omega)]

theorem agree_succ {n : Nat} (hagree : Agree n) : Agree (n + 1) where
  inLine line lines hphys hlen := by
    by_cases hline : ∀ c ∈ line, isBlank c
    · -- nothing starts on this line: its blank text waits for the lines that follow
      have hblank := takeRest_blank hline [] [] lines
      rw [List.append_nil, List.nil_append] at hblank
      rw [hblank]
      cases lines with
      | nil =>
        have hend : keptAtEnd false line = line := by
          simp [keptAtEnd, hphys.1]
        have htext : textFrom line [] = line := by simp [textFrom]
        rw [htext, split_of_blank false hline, hend]
        simp [takeRest, pushAll, endLine, feedLines, report]
      | cons l lines =>
        have hnext : (under line (.blank false)).takeRest [] (l :: lines) =
            feedLines (under line (.blank false)) (l :: lines) := by
          simp [takeRest, pushAll, endLine]
        rw [hnext]
        exact feedLines_waiting hagree hline hphys (by omega)
    · have hkept : ∀ blank, '\n' ∉ blank → keptBefore false ([] ++ blank) = [] ++ blank := by
        intro blank hnl
        simp [keptBefore, List.count_eq_zero_of_not_mem hnl]
      exact takeRest_piece hagree (by simp) hkept hline hphys (by omega)
  atLine lines hlines hlen := by
    -- blank lines drop out one after the other, until a piece starts
    induction lines with
    | nil =>
      show ([], "") = split true []
      rw [split_of_blank true (by simp)]
      rfl
    | cons l lines ih =>
      have hphys : Physical l.toList lines :=
        ⟨hlines l List.mem_cons_self, fun m hm => hlines m (List.mem_cons_of_mem _ hm)⟩
      by_cases hl : allBlank l
      · have hshort := length_joined_le l.toList lines
        rw [feedLines_cons_blank rfl hl, ih hphys.2 (by simp only [joined] at hlen; omega)]
        exact (split_blankLine (List.all_eq_true.1 hl) (.inl rfl) lines).symm
      · have hl' : ¬ ∀ c ∈ l.toList, isBlank c := fun hall => hl (List.all_eq_true.2 hall)
        have hkept : ∀ blank, '\n' ∉ blank → keptBefore true ([] ++ blank) = [] ++ blank := by
          intro blank hnl
          simp [keptBefore, lastLine_of_not_mem hnl]
        rw [feedLines_empty_visible hl]
        exact takeRest_piece hagree (by simp) hkept hl' hphys (by simp only [joined] at hlen; omega)

theorem agree (n : Nat) : Agree n := by
  induction n with
  | zero => exact ⟨fun _ _ _ h => absurd h (by omega), fun _ _ h => absurd h (by omega)⟩
  | succ n ih => exact agree_succ ih

/-- Feeding physical lines cuts their joined text as the grammar does. -/
theorem feedLines_eq_split {lines : List String} (h : ∀ l ∈ lines, '\n' ∉ l.toList) :
    report (feedLines empty lines) = split true (joined lines) :=
  (agree ((joined lines).length + 1)).atLine lines h (by omega)

end Accumulator

end QueryShell.Statement
