import QueryShell.Proofs.History.Reading

/-
The accumulator as a machine of nine registers. The types of the accumulator leave no room for a mode
without a query or for a star outside a block comment; in `Registers` each register may have any value,
and what keeps them together is only how they are set. Character by character and line by line, the
registers are those of the accumulator (`registers_feedTexts`).
-/
namespace QueryShell.Statement

open Text

/-! ## The machine -/

/-- The mode register. -/
inductive LexMode where
  | normal
  | singleQuote
  | doubleQuote
  | backtick
  | lineComment
  | blockComment
deriving DecidableEq, Repr

/-- The lexical state, flat. -/
structure Registers where
  buffer : String := ""
  mode : LexMode := .normal
  depth : Nat := 0
  /-- A visible character was appended to the statement. -/
  started : Bool := false
  /-- No line was fed since the last reset, so the next one is not joined. -/
  fresh : Bool := true
  command : Bool := false
  /-- The character before was an escape that is not used up. -/
  escaped : Bool := false
  afterSlash : Bool := false
  afterStar : Bool := false
deriving DecidableEq, Repr

namespace LexMode

/-- The mode of the literal that a quote opens. -/
def opened? : Char → Option LexMode
  | '\'' => some .singleQuote
  | '"' => some .doubleQuote
  | '\x60' => some .backtick
  | _ => none

end LexMode

namespace Registers

/-- Hands out the buffered statement; what follows on its line starts the next one. -/
def takeStatement (r : Registers) : Registers × List String :=
  ({ fresh := false }, [r.buffer])

/-- A character of plain query text. -/
def scanNormal (r : Registers) (c : Char) (escaped : Bool) : Registers × List String :=
  let afterSlash := r.afterSlash
  let r := { r with afterSlash := false }
  if c == '\\' && !escaped then ({ r with escaped := true }, [])
  else if (LexMode.opened? c).isSome && !escaped then
    ({ r with mode := (LexMode.opened? c).getD r.mode }, [])
  else if c == '/' && !escaped && afterSlash then ({ r with mode := .lineComment }, [])
  else if c == '*' && !escaped && afterSlash then
    ({ r with mode := .blockComment, afterStar := false }, [])
  else if c == '/' && !escaped then ({ r with afterSlash := true }, [])
  else
    match countBracket r.depth c with
    | some depth => ({ r with depth }, [])
    | none => r.takeStatement

/-- A character of a quoted literal. -/
def scanQuoted (r : Registers) (c : Char) (escaped : Bool) (close : Char) : Registers :=
  if escaped then r
  else if c == '\\' then { r with escaped := true }
  else if c == close then { r with mode := .normal }
  else r

/-- One more character. -/
def scan (r : Registers) (c : Char) : Registers × List String :=
  let escaped := r.escaped
  let r := { r with buffer := r.buffer.push c, escaped := false }
  let r :=
    if !r.started && !isBlank c then { r with started := true, command := c == commandMark } else r
  if r.command then (r, [])
  else
    match r.mode with
    | .normal => r.scanNormal c escaped
    | .singleQuote => (r.scanQuoted c escaped '\'', [])
    | .doubleQuote => (r.scanQuoted c escaped '"', [])
    | .backtick => (r.scanQuoted c escaped '\x60', [])
    | .lineComment => (if c == '\n' then { r with mode := .normal } else r, [])
    | .blockComment =>
      (if r.afterStar && c == '/' then { r with mode := .normal, afterStar := false }
        else { r with afterStar := c == '*' }, [])

/-- Characters one after the other. -/
def scanAll : Registers → List Char → Registers × List String
  | r, [] => (r, [])
  | r, c :: cs =>
    let (r, out) := r.scan c
    let (r, outs) := r.scanAll cs
    (r, out ++ outs)

/-- A line that is not the first one is joined. -/
def joinLine (r : Registers) : Registers × List String :=
  let (r, out) := if r.fresh then (r, []) else r.scan '\n'
  ({ r with fresh := false }, out)

/-- A command ends with its line. -/
def endLine (r : Registers) : Registers × List String :=
  if r.command then
    let (r, out) := r.takeStatement
    ({ r with fresh := true }, out)
  else (r, [])

/-- Takes in one physical line. -/
def feedLine (r : Registers) (line : String) : Registers × List String :=
  if !r.started && allBlank line then ({}, [])
  else
    let (r, joined) := r.joinLine
    let (r, outs) := r.scanAll line.toList
    let (r, last) := r.endLine
    (r, joined ++ outs ++ last)

/-- Takes in physical lines one after the other. -/
def feedLines : Registers → List String → Registers × List String
  | r, [] => (r, [])
  | r, line :: rest =>
    let (r, out) := r.feedLine line
    let (r, outs) := r.feedLines rest
    (r, out ++ outs)

/-- Takes in a text of one or more lines. -/
def feed (r : Registers) (text : String) : Registers × List String :=
  if text.isEmpty then r.feedLine "" else r.feedLines (lines text)

/-- Takes in texts one after the other. -/
def feedTexts : Registers → List String → Registers × List String
  | r, [] => (r, [])
  | r, text :: rest =>
    let (r, out) := r.feed text
    let (r, outs) := r.feedTexts rest
    (r, out ++ outs)

end Registers

/-! ## The registers of an accumulator -/

/-- How a mode is kept in registers, beside the others. -/
def Mode.registers (mode : Mode) (buffer : String) (depth : Nat) : Registers :=
  let r : Registers := { buffer, depth, started := true, fresh := false }
  match mode with
  | .plain look => { r with escaped := look = .escape, afterSlash := look = .slash }
  | .quoted close escaped => { r with mode := (LexMode.opened? close).getD .normal, escaped }
  | .lineComment => { r with mode := .lineComment }
  | .blockComment afterStar => { r with mode := .blockComment, afterStar }

namespace Accumulator

/-- The registers in which the state is kept. -/
def registers (a : Accumulator) : Registers :=
  match a.stage with
  | .blank fresh => { buffer := a.buffer, fresh }
  | .command => { buffer := a.buffer, started := true, fresh := false, command := true }
  | .query depth mode => mode.registers a.buffer depth

/-- No literal is open that a quote did not open. -/
def Sound (a : Accumulator) : Prop :=
  ∀ depth mode, a.stage = .query depth mode → mode.Sound

/-- The accumulator is inside a line. -/
structure InLine (a : Accumulator) : Prop where
  sound : a.Sound
  joined : a.stage ≠ .blank true

theorem registers_started (a : Accumulator) : a.registers.started = a.hasPendingText := by
  unfold registers hasPendingText
  cases a.stage with
  | blank fresh => rfl
  | command => rfl
  | query depth mode => cases mode <;> rfl

theorem registers_buffer (a : Accumulator) : a.registers.buffer = a.buffer := by
  unfold registers
  cases a.stage with
  | blank fresh => rfl
  | command => rfl
  | query depth mode => cases mode <;> rfl

theorem registers_command (a : Accumulator) : a.registers.command = decide (a.stage = .command) := by
  unfold registers
  cases a.stage with
  | blank fresh => rfl
  | command => rfl
  | query depth mode => cases mode <;> rfl

theorem registers_fresh (a : Accumulator) : a.registers.fresh = decide (a.stage = .blank true) := by
  unfold registers
  cases a.stage with
  | blank fresh => cases fresh <;> rfl
  | command => rfl
  | query depth mode => cases mode <;> rfl

theorem sound_empty (fresh : Bool) : Sound { stage := .blank fresh } := nofun

theorem Sound.push {a : Accumulator} (ha : a.Sound) (c : Char) : (a.push c).1.Sound := by
  unfold Accumulator.push
  split
  · rename_i stage hnext
    rintro depth mode rfl
    cases hstage : a.stage with
    | blank fresh =>
      rw [hstage] at hnext
      simp only [Stage.next] at hnext
      split at hnext
      · cases hnext
      split at hnext
      · cases hnext
      · obtain ⟨⟨depth', mode'⟩, hmode, heq⟩ := Option.map_eq_some_iff.1 hnext
        cases heq
        have hplain : (Mode.plain .nothing).Sound := trivial
        exact hplain.next hmode
    | command =>
      rw [hstage] at hnext
      cases hnext
    | query depth₀ mode₀ =>
      rw [hstage] at hnext
      obtain ⟨⟨depth', mode'⟩, hmode, heq⟩ := Option.map_eq_some_iff.1 hnext
      cases heq
      exact (ha depth₀ mode₀ hstage).next hmode
  · exact sound_empty false

end Accumulator

/-! ## Character by character -/

theorem opened?_isSome (c : Char) : (LexMode.opened? c).isSome = isQuote c := by
  unfold LexMode.opened?
  split
  · rfl
  · rfl
  · rfl
  · rename_i hsingle hdouble hback
    simp only [isQuote, Option.isSome_none, Bool.false_eq, Bool.or_eq_false_iff, beq_eq_false_iff_ne]
    exact ⟨⟨hsingle, hdouble⟩, hback⟩

/-- A blank character is plain text in any mode that has nothing else on. -/
theorem blank_special {c : Char} (h : isBlank c) (depth : Nat) :
    c ≠ '\\' ∧ c ≠ '/' ∧ c ≠ '*' ∧ isQuote c = false ∧ countBracket depth c = some depth := by
  have hne {d : Char} (hd : isBlank d = false) : c ≠ d := by
    rintro rfl
    rw [h] at hd
    cases hd
  refine ⟨hne rfl, hne rfl, hne rfl, ?_, ?_⟩
  · simp [isQuote, hne (d := '\'') rfl, hne (d := '"') rfl, hne (d := '\x60') rfl]
  · simp [countBracket, terminator, hne (d := '(') rfl, hne (d := '[') rfl, hne (d := '{') rfl,
      hne (d := ')') rfl, hne (d := ']') rfl, hne (d := '}') rfl, hne (d := ';') rfl]

namespace Registers

/-- Plain query text. -/
theorem scanNormal_plain (look : Look) (buffer : String) (depth : Nat) (c : Char) :
    scanNormal { buffer, depth, started := true, fresh := false, afterSlash := look = .slash } c
        (look = .escape) =
      match look.next depth c with
      | some (depth', mode) => (mode.registers buffer depth', [])
      | none => ({ fresh := false }, [buffer]) := by
  have hcounted : (match countBracket depth c with
      | some depth => (({ buffer, depth, started := true, fresh := false } : Registers), ([] : List String))
      | none => takeStatement { buffer, depth, started := true, fresh := false }) =
      match (countBracket depth c).map (·, Mode.plain .nothing) with
      | some (depth', mode) => (mode.registers buffer depth', [])
      | none => ({ fresh := false }, [buffer]) := by
    cases countBracket depth c <;> rfl
  -- the cases come in the order in which the machine looks at the character
  unfold scanNormal Look.next
  rw [opened?_isSome]
  by_cases hescape : look = .escape
  · simp [hescape, hcounted]
  by_cases hback : c = '\\'
  · simp [hescape, hback, Mode.registers]
  by_cases hquote : isQuote c
  · simp [hescape, hback, hquote, Mode.registers]
  by_cases hslash : c = '/'
  · by_cases hlook : look = .slash <;> simp [hescape, hlook, hslash, isQuote, Mode.registers]
  by_cases hstar : c = '*'
  · by_cases hlook : look = .slash
    · simp [hlook, hstar, isQuote, Mode.registers]
    · simp [hescape, hlook, hstar, isQuote, hstar ▸ hcounted]
  · simp [hescape, hback, hquote, hslash, hstar, hcounted]

/-- A character of a query. -/
theorem scan_query {mode : Mode} (hmode : mode.Sound) (buffer : String) (depth : Nat) (c : Char) :
    (mode.registers buffer depth).scan c =
      match mode.next depth c with
      | some (depth', mode') => (mode'.registers (buffer.push c) depth', [])
      | none => ({ fresh := false }, [buffer.push c]) := by
  cases mode with
  | plain look => exact scanNormal_plain look (buffer.push c) depth c
  | quoted close escaped =>
    have hclose : close = '\'' ∨ close = '"' ∨ close = '\x60' := by
      simpa [Mode.Sound, isQuote, or_assoc] using hmode
    have hscan : ((Mode.quoted close escaped).registers buffer depth).scan c =
        (scanQuoted ((Mode.quoted close false).registers (buffer.push c) depth) c escaped close, []) := by
      rcases hclose with rfl | rfl | rfl <;> rfl
    rw [hscan, scanQuoted, Mode.next]
    split
    · rfl
    split
    · rfl
    split <;> rfl
  | lineComment =>
    show (if c == '\n' then (Mode.plain .nothing).registers (buffer.push c) depth
      else Mode.lineComment.registers (buffer.push c) depth, _) = _
    simp only [Mode.next]
    split <;> rfl
  | blockComment afterStar =>
    show (if afterStar && c == '/' then (Mode.plain .nothing).registers (buffer.push c) depth
      else (Mode.blockComment (c == '*')).registers (buffer.push c) depth, _) = _
    simp only [Mode.next]
    split <;> rfl

end Registers

namespace Accumulator

/-- Inside a line, the registers take in a character as the accumulator does. -/
theorem registers_scan {a : Accumulator} (ha : a.InLine) (c : Char) :
    a.registers.scan c = ((a.push c).1.registers, (a.push c).2) := by
  obtain ⟨buffer, stage⟩ := a
  obtain ⟨hsound, hline⟩ := ha
  cases stage with
  | blank fresh =>
    obtain rfl : fresh = false := by simpa using hline
    by_cases hblank : isBlank c
    · obtain ⟨hback, hslash, hstar, hquote, hcount⟩ := blank_special hblank 0
      simp [registers, push, Stage.next, Registers.scan, Registers.scanNormal, opened?_isSome, hblank,
        hback, hslash, hquote, hcount]
    by_cases hcommand : c = commandMark
    · subst hcommand
      rfl
    -- the first visible character of a query is read as plain text
    · have hmark : (c == commandMark) = false := beq_eq_false_iff_ne.2 hcommand
      have hscan : Registers.scan { buffer, fresh := false } c = Registers.scanNormal
          { buffer := buffer.push c, depth := 0, started := true, fresh := false } c false := by
        simp [Registers.scan, hblank, hmark]
      have hplain := Registers.scanNormal_plain .nothing (buffer.push c) 0 c
      have hnext : (Stage.blank false).next c =
          (Look.nothing.next 0 c).map fun next => .query next.1 next.2 := by
        simp [Stage.next, Mode.next, hblank, hmark]
      refine (hscan.trans hplain).trans ?_
      unfold push
      rw [hnext]
      cases Look.nothing.next 0 c <;> rfl
  | command => rfl
  | query depth mode =>
    have hscan := Registers.scan_query (hsound depth mode rfl) buffer depth c
    simp only [push, Stage.next]
    cases hnext : mode.next depth c with
    | none =>
      rw [hnext] at hscan
      exact hscan
    | some next =>
      rw [hnext] at hscan
      exact hscan

theorem InLine.push {a : Accumulator} (ha : a.InLine) (c : Char) : (a.push c).1.InLine := by
  refine ⟨ha.sound.push c, ?_⟩
  unfold Accumulator.push
  cases hnext : a.stage.next c with
  | none => simp
  | some stage =>
    rintro rfl
    cases hstage : a.stage with
    | blank fresh =>
      rw [hstage] at hnext
      simp only [Stage.next] at hnext
      split at hnext
      · cases hnext
        exact ha.joined hstage
      split at hnext
      · cases hnext
      · obtain ⟨_, -, heq⟩ := Option.map_eq_some_iff.1 hnext
        cases heq
    | command =>
      rw [hstage] at hnext
      cases hnext
    | query depth mode =>
      rw [hstage] at hnext
      obtain ⟨_, -, heq⟩ := Option.map_eq_some_iff.1 hnext
      cases heq

/-! ## Line by line -/

theorem registers_scanAll {a : Accumulator} (ha : a.InLine) (cs : List Char) :
    a.registers.scanAll cs = ((a.pushAll cs).1.registers, (a.pushAll cs).2) := by
  induction cs generalizing a with
  | nil => rfl
  | cons c cs ih =>
    simp only [Registers.scanAll, pushAll, registers_scan ha, ih (ha.push c)]

theorem InLine.pushAll {a : Accumulator} (ha : a.InLine) (cs : List Char) : (a.pushAll cs).1.InLine := by
  induction cs generalizing a with
  | nil => exact ha
  | cons c cs ih => exact ih (ha.push c)

theorem inLine_joinLine {a : Accumulator} (ha : a.Sound) : a.joinLine.1.InLine := by
  unfold joinLine
  split
  · exact ⟨sound_empty false, by simp⟩
  · rename_i hstage
    exact InLine.push ⟨ha, hstage⟩ '\n'

theorem registers_joinLine {a : Accumulator} (ha : a.Sound) :
    a.registers.joinLine = (a.joinLine.1.registers, a.joinLine.2) := by
  unfold Registers.joinLine
  rw [registers_fresh]
  by_cases hstage : a.stage = .blank true
  · simp [joinLine, registers, hstage]
  · have hline : a.InLine := ⟨ha, hstage⟩
    have hjoin : a.joinLine = a.push '\n' := by
      unfold joinLine
      split
      · contradiction
      · rfl
    have hfresh : { (a.push '\n').1.registers with fresh := false } = (a.push '\n').1.registers := by
      rw [← decide_eq_false (hline.push '\n').joined, ← registers_fresh]
    simp [hstage, registers_scan hline, hjoin, hfresh]

theorem registers_endLine (a : Accumulator) :
    a.registers.endLine = (a.endLine.1.registers, a.endLine.2) := by
  unfold Registers.endLine
  rw [registers_command]
  by_cases hstage : a.stage = .command
  · have hend : a.endLine = (empty, [a.buffer]) := by
      unfold endLine
      rw [hstage]
    have hempty : empty.registers = {} := rfl
    simp [hstage, hend, hempty, Registers.takeStatement, registers_buffer]
  · have hend : a.endLine = (a, []) := by
      unfold endLine
      split
      · contradiction
      · rfl
    simp [hstage, hend]

theorem Sound.endLine {a : Accumulator} (ha : a.Sound) : a.endLine.1.Sound := by
  unfold Accumulator.endLine
  split
  · exact sound_empty true
  · exact ha

theorem registers_feedLine {a : Accumulator} (ha : a.Sound) (line : String) :
    a.registers.feedLine line = ((a.feedLine line).1.registers, (a.feedLine line).2) := by
  have hline := inLine_joinLine ha
  unfold Registers.feedLine feedLine
  rw [registers_started]
  split
  · rfl
  · simp only [registers_joinLine ha, registers_scanAll hline, registers_endLine]

theorem Sound.feedLine {a : Accumulator} (ha : a.Sound) (line : String) : (a.feedLine line).1.Sound := by
  unfold Accumulator.feedLine
  split
  · exact sound_empty true
  · exact ((inLine_joinLine ha).pushAll line.toList).sound.endLine

theorem registers_feedLines {a : Accumulator} (ha : a.Sound) (lines : List String) :
    a.registers.feedLines lines = ((a.feedLines lines).1.registers, (a.feedLines lines).2) := by
  induction lines generalizing a with
  | nil => rfl
  | cons line lines ih =>
    simp only [Registers.feedLines, feedLines, registers_feedLine ha, ih (ha.feedLine line)]

theorem Sound.feedLines {a : Accumulator} (ha : a.Sound) (lines : List String) :
    (a.feedLines lines).1.Sound := by
  induction lines generalizing a with
  | nil => exact ha
  | cons line lines ih => exact ih (ha.feedLine line)

/-- The registers take in texts as the accumulator does. -/
theorem registers_feedTexts {a : Accumulator} (ha : a.Sound) (texts : List String) :
    a.registers.feedTexts texts = ((a.feedTexts texts).1.registers, (a.feedTexts texts).2) := by
  induction texts generalizing a with
  | nil => rfl
  | cons text texts ih =>
    have hfeed : a.registers.feed text = ((a.feed text).1.registers, (a.feed text).2) := by
      unfold Registers.feed feed
      split
      · exact registers_feedLine ha ""
      · exact registers_feedLines ha _
    have hsound : (a.feed text).1.Sound := by
      rw [feed_eq_feedLines]
      exact ha.feedLines _
    simp only [Registers.feedTexts, feedTexts, hfeed, ih hsound]

end Accumulator

end QueryShell.Statement
