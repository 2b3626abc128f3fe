import QueryShell.Proofs.Statement.Registers

/-
Nothing leaks from one statement into the next. Two resets set the registers in slightly different ways,
and a quote, a bracket or a slash that is left over would be read into the statement behind it.
`Orderly` is what holds of the registers after every character; so once there is no visible text left,
all that is fed then is read as if nothing had been fed before (`forgetful`). Only blank text in front of
the next statement may be left.
-/
namespace QueryShell.Statement

open Text

/-! ## What keeps the registers together -/

/-- What holds of the registers at any time. -/
structure Orderly (r : Registers) : Prop where
  started : r.started = true ↔ ∃ c ∈ r.buffer.toList, ¬ isBlank c
  /-- Before a statement has started, all registers but these two are off. -/
  idle : r.started = false → r = { buffer := r.buffer, fresh := r.fresh }
  slash : r.afterSlash = true → r.mode = .normal
  star : r.afterStar = true → r.mode = .blockComment
  escape : r.escaped = true → r.mode ≠ .lineComment ∧ r.mode ≠ .blockComment

theorem opened?_ne_comment (c : Char) :
    (LexMode.opened? c).getD .normal ≠ .lineComment ∧
      (LexMode.opened? c).getD .normal ≠ .blockComment := by
  unfold LexMode.opened?
  split <;> exact ⟨nofun, nofun⟩

namespace Accumulator

/-- The registers are in order, whatever the mode is. -/
theorem registers_orderly {a : Accumulator} (h : a.Shows) : Orderly a.registers := by
  have hstarted : a.registers.started = true ↔ ∃ c ∈ a.registers.buffer.toList, ¬ isBlank c := by
    rw [registers_started, registers_buffer, h]
    simp [allBlank]
  obtain ⟨buffer, stage⟩ := a
  refine ⟨hstarted, ?_, ?_, ?_, ?_⟩
  all_goals
    cases stage with
    | blank fresh => simp [registers]
    | command => simp [registers]
    | query depth mode => cases mode <;> simp [registers, Mode.registers, opened?_ne_comment]

/-- Behind a line there is no command. -/
theorem feedLine_ne_command (a : Accumulator) (line : String) : (a.feedLine line).1.stage ≠ .command := by
  unfold feedLine
  split
  · simp [empty]
  · show (endLine _).1.stage ≠ .command
    unfold endLine
    split
    · simp [empty]
    · rename_i hstage
      exact hstage

theorem feedLines_ne_command {a : Accumulator} (ha : a.stage ≠ .command) (lines : List String) :
    (a.feedLines lines).1.stage ≠ .command := by
  induction lines generalizing a with
  | nil => exact ha
  | cons line lines ih => exact ih (feedLine_ne_command a line)

end Accumulator

/-! ## The same but for blank text -/

/-- The results are the same, but for blank text in front of the first statement; without a statement,
what is left of the one is as good as what is left of the other. -/
inductive SameBut (left : Accumulator → Accumulator → Prop) :
    Accumulator × List String → Accumulator × List String → Prop where
  | pending {a b : Accumulator} : left a b → SameBut left (a, []) (b, [])
  | emitted {a : Accumulator} {gap : List Char} {statement statement' : String} {rest : List String} :
      Blank gap → statement'.toList = gap ++ statement.toList →
      SameBut left (a, statement' :: rest) (a, statement :: rest)

/-- The same text is left, with blank text in front. -/
structure Fronted (a b : Accumulator) : Prop where
  pending : a.hasPendingText = b.hasPendingText
  front : ∃ gap, Blank gap ∧ a.buffer.toList = gap ++ b.buffer.toList

/-- And it is read on in the same way. -/
structure Abreast (a b : Accumulator) : Prop extends Fronted a b where
  stage : a.stage = b.stage

namespace SameBut

theorem mono {left left' : Accumulator → Accumulator → Prop} (hmono : ∀ a b, left a b → left' a b)
    {x y : Accumulator × List String} (h : SameBut left x y) : SameBut left' x y := by
  cases h with
  | pending hleft => exact .pending (hmono _ _ hleft)
  | emitted hgap heq => exact .emitted hgap heq

/-- One step more. Behind a statement both go on from the same place. -/
theorem andThen {x y : Accumulator × List String} (h : SameBut Abreast x y)
    {f : Accumulator → Accumulator × List String}
    (hf : ∀ a b, Abreast a b → SameBut Abreast (f a) (f b)) :
    SameBut Abreast ((f x.1).1, x.2 ++ (f x.1).2) ((f y.1).1, y.2 ++ (f y.1).2) := by
  cases h with
  | pending hleft => exact hf _ _ hleft
  | emitted hgap heq => exact .emitted hgap heq

end SameBut

namespace Abreast

variable {a b : Accumulator}

theorem of_stage (hstage : a.stage = b.stage)
    (hfront : ∃ gap, Blank gap ∧ a.buffer.toList = gap ++ b.buffer.toList) : Abreast a b := by
  refine ⟨⟨?_, hfront⟩, hstage⟩
  unfold Accumulator.hasPendingText
  rw [hstage]

theorem refl (a : Accumulator) : Abreast a a :=
  ⟨⟨rfl, [], List.forall_mem_nil _, rfl⟩, rfl⟩

theorem push (h : Abreast a b) (c : Char) : SameBut Abreast (a.push c) (b.push c) := by
  obtain ⟨gap, hgap, hbuffer⟩ := h.front
  have hpushed : (a.buffer.push c).toList = gap ++ (b.buffer.push c).toList := by
    rw [String.toList_push, String.toList_push, hbuffer, List.append_assoc]
  unfold Accumulator.push
  rw [h.stage]
  cases b.stage.next c with
  | none => exact .emitted hgap hpushed
  | some stage => exact .pending (of_stage rfl ⟨gap, hgap, hpushed⟩)

theorem pushAll (h : Abreast a b) (cs : List Char) : SameBut Abreast (a.pushAll cs) (b.pushAll cs) := by
  induction cs generalizing a b with
  | nil => exact .pending h
  | cons c cs ih => exact (h.push c).andThen fun _ _ h => ih h

theorem joinLine (h : Abreast a b) : SameBut Abreast a.joinLine b.joinLine := by
  unfold Accumulator.joinLine
  rw [h.stage]
  split
  · exact .pending (of_stage rfl h.front)
  · exact h.push '\n'

theorem endLine (h : Abreast a b) : SameBut Abreast a.endLine b.endLine := by
  obtain ⟨gap, hgap, hbuffer⟩ := h.front
  unfold Accumulator.endLine
  rw [h.stage]
  split
  · exact .emitted hgap hbuffer
  · exact .pending h

end Abreast

namespace Accumulator

variable {a b : Accumulator}

/-- A line goes on from where it was joined. -/
theorem sameBut_feedLine (hpending : a.hasPendingText = b.hasPendingText)
    (hjoin : SameBut Abreast a.joinLine b.joinLine) (line : String) :
    SameBut Abreast (a.feedLine line) (b.feedLine line) := by
  unfold feedLine
  rw [hpending]
  split
  · exact .pending (.refl empty)
  · have hpushed := hjoin.andThen fun _ _ h => h.pushAll line.toList
    exact hpushed.andThen fun _ _ h => h.endLine

theorem sameBut_feedLines (h : Abreast a b) (lines : List String) :
    SameBut Abreast (a.feedLines lines) (b.feedLines lines) := by
  induction lines generalizing a b with
  | nil => exact .pending h
  | cons line lines ih =>
    have hline := sameBut_feedLine h.pending h.joinLine line
    exact hline.andThen fun _ _ h => ih h

/-- What is left of blank text is joined as if it were not there. -/
theorem sameBut_joinLine_empty (hpending : a.hasPendingText = false) (hshows : a.Shows) :
    SameBut Abreast a.joinLine empty.joinLine := by
  have hblank : Blank a.buffer.toList := by
    rw [Shows, hpending] at hshows
    simpa [allBlank, Blank] using hshows
  obtain ⟨buffer, stage⟩ := a
  cases stage with
  | command => cases hpending
  | query depth mode => cases hpending
  | blank fresh =>
    cases fresh with
    | true =>
      have hleft : Abreast { buffer, stage := .blank false } { stage := .blank false } :=
        .of_stage rfl ⟨buffer.toList, hblank, (List.append_nil _).symm⟩
      exact .pending hleft
    -- behind a statement, unlike at first, the next line is joined to what is left
    | false =>
      have hfeed : Blank ['\n'] := fun c hc => List.mem_singleton.1 hc ▸ rfl
      have hleft : Abreast { buffer := buffer.push '\n', stage := .blank false }
          { stage := .blank false } :=
        .of_stage rfl ⟨buffer.toList ++ ['\n'], hblank.append hfeed, by simp⟩
      exact .pending hleft

/-- Lines that come behind blank text are read as if they came first. -/
theorem sameBut_feedLines_empty (hpending : a.hasPendingText = false) (hshows : a.Shows)
    (lines : List String) : SameBut Fronted (a.feedLines lines) (empty.feedLines lines) := by
  cases lines with
  | nil =>
    have hblank : Blank a.buffer.toList := by
      rw [Shows, hpending] at hshows
      simpa [allBlank, Blank] using hshows
    exact .pending ⟨hpending, a.buffer.toList, hblank, (List.append_nil _).symm⟩
  | cons line lines =>
    have hline := sameBut_feedLine hpending (sameBut_joinLine_empty hpending hshows) line
    exact (hline.andThen fun _ _ h => sameBut_feedLines h lines).mono fun _ _ h => h.toFronted

/-! ## Whole sequences of texts -/

/-- What a sequence of texts leaves behind for what is fed next. -/
structure Forgetful (texts : List String) : Prop where
  /-- The registers are those of the accumulator. -/
  registers : Registers.feedTexts {} texts =
    ((empty.feedTexts texts).1.registers, (empty.feedTexts texts).2)
  between : Orderly (Registers.feedTexts {} texts).1 ∧
    (Registers.feedTexts {} texts).1.command = false
  /-- Inside the next line, behind each of its characters. -/
  within : ∀ cs, Orderly ((Registers.feedTexts {} texts).1.joinLine.1.scanAll cs).1
  /-- If there is no visible text left, what is fed next is read as if it came first. -/
  alone : (empty.feedTexts texts).1.hasPendingText = false → ∀ next,
    SameBut Fronted ((empty.feedTexts texts).1.feedTexts next) (empty.feedTexts next)

theorem forgetful (texts : List String) : Forgetful texts := by
  have hsound : (empty.feedTexts texts).1.Sound := by
    rw [feedTexts_eq_feedLines]
    exact (sound_empty true).feedLines _
  have hshows : (empty.feedTexts texts).1.Shows := by
    rw [feedTexts_eq_feedLines]
    exact (shows_empty true).feedLines _
  have hregisters : Registers.feedTexts {} texts =
      ((empty.feedTexts texts).1.registers, (empty.feedTexts texts).2) :=
    registers_feedTexts (sound_empty true) texts
  refine ⟨hregisters, ?_, fun cs => ?_, fun hpending next => ?_⟩
  · rw [hregisters]
    refine ⟨registers_orderly hshows, ?_⟩
    rw [registers_command, feedTexts_eq_feedLines]
    exact decide_eq_false (feedLines_ne_command (by decide) _)
  · rw [hregisters, registers_joinLine hsound, registers_scanAll (inLine_joinLine hsound)]
    exact registers_orderly (hshows.joinLine.pushAll cs)
  · rw [feedTexts_eq_feedLines _ next, feedTexts_eq_feedLines empty next]
    exact sameBut_feedLines_empty hpending hshows _

/-- Blank text behind a query is all that shows in the next one. -/
theorem forgetful_behindQuery :
    let texts := ["RETURN '(' /* [ ; */; \t"]
    let next := ["* /", "; RETURN 2"]
    (empty.feedTexts texts).1 = { buffer := " \t", stage := .blank false } ∧
      ((empty.feedTexts texts).1.feedTexts next).2 = [" \t\n* /\n;"] ∧
      (empty.feedTexts next).2 = ["* /\n;"] ∧ Forgetful texts ∧
      SameBut Fronted ((empty.feedTexts texts).1.feedTexts next) (empty.feedTexts next) := by
  intro texts next
  have hforgetful := forgetful texts
  exact ⟨by decide +kernel, by decide +kernel, by decide +kernel, hforgetful,
    hforgetful.alone (by decide +kernel) next⟩

end Accumulator

end QueryShell.Statement
