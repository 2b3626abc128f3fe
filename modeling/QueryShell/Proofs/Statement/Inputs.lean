import QueryShell.Proofs.Statement.Entries
import QueryShell.Proofs.Statement.Feeding

/-
What comes of everything that is typed at a prompt: lines, and now and then the user gives up the
text so far. `completed` says it for each stretch of lines by itself; one accumulator that is
emptied in between (`feedTyped`) completes the same statements, and each of them becomes an entry.
-/
namespace QueryShell.Statement

open Text

/-- What the user does at a prompt. -/
inductive Typed where
  /-- Types text and ends it with a line end. -/
  | line (text : String)
  /-- Gives up what has been typed without completing a statement. -/
  | giveUp
deriving DecidableEq, Repr

/-- The texts typed from one moment at which something was given up to the next. -/
def segments : List Typed → List (List String)
  | [] => [[]]
  | .line text :: rest => (segments rest).modifyHead (text :: ·)
  | .giveUp :: rest => [] :: segments rest

/-- The statements that are completed by what is typed. -/
def completed (typed : List Typed) : List String :=
  (segments typed).flatMap fun texts => (Accumulator.empty.feedTexts texts).2

theorem exists_segments (typed : List Typed) :
    ∃ texts more, segments typed = texts :: more := by
  induction typed with
  | nil => exact ⟨[], [], rfl⟩
  | cons t typed ih =>
    obtain ⟨texts, more, h⟩ := ih
    cases t with
    | line text => exact ⟨text :: texts, more, by simp [segments, h]⟩
    | giveUp => exact ⟨[], texts :: more, by simp [segments, h]⟩

namespace Accumulator

/-- Takes in what is typed, one thing after the other. -/
def feedTyped : Accumulator → List Typed → Accumulator × List String
  | a, [] => (a, [])
  | a, .line text :: rest =>
    let (a, out) := a.feed text
    let (a, outs) := a.feedTyped rest
    (a, out ++ outs)
  | _, .giveUp :: rest => empty.feedTyped rest

/-- Only the first stretch depends on what the accumulator holds. -/
theorem feedTyped_eq_segments (a : Accumulator) (typed : List Typed) {texts : List String}
    {more : List (List String)} (h : segments typed = texts :: more) :
    (a.feedTyped typed).2 =
      (a.feedTexts texts).2 ++ more.flatMap fun texts => (empty.feedTexts texts).2 := by
  induction typed generalizing a texts more with
  | nil =>
    obtain ⟨rfl, rfl⟩ := List.cons.inj h
    rfl
  | cons t typed ih =>
    obtain ⟨texts', more', h'⟩ := exists_segments typed
    cases t with
    | line text =>
      rw [segments, h', List.modifyHead_cons] at h
      obtain ⟨rfl, rfl⟩ := List.cons.inj h
      simp [feedTyped, feedTexts, ih _ h']
    | giveUp =>
      rw [segments, h'] at h
      obtain ⟨rfl, rfl⟩ := List.cons.inj h
      simp [feedTyped, feedTexts, ih _ h']

theorem feedTyped_completed (typed : List Typed) : (empty.feedTyped typed).2 = completed typed := by
  obtain ⟨texts, more, h⟩ := exists_segments typed
  rw [feedTyped_eq_segments empty typed h, completed, h, List.flatMap_cons]

theorem feedTyped_append (a : Accumulator) (front back : List Typed) :
    a.feedTyped (front ++ back) =
      (((a.feedTyped front).1.feedTyped back).1,
        (a.feedTyped front).2 ++ ((a.feedTyped front).1.feedTyped back).2) := by
  induction front generalizing a with
  | nil => rfl
  | cons t front ih => cases t <;> simp [feedTyped, ih]

/-- The first input completes its statements before the others. -/
theorem feedTyped_cons (a : Accumulator) (t : Typed) (rest : List Typed) :
    (a.feedTyped (t :: rest)).2 =
      (a.feedTyped [t]).2 ++ ((a.feedTyped [t]).1.feedTyped rest).2 := by
  rw [← List.singleton_append, feedTyped_append]

end Accumulator

/-- All completed statements become entries. -/
theorem completed_isEntry (typed : List Typed) :
    ∀ s ∈ completed typed, IsEntry (trimChars s.toList) := by
  intro s hs
  obtain ⟨texts, -, hs⟩ := List.mem_flatMap.1 hs
  have hreport := congrArg Prod.fst (Accumulator.report_feedTexts texts)
  rw [show (Accumulator.empty.feedTexts texts).2 = _ from hreport] at hs
  exact split_isEntry true (Accumulator.joinedTexts texts) s hs

/-- Behind its statements a stretch of text has what was given up or left over, and the statements
hold nothing of it. -/
theorem feedTexts_covered (texts : List String) : ∃ gaps, Covers (Accumulator.joinedTexts texts)
    ((Accumulator.empty.feedTexts texts).2, (Accumulator.empty.feedTexts texts).1.buffer) gaps := by
  obtain ⟨gaps, hcovers⟩ := split_covers true (Accumulator.joinedTexts texts)
  rw [← Accumulator.report_feedTexts] at hcovers
  exact ⟨gaps, hcovers⟩

end QueryShell.Statement
