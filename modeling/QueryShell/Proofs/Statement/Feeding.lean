import QueryShell.Proofs.Statement.Covering
import QueryShell.Proofs.Statement.Splitting

/-
What becomes of the texts that are fed to the accumulator. However they are cut into texts and
lines, the statements are those of the joined text, and no visible character is lost, doubled or
moved.
-/
namespace QueryShell.Statement

open Text

/-! ## Physical lines -/

theorem dropReturn_sublist (line : List Char) : List.Sublist (dropReturn line) line := by
  unfold dropReturn
  split
  · exact List.sublist_cons_self _ _
  · exact List.Sublist.refl _

theorem not_mem_linesFrom {line : List Char} (h : '\n' ∉ line) (text : List Char) :
    ∀ l ∈ linesFrom line text, '\n' ∉ l := by
  fun_induction linesFrom line text with
  | case1 line hline => simp
  | case2 line hline =>
    intro l hl
    rw [List.mem_singleton.1 hl]
    simpa using h
  | case3 line rest ih =>
    intro l hl
    rcases List.mem_cons.1 hl with rfl | hl
    · exact fun hmem => h ((dropReturn_sublist line).subset (List.mem_reverse.1 hmem))
    · exact ih (List.not_mem_nil) l hl
  | case4 line c rest hc ih =>
    have hline : '\n' ∉ c :: line := by
      intro hmem
      rcases List.mem_cons.1 hmem with heq | hmem
      · exact hc heq.symm
      · exact h hmem
    exact ih hline

theorem linesFrom_of_not_mem {text : List Char} (h : '\n' ∉ text) {line : List Char}
    (hne : line ++ text ≠ []) : linesFrom line text = [line.reverse ++ text] := by
  induction text generalizing line with
  | nil =>
    rw [List.append_nil] at hne
    simp [linesFrom, hne]
  | cons c text ih =>
    have hc : c ≠ '\n' := fun heq => h (heq ▸ List.mem_cons_self)
    have hlines : linesFrom line (c :: text) = linesFrom (c :: line) text := by
      simp [linesFrom]
    rw [hlines, ih (fun hmem => h (List.mem_cons_of_mem _ hmem)) (by simp)]
    simp

namespace Accumulator

/-- The physical lines that a text counts as; the empty text is one empty line. -/
def physicalLines (text : String) : List String :=
  if text.isEmpty then [""] else lines text

theorem not_mem_physicalLines (text : String) : ∀ l ∈ physicalLines text, '\n' ∉ l.toList := by
  intro l hl
  unfold physicalLines at hl
  split at hl
  · rw [List.mem_singleton.1 hl]
    exact List.not_mem_nil
  · obtain ⟨cs, hcs, rfl⟩ := List.mem_map.1 hl
    rw [String.toList_ofList]
    exact not_mem_linesFrom (List.not_mem_nil) text.toList cs hcs

/-- A line is one physical line, so lines can be fed one by one. -/
theorem physicalLines_of_not_mem {line : String} (h : '\n' ∉ line.toList) :
    physicalLines line = [line] := by
  unfold physicalLines
  split
  · rename_i hempty
    rw [String.isEmpty_iff.1 hempty]
  · rename_i hempty
    have hne : [] ++ line.toList ≠ [] := fun heq =>
      hempty (String.isEmpty_iff.2 (String.toList_inj.1 heq))
    rw [lines, linesFrom_of_not_mem h hne]
    simp

/-! ## Texts -/

/-- Takes in texts one after the other. -/
def feedTexts : Accumulator → List String → Accumulator × List String
  | a, [] => (a, [])
  | a, text :: rest =>
    let (a, out) := a.feed text
    let (a, outs) := a.feedTexts rest
    (a, out ++ outs)

theorem feedLines_append (a : Accumulator) (front back : List String) :
    a.feedLines (front ++ back) =
      (((a.feedLines front).1.feedLines back).1,
        (a.feedLines front).2 ++ ((a.feedLines front).1.feedLines back).2) := by
  induction front generalizing a with
  | nil => rfl
  | cons line front ih => simp [feedLines, ih]

theorem feed_eq_feedLines (a : Accumulator) (text : String) :
    a.feed text = a.feedLines (physicalLines text) := by
  unfold feed physicalLines
  split
  · simp [feedLines]
  · rfl

/-- Feeding texts is feeding their physical lines. -/
theorem feedTexts_eq_feedLines (a : Accumulator) (texts : List String) :
    a.feedTexts texts = a.feedLines (texts.flatMap physicalLines) := by
  induction texts generalizing a with
  | nil => rfl
  | cons text texts ih =>
    rw [List.flatMap_cons, feedLines_append, ← feed_eq_feedLines, ← ih]
    rfl

/-- The text that the physical lines of all texts make. -/
def joinedTexts (texts : List String) : List Char :=
  joined (texts.flatMap physicalLines)

theorem report_feedTexts (texts : List String) :
    report (feedTexts empty texts) = split true (joinedTexts texts) := by
  have hlines : ∀ l ∈ texts.flatMap physicalLines, '\n' ∉ l.toList := by
    intro l hl
    obtain ⟨text, -, hmem⟩ := List.mem_flatMap.1 hl
    exact not_mem_physicalLines text l hmem
  rw [feedTexts_eq_feedLines, feedLines_eq_split hlines]
  rfl

/-- The statements and the text left over are those that the grammar cuts the joined text into. -/
theorem feedTexts_split (texts : List String) :
    (feedTexts empty texts).2 = (split true (joinedTexts texts)).1 ∧
      (feedTexts empty texts).1.buffer = (split true (joinedTexts texts)).2 := by
  have hreport := report_feedTexts texts
  exact ⟨congrArg Prod.fst hreport, congrArg Prod.snd hreport⟩

/-- Nothing but blank text is lost, doubled or moved: the statements, in their order, and the text
left over stand in the joined text with blank gaps in front of each. So every statement is one piece
of what was fed, and all visible characters are still there. -/
theorem feedTexts_covers (texts : List String) :
    (∃ gaps : List (List Char), gaps.length = (feedTexts empty texts).2.length + 1 ∧
      (∀ gap ∈ gaps, Blank gap) ∧
      joinedTexts texts = interleave gaps ((feedTexts empty texts).2.map String.toList) ++
        (feedTexts empty texts).1.buffer.toList) ∧
    (∀ statement ∈ (feedTexts empty texts).2, statement.toList <:+: joinedTexts texts) ∧
    visibleChars (((feedTexts empty texts).2.map String.toList).flatten ++
      (feedTexts empty texts).1.buffer.toList) = visibleChars (joinedTexts texts) := by
  obtain ⟨gaps, hcovers⟩ := split_covers true (joinedTexts texts)
  rw [← report_feedTexts] at hcovers
  exact ⟨⟨gaps, hcovers⟩, fun _ hs => hcovers.infix hs, hcovers.visibleChars_eq.symm⟩

end Accumulator

end QueryShell.Statement
