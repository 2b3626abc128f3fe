import QueryShell.Files.Streams
import QueryShell.Proofs.Files.Storage
import QueryShell.Proofs.Statement.Feeding
import Mathlib.Data.List.Basic
import Mathlib.Data.List.TakeDrop
import Mathlib.Data.List.TakeWhile

/-
Reading line by line, and taking in a text at once. There are two ways in which a text is cut into
lines: one takes lines off the bytes of a stream, the other one cuts a text that is there as a whole.
They agree on carriage returns, empty lines and a last line without an end, so that the statements of a
text do not depend on how it is read (`readsToEnd_feed`). Only of an empty text is nothing read, while
it counts as an empty line when it is taken in.
-/
namespace QueryShell

/-! ## Lines in bytes -/

namespace Text

/-- The bytes of characters. -/
def bytesOf (cs : List Char) : List UInt8 :=
  (Utf8.encode cs).map UInt8.ofNat

theorem bytesOf_append (front back : List Char) :
    bytesOf (front ++ back) = bytesOf front ++ bytesOf back := by
  simp [bytesOf, Utf8.encode]

theorem text?_bytesOf (cs : List Char) : Utf8.text? (bytesOf cs) = some cs := by
  have htext := Utf8.text?_bytes (String.ofList cs)
  rw [String.toList_ofList] at htext
  rw [← htext]
  unfold Utf8.bytes
  rw [String.toList_ofList]
  rfl

/-- The bytes of other characters end no line. -/
theorem ne_lineFeed_of_mem {c : Char} (hc : c ≠ '\n') {n : Nat} (hn : n ∈ Utf8.encodeChar c) :
    UInt8.ofNat n ≠ lineFeed := by
  intro heq
  have hten : n % 256 = 10 := congrArg UInt8.toNat heq
  have hcode : c.toNat ≠ 10 := fun h => hc (Char.toNat_inj.1 h)
  have hvalid : c.toNat < 0x110000 := by
    have hsize : c.toNat < 0xd800 ∨ 0xdfff < c.toNat ∧ c.toNat < 0x110000 := c.valid
    omega
  unfold Utf8.encodeChar at hn
  generalize c.toNat = code at hn hcode hvalid
  dsimp only at hn
  split_ifs at hn <;> simp only [List.mem_cons, List.not_mem_nil, or_false] at hn <;> omega

theorem ne_lineFeed_of_not_mem {cs : List Char} (h : '\n' ∉ cs) : ∀ b ∈ bytesOf cs, b ≠ lineFeed := by
  intro b hb
  obtain ⟨n, hn, rfl⟩ := List.mem_map.1 hb
  obtain ⟨c, hc, hn⟩ := List.mem_flatMap.1 hn
  exact ne_lineFeed_of_mem (fun heq => h (heq ▸ hc)) hn

/-- A text is cut where its first line ends. -/
theorem span_ended {α : Type} {p : α → Bool} {front : List α} {a : α} (h : ∀ b ∈ front, p b = true)
    (ha : p a = false) (back : List α) : (front ++ a :: back).span p = (front, a :: back) := by
  rw [List.span_eq_takeWhile_dropWhile, List.takeWhile_append_of_pos h, List.dropWhile_append_of_pos h,
    List.takeWhile_cons_of_neg (by simp [ha]), List.dropWhile_cons_of_neg (by simp [ha]),
    List.append_nil]

theorem span_unended {α : Type} {p : α → Bool} {line : List α} (h : ∀ b ∈ line, p b = true) :
    line.span p = (line, []) := by
  rw [List.span_eq_takeWhile_dropWhile, List.takeWhile_eq_self_iff.2 h, List.dropWhile_eq_nil_iff.2 h]

/-- A line is cut off with its end. -/
theorem cutLineBytes_ended {front : List Char} (h : '\n' ∉ front) (back : List Char) :
    cutLineBytes (bytesOf (front ++ '\n' :: back)) = (bytesOf (front ++ ['\n']), bytesOf back) := by
  have hspan : (bytesOf front ++ lineFeed :: bytesOf back).span (· != lineFeed) =
      (bytesOf front, lineFeed :: bytesOf back) :=
    span_ended (fun b hb => bne_iff_ne.2 (ne_lineFeed_of_not_mem h b hb)) rfl _
  have hfeed : bytesOf ('\n' :: back) = lineFeed :: bytesOf back := rfl
  unfold cutLineBytes
  rw [bytesOf_append, hfeed, hspan, bytesOf_append]
  rfl

/-- A last line without an end is all there is. -/
theorem cutLineBytes_last {line : List Char} (h : '\n' ∉ line) :
    cutLineBytes (bytesOf line) = (bytesOf line, []) := by
  unfold cutLineBytes
  rw [span_unended fun b hb => bne_iff_ne.2 (ne_lineFeed_of_not_mem h b hb)]

theorem bytesOf_ne_nil {cs : List Char} (h : cs ≠ []) : (bytesOf cs).isEmpty = false := by
  cases hbytes : bytesOf cs with
  | cons b bs => rfl
  | nil =>
    have htext := text?_bytesOf cs
    rw [hbytes] at htext
    exact absurd (Option.some.inj htext).symm h

/-! ## The first line of a text -/

theorem readLine_ended {front : List Char} (h : '\n' ∉ front) :
    readLine (front ++ ['\n']) = some ((dropReturn front.reverse).reverse, []) := by
  have hfront : ∀ c ∈ front, decide (c ≠ '\n') = true := fun c hc =>
    decide_eq_true (ne_of_mem_of_not_mem hc h)
  have hspan : (front ++ ['\n']).span (· ≠ '\n') = (front, ['\n']) := span_ended hfront rfl []
  unfold readLine
  split
  · rename_i hnil
    exact absurd hnil (by simp)
  · rw [hspan]

theorem readLine_last {line : List Char} (h : '\n' ∉ line) (hne : line ≠ []) :
    readLine line = some (line, []) := by
  have hspan : line.span (· ≠ '\n') = (line, []) :=
    span_unended fun c hc => decide_eq_true (ne_of_mem_of_not_mem hc h)
  unfold readLine
  split
  · exact absurd rfl hne
  · rw [hspan]

/-- Physical lines are those before the first line feed, and those behind it. -/
theorem linesFrom_ended {front : List Char} (h : '\n' ∉ front) (line back : List Char) :
    linesFrom line (front ++ '\n' :: back) =
      (dropReturn (front.reverse ++ line)).reverse :: linesFrom [] back := by
  induction front generalizing line with
  | nil => rfl
  | cons c front ih =>
    have hc : c ≠ '\n' := fun heq => h (heq ▸ List.mem_cons_self)
    have hstep : linesFrom line (c :: (front ++ '\n' :: back)) =
        linesFrom (c :: line) (front ++ '\n' :: back) := by
      simp [linesFrom]
    rw [List.cons_append, hstep, ih fun hmem => h (List.mem_cons_of_mem _ hmem)]
    simp

/-- The line that is read off the bytes of a text is its first physical line. -/
theorem readLineBytes_bytesOf {cs : List Char} (hne : cs ≠ []) :
    ∃ line rest, readLineBytes (bytesOf cs) = some (some line, bytesOf rest) ∧
      linesFrom [] cs = line :: linesFrom [] rest ∧ rest.length < cs.length := by
  unfold readLineBytes
  rw [bytesOf_ne_nil hne]
  -- the first line has an end, or it is the last one
  by_cases hfeed : '\n' ∈ cs
  · obtain ⟨front, back, rfl, hfront⟩ := List.eq_append_cons_of_mem hfeed
    refine ⟨(dropReturn front.reverse).reverse, back, ?_, ?_, by simp; omega⟩
    · simp [cutLineBytes_ended hfront, text?_bytesOf, readLine_ended hfront]
    · rw [linesFrom_ended hfront, List.append_nil]
  · refine ⟨cs, [], ?_, ?_, List.length_pos_iff.2 hne⟩
    · simp [cutLineBytes_last hfeed, text?_bytesOf, readLine_last hfeed hne]
      rfl
    · rw [Statement.linesFrom_of_not_mem hfeed (by simpa using hne)]
      rfl

end Text

/-! ## Reading to the end -/

namespace Streams

/-- Lines that are read one after the other until nothing is left to read. -/
inductive ReadsToEnd : Streams → List String → Streams → Prop where
  | nothing {s s' : Streams} : s.readLine = (.ok .endOfInput, s') → ReadsToEnd s [] s'
  | line {s t s' : Streams} {line : String} {rest : List String} :
      s.readLine = (.ok (.line line), t) → ReadsToEnd t rest s' → ReadsToEnd s (line :: rest) s'

theorem ReadsToEnd.unique {s s' t' : Streams} {lines lines' : List String} (h : ReadsToEnd s lines s')
    (h' : ReadsToEnd s lines' t') : lines' = lines ∧ t' = s' := by
  induction h generalizing lines' with
  | nothing hread =>
    cases h' with
    | nothing hread' => exact ⟨rfl, congrArg Prod.snd (hread'.symm.trans hread)⟩
    | line hread' => cases congrArg Prod.fst (hread'.symm.trans hread)
  | line hread _ ih =>
    cases h' with
    | nothing hread' => cases congrArg Prod.fst (hread'.symm.trans hread)
    | line hread' hrest' =>
      cases hread'.symm.trans hread
      obtain ⟨rfl, rfl⟩ := ih hrest'
      exact ⟨rfl, rfl⟩

/-- What is read are the physical lines. -/
theorem readsToEnd_bytesOf (s : Streams) (cs : List Char) :
    ReadsToEnd { s with input := Text.bytesOf cs, unreadable? := none }
      ((Text.linesFrom [] cs).map String.ofList) { s with input := [], unreadable? := none } := by
  -- each line takes something off the text
  induction hlength : cs.length using Nat.strong_induction_on generalizing cs with
  | _ length ih =>
    by_cases hne : cs = []
    · subst hne
      exact .nothing rfl
    · obtain ⟨line, rest, hread, hlines, hless⟩ := Text.readLineBytes_bytesOf hne
      rw [hlines, List.map_cons]
      refine .line ?_ (ih rest.length (hlength ▸ hless) rest rfl)
      unfold readLine
      simp only [hread]

end Streams

open Statement

/-- A text that is read line by line leads to the same statements and to the same accumulator as when it
is taken in at once, whatever was read before. -/
theorem readsToEnd_feed (a : Accumulator) (s : Streams) {text : String} (hne : text ≠ "") :
    (∃ lines s', Streams.ReadsToEnd { s with input := Text.Utf8.bytes text, unreadable? := none }
      lines s') ∧
    ∀ lines s', Streams.ReadsToEnd { s with input := Text.Utf8.bytes text, unreadable? := none }
      lines s' → a.feedTexts lines = a.feed text := by
  have hread := Streams.readsToEnd_bytesOf s text.toList
  refine ⟨⟨_, _, hread⟩, fun lines s' h => ?_⟩
  obtain ⟨rfl, -⟩ := hread.unique h
  have hlines : Accumulator.physicalLines text = Text.lines text := by
    unfold Accumulator.physicalLines
    rw [if_neg (by simpa using hne)]
  have heach : ∀ l ∈ Text.lines text, Accumulator.physicalLines l = [l] := fun l hl =>
    Accumulator.physicalLines_of_not_mem (Accumulator.not_mem_physicalLines text l (hlines ▸ hl))
  rw [Accumulator.feedTexts_eq_feedLines, Accumulator.feed_eq_feedLines, hlines]
  refine congrArg a.feedLines ?_
  show (Text.lines text).flatMap Accumulator.physicalLines = Text.lines text
  rw [List.flatMap_congr heach, List.flatMap_singleton']

/-- A literal is open, and goes on over a line end with a carriage return. -/
theorem readsToEnd_openLiteral :
    let a : Accumulator := { buffer := "RETURN '", stage := .query 0 (.quoted '\'' false) }
    let text := "a\r\n\r';\r\r\n\r\n:help\r\nRETURN 1"
    let s : Streams := { input := Text.Utf8.bytes text }
    text ≠ "" ∧ (a.feed text).2 = ["RETURN '\na\n\r';", ":help"] ∧
      (∃ lines s', s.ReadsToEnd lines s') ∧
      ∀ lines s', s.ReadsToEnd lines s' → a.feedTexts lines = a.feed text := by
  intro a text s
  have hne : text ≠ "" := by decide
  exact ⟨hne, by decide +kernel, readsToEnd_feed a s hne⟩

end QueryShell
