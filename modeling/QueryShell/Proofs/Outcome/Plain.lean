import QueryShell.Outcome.Plain
import QueryShell.Proofs.Json.OneLine
import QueryShell.Proofs.Json.RoundTrip

/-
The plain format loses nothing of values without doubles. No value is written with a line break, so there
is one line for each row; and a reader that takes values off a line one after another meets a separator only
where one was written.
-/
namespace QueryShell

namespace Outcome

open Json

theorem newline_notMem_intercalate {texts : List String} (h : ∀ text ∈ texts, '\n' ∉ text.toList) :
    '\n' ∉ (separator.intercalate texts).toList := by
  induction texts with
  | nil => rw [String.intercalate_nil]; decide
  | cons text texts ih =>
    obtain ⟨htext, htexts⟩ := List.forall_mem_cons.1 h
    cases texts with
    | nil => rwa [String.intercalate_singleton]
    | cons next texts =>
      have hseparator : '\n' ∉ separator.toList := by decide
      rw [String.intercalate_cons_cons, String.toList_append, String.toList_append, List.mem_append,
        List.mem_append]
      rintro ((h | h) | h)
      · exact htext h
      · exact hseparator h
      · exact ih htexts h

theorem newline_notMem_renderValue (v : Json) : '\n' ∉ (renderValue v).toList := by
  unfold renderValue
  split
  · decide
  · rw [text, String.toList_ofList]
    exact newline_notMem_chars v

theorem newline_notMem_rowLine (row : List Json) : '\n' ∉ (rowLine row).toList :=
  newline_notMem_intercalate (List.forall_mem_map.2 fun v _ => newline_notMem_renderValue v)

/-! ## Reading a line -/

/-- Takes a value off the front of a line: JSON, or else `NULL`. -/
def cutValue? (cs : List Char) : Option (Json × List Char) :=
  match cutTree (2 * cs.length) cs with
  | some (t, rest) => (t.value? unbroken cs.length).map (·, rest)
  | none =>
    match cs with
    | 'N' :: 'U' :: 'L' :: 'L' :: rest => some (.null, rest)
    | _ => none

/-- Takes values off a line up to its end; `fuel` bounds their number. -/
def readValues? : Nat → List Char → Option (List Json)
  | 0, _ => none
  | fuel + 1, cs =>
    (cutValue? cs).bind fun (v, rest) =>
      match rest with
      | [] => some [v]
      | ',' :: ' ' :: rest => (readValues? fuel rest).map (v :: ·)
      | _ => none

theorem readValues?_last {fuel : Nat} {cs : List Char} {v : Json} (h : cutValue? cs = some (v, [])) :
    readValues? (fuel + 1) cs = some [v] := by
  rw [readValues?, h]
  rfl

theorem readValues?_more {fuel : Nat} {cs rest : List Char} {v : Json}
    (h : cutValue? cs = some (v, ',' :: ' ' :: rest)) :
    readValues? (fuel + 1) cs = (readValues? fuel rest).map (v :: ·) := by
  rw [readValues?, h]
  rfl

/-- The row that a line stands for. Only an empty row has an empty line. -/
def readRow? (line : String) : Option (List Json) :=
  if line.isEmpty then some [] else readValues? line.toList.length line.toList

/-- A value is taken off the front, and nothing of what stands behind it. -/
theorem cutValue?_renderValue {v : Json} (hproper : v.Proper) (hfree : v.DoubleFree) {rest : List Char}
    (hrest : EndsValue rest) : cutValue? ((renderValue v).toList ++ rest) = some (v, rest) := by
  unfold renderValue
  split
  · rfl
  · rw [text, String.toList_ofList]
    obtain ⟨-, t, ht, hvalue⟩ := reads_self hproper hfree
    have hlength : (chars v).length ≤ (chars v ++ rest).length := by
      rw [List.length_append]
      exact Nat.le_add_right _ _
    unfold cutValue?
    rw [ht _ _ (by omega) hrest]
    simp only [hvalue _ ((depth_le_length v).trans hlength), Option.map_some]

theorem renderValue_length_pos {v : Json} (hproper : v.Proper) (hfree : v.DoubleFree) :
    0 < (renderValue v).toList.length := by
  unfold renderValue
  split
  · decide
  · rw [text, String.toList_ofList]
    exact (reads_self hproper hfree).length_pos

/-- A row without doubles. -/
def Exact (row : List Json) : Prop :=
  ∀ v ∈ row, v.Proper ∧ v.DoubleFree

theorem readValues?_rowLine {row : List Json} (hrow : Exact row) (hne : row ≠ []) {fuel : Nat}
    (hfuel : (rowLine row).toList.length ≤ fuel) : readValues? fuel (rowLine row).toList = some row := by
  induction row generalizing fuel with
  | nil => exact absurd rfl hne
  | cons v row ih =>
    obtain ⟨⟨hproper, hfree⟩, hrow⟩ := List.forall_mem_cons.1 hrow
    have hpos := renderValue_length_pos hproper hfree
    cases row with
    | nil =>
      have hline : (rowLine [v]).toList = (renderValue v).toList ++ [] := by
        rw [rowLine, List.map_singleton, String.intercalate_singleton, List.append_nil]
      rw [hline, List.append_nil] at hfuel
      obtain ⟨fuel, rfl⟩ := Nat.exists_eq_succ_of_ne_zero (n := fuel) (by omega)
      rw [hline]
      exact readValues?_last (cutValue?_renderValue hproper hfree endsValue_nil)
    | cons next row =>
      have hline : (rowLine (v :: next :: row)).toList =
          (renderValue v).toList ++ ',' :: ' ' :: (rowLine (next :: row)).toList := by
        rw [rowLine, List.map_cons, List.map_cons, String.intercalate_cons_cons, String.toList_append,
          String.toList_append, List.append_assoc]
        rfl
      rw [hline, List.length_append, List.length_cons, List.length_cons] at hfuel
      obtain ⟨fuel, rfl⟩ := Nat.exists_eq_succ_of_ne_zero (n := fuel) (by omega)
      rw [hline, readValues?_more (cutValue?_renderValue hproper hfree (endsValue_cons (.inl rfl))),
        ih hrow (List.cons_ne_nil _ _) (by omega), Option.map_some]

/-- Every row without doubles is read back from its line. -/
theorem readRow?_rowLine {row : List Json} (hrow : Exact row) : readRow? (rowLine row) = some row := by
  cases row with
  | nil => rfl
  | cons v row =>
    have hread := readValues?_rowLine hrow (List.cons_ne_nil v row) le_rfl
    have hline : rowLine (v :: row) ≠ "" := by
      intro hempty
      rw [hempty] at hread
      cases hread
    rw [readRow?, if_neg (by simpa using hline), hread]

/-! ## Lines -/

/-- An outcome with keys, none of which holds a line break, and without doubles. -/
structure Legible (o : Outcome) : Prop where
  keys : o.keys ≠ []
  lines : ∀ key ∈ o.keys, '\n' ∉ key.toList
  rows : ∀ row ∈ o.rows, Exact row

/-- The plain text is the line of the keys and the lines of the rows. -/
theorem Legible.splitOn {o : Outcome} (h : Legible o) :
    (o.plain.toList.splitOn '\n').map String.ofList =
      separator.intercalate o.keys :: o.rows.map rowLine := by
  have hplain : o.plain.toList =
      ['\n'].intercalate ((separator.intercalate o.keys :: o.rows.map rowLine).map String.toList) := by
    rw [plain, if_neg (by simpa using h.keys), String.toList_intercalate]
    rfl
  have hlines : ∀ line ∈ (separator.intercalate o.keys :: o.rows.map rowLine).map String.toList,
      '\n' ∉ line := by
    rw [List.forall_mem_map, List.forall_mem_cons, List.forall_mem_map]
    exact ⟨newline_notMem_intercalate h.lines, fun row _ => newline_notMem_rowLine row⟩
  rw [hplain, List.splitOn_intercalate '\n' hlines (by simp), List.map_map]
  simp

/-- The plain text is one line for the keys and one for each row, and every row is read back from its line.
So an outcome with the same plain text has the same rows. -/
theorem plain_reads {o : Outcome} (h : Legible o) :
    ∃ lines : List String,
      (o.plain.toList.splitOn '\n').map String.ofList = separator.intercalate o.keys :: lines ∧
      lines.length = o.rows.length ∧ lines.map readRow? = o.rows.map some ∧
      ∀ o' : Outcome, Legible o' → o'.plain = o.plain → o'.rows = o.rows := by
  have hread : ∀ {o : Outcome}, Legible o → (o.rows.map rowLine).map readRow? = o.rows.map some := by
    intro o h
    rw [List.map_map]
    exact List.map_congr_left fun row hrow => readRow?_rowLine (h.rows row hrow)
  refine ⟨o.rows.map rowLine, h.splitOn, List.length_map _, hread h, fun o' h' hsame => ?_⟩
  have hlines := h'.splitOn
  rw [hsame, h.splitOn] at hlines
  have hrows : o'.rows.map some = o.rows.map some := by
    rw [← hread h', ← hread h, (List.cons.inj hlines).2]
  exact List.map_injective_iff.2 (Option.some_injective _) hrows

/-- Rows with all that could be mistaken for something else: a string `NULL` beside a null, separators, quotes
and line breaks in strings and keys, nulls inside an array, and a row without values. -/
def confusing : Outcome where
  keys := ["a, b", "NULL"]
  rows := [[.null, .string "NULL"], [.string "a, b", .string "\"\\\n, "], [],
    [.array [.null, .int (-3), .array []], .object [("\", \"", .bool true), ("k", .string "null")]]]

theorem legible_confusing : Legible confusing where
  keys := List.cons_ne_nil _ _
  lines := by decide
  rows := by
    have hnil {α : Type} {p : α → Prop} : ∀ x ∈ [], p x := List.forall_mem_nil p
    have hrange : InRange (-3) := by constructor <;> decide
    have hsorted : Sorted [("\", \"", Json.bool true), ("k", .string "null")] :=
      List.pairwise_cons.2 ⟨by decide, List.pairwise_singleton _ _⟩
    simp only [confusing, List.forall_mem_cons, Exact]
    refine ⟨⟨⟨.null, .null⟩, ⟨.string _, .string _⟩, hnil⟩, ⟨⟨.string _, .string _⟩, ⟨.string _, .string _⟩, hnil⟩,
      hnil, ⟨⟨.array ?_, .array ?_⟩, ⟨.object hsorted ?_, .object ?_⟩, hnil⟩, hnil⟩
    · simp only [List.forall_mem_cons]
      exact ⟨.null, .int hrange, .array hnil, hnil⟩
    · simp only [List.forall_mem_cons]
      exact ⟨.null, .int _, .array hnil, hnil⟩
    · simp only [List.forall_mem_cons]
      exact ⟨.bool _, .string _, hnil⟩
    · simp only [List.forall_mem_cons]
      exact ⟨.bool _, .string _, hnil⟩

theorem plain_reads_confusing :
    Legible confusing ∧ ∃ lines : List String,
      (confusing.plain.toList.splitOn '\n').map String.ofList = "a, b, NULL" :: lines ∧ lines.length = 4 ∧
      lines.map readRow? = confusing.rows.map some ∧
      ∀ o : Outcome, Legible o → o.plain = confusing.plain → o.rows = confusing.rows :=
  ⟨legible_confusing, plain_reads legible_confusing⟩

end Outcome

end QueryShell
