import QueryShell.Proofs.Statement.Grammar

/-
Splitting a text loses nothing but blank text. The statements and what is left without an end are
pieces of the text in their order, and between two of them stands blank text at most.
-/
namespace QueryShell.Statement

open Text

/-- Pieces of text one after the other, with a gap in front of each; what gaps are left stand
behind the last piece. -/
def interleave : List (List Char) → List (List Char) → List Char
  | gap :: gaps, piece :: pieces => gap ++ piece ++ interleave gaps pieces
  | gaps, _ => gaps.flatten

/-- The text is blank from its start to its end. -/
def Blank (text : List Char) : Prop :=
  ∀ c ∈ text, isBlank c

/-- The characters of a text that can be seen. -/
def visibleChars (text : List Char) : List Char :=
  text.filter fun c => !isBlank c

/-- Where the statements of a text stand in it: blank gaps in front of each and behind the last,
and then what is left without an end. -/
def Covers (text : List Char) (fed : List String × String) (gaps : List (List Char)) : Prop :=
  gaps.length = fed.1.length + 1 ∧ (∀ gap ∈ gaps, Blank gap) ∧
    text = interleave gaps (fed.1.map String.toList) ++ fed.2.toList

/-! ## Gaps -/

theorem Blank.of_sublist {gap text : List Char} (h : List.Sublist gap text) (hblank : Blank text) :
    Blank gap :=
  fun c hc => hblank c (h.subset hc)

theorem Blank.append {front back : List Char} (hfront : Blank front) (hback : Blank back) :
    Blank (front ++ back) := fun c hc =>
  (List.mem_append.1 hc).elim (hfront c) (hback c)

theorem Blank.visibleChars_eq {text : List Char} (h : Blank text) : visibleChars text = [] := by
  unfold visibleChars
  rw [List.filter_eq_nil_iff]
  intro c hc
  simp [h c hc]

theorem visibleChars_append (front back : List Char) :
    visibleChars (front ++ back) = visibleChars front ++ visibleChars back :=
  List.filter_append front back

theorem lastLine_append_of (blank : List Char) : ∃ gap, gap ++ lastLine blank = blank := by
  refine ⟨(blank.reverse.dropWhile (· ≠ '\n')).reverse, ?_⟩
  unfold lastLine
  rw [← List.reverse_append, List.takeWhile_append_dropWhile, List.reverse_reverse]

/-- What a statement keeps of the blank text in front of it is the end of that text. -/
theorem exists_gap_keptBefore (lineStart : Bool) (blank : List Char) :
    ∃ gap, gap ++ keptBefore lineStart blank = blank := by
  unfold keptBefore
  split
  · exact lastLine_append_of blank
  · exact ⟨[], rfl⟩

theorem exists_gap_keptAtEnd (lineStart : Bool) (blank : List Char) :
    ∃ gap, gap ++ keptAtEnd lineStart blank = blank := by
  unfold keptAtEnd
  split
  · exact ⟨blank, List.append_nil blank⟩
  · exact ⟨[], rfl⟩

theorem Blank.of_gap {gap kept blank : List Char} (h : gap ++ kept = blank) (hblank : Blank blank) :
    Blank gap :=
  hblank.of_sublist (h ▸ List.sublist_append_left gap kept)

/-! ## Covers -/

/-- A gap in front of a text widens the first gap in it. -/
theorem Covers.widen {text gap : List Char} {fed : List String × String} {gaps : List (List Char)}
    (h : Covers text fed gaps) (hgap : Blank gap) : ∃ gaps', Covers (gap ++ text) fed gaps' := by
  obtain ⟨hlen, hblank, htext⟩ := h
  cases gaps with
  | nil => simp at hlen
  | cons first gaps =>
    refine ⟨(gap ++ first) :: gaps, by simpa using hlen, ?_, ?_⟩
    · intro g hg
      rcases List.mem_cons.1 hg with rfl | hg
      · exact hgap.append (hblank first List.mem_cons_self)
      · exact hblank g (List.mem_cons_of_mem _ hg)
    · rw [htext]
      cases fed.1 <;> simp [interleave]

theorem covers_last {gap : List Char} (hgap : Blank gap) (left : List Char) :
    Covers (gap ++ left) ([], String.ofList left) [gap] :=
  ⟨rfl, fun g hg => List.mem_singleton.1 hg ▸ hgap, by simp [interleave]⟩

theorem covers_cons {gap statement rest : List Char} {fed : List String × String}
    {gaps : List (List Char)} (hgap : Blank gap) (h : Covers rest fed gaps) :
    Covers (gap ++ statement ++ rest) (consStatement statement fed) (gap :: gaps) := by
  obtain ⟨hlen, hblank, htext⟩ := h
  refine ⟨by simp [consStatement, hlen], ?_, by simp [consStatement, interleave, htext]⟩
  intro g hg
  rcases List.mem_cons.1 hg with rfl | hg
  · exact hgap
  · exact hblank g hg

/-- Splitting covers the text. -/
theorem split_covers (lineStart : Bool) (text : List Char) :
    ∃ gaps, Covers text (split lineStart text) gaps := by
  -- by the length of the text, since a rest starts wherever its statement ended
  induction hn : text.length using Nat.strongRecOn generalizing lineStart text with
  | ind n ih =>
    obtain ⟨blank, visible, rfl, hblank, hvisible⟩ := exists_visible text
    rw [split_eq lineStart hblank hvisible]
    cases hcut : cutStatement visible with
    | none =>
      by_cases hend : visible = []
      · obtain ⟨gap, hgap⟩ := exists_gap_keptAtEnd lineStart blank
        have hcovers := covers_last (Blank.of_gap hgap hblank) (keptAtEnd lineStart blank)
        rw [hgap] at hcovers
        exact ⟨[gap], by simpa [hend] using hcovers⟩
      · obtain ⟨gap, hgap⟩ := exists_gap_keptBefore lineStart blank
        have hcovers := covers_last (Blank.of_gap hgap hblank) (keptBefore lineStart blank ++ visible)
        rw [← List.append_assoc, hgap] at hcovers
        exact ⟨[gap], by simpa [hend] using hcovers⟩
    | some cut =>
      obtain ⟨statement, lineStart', rest⟩ := cut
      have hshort := cutStatement_length hcut
      obtain ⟨-, lineEnd, rfl, hlineEnd⟩ := cutStatement_append hcut
      have hlineEnd' : Blank lineEnd := by
        rcases hlineEnd with rfl | rfl
        · intro c hc
          cases hc
        · intro c hc
          rw [List.mem_singleton.1 hc]
          rfl
      have hlen : rest.length < n := by
        simp only [List.length_append] at hn hshort
        omega
      obtain ⟨gaps, hgaps⟩ := ih _ hlen lineStart' rest rfl
      obtain ⟨gaps', hgaps'⟩ := hgaps.widen hlineEnd'
      obtain ⟨gap, hgap⟩ := exists_gap_keptBefore lineStart blank
      have htext : gap ++ (keptBefore lineStart blank ++ statement) ++ (lineEnd ++ rest) =
          blank ++ (statement ++ lineEnd ++ rest) := by
        simp only [← List.append_assoc, hgap]
      rw [← htext]
      exact ⟨gap :: gaps', covers_cons (Blank.of_gap hgap hblank) hgaps'⟩

/-! ## Consequences -/

theorem interleave_infix {gaps pieces : List (List Char)} (hlen : gaps.length = pieces.length + 1)
    {piece : List Char} (h : piece ∈ pieces) : piece <:+: interleave gaps pieces := by
  induction pieces generalizing gaps with
  | nil => cases h
  | cons first pieces ih =>
    cases gaps with
    | nil => simp at hlen
    | cons gap gaps =>
      rw [interleave]
      rcases List.mem_cons.1 h with rfl | h
      · exact ⟨gap, interleave gaps pieces, rfl⟩
      · have hinfix := ih (by simpa using hlen) h
        exact hinfix.trans (List.suffix_append _ _).isInfix

theorem visibleChars_interleave {gaps pieces : List (List Char)}
    (hlen : gaps.length = pieces.length + 1) (hgaps : ∀ gap ∈ gaps, Blank gap) :
    visibleChars (interleave gaps pieces) = visibleChars pieces.flatten := by
  induction pieces generalizing gaps with
  | nil =>
    obtain ⟨gap, rfl⟩ := List.length_eq_one_iff.1 hlen
    simpa [interleave, visibleChars] using (hgaps gap List.mem_cons_self).visibleChars_eq
  | cons piece pieces ih =>
    cases gaps with
    | nil => simp at hlen
    | cons gap gaps =>
      have hrest := ih (by simpa using hlen) fun g hg => hgaps g (List.mem_cons_of_mem _ hg)
      rw [interleave, visibleChars_append, visibleChars_append, hrest, List.flatten_cons,
        visibleChars_append, (hgaps gap List.mem_cons_self).visibleChars_eq]
      rfl

/-- Every statement of a covered text is one piece of it. -/
theorem Covers.infix {text : List Char} {fed : List String × String} {gaps : List (List Char)}
    (h : Covers text fed gaps) {statement : String} (hs : statement ∈ fed.1) :
    statement.toList <:+: text := by
  obtain ⟨hlen, -, rfl⟩ := h
  have hinfix := interleave_infix (by simpa using hlen) (List.mem_map_of_mem (f := String.toList) hs)
  exact hinfix.trans (List.prefix_append _ _).isInfix

/-- The visible characters of the text are those of its statements and of what is left. -/
theorem Covers.visibleChars_eq {text : List Char} {fed : List String × String}
    {gaps : List (List Char)} (h : Covers text fed gaps) :
    visibleChars text =
      visibleChars ((fed.1.map String.toList).flatten ++ fed.2.toList) := by
  obtain ⟨hlen, hblank, rfl⟩ := h
  rw [visibleChars_append, visibleChars_append, visibleChars_interleave (by simpa using hlen) hblank]

end QueryShell.Statement
