import QueryShell.Proofs.Statement.Entries
import QueryShell.Command.Basic
import Mathlib.Data.List.TakeDrop
import Mathlib.Data.List.TakeWhile

/-
Names of parameters. A name that is read is an identifier, or stands between backticks; what is set is
the parameter of that name without its backticks.
-/
namespace QueryShell.Command

/-! ## Characters of names -/

/-- The blank characters, in closed ranges. -/
def blankRanges : List (Nat × Nat) :=
  [(0x9, 0xd), (0x20, 0x20), (0x85, 0x85), (0xa0, 0xa0), (0x1680, 0x1680), (0x2000, 0x200a),
    (0x2028, 0x2029), (0x202f, 0x202f), (0x205f, 0x205f), (0x3000, 0x3000)]

theorem blankRange_of_isBlank {c : Char} (h : Text.isBlank c = true) :
    ∃ range ∈ blankRanges, range.1 ≤ c.toNat ∧ c.toNat ≤ range.2 := by
  simp [Text.isBlank, UInt32.le_iff_toNat_le, ← UInt32.toNat_inj, ← Char.toNat_inj] at h
  simp only [blankRanges, List.mem_cons, List.not_mem_nil, or_false, exists_eq_or_imp, exists_eq_left]
  omega

/-- No letter and no number is blank. -/
theorem blankRanges_disjoint : (Text.letterRanges ++ Text.numberRanges).all (fun range =>
    blankRanges.all fun blank => range.2.blt blank.1 || blank.2.blt range.1) = true := by
  decide +kernel

theorem not_isBlank_of_inRanges {c : Char} {ranges : List (Nat × Nat)}
    (hranges : ranges ⊆ Text.letterRanges ++ Text.numberRanges)
    (h : Text.inRanges ranges c.toNat = true) : ¬ Text.isBlank c = true := by
  intro hblank
  obtain ⟨blank, hmem, hlow, hhigh⟩ := blankRange_of_isBlank hblank
  obtain ⟨range, hrange, hin⟩ := List.any_eq_true.1 h
  simp only [Bool.and_eq_true, decide_eq_true_eq] at hin
  have hdisjoint := List.all_eq_true.1 (List.all_eq_true.1 blankRanges_disjoint range (hranges hrange))
    blank hmem
  simp only [Bool.or_eq_true, Nat.blt_eq] at hdisjoint
  omega

/-- No name goes on with a blank character. -/
theorem not_isBlank_of_continuesName {c : Char} (h : continuesName c = true) :
    ¬ Text.isBlank c = true := by
  unfold continuesName startsName at h
  rcases Bool.or_eq_true _ _ ▸ h with h | hnumber
  · rcases Bool.or_eq_true _ _ ▸ h with h | hletter
    · rw [beq_iff_eq.1 h]
      decide
    · refine not_isBlank_of_inRanges (fun range hrange => ?_) hletter
      exact List.mem_append_left _ hrange
  · refine not_isBlank_of_inRanges (fun range hrange => ?_) hnumber
    exact List.mem_append_right _ hrange

theorem ne_backtick_of_continuesName {c : Char} (h : continuesName c = true) : c ≠ backtick := by
  rintro rfl
  revert h
  decide +kernel

/-! ## Names as they are read -/

/-- What is cut off for a name is an identifier, or something without backticks between two of them. -/
theorem cutName_cases {arguments name rest : List Char} (h : cutName arguments = some (name, rest)) :
    (∃ inner, name = backtick :: (inner ++ [backtick]) ∧ ∀ c ∈ inner, c ≠ backtick) ∨
      name ≠ [] ∧ ∀ c ∈ name, continuesName c = true := by
  cases arguments with
  | nil => cases h
  | cons c cs =>
    unfold cutName at h
    dsimp only at h
    split at h
    · rename_i hquote
      obtain rfl : c = backtick := beq_iff_eq.1 hquote
      rw [List.span_eq_takeWhile_dropWhile] at h
      have hinner : ∀ d ∈ cs.takeWhile (· != backtick), d ≠ backtick := fun d hd => by
        simpa using List.mem_takeWhile_imp hd
      have hclose : ∀ d ∈ (cs.dropWhile (· != backtick)).head?, d = backtick := fun d hd => by
        have hnot := List.head?_dropWhile_not (· != backtick) cs
        rw [hd] at hnot
        simpa using hnot
      generalize cs.takeWhile (· != backtick) = inner at h hinner
      generalize cs.dropWhile (· != backtick) = behind at h hclose
      split at h
      · cases h
      · cases h
      · rename_i heq
        cases heq
        cases h
        exact .inl ⟨_, by rw [hclose _ rfl]; rfl, hinner⟩
    split at h
    · rename_i hstarts
      rw [List.span_eq_takeWhile_dropWhile] at h
      cases h
      refine .inr ⟨List.cons_ne_nil _ _, fun d hd => ?_⟩
      rcases List.mem_cons.1 hd with rfl | hd
      · unfold continuesName
        rw [hstarts]
        rfl
      · exact List.mem_takeWhile_imp hd
    · cases h

/-- The parameter that is set by a name: what was written, without backticks. -/
def parameterName (name : String) : String :=
  String.ofList (name.toList.filter (· ≠ backtick))

theorem unquote_of_cutName {arguments name rest : List Char}
    (h : cutName arguments = some (name, rest)) :
    unquote (Text.trim (String.ofList name)) = parameterName (String.ofList name) := by
  have htrim (hvisible : ∀ c, c ∈ name.head? ∨ c ∈ name.getLast? → ¬ Text.isBlank c) :
      Text.trimChars name = name :=
    Text.trimChars_eq_self (fun c hc => hvisible c (.inl hc)) fun c hc => hvisible c (.inr hc)
  unfold unquote parameterName Text.trim
  rw [String.toList_ofList, String.toList_ofList]
  refine congrArg String.ofList ?_
  rcases cutName_cases h with ⟨inner, rfl, hinner⟩ | ⟨hne, hname⟩
  · have hvisible : ¬ Text.isBlank backtick := by decide
    have hends : ∀ c, c ∈ (backtick :: (inner ++ [backtick])).head? ∨
        c ∈ (backtick :: (inner ++ [backtick])).getLast? → ¬ Text.isBlank c := by
      rintro c (hc | hc)
      · cases hc
        exact hvisible
      · rw [← List.cons_append, List.getLast?_concat] at hc
        cases hc
        exact hvisible
    have hfilter : (backtick :: (inner ++ [backtick])).filter (· ≠ backtick) = inner := by
      have hinner : inner.filter (· ≠ backtick) = inner :=
        List.filter_eq_self.2 fun c hc => by simpa using hinner c hc
      rw [List.filter_cons_of_neg (by simp), List.filter_append, hinner]
      simp
    rw [htrim hends, hfilter]
    simp [unquoteChars]
  · have hends : ∀ c, c ∈ name.head? ∨ c ∈ name.getLast? → c ∈ name :=
      fun c hc => hc.elim List.mem_of_head? List.mem_of_getLast?
    rw [htrim fun c hc => not_isBlank_of_continuesName (hname c (hends c hc))]
    have hplain : ∀ c ∈ name, c ≠ backtick := fun c hc => ne_backtick_of_continuesName (hname c hc)
    cases name with
    | nil => exact absurd rfl hne
    | cons c cs =>
      have hfirst : (c == backtick) = false := beq_false_of_ne (hplain c List.mem_cons_self)
      rw [List.filter_eq_self.2 fun d hd => by simpa using hplain d hd]
      unfold unquoteChars
      dsimp only
      rw [hfirst]
      rfl

/-- Setting a parameter is about the name without its backticks. -/
theorem unquote_of_parse {line name value : String} (h : parse line = .ok (.setParam name value)) :
    unquote (Text.trim name) = parameterName name := by
  unfold parse at h
  dsimp only at h
  split at h
  · generalize String.ofList (Text.trimChars _) = arguments at h
    unfold ofParts withoutArgument at h
    split at h
    case h_8 =>
      split at h
      · cases h
      · unfold parseParam at h
        split at h
        · cases h
        rename_i hname
        split at h
        · cases h
        dsimp only at h
        split at h
        · cases h
        · cases h
          exact unquote_of_cutName hname
    all_goals first
      | cases h
      | (split at h <;> first | cases h | (split at h <;> cases h))
  · cases h

end QueryShell.Command
