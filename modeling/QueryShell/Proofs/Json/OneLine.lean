import QueryShell.Proofs.Json.RoundTrip
import QueryShell.Text.Blank

/-
Values are written on one line, and a value without doubles begins and ends with a visible character. So
trimming takes nothing off it.
-/
namespace QueryShell.Json

/-! ## No line breaks -/

/-- No character is written as a line break. -/
theorem newline_notMem_escapeChar (c : Char) : '\n' ∉ escapeChar c := by
  unfold escapeChar
  split
  case h_8 _ _ hnewline _ _ _ _ =>
    split
    case isTrue hcontrol =>
      have hdigit : ∀ n < 16, hexDigit n ≠ '\n' := by decide
      have hhigh := hdigit (c.toNat / 16) (by omega)
      have hlow := hdigit (c.toNat % 16) (by omega)
      simp [hhigh.symm, hlow.symm]
    case isFalse => simpa using fun h => hnewline h.symm
  all_goals decide

theorem newline_notMem_digits (n : Nat) : '\n' ∉ digits n :=
  fun h => absurd (isDigit_of_mem_digits h) (by decide)

theorem newline_notMem_intChars (n : Int) : '\n' ∉ intChars n := by
  unfold intChars
  split <;> simp [newline_notMem_digits]

theorem newline_notMem_stringChars (s : String) : '\n' ∉ stringChars s := by
  have hescaped : '\n' ∉ s.toList.flatMap escapeChar := by
    rw [List.mem_flatMap]
    rintro ⟨c, -, hc⟩
    exact newline_notMem_escapeChar c hc
  simp [stringChars, hescaped]

theorem newline_notMem_decimalChars (format : DoubleFormat) (k : Nat) (e : Int) :
    '\n' ∉ decimalChars format k e := by
  have hdigits := newline_notMem_digits k
  have htake : ∀ n, '\n' ∉ (digits k).take n := fun n h => hdigits (List.mem_of_mem_take h)
  have hdrop : ∀ n, '\n' ∉ (digits k).drop n := fun n h => hdigits (List.mem_of_mem_drop h)
  have hexponent := newline_notMem_digits ((digits k).length + e - 1).natAbs
  unfold decimalChars
  dsimp only
  split_ifs
  · simp [hdigits, List.mem_replicate]
  · simp only [List.mem_append, List.mem_cons, htake, hdrop]
    decide
  · simp [hdigits, List.mem_replicate]
  all_goals
    split
    · rename_i heq
      rw [heq] at hdigits
      simp_all
    · simp [hdigits, hexponent]

theorem newline_notMem_doubleChars (x : Decimal.Double) : '\n' ∉ doubleChars x := by
  have hdecimal := newline_notMem_decimalChars doubleFormat x.shortest.1 x.shortest.2
  unfold doubleChars
  dsimp only
  split_ifs <;> simp [hdecimal]

mutual

/-- A value is written on one line. -/
theorem newline_notMem_chars : (v : Json) → '\n' ∉ chars v
  | .null => by decide
  | .bool true => by decide
  | .bool false => by decide
  | .int n => newline_notMem_intChars n
  | .double x => newline_notMem_doubleChars x
  | .string s => newline_notMem_stringChars s
  | .array [] => by decide
  | .array (v :: rest) => by
    simp [chars, newline_notMem_chars v, newline_notMem_itemChars rest]
  | .object [] => by decide
  | .object ((key, v) :: rest) => by
    simp [chars, newline_notMem_stringChars key, newline_notMem_chars v, newline_notMem_memberChars rest]

theorem newline_notMem_itemChars : (items : List Json) → '\n' ∉ itemChars items
  | [] => by decide
  | v :: rest => by simp [itemChars, newline_notMem_chars v, newline_notMem_itemChars rest]

theorem newline_notMem_memberChars : (members : List (String × Json)) → '\n' ∉ memberChars members
  | [] => by decide
  | (key, v) :: rest => by
    simp [memberChars, newline_notMem_stringChars key, newline_notMem_chars v,
      newline_notMem_memberChars rest]

end

/-! ## Visible ends -/

theorem not_isBlank_of_startsNumber {c : Char} (h : startsNumber c = true) : ¬ Text.isBlank c := by
  rcases Bool.or_eq_true _ _ ▸ h with h | h
  · rw [beq_iff_eq.1 h]
    decide
  · simp [Char.isDigit, Text.isBlank, UInt32.le_iff_toNat_le, ← UInt32.toNat_inj, ← Char.toNat_inj] at h ⊢
    omega

theorem not_isBlank_of_isDigit {c : Char} (h : c.isDigit = true) : ¬ Text.isBlank c :=
  not_isBlank_of_startsNumber (by rw [startsNumber, h, Bool.or_true])

theorem itemChars_getLast? (items : List Json) : (itemChars items).getLast? = some ']' := by
  induction items with
  | nil => rfl
  | cons v items ih =>
    rw [itemChars, ← List.cons_append, List.getLast?_append, ih]
    rfl

theorem memberChars_getLast? (members : List (String × Json)) :
    (memberChars members).getLast? = some '\x7d' := by
  induction members with
  | nil => rfl
  | cons member members ih =>
    rw [memberChars]
    simp only [← List.cons_append, ← List.append_assoc]
    rw [List.getLast?_append, ih]
    rfl

theorem intChars_getLast? (n : Int) : ∀ c ∈ (intChars n).getLast?, ¬ Text.isBlank c := by
  have hdigits : ∀ c ∈ (digits n.natAbs).getLast?, ¬ Text.isBlank c := fun c hc =>
    not_isBlank_of_isDigit (isDigit_of_mem_digits (List.mem_of_getLast? hc))
  unfold intChars
  split
  · rw [← List.singleton_append, List.getLast?_append_of_ne_nil _ (digits_ne_nil _)]
    exact hdigits
  · exact hdigits

/-- A value without doubles begins and ends with a visible character. -/
theorem chars_visible {v : Json} (h : DoubleFree v) :
    (∀ c ∈ (chars v).head?, ¬ Text.isBlank c) ∧ ∀ c ∈ (chars v).getLast?, ¬ Text.isBlank c := by
  -- a text of visible characters, which the shortest ones are
  have hknown {cs : List Char} (hall : cs.all (fun c => !Text.isBlank c) = true) :
      (∀ c ∈ cs.head?, ¬ Text.isBlank c) ∧ ∀ c ∈ cs.getLast?, ¬ Text.isBlank c := by
    simp only [List.all_eq_true, Bool.not_eq_true'] at hall
    exact ⟨fun c hc => by simp [hall c (List.mem_of_head? hc)],
      fun c hc => by simp [hall c (List.mem_of_getLast? hc)]⟩
  cases h with
  | null => exact hknown (by decide)
  | bool b => cases b <;> exact hknown (by decide)
  | int n =>
    obtain ⟨c, more, hcs, hc⟩ := intChars_starts n
    refine ⟨?_, intChars_getLast? n⟩
    rw [chars, hcs]
    rintro _ ⟨⟩
    exact not_isBlank_of_startsNumber hc
  | string s =>
    rw [chars, stringChars]
    refine ⟨?_, ?_⟩
    · rintro _ ⟨⟩
      decide
    · rw [List.getLast?_concat]
      rintro _ ⟨⟩
      decide
  | @array items =>
    cases items with
    | nil => exact hknown (by decide)
    | cons v items =>
      rw [chars, ← List.cons_append, List.getLast?_append, itemChars_getLast?]
      refine ⟨?_, ?_⟩ <;>
      · rintro _ ⟨⟩
        decide
  | @object members =>
    cases members with
    | nil => exact hknown (by decide)
    | cons member members =>
      rw [chars]
      simp only [← List.cons_append, ← List.append_assoc]
      rw [List.getLast?_append, memberChars_getLast?]
      refine ⟨?_, ?_⟩ <;>
      · rintro _ ⟨⟩
        decide

end QueryShell.Json
