import QueryShell.Proofs.Json.Values
import Mathlib.Tactic.IntervalCases

/-
The leaves of a written value: a string and an integer are read back as what was written, and the reader
stops right behind them.
-/
namespace QueryShell.Json

/-- No character stands for broken text. -/
abbrev unbroken : Char → Bool := fun _ => false

/-! ## Strings -/

theorem hexValue?_hexDigit (n : Nat) (h : n < 16) : hexValue? (hexDigit n) = some n := by
  interval_cases n <;> decide

/-- The four digits of a control character are the number of its unit. -/
theorem unit?_control (n : Nat) (h : n < 0x20) :
    unit? '0' '0' (hexDigit (n / 16)) (hexDigit (n % 16)) = some n := by
  have hzero : hexValue? '0' = some 0 := by decide
  simp only [unit?, hzero, hexValue?_hexDigit (n / 16) (by omega), hexValue?_hexDigit (n % 16) (by omega),
    Option.bind_eq_bind, Option.bind_some, Option.pure_def]
  congr 1
  omega

theorem stringValue?_char (c : Char) (pieces : List StringPiece) :
    stringValue? unbroken (.char c :: pieces) = (stringValue? unbroken pieces).map (c :: ·) := by
  rw [stringValue?, if_neg Bool.false_ne_true]

theorem stringValue?_control (c : Char) (h : c.toNat < 0x20) (pieces : List StringPiece) :
    stringValue? unbroken (.unit c.toNat :: pieces) = (stringValue? unbroken pieces).map (c :: ·) := by
  rw [stringValue?.eq_def]
  dsimp only
  rw [if_neg (by omega), if_neg (by omega), Char.ofNat_toNat]

/-- What is written for a character is read as one piece, and this piece stands for the character. -/
theorem cutString_escapeChar (c : Char) :
    ∃ piece, (∀ cs, cutString (escapeChar c ++ cs) =
        (cutString cs).map fun (pieces, rest) => (piece :: pieces, rest)) ∧
      ∀ pieces, stringValue? unbroken (piece :: pieces) = (stringValue? unbroken pieces).map (c :: ·) := by
  unfold escapeChar
  split
  case h_8 hquote hbackslash _ _ _ _ _ =>
    split
    case isTrue hcontrol =>
      refine ⟨.unit c.toNat, fun cs => ?_, stringValue?_control c hcontrol⟩
      simp only [List.cons_append, List.nil_append, cutString, unit?_control c.toNat hcontrol, Option.bind_some]
    case isFalse hcontrol =>
      refine ⟨.char c, fun cs => ?_, stringValue?_char c⟩
      have hplain : (decide (c.toNat < 0x20) || c == '\\') = false := by
        simpa [hcontrol] using hbackslash
      rw [List.singleton_append, cutString, hplain]
      · rfl
      · exact hquote
      all_goals intros; contradiction
  all_goals exact ⟨_, fun cs => rfl, stringValue?_char _⟩

/-- A written string is read up to its closing quote, whatever stands behind it. -/
theorem cutString_chars (cs : List Char) :
    ∃ pieces, (∀ rest, cutString (cs.flatMap escapeChar ++ '"' :: rest) = some (pieces, rest)) ∧
      stringValue? unbroken pieces = some cs := by
  induction cs with
  | nil => exact ⟨[], fun _ => rfl, rfl⟩
  | cons c cs ih =>
    obtain ⟨pieces, hpieces, hvalue⟩ := ih
    obtain ⟨piece, hpiece, hchar⟩ := cutString_escapeChar c
    refine ⟨piece :: pieces, fun rest => ?_, ?_⟩
    · rw [List.flatMap_cons, List.append_assoc, hpiece, hpieces, Option.map_some]
    · rw [hchar, hvalue, Option.map_some]

/-! ## Integers -/

/-- The value of the digit that a character is. -/
def digitOf (c : Char) : Nat :=
  c.toNat - 48

theorem digit?_of_isDigit {c : Char} (h : c.isDigit = true) : digit? c = some (digitOf c) := by
  have h : '0' ≤ c ∧ c ≤ '9' := by simpa [Char.isDigit, Char.le_def] using h
  exact if_pos h

theorem isDigit_of_mem_digits {n : Nat} {c : Char} (h : c ∈ digits n) : c.isDigit = true :=
  Nat.isDigit_of_mem_toDigits (by omega) (by omega) h

theorem digits_ne_nil (n : Nat) : digits n ≠ [] :=
  Nat.toDigits_ne_nil

/-- Digits are cut off up to the first character that is none. -/
theorem cutDigits_append {cs rest : List Char} (hdigits : ∀ c ∈ cs, c.isDigit = true)
    (hrest : ∀ c ∈ rest.head?, digit? c = none) : cutDigits (cs ++ rest) = (cs.map digitOf, rest) := by
  induction cs with
  | nil =>
    cases rest with
    | nil => rfl
    | cons c rest => rw [List.nil_append, cutDigits, hrest c rfl]; rfl
  | cons c cs ih =>
    rw [List.cons_append, cutDigits, digit?_of_isDigit (hdigits c List.mem_cons_self)]
    simp only [ih fun c hc => hdigits c (List.mem_cons_of_mem _ hc), List.map_cons]

theorem le_ofDigitChars (cs : List Char) (k : Nat) : k ≤ Nat.ofDigitChars 10 cs k := by
  induction cs generalizing k with
  | nil => exact le_rfl
  | cons c cs ih =>
    rw [Nat.ofDigitChars_cons]
    exact le_trans (by omega) (ih _)

/-- Digits whose number fits 64 bits are all collected. -/
theorem collectWhole_map (cs : List Char) (k : Nat) (h : Nat.ofDigitChars 10 cs k < Nat.pow 2 64) :
    collectWhole k (cs.map digitOf) = (Nat.ofDigitChars 10 cs k, 0) := by
  induction cs generalizing k with
  | nil => rfl
  | cons c cs ih =>
    have hstep : k * 10 + digitOf c = 10 * k + (c.toNat - '0'.toNat) := by rw [Nat.mul_comm]; rfl
    rw [Nat.ofDigitChars_cons] at h ⊢
    have hfits : k * 10 + digitOf c < Nat.pow 2 64 := by
      rw [hstep]
      exact lt_of_le_of_lt (le_ofDigitChars cs _) h
    have happend : appendDigit? k (digitOf c) = some (10 * k + (c.toNat - '0'.toNat)) := by
      rw [appendDigit?, if_pos hfits, hstep]
    rw [List.map_cons, collectWhole, happend]
    exact ih _ h

theorem collectWhole_digits {n : Nat} (h : n < Nat.pow 2 64) :
    collectWhole 0 ((digits n).map digitOf) = (n, 0) := by
  have hvalue : Nat.ofDigitChars 10 (digits n) 0 = n := Nat.ofDigitChars_ten_toDigits
  have hcollect := collectWhole_map (digits n) 0 (by rwa [hvalue])
  rwa [hvalue] at hcollect

/-- Only the number zero is written with a leading zero. -/
theorem digits_head_pos {n : Nat} (hn : 0 < n) : ∃ c cs, digits n = c :: cs ∧ digitOf c ≠ 0 := by
  induction n using Nat.strongRecOn with
  | ind n ih =>
    by_cases hsmall : n < 10
    · refine ⟨n.digitChar, [], Nat.toDigits_of_lt_base hsmall, ?_⟩
      interval_cases n <;> decide
    · obtain ⟨c, cs, hcs, hc⟩ := ih (n / 10) (by omega) (by omega)
      refine ⟨c, cs ++ [(n % 10).digitChar], ?_, hc⟩
      have hsplit : digits n = digits (n / 10) ++ [(n % 10).digitChar] :=
        Nat.toDigits_of_base_le (by omega) (by omega)
      rw [hsplit, hcs, List.cons_append]

/-- The digits of a number are one digit, or begin with one that is not zero. -/
theorem digits_map (n : Nat) :
    ∃ d ds, (digits n).map digitOf = d :: ds ∧ (d = 0 → ds = []) := by
  cases n with
  | zero => exact ⟨0, [], by decide, fun _ => rfl⟩
  | succ n =>
    obtain ⟨c, cs, hcs, hc⟩ := digits_head_pos n.succ_pos
    exact ⟨digitOf c, cs.map digitOf, by rw [hcs, List.map_cons], fun h => absurd h hc⟩

/-- What may stand right behind a value inside a text: the end, a comma or a closing bracket. -/
def EndsValue (rest : List Char) : Prop :=
  ∀ c ∈ rest.head?, c = ',' ∨ c = ']' ∨ c = '\x7d'

theorem endsValue_nil : EndsValue [] := nofun

theorem endsValue_cons {c : Char} {rest : List Char} (h : c = ',' ∨ c = ']' ∨ c = '\x7d') :
    EndsValue (c :: rest) := by
  rintro _ ⟨⟩
  exact h

/-- Behind a value a number goes on neither with digits nor with a fraction or an exponent. -/
theorem EndsValue.ends_number {rest : List Char} (h : EndsValue rest) :
    (∀ c ∈ rest.head?, digit? c = none) ∧ cutFraction rest = some (none, rest) ∧
      cutExponent rest = some (none, rest) := by
  cases rest with
  | nil => exact ⟨nofun, rfl, rfl⟩
  | cons c rest =>
    refine ⟨?_, ?_⟩
    · rintro _ ⟨⟩
      rcases h c rfl with rfl | rfl | rfl <;> decide
    · rcases h c rfl with rfl | rfl | rfl <;> exact ⟨rfl, rfl⟩

/-- Written digits are read as a whole number. -/
theorem cutDigits_digits (n : Nat) {rest : List Char} (h : EndsValue rest) :
    cutDigits (digits n ++ rest) = ((digits n).map digitOf, rest) :=
  cutDigits_append (fun _ => isDigit_of_mem_digits) h.ends_number.1

/-- Digits that do not begin with a zero of no use are a number, with a minus before them or without. -/
theorem cutNumber_digits (n : Nat) {rest : List Char} (h : EndsValue rest) :
    cutNumber ('-' :: (digits n ++ rest)) = some (⟨true, (digits n).map digitOf, none, none⟩, rest) ∧
      cutNumber (digits n ++ rest) = some (⟨false, (digits n).map digitOf, none, none⟩, rest) := by
  obtain ⟨-, hfraction, hexponent⟩ := h.ends_number
  obtain ⟨d, ds, hds, hzero⟩ := digits_map n
  have hcut := cutDigits_digits n h
  obtain ⟨c, cs, hcs⟩ := List.exists_cons_of_ne_nil (digits_ne_nil n)
  have hminus : c ≠ '-' := by
    rintro rfl
    exact absurd (isDigit_of_mem_digits (hcs ▸ List.mem_cons_self : _ ∈ digits n)) (by decide)
  rw [hds] at hcut ⊢
  rw [hcs, List.cons_append] at hcut ⊢
  cases d with
  | zero =>
    obtain rfl := hzero rfl
    constructor <;> simp [cutNumber, hminus, hcut, hfraction, hexponent]
  | succ d => constructor <;> simp [cutNumber, hminus, hcut, hfraction, hexponent]

/-- A written integer is read as its sign and its digits. -/
theorem cutNumber_intChars (n : Int) {rest : List Char} (h : EndsValue rest) :
    cutNumber (intChars n ++ rest) =
      some (⟨decide (n < 0), (digits n.natAbs).map digitOf, none, none⟩, rest) := by
  unfold intChars
  by_cases hneg : n < 0
  · rw [if_pos hneg, decide_eq_true hneg]
    exact (cutNumber_digits n.natAbs h).1
  · rw [if_neg hneg, decide_eq_false hneg]
    exact (cutNumber_digits n.natAbs h).2

/-- The digits of an integer in range have its value. -/
theorem numberValue?_int {n : Int} (h : InRange n) :
    numberValue? ⟨decide (n < 0), (digits n.natAbs).map digitOf, none, none⟩ = some (.int n) := by
  obtain ⟨hleast, hgreatest⟩ := h
  obtain ⟨hhalf, hpow⟩ := word_bounds
  have hexact : exactInt? ⟨decide (n < 0), (digits n.natAbs).map digitOf, none, none⟩ = some n := by
    simp only [exactInt?, Option.isSome_none, Bool.or_self, Bool.false_eq_true, if_false,
      collectWhole_digits (n := n.natAbs) (by omega)]
    by_cases hneg : n < 0
    · rw [decide_eq_true hneg, if_neg (by decide), if_pos (by omega)]
      congr 1
      omega
    · rw [decide_eq_false hneg, if_pos (by decide)]
      congr 1
      omega
  rw [numberValue?, hexact]

end QueryShell.Json
