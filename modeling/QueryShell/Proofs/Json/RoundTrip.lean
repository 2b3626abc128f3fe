import QueryShell.Proofs.Json.Tokens
import Mathlib.Data.List.Forall2

/-
A value without doubles is read back from its text. The reader stops right behind the text, so this holds
inside longer texts too; and as no value nests deeper than its text is long, a reader that takes the length
as the bound of the nesting reads all of them.
-/
namespace QueryShell.Json

/-! ## Reading -/

/-- The text begins with a character that is no blank and closes no array. -/
def Begins (cs : List Char) : Prop :=
  ∃ c more, cs = c :: more ∧ isSpace c = false ∧ c ≠ ']'

/-- The text is read as the value, by a reader that allows this nesting, whatever stands behind it. -/
structure Decodes (nesting : Nat) (cs : List Char) (v : Json) : Prop where
  begins : Begins cs
  reads : ∃ t : Tree, (∀ fuel rest, 2 * cs.length ≤ fuel → EndsValue rest →
      cutTree fuel (cs ++ rest) = some (t, rest)) ∧
    ∀ depth, nesting ≤ depth → t.value? unbroken depth = some v

theorem skipSpace_cons {c : Char} {rest : List Char} (h : isSpace c = false) :
    skipSpace (c :: rest) = c :: rest := by
  rw [skipSpace, List.dropWhile_cons_of_neg (by simp [h])]

theorem Decodes.mono {m n : Nat} {cs : List Char} {v : Json} (h : Decodes m cs v) (hle : m ≤ n) :
    Decodes n cs v := by
  obtain ⟨hbegins, t, ht, hvalue⟩ := h
  exact ⟨hbegins, t, ht, fun depth hdepth => hvalue depth (hle.trans hdepth)⟩

theorem Decodes.length_pos {n : Nat} {cs : List Char} {v : Json} (h : Decodes n cs v) : 0 < cs.length := by
  obtain ⟨c, more, rfl, -, -⟩ := h.begins
  exact Nat.succ_pos _

/-- A text that the reader takes in one step. -/
theorem decodes_leaf {n : Nat} {cs : List Char} {v : Json} (t : Tree) (hbegins : Begins cs)
    (hcut : ∀ fuel rest, EndsValue rest → cutTree (fuel + 1) (cs ++ rest) = some (t, rest))
    (hvalue : ∀ depth, n ≤ depth → t.value? unbroken depth = some v) : Decodes n cs v := by
  refine ⟨hbegins, t, fun fuel rest hfuel hrest => ?_, hvalue⟩
  obtain ⟨c, more, rfl, -, -⟩ := hbegins
  obtain ⟨fuel, rfl⟩ := Nat.exists_eq_succ_of_ne_zero (n := fuel) (by
    rintro rfl
    simp at hfuel)
  exact hcut fuel rest hrest

theorem decodes_string (s : String) : Decodes 0 (stringChars s) (.string s) := by
  obtain ⟨pieces, hpieces, hvalue⟩ := cutString_chars s.toList
  refine decodes_leaf (.string pieces) ⟨'"', _, rfl, rfl, by decide⟩ (fun fuel rest _ => ?_) fun depth _ => ?_
  · rw [stringChars, List.cons_append, List.cons_append, List.append_assoc, List.singleton_append]
    rw [cutTree, skipSpace_cons rfl]
    simp only [hpieces, Option.map_some]
  · rw [Tree.value?, hvalue, Option.map_some, String.ofList_toList]

/-- The character is the first one of a number. -/
def startsNumber (c : Char) : Bool :=
  c == '-' || c.isDigit

theorem not_isSpace_of_startsNumber {c : Char} (h : startsNumber c = true) : isSpace c = false := by
  by_contra hspace
  simp only [isSpace, Bool.not_eq_false, Bool.or_eq_true, beq_iff_eq] at hspace
  rcases hspace with ((rfl | rfl) | rfl) | rfl <;> exact absurd h (by decide)

/-- What begins like a number is read as one. -/
theorem cutTree_number {c : Char} {more : List Char} (h : startsNumber c = true) (fuel : Nat) :
    cutTree (fuel + 1) (c :: more) = (cutNumber (c :: more)).map fun (n, rest) => (.number n, rest) := by
  rw [cutTree, skipSpace_cons (not_isSpace_of_startsNumber h)]
  split
  case h_7 => rfl
  all_goals
    rename_i heq
    obtain ⟨rfl, -⟩ := List.cons.inj heq
    exact absurd h (by decide)

theorem intChars_starts (n : Int) : ∃ c more, intChars n = c :: more ∧ startsNumber c = true := by
  obtain ⟨c, cs, hcs⟩ := List.exists_cons_of_ne_nil (digits_ne_nil n.natAbs)
  unfold intChars
  split
  · exact ⟨'-', _, rfl, rfl⟩
  · have hdigit : c.isDigit = true := isDigit_of_mem_digits (hcs ▸ List.mem_cons_self : c ∈ digits n.natAbs)
    exact ⟨c, cs, hcs, by rw [startsNumber, hdigit, Bool.or_true]⟩

theorem decodes_int {n : Int} (h : InRange n) : Decodes 0 (intChars n) (.int n) := by
  obtain ⟨c, more, hcs, hc⟩ := intChars_starts n
  refine decodes_leaf (.number ⟨decide (n < 0), (digits n.natAbs).map digitOf, none, none⟩)
    ⟨c, more, hcs, not_isSpace_of_startsNumber hc, by rintro rfl; exact absurd hc (by decide)⟩
    (fun fuel rest hrest => ?_) fun depth _ => ?_
  · have hcut := cutNumber_intChars n hrest
    rw [hcs, List.cons_append] at hcut ⊢
    rw [cutTree_number hc, hcut, Option.map_some]
  · rw [Tree.value?, numberValue?_int h]

/-! ## Arrays -/

section Arrays

variable {fuel : Nat} {cs rest : List Char} {t : Tree}

theorem cutItems_last (h : cutTree fuel cs = some (t, ']' :: rest)) :
    cutItems (fuel + 1) cs = some ([t], rest) := by
  rw [cutItems, h]
  rfl

theorem cutItems_more (h : cutTree fuel cs = some (t, ',' :: rest)) :
    cutItems (fuel + 1) cs = (cutItems fuel rest).map fun (items, rest) => (t :: items, rest) := by
  rw [cutItems, h]
  rfl

theorem cutTree_array {c : Char} (hspace : isSpace c = false) (hclose : c ≠ ']') :
    cutTree (fuel + 1) ('[' :: c :: cs) =
      (cutItems fuel (c :: cs)).map fun (items, rest) => (.array items, rest) := by
  rw [cutTree, skipSpace_cons (by decide)]
  simp only [skipSpace_cons hspace]
  split
  · rename_i heq
    exact absurd (List.cons.inj heq).1 hclose
  · rfl

end Arrays

variable {n : Nat}

/-- Items are read up to the closing bracket. The first item stands apart, as no comma comes before it. -/
theorem cutItems_chars {items read : List Json} {v w : Json}
    (h : Decodes n (chars v) w) (hitems : List.Forall₂ (fun v w => Decodes n (chars v) w) items read) :
    ∃ ts : List Tree, (∀ fuel rest, 2 * (chars v ++ itemChars items).length ≤ fuel →
        cutItems fuel (chars v ++ itemChars items ++ rest) = some (ts, rest)) ∧
      ∀ depth, n ≤ depth → itemValues? unbroken depth ts = some (w :: read) := by
  induction hitems generalizing v w with
  | nil =>
    obtain ⟨-, t, ht, hvalue⟩ := h
    refine ⟨[t], fun fuel rest hfuel => ?_, fun depth hdepth => ?_⟩
    · rw [itemChars, List.length_append, List.length_singleton] at hfuel
      obtain ⟨fuel, rfl⟩ := Nat.exists_eq_succ_of_ne_zero (n := fuel) (by omega)
      rw [itemChars, List.append_assoc]
      exact cutItems_last (ht fuel _ (by omega) (endsValue_cons (.inr (.inl rfl))))
    · rw [itemValues?, hvalue depth hdepth, Option.bind_some, itemValues?, Option.map_some]
  | @cons next _ items _ hnext hitems ih =>
    obtain ⟨ts, hts, hvalues⟩ := ih hnext
    obtain ⟨-, t, ht, hvalue⟩ := h
    refine ⟨t :: ts, fun fuel rest hfuel => ?_, fun depth hdepth => ?_⟩
    · rw [itemChars, List.length_append, List.length_cons] at hfuel
      obtain ⟨fuel, rfl⟩ := Nat.exists_eq_succ_of_ne_zero (n := fuel) (by omega)
      rw [itemChars, List.append_assoc, List.cons_append,
        cutItems_more (ht fuel _ (by omega) (endsValue_cons (.inl rfl))), hts fuel rest (by omega),
        Option.map_some]
    · rw [itemValues?, hvalue depth hdepth, Option.bind_some, hvalues depth hdepth, Option.map_some]

/-- An array is read as the array of what its items are read as. -/
theorem decodes_array {items read : List Json}
    (h : List.Forall₂ (fun v w => Decodes n (chars v) w) items read) :
    Decodes (n + 1) (chars (.array items)) (.array read) := by
  cases h with
  | nil =>
    refine decodes_leaf (.array []) ⟨'[', _, rfl, rfl, by decide⟩ (fun _ _ _ => rfl) fun depth hdepth => ?_
    rw [Tree.value?, if_neg (by omega), itemValues?, Option.map_some]
  | @cons v w items read hv hitems =>
    obtain ⟨ts, hts, hvalues⟩ := cutItems_chars hv hitems
    obtain ⟨c, more, hcs, hspace, hclose⟩ := hv.begins
    rw [chars]
    refine ⟨⟨'[', _, rfl, rfl, by decide⟩, .array ts, fun fuel rest hfuel _ => ?_, fun depth hdepth => ?_⟩
    · rw [List.length_cons] at hfuel
      obtain ⟨fuel, rfl⟩ := Nat.exists_eq_succ_of_ne_zero (n := fuel) (by omega)
      have hread := hts fuel rest (by omega)
      rw [hcs, List.cons_append, List.cons_append] at hread
      rw [hcs, List.cons_append, List.cons_append, List.cons_append, cutTree_array hspace hclose, hread,
        Option.map_some]
    · rw [Tree.value?, if_neg (by omega), hvalues (depth - 1) (by omega), Option.map_some]

/-! ## Objects -/

section Objects

variable {fuel : Nat} {cs cs' rest : List Char} {key : List StringPiece} {t : Tree}

theorem cutMembers_last (hkey : cutString cs = some (key, ':' :: cs'))
    (ht : cutTree fuel cs' = some (t, '\x7d' :: rest)) :
    cutMembers (fuel + 1) ('"' :: cs) = some ([(key, t)], rest) := by
  rw [cutMembers, skipSpace_cons (by decide)]
  simp only [hkey, Option.bind_some]
  rw [skipSpace_cons (by decide)]
  simp only [ht, Option.bind_some]
  rfl

theorem cutMembers_more (hkey : cutString cs = some (key, ':' :: cs'))
    (ht : cutTree fuel cs' = some (t, ',' :: rest)) :
    cutMembers (fuel + 1) ('"' :: cs) =
      (cutMembers fuel rest).map fun (members, rest) => ((key, t) :: members, rest) := by
  rw [cutMembers, skipSpace_cons (by decide)]
  simp only [hkey, Option.bind_some]
  rw [skipSpace_cons (by decide)]
  simp only [ht, Option.bind_some]
  rfl

theorem cutTree_object :
    cutTree (fuel + 1) ('\x7b' :: '"' :: cs) =
      (cutMembers fuel ('"' :: cs)).map fun (members, rest) => (.object members, rest) :=
  rfl

end Objects

theorem stringChars_append (key : String) (cs : List Char) :
    stringChars key ++ cs = '"' :: (key.toList.flatMap escapeChar ++ '"' :: cs) := by
  rw [stringChars, List.cons_append, List.cons_append, List.append_assoc, List.singleton_append]

/-- One written member is read as another: it has the same key, and its value is read as the other's. -/
def DecodesMember (n : Nat) (member read : String × Json) : Prop :=
  member.1 = read.1 ∧ Decodes n (chars member.2) read.2

/-- Members are read up to the closing brace, in the order in which they were written. -/
theorem cutMembers_chars {members read : List (String × Json)} (key : String) {v w : Json}
    (h : Decodes n (chars v) w) (hmembers : List.Forall₂ (DecodesMember n) members read) :
    ∃ ts : List (List StringPiece × Tree),
      (∀ fuel rest, 2 * (stringChars key ++ ':' :: (chars v ++ memberChars members)).length ≤ fuel →
        cutMembers fuel (stringChars key ++ ':' :: (chars v ++ memberChars members) ++ rest) =
          some (ts, rest)) ∧
      ∀ depth, n ≤ depth → memberValues? unbroken depth ts = some ((key, w) :: read) := by
  obtain ⟨pieces, hpieces, hkey⟩ := cutString_chars key.toList
  obtain ⟨-, t, ht, hvalue⟩ := h
  induction hmembers generalizing key v w pieces t with
  | nil =>
    refine ⟨[(pieces, t)], fun fuel rest hfuel => ?_, fun depth hdepth => ?_⟩
    · simp only [memberChars, List.length_append, List.length_cons, List.length_nil] at hfuel
      obtain ⟨fuel, rfl⟩ := Nat.exists_eq_succ_of_ne_zero (n := fuel) (by omega)
      rw [memberChars, List.append_assoc, List.cons_append, List.append_assoc, stringChars_append]
      exact cutMembers_last (hpieces _) (ht fuel _ (by omega) (endsValue_cons (.inr (.inr rfl))))
    · rw [memberValues?, hkey, Option.bind_some, hvalue depth hdepth, Option.bind_some, memberValues?,
        Option.map_some, String.ofList_toList]
  | @cons next got members _ hnext hmembers ih =>
    obtain ⟨hsame, -, next_t, hnext_t, hnext_value⟩ := hnext
    obtain ⟨next_pieces, hnext_pieces, hnext_key⟩ := cutString_chars next.1.toList
    obtain ⟨ts, hts, hvalues⟩ := ih _ next_pieces hnext_pieces hnext_key next_t hnext_t hnext_value
    refine ⟨(pieces, t) :: ts, fun fuel rest hfuel => ?_, fun depth hdepth => ?_⟩
    · rw [memberChars, List.length_append, List.length_cons, List.length_append, List.length_cons] at hfuel
      obtain ⟨fuel, rfl⟩ := Nat.exists_eq_succ_of_ne_zero (n := fuel) (by omega)
      rw [memberChars, List.append_assoc, List.cons_append, List.append_assoc, stringChars_append,
        List.cons_append, cutMembers_more (hpieces _) (ht fuel _ (by omega) (endsValue_cons (.inl rfl))),
        hts fuel rest (by omega), Option.map_some]
    · rw [memberValues?, hkey, Option.bind_some, hvalue depth hdepth, Option.bind_some, hvalues depth hdepth,
        Option.map_some, String.ofList_toList, hsame]

/-- An object is read as the object of what its members are read as, sorted by key. -/
theorem decodes_object {members read : List (String × Json)}
    (h : List.Forall₂ (DecodesMember n) members read) :
    Decodes (n + 1) (chars (.object members)) (.object (sortMembers read)) := by
  cases h with
  | nil =>
    refine decodes_leaf (.object []) ⟨'\x7b', _, rfl, rfl, by decide⟩ (fun _ _ _ => rfl) fun depth hdepth => ?_
    rw [Tree.value?, if_neg (by omega), memberValues?, Option.map_some]
  | @cons member got members read hmember hmembers =>
    obtain ⟨key, v⟩ := member
    obtain ⟨rfl, hv⟩ : key = got.1 ∧ Decodes n (chars v) got.2 := hmember
    obtain ⟨ts, hts, hvalues⟩ := cutMembers_chars got.1 hv hmembers
    rw [chars]
    refine ⟨⟨'\x7b', _, rfl, rfl, by decide⟩, .object ts, fun fuel rest hfuel _ => ?_, fun depth hdepth => ?_⟩
    · rw [List.length_cons] at hfuel
      obtain ⟨fuel, rfl⟩ := Nat.exists_eq_succ_of_ne_zero (n := fuel) (by omega)
      have hread := hts fuel rest (by omega)
      rw [List.append_assoc, stringChars_append] at hread
      rw [List.cons_append, List.append_assoc, stringChars_append, cutTree_object, hread, Option.map_some]
    · rw [Tree.value?, if_neg (by omega), hvalues (depth - 1) (by omega), Option.map_some]

/-! ## Values -/

/-- The text of a value is read as another value, by every reader that allows its nesting. -/
def Reads (v w : Json) : Prop :=
  Decodes v.depth (chars v) w

theorem reads_string (s : String) : Reads (.string s) (.string s) :=
  decodes_string s

theorem reads_array {items read : List Json} (h : List.Forall₂ Reads items read) :
    Reads (.array items) (.array read) := by
  have hitems : ∀ n, itemsDepth items ≤ n →
      List.Forall₂ (fun v w => Decodes n (chars v) w) items read := by
    intro n hn
    induction h with
    | nil => exact .nil
    | cons hv _ ih =>
      rw [itemsDepth, max_le_iff] at hn
      exact .cons (hv.mono hn.1) (ih hn.2)
  exact decodes_array (hitems _ le_rfl)

/-- One member is read as another. -/
def ReadsMember (member read : String × Json) : Prop :=
  member.1 = read.1 ∧ Reads member.2 read.2

/-- An object is read with its members in order. -/
theorem reads_object {members read : List (String × Json)} (h : List.Forall₂ ReadsMember members read) :
    Reads (.object members) (.object (sortMembers read)) := by
  have hmembers : ∀ n, membersDepth members ≤ n → List.Forall₂ (DecodesMember n) members read := by
    intro n hn
    induction h with
    | nil => exact .nil
    | cons hmember _ ih =>
      rw [membersDepth, max_le_iff] at hn
      exact .cons ⟨hmember.1, hmember.2.mono hn.1⟩ (ih hn.2)
  exact decodes_object (hmembers _ le_rfl)

/-! ## The round trip -/

/-- A value without doubles is read back from its text. -/
theorem reads_self {v : Json} (hproper : Proper v) (hfree : DoubleFree v) : Reads v v := by
  induction hproper with
  | null => exact decodes_leaf .null ⟨'n', _, rfl, rfl, by decide⟩ (fun _ _ _ => rfl) fun _ _ => by rw [Tree.value?]
  | bool b =>
    cases b
    · exact decodes_leaf (.bool false) ⟨'f', _, rfl, rfl, by decide⟩ (fun _ _ _ => rfl) fun _ _ => by
        rw [Tree.value?]
    · exact decodes_leaf (.bool true) ⟨'t', _, rfl, rfl, by decide⟩ (fun _ _ _ => rfl) fun _ _ => by
        rw [Tree.value?]
  | int hrange => exact decodes_int hrange
  | double x => nomatch hfree
  | string s => exact reads_string s
  | @array items hitems ih =>
    cases hfree with
    | array hfree => exact reads_array (List.forall₂_same.2 fun v hv => ih v hv (hfree v hv))
  | @object members hsorted hmembers ih =>
    cases hfree with
    | object hfree =>
      have hread := reads_object (List.forall₂_same.2 fun member hmember =>
        ⟨rfl, ih member hmember (hfree member hmember)⟩)
      rwa [sortMembers_of_sorted hsorted] at hread

/-- A whole text is read, if the reader allows the nesting. -/
theorem Decodes.read {nesting depth : Nat} {s : String} {v : Json} (h : Decodes nesting s.toList v)
    (hdepth : nesting ≤ depth) : (Tree.read? s.toList).bind (Tree.value? unbroken depth) = some v := by
  obtain ⟨-, t, ht, hvalue⟩ := h
  have hread := ht (2 * s.toList.length + 2) [] (by omega) endsValue_nil
  rw [List.append_nil] at hread
  rw [Tree.read?, hread]
  exact hvalue depth hdepth

/-- A value without doubles that does not nest too deep is read back from its text. -/
theorem parse?_text {v : Json} (hproper : Proper v) (hfree : DoubleFree v) (hdepth : v.depth ≤ greatestDepth) :
    parse? v.text = some v := by
  have h : Decodes v.depth (chars v) v := reads_self hproper hfree
  rw [← String.toList_ofList (l := chars v)] at h
  exact h.read hdepth

/-- The value of a text, however deep it nests. -/
def decode? (s : String) : Option Json :=
  (Tree.read? s.toList).bind (Tree.value? unbroken s.toList.length)

theorem Reads.decode? {v w : Json} (h : Reads v w) : decode? v.text = some w := by
  have hdepth := depth_le_length v
  have h : Decodes v.depth (chars v) w := h
  rw [← String.toList_ofList (l := chars v)] at h hdepth
  exact h.read hdepth

end QueryShell.Json
