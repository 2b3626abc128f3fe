import QueryShell.Json.Printer
import QueryShell.Json.Reader
import QueryShell.Proofs.Json.Members

/-
Which values there are: integers have 64 bits, and the members of an object are sorted by key. Every value
that is read from a text is one of them, and none nests deeper than its text is long.
-/
namespace QueryShell.Json

/-! ## Values -/

/-- The integers that 64 bits hold, with a sign or without one. -/
def InRange (n : Int) : Prop :=
  -(Nat.pow 2 63 : Int) ≤ n ∧ n < Nat.pow 2 64

/-- The bounds as literals, which linear arithmetic takes. -/
theorem word_bounds : Nat.pow 2 63 = 9223372036854775808 ∧ Nat.pow 2 64 = 18446744073709551616 := by
  decide

/-- The values that the program handles: integers have 64 bits, and members are sorted by key. -/
inductive Proper : Json → Prop where
  | null : Proper .null
  | bool (b : Bool) : Proper (.bool b)
  | int {n : Int} (hrange : InRange n) : Proper (.int n)
  | double (x : Decimal.Double) : Proper (.double x)
  | string (s : String) : Proper (.string s)
  | array {items : List Json} (hitems : ∀ v ∈ items, Proper v) : Proper (.array items)
  | object {members : List (String × Json)} (hsorted : Sorted members)
      (hmembers : ∀ member ∈ members, Proper member.2) : Proper (.object members)

/-- There is no double in the value, however deep. -/
inductive DoubleFree : Json → Prop where
  | null : DoubleFree .null
  | bool (b : Bool) : DoubleFree (.bool b)
  | int (n : Int) : DoubleFree (.int n)
  | string (s : String) : DoubleFree (.string s)
  | array {items : List Json} (hitems : ∀ v ∈ items, DoubleFree v) : DoubleFree (.array items)
  | object {members : List (String × Json)} (hmembers : ∀ member ∈ members, DoubleFree member.2) :
      DoubleFree (.object members)

/-! ## Equality -/

mutual

theorem eq_of_same : (a b : Json) → same a b = true → a = b
  | .null, b, h => by cases b <;> simp_all [same]
  | .bool a, b, h => by cases b <;> simp_all [same]
  | .int a, b, h => by cases b <;> simp_all [same]
  | .double a, b, h => by cases b <;> simp_all [same]
  | .string a, b, h => by cases b <;> simp_all [same]
  | .array as, b, h => by
    cases b with
    | array bs =>
      rw [same] at h
      rw [eq_of_sameItems as bs h]
    | _ => simp [same] at h
  | .object as, b, h => by
    cases b with
    | object bs =>
      rw [same] at h
      rw [eq_of_sameMembers as bs h]
    | _ => simp [same] at h

theorem eq_of_sameItems : (as bs : List Json) → sameItems as bs = true → as = bs
  | [], bs, h => by cases bs <;> simp_all [sameItems]
  | a :: as, bs, h => by
    cases bs with
    | nil => simp [sameItems] at h
    | cons b bs =>
      rw [sameItems, Bool.and_eq_true] at h
      rw [eq_of_same a b h.1, eq_of_sameItems as bs h.2]

theorem eq_of_sameMembers : (as bs : List (String × Json)) → sameMembers as bs = true → as = bs
  | [], bs, h => by cases bs <;> simp_all [sameMembers]
  | (k, a) :: as, bs, h => by
    cases bs with
    | nil => simp [sameMembers] at h
    | cons b bs =>
      obtain ⟨l, b⟩ := b
      rw [sameMembers, Bool.and_eq_true, Bool.and_eq_true, beq_iff_eq] at h
      rw [h.1.1, eq_of_same a b h.1.2, eq_of_sameMembers as bs h.2]

end

mutual

theorem same_refl : (a : Json) → same a a = true
  | .null => by rw [same]
  | .bool _ | .int _ | .double _ | .string _ => by rw [same, beq_self_eq_true]
  | .array as => by rw [same, sameItems_refl as]
  | .object as => by rw [same, sameMembers_refl as]

theorem sameItems_refl : (as : List Json) → sameItems as as = true
  | [] => by rw [sameItems]
  | a :: as => by rw [sameItems, same_refl a, sameItems_refl as, Bool.and_self]

theorem sameMembers_refl : (as : List (String × Json)) → sameMembers as as = true
  | [] => by rw [sameMembers]
  | (k, a) :: as => by
    rw [sameMembers, beq_self_eq_true, same_refl a, sameMembers_refl as, Bool.and_self, Bool.and_self]

end

/-- Two values are the same if they are equal. -/
instance : DecidableEq Json := fun a b =>
  decidable_of_iff (same a b = true) ⟨eq_of_same a b, fun h => h ▸ same_refl a⟩

/-! ## Nesting -/

mutual

/-- A value nests no deeper than its text is long. -/
theorem depth_le_length : (v : Json) → v.depth ≤ (chars v).length
  | .null | .bool _ | .int _ | .double _ | .string _ => by simp only [depth, Nat.zero_le]
  | .array [] => by simp [depth, itemsDepth, chars]
  | .array (v :: rest) => by
    have hv := depth_le_length v
    have hrest := itemsDepth_le_length rest
    simp only [depth, itemsDepth, chars, List.length_cons, List.length_append]
    omega
  | .object [] => by simp [depth, membersDepth, chars]
  | .object ((key, v) :: rest) => by
    have hv := depth_le_length v
    have hrest := membersDepth_le_length rest
    simp only [depth, membersDepth, chars, List.length_cons, List.length_append]
    omega

theorem itemsDepth_le_length : (items : List Json) → itemsDepth items ≤ (itemChars items).length
  | [] => by simp [itemsDepth]
  | v :: rest => by
    have hv := depth_le_length v
    have hrest := itemsDepth_le_length rest
    simp only [itemsDepth, itemChars, List.length_cons, List.length_append]
    omega

theorem membersDepth_le_length :
    (members : List (String × Json)) → membersDepth members ≤ (memberChars members).length
  | [] => by simp [membersDepth]
  | (key, v) :: rest => by
    have hv := depth_le_length v
    have hrest := membersDepth_le_length rest
    simp only [membersDepth, memberChars, List.length_cons, List.length_append]
    omega

end

/-! ## Values that are read -/

/-- What is collected fits 64 bits, if what it starts with does. -/
theorem collectWhole_lt (ds : List Nat) {k : Nat} (h : k < Nat.pow 2 64) : (collectWhole k ds).1 < Nat.pow 2 64 := by
  induction ds generalizing k with
  | nil => exact h
  | cons d ds ih =>
    rw [collectWhole]
    split
    · rename_i n hn
      rw [appendDigit?, Option.ite_none_right_eq_some] at hn
      obtain ⟨hlt, hn⟩ := hn
      exact ih (Option.some.inj hn ▸ hlt)
    · exact h

theorem inRange_of_exactInt? {n : NumberText} {k : Int} (h : exactInt? n = some k) : InRange k := by
  have hlt := collectWhole_lt n.whole (k := 0) (by decide)
  obtain ⟨hhalf, hpow⟩ := word_bounds
  unfold InRange
  unfold exactInt? at h
  split at h
  · cases h
  split at h
  · rename_i m hm
    rw [hm] at hlt
    split at h
    · cases h
      omega
    split at h
    · cases h
      omega
    · cases h
  · cases h

variable {broken : Char → Bool}

theorem proper_of_numberValue? {n : NumberText} {v : Json} (h : numberValue? n = some v) : Proper v := by
  unfold numberValue? at h
  split at h
  · rename_i k hk
    cases h
    exact .int (inRange_of_exactInt? hk)
  · obtain ⟨x, -, rfl⟩ := Option.map_eq_some_iff.1 h
    exact .double _

mutual

/-- Every value that is read is proper. -/
theorem proper_of_value? : (t : Tree) → ∀ {depth : Nat} {v : Json}, t.value? broken depth = some v → Proper v
  | .null, _, _, h => by
    rw [Tree.value?] at h
    cases h
    exact .null
  | .bool b, _, _, h => by
    rw [Tree.value?] at h
    cases h
    exact .bool b
  | .number n, _, _, h => by
    rw [Tree.value?] at h
    exact proper_of_numberValue? h
  | .string pieces, _, _, h => by
    rw [Tree.value?] at h
    obtain ⟨cs, -, rfl⟩ := Option.map_eq_some_iff.1 h
    exact .string _
  | .array items, depth, _, h => by
    rw [Tree.value?, Option.ite_none_left_eq_some] at h
    obtain ⟨vs, hvs, rfl⟩ := Option.map_eq_some_iff.1 h.2
    exact .array (proper_of_itemValues? items hvs)
  | .object members, depth, _, h => by
    rw [Tree.value?, Option.ite_none_left_eq_some] at h
    obtain ⟨ms, hms, rfl⟩ := Option.map_eq_some_iff.1 h.2
    exact .object (sorted_sortMembers ms) fun member hmember =>
      proper_of_memberValues? members hms member (mem_sortMembers hmember)

theorem proper_of_itemValues? : (ts : List Tree) → ∀ {depth : Nat} {vs : List Json},
    itemValues? broken depth ts = some vs → ∀ v ∈ vs, Proper v
  | [], _, _, h => by
    rw [itemValues?] at h
    cases h
    exact nofun
  | t :: ts, _, _, h => by
    rw [itemValues?] at h
    obtain ⟨v, hv, h⟩ := Option.bind_eq_some_iff.1 h
    obtain ⟨vs, hvs, rfl⟩ := Option.map_eq_some_iff.1 h
    exact List.forall_mem_cons.2 ⟨proper_of_value? t hv, proper_of_itemValues? ts hvs⟩

theorem proper_of_memberValues? : (ts : List (List StringPiece × Tree)) → ∀ {depth : Nat}
    {members : List (String × Json)}, memberValues? broken depth ts = some members →
      ∀ member ∈ members, Proper member.2
  | [], _, _, h => by
    rw [memberValues?] at h
    cases h
    exact nofun
  | (key, t) :: ts, _, _, h => by
    rw [memberValues?] at h
    obtain ⟨cs, -, h⟩ := Option.bind_eq_some_iff.1 h
    obtain ⟨v, hv, h⟩ := Option.bind_eq_some_iff.1 h
    obtain ⟨members, hmembers, rfl⟩ := Option.map_eq_some_iff.1 h
    exact List.forall_mem_cons.2 ⟨proper_of_value? t hv, proper_of_memberValues? ts hmembers⟩

end

/-- The value of a whole text is proper. -/
theorem proper_of_parse? {s : String} {v : Json} (h : parse? s = some v) : Proper v := by
  obtain ⟨t, -, ht⟩ := Option.bind_eq_some_iff.1 h
  exact proper_of_value? t ht

end QueryShell.Json
