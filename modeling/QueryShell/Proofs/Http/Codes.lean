import QueryShell.Http.Percent
import QueryShell.Proofs.Files.Storage

/-
Percent codes are read back: whatever set of characters is encoded, decoding gives the bytes of the text,
as long as the percent sign itself is encoded. So nothing of a text is lost between the two, and nothing in
it is taken for a code.
-/
namespace QueryShell.Http.Percent

open Text

theorem hexValue?_hexDigit {n : Nat} (h : n < 16) : hexValue? (hexDigit n) = some n := by
  have hall : ∀ n < 16, hexValue? (hexDigit n) = some n := by decide
  exact hall n h

theorem decode_encodeByte {b : Nat} (h : b < 256) (rest : List Char) :
    decode (encodeByte b ++ rest) = UInt8.ofNat b :: decode rest := by
  have hhigh := hexValue?_hexDigit (n := b / 16 % 16) (by omega)
  have hlow := hexValue?_hexDigit (n := b % 16) (by omega)
  have hbyte : b / 16 % 16 * 16 + b % 16 = b := by omega
  show decode ('%' :: hexDigit (b / 16 % 16) :: hexDigit (b % 16) :: rest) = _
  simp only [decode, hhigh, hlow, hbyte]

theorem decode_encodeBytes {bs : List Nat} (h : ∀ b ∈ bs, b < 256) (rest : List Char) :
    decode (bs.flatMap encodeByte ++ rest) = bs.map UInt8.ofNat ++ decode rest := by
  induction bs with
  | nil => rfl
  | cons b bs ih =>
    obtain ⟨hb, hbs⟩ := List.forall_mem_cons.1 h
    rw [List.flatMap_cons, List.append_assoc, decode_encodeByte hb, ih hbs]
    rfl

/-- Only a percent sign starts a code. -/
theorem decode_cons {c : Char} (h : c ≠ '%') (rest : List Char) :
    decode (c :: rest) = (Utf8.encodeChar c).map UInt8.ofNat ++ decode rest := by
  rw [decode.eq_def]
  split
  · rename_i heq
    exact absurd (List.cons.inj heq).1 h
  · rename_i heq
    obtain ⟨rfl, rfl⟩ := List.cons.inj heq
    rfl
  · rename_i heq
    cases heq

theorem encodeChar_lt (c : Char) : ∀ b ∈ Utf8.encodeChar c, b < 256 := by
  have hvalid : c.toNat < 0xd800 ∨ 0xdfff < c.toNat ∧ c.toNat < 0x110000 := c.valid
  intro b hb
  unfold Utf8.encodeChar at hb
  generalize c.toNat = n at hvalid hb
  dsimp only at hb
  split_ifs at hb <;> simp at hb <;> omega

/-- Decoding an encoded text gives its bytes. -/
theorem decode_encode {set : Char → Bool} (hset : set '%' = true) (cs : List Char) :
    decode (encode set cs) = (Utf8.encode cs).map UInt8.ofNat := by
  induction cs with
  | nil => rfl
  | cons c cs ih =>
    rw [encode, List.flatMap_cons, ← encode, Utf8.encode, List.flatMap_cons, ← Utf8.encode,
      List.map_append, ← ih]
    by_cases hc : set c = true
    · rw [if_pos hc, decode_encodeBytes (encodeChar_lt c)]
    · have hmark : c ≠ '%' := fun heq => hc (heq ▸ hset)
      rw [if_neg hc, List.singleton_append, decode_cons hmark]

theorem decode_encode_bytes {set : Char → Bool} (hset : set '%' = true) (text : String) :
    decode (encode set text.toList) = Utf8.bytes text :=
  decode_encode hset text.toList

/-- An encoded text has the characters outside the set and those of codes. -/
theorem mem_encode {set : Char → Bool} {cs : List Char} {c : Char} (h : c ∈ encode set cs) :
    (c ∈ cs ∧ set c = false) ∨ c = '%' ∨ ∃ n < 16, c = hexDigit n := by
  obtain ⟨d, hd, hc⟩ := List.mem_flatMap.1 h
  split at hc
  · obtain ⟨b, -, hb⟩ := List.mem_flatMap.1 hc
    simp only [encodeByte, List.mem_cons, List.not_mem_nil, or_false] at hb
    rcases hb with rfl | rfl | rfl
    · exact .inr (.inl rfl)
    · exact .inr (.inr ⟨_, Nat.mod_lt _ (by decide), rfl⟩)
    · exact .inr (.inr ⟨_, Nat.mod_lt _ (by decide), rfl⟩)
  · rename_i hset
    obtain rfl := List.mem_singleton.1 hc
    exact .inl ⟨hd, by simpa using hset⟩

end QueryShell.Http.Percent
