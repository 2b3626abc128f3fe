import QueryShell.Files.Disk
import Mathlib.Tactic.SplitIfs

/-
What is written is what is read: the bytes of a text are decoded into its characters, and a file
holds the bytes that were last put into it.
-/
namespace QueryShell

/-! ## Bytes -/

namespace Text.Utf8

theorem toNat_byte {b : Nat} (h : b < 256) : (UInt8.ofNat b).toNat = b := by
  rw [UInt8.toNat_ofNat']
  omega

/-- The first byte of a longer character starts it. -/
theorem decode_start {b : Nat} {p : Partial} (hb : b < 256) (h : first b = some (.inr p))
    (rest : List UInt8) :
    decodeAfter none (UInt8.ofNat b :: rest) = decodeAfter (some p) rest := by
  rw [decodeAfter, toNat_byte hb, h]

/-- A further byte adds six bits to the character under way. -/
theorem decode_further {bits owed least greatest k : Nat} (hk : k < 64)
    (hrange : least ≤ 0x80 + k ∧ 0x80 + k ≤ greatest) (rest : List UInt8) :
    decodeAfter (some { bits, owed := owed + 2, least, greatest }) (UInt8.ofNat (0x80 + k) :: rest) =
      decodeAfter (some { bits := bits * 64 + k, owed := owed + 1 }) rest := by
  rw [decodeAfter, toNat_byte (by omega), if_pos hrange, Nat.add_sub_cancel_left]
  exact if_neg (by simp)

/-- The last byte completes the character. -/
theorem decode_last {bits k : Nat} (hk : k < 64) {c : Char} (hc : Char.ofNat (bits * 64 + k) = c)
    (rest : List UInt8) :
    decodeAfter (some { bits, owed := 1 }) (UInt8.ofNat (0x80 + k) :: rest) =
      some c :: decodeAfter none rest := by
  rw [decodeAfter, toNat_byte (by omega), if_pos ⟨Nat.le_add_right _ _, by dsimp only; omega⟩,
    Nat.add_sub_cancel_left, ← hc]
  exact if_pos (Nat.le_refl 1)

theorem decode_encodeChar (c : Char) (rest : List UInt8) :
    decodeAfter none ((encodeChar c).map UInt8.ofNat ++ rest) = some c :: decodeAfter none rest := by
  have hvalid : c.toNat < 0xd800 ∨ 0xdfff < c.toNat ∧ c.toNat < 0x110000 := c.valid
  have hchar : Char.ofNat c.toNat = c := Char.ofNat_toNat c
  -- one case for each number of bytes; in each the bits of the bytes make up the code point
  unfold encodeChar
  generalize c.toNat = n at hvalid hchar ⊢
  dsimp only
  split_ifs with h1 h2 h3 <;>
    simp only [List.map_cons, List.map_nil, List.cons_append, List.nil_append]
  · have hfirst : first n = some (.inl (Char.ofNat n)) := by
      rw [first, if_pos (by omega)]
    rw [decodeAfter, toNat_byte (by omega), hfirst, hchar]
  · have hfirst : first (0xc0 + n / 64) = some (.inr { bits := n / 64, owed := 1 }) := by
      rw [first, if_neg (by omega), if_pos (by omega), Nat.add_sub_cancel_left]
    have hbits : n / 64 * 64 + n % 64 = n := by omega
    rw [decode_start (by omega) hfirst, decode_last (by omega) (by rw [hbits, hchar])]
  · have hfirst : first (0xe0 + n / 4096) = some (.inr
        { bits := n / 4096, owed := 2
          least := if 0xe0 + n / 4096 = 0xe0 then 0xa0 else 0x80
          greatest := if 0xe0 + n / 4096 = 0xed then 0x9f else 0xbf }) := by
      rw [first, if_neg (by omega), if_neg (by omega), if_pos (by omega), Nat.add_sub_cancel_left]
    have hbits : (n / 4096 * 64 + n / 64 % 64) * 64 + n % 64 = n := by omega
    rw [decode_start (by omega) hfirst,
      decode_further (by omega) (by split_ifs <;> omega),
      decode_last (by omega) (by rw [hbits, hchar])]
  · have hfirst : first (0xf0 + n / 262144) = some (.inr
        { bits := n / 262144, owed := 3
          least := if 0xf0 + n / 262144 = 0xf0 then 0x90 else 0x80
          greatest := if 0xf0 + n / 262144 = 0xf4 then 0x8f else 0xbf }) := by
      rw [first, if_neg (by omega), if_neg (by omega), if_neg (by omega), if_pos (by omega),
        Nat.add_sub_cancel_left]
    have hbits : ((n / 262144 * 64 + n / 4096 % 64) * 64 + n / 64 % 64) * 64 + n % 64 = n := by
      omega
    rw [decode_start (by omega) hfirst,
      decode_further (by omega) (by split_ifs <;> omega),
      decode_further (by omega) (by omega),
      decode_last (by omega) (by rw [hbits, hchar])]

theorem decode_bytes (text : String) : decode (bytes text) = text.toList.map some := by
  unfold decode bytes encode
  induction text.toList with
  | nil => rfl
  | cons c cs ih => rw [List.flatMap_cons, List.map_append, decode_encodeChar, ih, List.map_cons]

/-- The bytes of a text are UTF-8, and decoding them gives the text back. -/
theorem text?_bytes (text : String) : text? (bytes text) = some text.toList := by
  rw [text?, decode_bytes]
  induction text.toList with
  | nil => rfl
  | cons c cs ih => simp [List.mapM_cons, ih]

end Text.Utf8

/-! ## Files -/

namespace Disk

theorem ok_of_bind {ε α β : Type} {x : Except ε α} {f : α → Except ε β} {b : β}
    (h : x >>= f = .ok b) : ∃ a, x = .ok a ∧ f a = .ok b := by
  cases x with
  | error e => cases h
  | ok a => exact ⟨a, rfl, h⟩

/-- The same directories with other files in them. -/
def withFiles (d : Disk) (files : List (List String × List UInt8)) : Disk :=
  { d with files }

variable {d : Disk}

/-- Steps go through directories, so what the files are does not matter to where they lead. -/
theorem step_withFiles {place next : List String} {name : String}
    (h : d.step place name = .ok next) (files : List (List String × List UInt8)) :
    (d.withFiles files).step place name = .ok next := by
  unfold step withFiles at *
  split_ifs at h ⊢ with hsame hup
  · exact h
  · exact h
  · dsimp only at h ⊢
    split_ifs at h ⊢
    exact h

theorem steps_withFiles {steps : List String} {place next : List String}
    (h : steps.foldlM d.step place = .ok next) (files : List (List String × List UInt8)) :
    steps.foldlM (d.withFiles files).step place = .ok next := by
  induction steps generalizing place with
  | nil => exact h
  | cons name steps ih =>
    rw [List.foldlM_cons] at h ⊢
    obtain ⟨between, hstep, h⟩ := ok_of_bind h
    rw [step_withFiles hstep]
    exact ih h

theorem locate_withFiles {path : String} {found : List String × Bool}
    (h : d.locate path = .ok found) (files : List (List String × List UInt8)) :
    (d.withFiles files).locate path = .ok found := by
  unfold locate at h ⊢
  split_ifs at h ⊢
  · cases h
  · dsimp only at h ⊢
    obtain ⟨parent, hparent, h⟩ := ok_of_bind h
    rw [steps_withFiles hparent]
    show ite _ _ _ = _
    split_ifs at h ⊢
    · obtain ⟨place, hplace, h⟩ := ok_of_bind h
      rw [step_withFiles hplace]
      exact h
    · exact h

/-- A file holds what was put into it. -/
theorem read_put {d' : Disk} {path : String} {bytes : List UInt8} (h : d.put path bytes = .ok d') :
    d'.read path = .bytes bytes := by
  unfold put at h
  obtain ⟨⟨place, onlyDirectory⟩, hfound, h⟩ := ok_of_bind h
  dsimp only at h
  split_ifs at h with hplace
  obtain rfl := Except.ok.inj h
  obtain ⟨rfl, hdirectory⟩ : onlyDirectory = false ∧ d.directories.contains place = false := by
    simpa using hplace
  have hthere := locate_withFiles hfound ((place, bytes) :: d.files.filter (·.1 ≠ place))
  unfold withFiles at hthere
  rw [read, hthere]
  simp only [hdirectory, List.lookup_cons_self]
  simp

end Disk

end QueryShell
