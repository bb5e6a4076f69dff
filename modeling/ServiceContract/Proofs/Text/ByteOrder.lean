import Mathlib.Data.Char
import Mathlib.Tactic.SplitIfs
import ServiceContract.Proofs.Json.Utf8

/-!
# The order of bytes

Texts are ordered by their characters, and this is the order of their bytes as well: in UTF-8 a character
with a greater number has a greater first byte, or the same one and a greater byte at the first place
where the two differ, and none is the beginning of another.
-/

namespace ServiceContract

/-- The first text comes before the second one in the order of their bytes. -/
def BytesBefore (s t : String) : Prop := s.toByteArray.data.toList < t.toByteArray.data.toList

namespace Json

/-- Digits to the base 64 tell which of two numbers is less at the first place where they differ. -/
theorem digits_lt {m n : Nat} (h : m < n) : m / 262144 < n / 262144 ∨ m / 262144 = n / 262144 ∧
    (m / 4096 % 64 < n / 4096 % 64 ∨ m / 4096 % 64 = n / 4096 % 64 ∧
      (m / 64 % 64 < n / 64 % 64 ∨ m / 64 % 64 = n / 64 % 64 ∧ m % 64 < n % 64)) := by
  omega

theorem utf8EncodeChar_lt {c d : Char} (h : c < d) (text rest : List UInt8) :
    String.utf8EncodeChar c ++ text < String.utf8EncodeChar d ++ rest := by
  have hlt : c.val.toNat < d.val.toNat := h
  have hbound : d.val.toNat < 0x110000 := by
    have hvalid := d.valid
    unfold UInt32.isValidChar Nat.isValidChar at hvalid
    omega
  have hdigits := digits_lt hlt
  unfold String.utf8EncodeChar
  generalize c.val.toNat = m at *
  generalize d.val.toNat = n at *
  dsimp only
  -- Characters of different lengths differ in their first bytes, those of one length in their digits.
  split_ifs <;>
    simp only [List.cons_append, List.nil_append, List.cons_lt_cons_iff, UInt8.lt_iff_toNat_lt,
      ← UInt8.toNat_inj, UInt8.toNat_ofNat'] <;>
    simp (disch := omega) only [Nat.mod_eq_of_lt] <;> omega

theorem append_lt_append_iff {front text rest : List UInt8} : front ++ text < front ++ rest ↔ text < rest := by
  induction front with
  | nil => rfl
  | cons byte front ih =>
    rw [List.cons_append, List.cons_append, List.cons_lt_cons_iff, ih]
    simp

theorem utf8_lt_iff {cs ds : List Char} : utf8 cs < utf8 ds ↔ cs < ds := by
  induction cs generalizing ds with
  | nil =>
    cases ds with
    | nil => simp
    | cons d ds =>
      obtain ⟨byte, tail, hbytes, -⟩ := utf8EncodeChar_cons d
      rw [utf8_nil, utf8_cons, hbytes]
      simp
  | cons c cs ih =>
    cases ds with
    | nil => simp
    | cons d ds =>
      rw [utf8_cons, utf8_cons, List.cons_lt_cons_iff]
      rcases lt_trichotomy c d with hlt | rfl | hgt
      · exact iff_of_true (utf8EncodeChar_lt hlt _ _) (.inl hlt)
      · rw [append_lt_append_iff, ih]
        simp
      · have hbytes := List.lt_asymm (utf8EncodeChar_lt hgt (utf8 ds) (utf8 cs))
        refine iff_of_false hbytes ?_
        rintro (hlt | ⟨rfl, -⟩)
        · exact Char.lt_asymm hlt hgt
        · exact Char.lt_irrefl _ hgt

end Json

/-- The order of texts is the order of their bytes. -/
theorem bytesBefore_iff {s t : String} : BytesBefore s t ↔ s < t := by
  unfold BytesBefore
  rw [Json.toByteArray_data, Json.toByteArray_data, Json.utf8_lt_iff]
  rfl

end ServiceContract
