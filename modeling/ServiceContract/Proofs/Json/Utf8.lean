import Mathlib.Data.List.TakeDrop

/-!
# Texts as bytes

The UTF-8 of characters. A first byte tells that a character begins and the bytes behind it that one
goes on, so that bytes are the text of at most one list of characters.
-/

namespace ServiceContract.Json

/-- The bytes of a text. -/
def utf8 (cs : List Char) : List UInt8 := cs.flatMap String.utf8EncodeChar

@[simp] theorem utf8_nil : utf8 [] = [] := rfl

@[simp] theorem utf8_cons (c : Char) (cs : List Char) :
    utf8 (c :: cs) = String.utf8EncodeChar c ++ utf8 cs := rfl

@[simp] theorem utf8_append (cs ds : List Char) : utf8 (cs ++ ds) = utf8 cs ++ utf8 ds :=
  List.flatMap_append

theorem toByteArray_data (s : String) : s.toByteArray.data.toList = utf8 s.toList := by
  have hbytes : (String.ofList s.toList).toByteArray = (utf8 s.toList).toByteArray :=
    String.toByteArray_ofList
  rw [String.ofList_toList] at hbytes
  rw [hbytes, List.data_toByteArray]

/-- An ASCII character is one byte. -/
theorem utf8EncodeChar_of_le {c : Char} (h : c.toNat ≤ 127) :
    String.utf8EncodeChar c = [UInt8.ofNat c.toNat] := by
  unfold String.utf8EncodeChar
  exact if_pos h

/-- Characters outside ASCII have only bytes above it. -/
theorem le_of_mem_utf8EncodeChar {c : Char} (h : 128 ≤ c.toNat) :
    ∀ byte ∈ String.utf8EncodeChar c, 128 ≤ byte.toNat := by
  have hvalue : c.val.toNat = c.toNat := rfl
  intro byte hbyte
  unfold String.utf8EncodeChar at hbyte
  rw [hvalue] at hbyte
  dsimp only at hbyte
  rw [if_neg (by omega)] at hbyte
  split at hbyte
  · simp only [List.mem_cons, List.not_mem_nil, or_false] at hbyte
    rcases hbyte with rfl | rfl <;> rw [UInt8.toNat_ofNat'] <;> omega
  · split at hbyte
    · simp only [List.mem_cons, List.not_mem_nil, or_false] at hbyte
      rcases hbyte with rfl | rfl | rfl <;> rw [UInt8.toNat_ofNat'] <;> omega
    · simp only [List.mem_cons, List.not_mem_nil, or_false] at hbyte
      rcases hbyte with rfl | rfl | rfl | rfl <;> rw [UInt8.toNat_ofNat'] <;> omega

/-- The first byte of a character tells that one begins, the others do not. -/
theorem utf8EncodeChar_cons (c : Char) :
    ∃ byte tail, String.utf8EncodeChar c = byte :: tail ∧ byte.IsUTF8FirstByte ∧
      ∀ other ∈ tail, ¬ other.IsUTF8FirstByte := by
  have hfirst : ∀ i (hi : i < (String.utf8EncodeChar c).length),
      (String.utf8EncodeChar c)[i].IsUTF8FirstByte ↔ i = 0 :=
    fun i hi => UInt8.isUTF8FirstByte_getElem_utf8EncodeChar
  cases hbytes : String.utf8EncodeChar c with
  | nil => exact absurd hbytes String.utf8EncodeChar_ne_nil
  | cons byte tail =>
    simp only [hbytes] at hfirst
    refine ⟨byte, tail, rfl, (hfirst 0 (Nat.succ_pos _)).2 rfl, fun other hother => ?_⟩
    obtain ⟨i, hi, rfl⟩ := List.getElem_of_mem hother
    exact fun hother => absurd ((hfirst (i + 1) (Nat.succ_lt_succ hi)).1 hother) (Nat.succ_ne_zero i)

/-- Bytes tell which character they begin with. -/
theorem utf8EncodeChar_append_inj {c d : Char} {text rest : List UInt8}
    (h : String.utf8EncodeChar c ++ text = String.utf8EncodeChar d ++ rest) :
    c = d ∧ text = rest := by
  have hdecode : ∀ (c : Char) (text : List UInt8),
      (String.utf8EncodeChar c ++ text).toByteArray.utf8DecodeChar? 0 = some c := by
    intro c text
    rw [List.toByteArray_append, ← List.utf8Encode_singleton]
    exact List.utf8DecodeChar?_utf8Encode_singleton_append
  obtain rfl : c = d := Option.some.inj ((hdecode c text).symm.trans (h ▸ hdecode d rest))
  exact ⟨rfl, List.append_cancel_left h⟩

/-- The bytes of characters are a text of them. -/
theorem fromUTF8?_utf8 (cs : List Char) :
    String.fromUTF8? ⟨(utf8 cs).toArray⟩ = some (String.ofList cs) := by
  have hbytes : (⟨(utf8 cs).toArray⟩ : ByteArray) = cs.utf8Encode :=
    ByteArray.ext List.data_toByteArray.symm
  rw [hbytes]
  unfold String.fromUTF8?
  rw [dif_pos ByteArray.isValidUTF8_utf8Encode]
  rfl

/-- Bytes that are a text are the bytes of its characters. -/
theorem eq_utf8_of_fromUTF8? {bytes : List UInt8} {s : String}
    (h : String.fromUTF8? ⟨bytes.toArray⟩ = some s) : bytes = utf8 s.toList := by
  unfold String.fromUTF8? at h
  split at h
  · cases h
    rw [← toByteArray_data]
    rfl
  · cases h

/-! ## Texts -/

/-- A byte of ASCII is a character of its own. -/
theorem utf8EncodeChar_ofNat {byte : UInt8} (h : byte.toNat < 128) :
    String.utf8EncodeChar (Char.ofNat byte.toNat) = [byte] := by
  have hcode : (Char.ofNat byte.toNat).toNat = byte.toNat := by
    unfold Char.ofNat
    rw [dif_pos (Or.inl (by omega))]
    rfl
  rw [utf8EncodeChar_of_le (by omega), hcode, UInt8.ofNat_toNat]

/-- Bytes that are the UTF-8 of characters. -/
def IsText (bytes : List UInt8) : Prop := ∃ cs, bytes = utf8 cs

namespace IsText

theorem append {text rest : List UInt8} (h : IsText text) (hrest : IsText rest) :
    IsText (text ++ rest) := by
  obtain ⟨cs, rfl⟩ := h
  obtain ⟨ds, rfl⟩ := hrest
  exact ⟨cs ++ ds, (utf8_append cs ds).symm⟩

theorem cons {byte : UInt8} {rest : List UInt8} (hbyte : byte.toNat < 128) (hrest : IsText rest) :
    IsText (byte :: rest) :=
  append ⟨[Char.ofNat byte.toNat],
    by rw [utf8_cons, utf8EncodeChar_ofNat hbyte, utf8_nil, List.append_nil]⟩ hrest

/-- ASCII is UTF-8. -/
theorem of_ascii {text : List UInt8} (h : ∀ byte ∈ text, byte.toNat < 128) : IsText text := by
  induction text with
  | nil => exact ⟨[], rfl⟩
  | cons byte text ih =>
    exact cons (h byte List.mem_cons_self) (ih fun other hother => h other (.tail byte hother))

/-- Some bytes never occur. -/
theorem lt_of_mem {text : List UInt8} (h : IsText text) : ∀ byte ∈ text, byte.toNat < 0xf8 := by
  obtain ⟨cs, rfl⟩ := h
  intro byte hbyte
  obtain ⟨c, -, hbyte⟩ := List.mem_flatMap.1 hbyte
  unfold String.utf8EncodeChar at hbyte
  dsimp only at hbyte
  split at hbyte
  · rw [List.mem_singleton.1 hbyte, UInt8.toNat_ofNat']
    omega
  split at hbyte
  · simp only [List.mem_cons, List.not_mem_nil, or_false] at hbyte
    rcases hbyte with rfl | rfl <;> rw [UInt8.toNat_ofNat'] <;> omega
  split at hbyte
  · simp only [List.mem_cons, List.not_mem_nil, or_false] at hbyte
    rcases hbyte with rfl | rfl | rfl <;> rw [UInt8.toNat_ofNat'] <;> omega
  · simp only [List.mem_cons, List.not_mem_nil, or_false] at hbyte
    rcases hbyte with rfl | rfl | rfl | rfl <;> rw [UInt8.toNat_ofNat'] <;> omega

end IsText

end ServiceContract.Json
