import Mathlib.Tactic.IntervalCases
import ServiceContract.Json.Printer
import ServiceContract.Proofs.Json.Lexing

/-!
# A quoted string reads back

A character is written as itself or as an escape of it, so that what stands between the quotes of a
written string is a text of its characters, and the string reads back.
-/

namespace ServiceContract.Json

/-- A control character is one unit, in its short or its long escape. -/
theorem stringUnit_control {n : Nat} (h : n < 0x20) :
    stringUnit (utf8 (escapeChar (Char.ofNat n))) = .ok ([UInt8.ofNat n], []) := by
  interval_cases n <;> rfl

/-- A character that does not stand for itself is one unit, which begins with a backslash. -/
theorem stringUnit_escapeChar {c : Char} (h : c = '"' ∨ c = '\\' ∨ c.val < 0x20) :
    (∃ cs, escapeChar c = '\\' :: cs) ∧
      stringUnit (utf8 (escapeChar c)) = .ok (String.utf8EncodeChar c, []) := by
  by_cases hquote : c = '"'
  · subst hquote
    exact ⟨⟨_, rfl⟩, rfl⟩
  by_cases hescape : c = '\\'
  · subst hescape
    exact ⟨⟨_, rfl⟩, rfl⟩
  have hcontrol : c.val < 0x20 := (h.resolve_left hquote).resolve_left hescape
  have hlow : c.toNat < 0x20 := UInt32.lt_iff_toNat_lt.1 hcontrol
  constructor
  · unfold escapeChar
    rw [if_neg hquote, if_neg hescape, if_pos hcontrol]
    repeat' split
    all_goals exact ⟨_, rfl⟩
  · have hunit := stringUnit_control hlow
    rwa [Char.ofNat_toNat, ← utf8EncodeChar_of_le (by omega)] at hunit

theorem escapeText_escapeChar {c : Char} (h : c = '"' ∨ c = '\\' ∨ c.val < 0x20) :
    EscapeText (utf8 (escapeChar c)) c := by
  obtain ⟨⟨cs, hcs⟩, hunit⟩ := stringUnit_escapeChar h
  have hbackslash : utf8 (escapeChar c) = 0x5c :: utf8 cs := by
    rw [hcs]
    rfl
  have hquote : ∀ tail, utf8 (escapeChar c) ≠ 0x22 :: tail := by
    intro tail heq
    exact absurd (List.cons.inj (hbackslash.symm.trans heq)).1 (by decide)
  rcases plain_or_escape_of_stringUnit hquote hunit with
    ⟨byte, hbyte, htext, -⟩ | ⟨front, d, hfront, htext, hbytes⟩
  · exact absurd (List.cons.inj (htext.symm.trans hbackslash)).1 hbyte.2.2
  · obtain ⟨rfl, -⟩ := utf8EncodeChar_append_inj (congrArg (· ++ []) hbytes)
    rwa [htext, List.append_nil]

/-- What is written between quotes is a text of the characters. -/
theorem charsText_escaped (cs : List Char) : CharsText (utf8 (cs.flatMap escapeChar)) cs := by
  induction cs with
  | nil => exact .nil
  | cons c cs ih =>
    rw [List.flatMap_cons, utf8_append]
    by_cases h : c = '"' ∨ c = '\\' ∨ c.val < 0x20
    · exact .escape (escapeText_escapeChar h) ih
    · obtain ⟨hquote, hnot⟩ := not_or.1 h
      obtain ⟨hescape, hcontrol⟩ := not_or.1 hnot
      have hlow : 0x20 ≤ c.toNat := Nat.not_lt.1 fun hlt => hcontrol (UInt32.lt_iff_toNat_lt.2 hlt)
      have hself : utf8 (escapeChar c) = String.utf8EncodeChar c := by
        unfold escapeChar
        rw [if_neg hquote, if_neg hescape, if_neg hcontrol]
        exact List.append_nil _
      rw [hself]
      exact .plain hlow hquote hescape ih

/-- Behind its opening quote a string is read up to its closing one. -/
theorem stringTail_escaped (s : String) (rest : List UInt8) :
    stringTail (utf8 (s.toList.flatMap escapeChar) ++ 0x22 :: rest) = .ok (s, rest) :=
  stringTail_eq_ok.2 ⟨_, charsText_escaped s.toList, rfl⟩

/-- The bytes of a quoted string. -/
theorem utf8_quote (s : String) :
    utf8 (quote s).toList = 0x22 :: (utf8 (s.toList.flatMap escapeChar) ++ [0x22]) := by
  unfold quote
  rw [String.toList_ofList, List.cons_append, utf8_cons, utf8_append]
  rfl

/-- A string reads back from its quoted form, whatever follows. -/
theorem string_quote (s : String) (rest : List UInt8) :
    string (utf8 (quote s).toList ++ rest) = .ok (s, rest) := by
  rw [utf8_quote, List.cons_append, List.append_assoc]
  exact stringTail_escaped s rest

end ServiceContract.Json
