import Mathlib.Data.List.TakeWhile
import ServiceContract.Proofs.Json.Grammar
import ServiceContract.Proofs.Runs

/-!
# Lexemes are read by their grammar

Strings and numbers are found exactly where the grammar has them, and with what it says that they
stand for. A string is read by its bytes and judged as a whole, where the grammar speaks of
characters: bytes that go on with a character cannot be an escape, which is worth a whole one. A
number is read up to what does not continue it, so that its end has to be known.
-/

namespace ServiceContract.Json

/-! ## Blanks -/

/-- No blank comes first. -/
def NoBlank : List UInt8 → Prop
  | [] => True
  | byte :: _ => isBlank byte = false

theorem NoBlank.skipBlanks {text : List UInt8} (h : NoBlank text) : skipBlanks text = text := by
  cases text with
  | nil => rfl
  | cons byte text => exact List.dropWhile_cons_of_neg (Bool.eq_false_iff.1 h)

theorem skipBlanks_append {before : List UInt8} (h : Blanks before) (rest : List UInt8) :
    skipBlanks (before ++ rest) = skipBlanks rest :=
  List.dropWhile_append_of_pos h

/-- A text is its blanks and what stands behind them. -/
theorem exists_blanks (text : List UInt8) :
    ∃ before, Blanks before ∧ text = before ++ skipBlanks text :=
  ⟨text.takeWhile isBlank, fun _ => List.mem_takeWhile_imp,
    (List.takeWhile_append_dropWhile).symm⟩

/-- What follows a step that succeeds. -/
theorem ok_bind {α β : Type} (x : α) (next : α → Except Fault β) :
    (Except.ok x >>= next) = next x := rfl

/-! ## Strings -/

theorem stringUnit_plain {byte : UInt8} (h : Plain byte) (rest : List UInt8) :
    stringUnit (byte :: rest) = .ok ([byte], rest) := by
  obtain ⟨hlow, -, hescape⟩ := h
  unfold stringUnit
  split
  · next heq => cases heq
  · next heq => exact absurd (List.cons.inj heq).1 hescape
  · next heq => exact absurd (List.cons.inj heq).1 hescape
  · next heq => exact absurd (List.cons.inj heq).1 hescape
  · next heq =>
    obtain ⟨rfl, rfl⟩ := List.cons.inj heq
    refine if_neg ?_
    rw [UInt8.lt_iff_toNat_lt]
    exact Nat.not_lt.2 hlow

/-- The units that are found are put in front of what follows. -/
def inFront (bytes : List UInt8) (found : List UInt8 × List UInt8) : List UInt8 × List UInt8 :=
  (bytes ++ found.1, found.2)

/-- A unit that is not the closing quote is read as one. -/
theorem stringBytes_unit {text rest unit : List UInt8} (hquote : ∀ tail, text ≠ 0x22 :: tail)
    (hunit : stringUnit text = .ok (unit, rest)) (bound : Nat) :
    stringBytes (bound + 1) text = (stringBytes bound rest).map (inFront unit) := by
  rw [stringBytes]
  · rw [hunit, ok_bind]
    dsimp only
    cases stringBytes bound rest <;> rfl
  · exact hquote

theorem stringBytes_plain {bytes : List UInt8} (h : ∀ byte ∈ bytes, Plain byte)
    (rest : List UInt8) (bound : Nat) :
    stringBytes (bytes.length + bound) (bytes ++ rest) =
      (stringBytes bound rest).map (inFront bytes) := by
  induction bytes with
  | nil =>
    rw [List.length_nil, Nat.zero_add, List.nil_append]
    cases stringBytes bound rest <;> rfl
  | cons byte bytes ih =>
    have hplain := h byte List.mem_cons_self
    have hquote : ∀ tail, byte :: (bytes ++ rest) ≠ 0x22 :: tail :=
      fun tail heq => hplain.2.1 (List.cons.inj heq).1
    have htail := ih fun other hother => h other (List.mem_cons_of_mem byte hother)
    rw [List.length_cons, Nat.add_right_comm, List.cons_append,
      stringBytes_unit hquote (stringUnit_plain hplain _), htail]
    cases stringBytes bound rest <;> rfl

/-- A character that is not escaped has only bytes that stand for themselves. -/
theorem plain_utf8EncodeChar {c : Char} (hlow : 0x20 ≤ c.toNat) (hquote : c ≠ '"')
    (hescape : c ≠ '\\') : ∀ byte ∈ String.utf8EncodeChar c, Plain byte := by
  intro byte hbyte
  by_cases hascii : c.toNat ≤ 127
  · rw [utf8EncodeChar_of_le hascii, List.mem_singleton] at hbyte
    have hvalue : byte.toNat = c.toNat := by
      rw [hbyte, UInt8.toNat_ofNat']
      omega
    refine ⟨by omega, ?_, ?_⟩
    · rintro rfl
      exact hquote (Char.toNat_inj.1 hvalue.symm)
    · rintro rfl
      exact hescape (Char.toNat_inj.1 hvalue.symm)
  · have hlarge := le_of_mem_utf8EncodeChar (by omega) byte hbyte
    refine ⟨by omega, ?_, ?_⟩
    · rintro rfl
      exact absurd hlarge (by decide)
    · rintro rfl
      exact absurd hlarge (by decide)

/-- What stands between quotes and its bytes, as it is read. -/
inductive Units : List UInt8 → List UInt8 → Prop where
  /-- Nothing. -/
  | nil : Units [] []
  /-- A byte that stands for itself. -/
  | plain {byte : UInt8} {text bytes : List UInt8} (hbyte : Plain byte) (h : Units text bytes) :
      Units (byte :: text) (byte :: bytes)
  /-- An escape. -/
  | escape {front text bytes : List UInt8} {c : Char} (hfront : EscapeText front c)
      (h : Units text bytes) : Units (front ++ text) (String.utf8EncodeChar c ++ bytes)

/-- An escape is one unit, and it begins with a backslash. -/
theorem EscapeText.stringUnit {front : List UInt8} {c : Char} (h : EscapeText front c)
    (rest : List UInt8) : stringUnit (front ++ rest) = .ok (String.utf8EncodeChar c, rest) := by
  cases h with
  | short h =>
    unfold shortEscape? at h
    split at h
    all_goals cases h
    all_goals rfl
  | unit h hhigh hlow =>
    simp only [List.cons_append, List.nil_append, Json.stringUnit, h, hhigh, hlow]
    rfl
  | pair hfirst hsecond hhigh hlow =>
    simp only [List.cons_append, List.nil_append, Json.stringUnit, hfirst, hsecond, hhigh, hlow]
    rfl

theorem EscapeText.head {front : List UInt8} {c : Char} (h : EscapeText front c) :
    ∃ tail, front = 0x5c :: tail := by
  cases h <;> exact ⟨_, rfl⟩

/-- A byte that is no control character, no quote and no backslash stands for itself. -/
theorem plain_of_not {byte : UInt8} {rest : List UInt8} (hlow : ¬ byte < 0x20)
    (hquote : ∀ tail, byte :: rest ≠ 0x22 :: tail)
    (hletter : ∀ letter tail, byte = 0x5c → rest = letter :: tail → False)
    (hlast : byte = 0x5c → rest = [] → False) : Plain byte := by
  rw [UInt8.lt_iff_toNat_lt] at hlow
  refine ⟨Nat.not_lt.1 hlow, fun heq => hquote rest (by rw [heq]), fun heq => ?_⟩
  cases rest with
  | nil => exact hlast heq rfl
  | cons letter tail => exact hletter letter tail heq rfl

/-- A unit is a byte that stands for itself or an escape. -/
theorem plain_or_escape_of_stringUnit {text bytes rest : List UInt8}
    (hquote : ∀ tail, text ≠ 0x22 :: tail) (h : stringUnit text = .ok (bytes, rest)) :
    (∃ byte, Plain byte ∧ text = byte :: rest ∧ bytes = [byte]) ∨
      ∃ front c, EscapeText front c ∧ text = front ++ rest ∧ bytes = String.utf8EncodeChar c := by
  unfold stringUnit at h
  split at h
  · cases h
  · split at h
    · cases h
    · next code hcode =>
      split at h
      · next hhigh =>
        split at h
        · split at h
          · cases h
          · next low hlow =>
            split at h
            · next hislow =>
              obtain ⟨rfl, rfl⟩ := Prod.mk.inj (Except.ok.inj h)
              exact .inr ⟨_, _, .pair hcode hlow hhigh hislow, rfl, rfl⟩
            · cases h
        · cases h
      · next hhigh =>
        split at h
        · cases h
        · next hlow =>
          cases h
          exact .inr ⟨_, _, .unit hcode (Bool.eq_false_iff.2 hhigh) (Bool.eq_false_iff.2 hlow),
            rfl, rfl⟩
  · split at h
    · next byte hbyte =>
      have hascii : byte.toNat < 128 := by
        unfold shortEscape? at hbyte
        split at hbyte
        all_goals cases hbyte
        all_goals decide
      cases h
      exact .inr ⟨_, _, .short hbyte, rfl, (utf8EncodeChar_ofNat hascii).symm⟩
    · cases h
  · cases h
  · next byte rest' _ hletter hlast =>
    split at h
    · cases h
    · next hlow =>
      cases h
      exact .inl ⟨byte, plain_of_not hlow hquote hletter hlast, rfl, rfl⟩

theorem units_of_stringBytes {bound : Nat} {text bytes rest : List UInt8}
    (h : stringBytes bound text = .ok (bytes, rest)) :
    ∃ inner, Units inner bytes ∧ text = inner ++ 0x22 :: rest := by
  induction bound generalizing text bytes with
  | zero => cases h
  | succ bound ih =>
    by_cases hquote : ∀ tail, text ≠ 0x22 :: tail
    · -- It goes on with a unit.
      rw [stringBytes.eq_3 _ _ hquote] at h
      obtain ⟨⟨unit, text'⟩, hunit, h⟩ := bind_eq_ok.1 h
      obtain ⟨⟨units, rest'⟩, hunits, h⟩ := bind_eq_ok.1 h
      cases h
      obtain ⟨inner, hinner, rfl⟩ := ih hunits
      rcases plain_or_escape_of_stringUnit hquote hunit with
        ⟨byte, hbyte, rfl, rfl⟩ | ⟨front, c, hfront, rfl, rfl⟩
      · exact ⟨byte :: inner, .plain hbyte hinner, rfl⟩
      · exact ⟨front ++ inner, .escape hfront hinner, (List.append_assoc _ _ _).symm⟩
    · obtain ⟨tail, rfl⟩ := not_forall_not.1 hquote
      cases h
      exact ⟨[], .nil, rfl⟩

/-! ### Bytes of characters -/

/-- Bytes that go on with a character stand for themselves. -/
theorem Units.of_continuation {text conts bytes : List UInt8} (h : Units text (conts ++ bytes))
    (hconts : ∀ byte ∈ conts, ¬ byte.IsUTF8FirstByte) :
    ∃ rest, text = conts ++ rest ∧ Units rest bytes := by
  induction conts generalizing text with
  | nil => exact ⟨text, rfl, h⟩
  | cons byte conts ih =>
    rw [List.forall_mem_cons] at hconts
    generalize heq : byte :: conts ++ bytes = all at h
    cases h with
    | nil => cases heq
    | plain _ h =>
      obtain ⟨rfl, rfl⟩ := List.cons.inj heq
      obtain ⟨rest, rfl, hrest⟩ := ih h hconts.2
      exact ⟨rest, rfl, hrest⟩
    | escape _ h =>
      -- An escape is worth a whole character, so that a first byte would come here.
      obtain ⟨first, tail, hbytes, hfirst, -⟩ := utf8EncodeChar_cons _
      rw [hbytes] at heq
      exact absurd ((List.cons.inj heq).1 ▸ hfirst) hconts.1

/-- A character whose first byte stands for itself does so as a whole. -/
theorem plain_of_head {c : Char} {byte : UInt8} {tail : List UInt8}
    (hbytes : String.utf8EncodeChar c = byte :: tail) (h : Plain byte) :
    0x20 ≤ c.toNat ∧ c ≠ '"' ∧ c ≠ '\\' := by
  refine ⟨Nat.not_lt.1 fun hlow => ?_, ?_, ?_⟩
  · rw [utf8EncodeChar_of_le (by omega)] at hbytes
    have hvalue : byte.toNat = c.toNat := by
      rw [← (List.cons.inj hbytes).1, UInt8.toNat_ofNat']
      omega
    have := h.1
    omega
  · rintro rfl
    exact h.2.1 (List.cons.inj hbytes).1.symm
  · rintro rfl
    exact h.2.2 (List.cons.inj hbytes).1.symm

/-- Units that are worth the bytes of characters are the characters or escapes of them. -/
theorem Units.charsText {text : List UInt8} {cs : List Char} (h : Units text (utf8 cs)) :
    CharsText text cs := by
  -- By induction on the characters, since one that stands for itself may be several units.
  induction cs generalizing text with
  | nil =>
    generalize heq : utf8 [] = all at h
    cases h with
    | nil => exact .nil
    | plain => cases heq
    | escape => exact absurd (List.append_eq_nil_iff.1 heq.symm).1 String.utf8EncodeChar_ne_nil
  | cons c cs ih =>
    generalize heq : utf8 (c :: cs) = all at h
    rw [utf8_cons] at heq
    cases h with
    | nil => exact absurd (List.append_eq_nil_iff.1 heq).1 String.utf8EncodeChar_ne_nil
    | plain hbyte h =>
      obtain ⟨first, tail, hbytes, -, hconts⟩ := utf8EncodeChar_cons c
      rw [hbytes] at heq
      obtain ⟨rfl, rfl⟩ := List.cons.inj heq
      obtain ⟨rest, rfl, hrest⟩ := h.of_continuation hconts
      obtain ⟨hlow, hquote, hescape⟩ := plain_of_head hbytes hbyte
      have htext := CharsText.plain hlow hquote hescape (ih hrest)
      rwa [hbytes] at htext
    | escape hfront h =>
      obtain ⟨rfl, rfl⟩ := utf8EncodeChar_append_inj heq
      exact .escape hfront (ih h)

/-! ### Whole strings -/

theorem CharsText.stringBytes {inner : List UInt8} {cs : List Char} (h : CharsText inner cs)
    (rest : List UInt8) {bound : Nat} (hbound : inner.length < bound) :
    stringBytes bound (inner ++ 0x22 :: rest) = .ok (utf8 cs, rest) := by
  induction h generalizing bound with
  | nil =>
    obtain ⟨bound, rfl⟩ := Nat.exists_eq_add_one_of_ne_zero (Nat.ne_of_gt hbound)
    rfl
  | @plain c text cs hlow hquote hescape _ ih =>
    rw [List.length_append] at hbound
    obtain ⟨smaller, rfl⟩ : ∃ smaller, bound = (String.utf8EncodeChar c).length + smaller :=
      Nat.exists_eq_add_of_le (by omega)
    rw [List.append_assoc, stringBytes_plain (plain_utf8EncodeChar hlow hquote hescape),
      ih (by omega)]
    rfl
  | @escape front text c cs hfront _ ih =>
    obtain ⟨tail, rfl⟩ := hfront.head
    obtain ⟨bound, rfl⟩ := Nat.exists_eq_add_one_of_ne_zero (Nat.ne_of_gt (Nat.zero_lt_of_lt hbound))
    rw [List.length_append, List.length_cons] at hbound
    have hquote : ∀ other, 0x5c :: tail ++ (text ++ 0x22 :: rest) ≠ 0x22 :: other :=
      fun _ heq => absurd (List.cons.inj heq).1 (by decide)
    rw [List.append_assoc, stringBytes_unit hquote (hfront.stringUnit _), ih (by omega)]
    rfl

theorem stringTail_eq_ok {text rest : List UInt8} {s : String} :
    stringTail text = .ok (s, rest) ↔
      ∃ inner, CharsText inner s.toList ∧ text = inner ++ 0x22 :: rest := by
  unfold stringTail
  rw [bind_eq_ok]
  constructor
  · rintro ⟨⟨bytes, rest'⟩, hbytes, h⟩
    obtain ⟨inner, hinner, rfl⟩ := units_of_stringBytes hbytes
    dsimp only at h
    split at h
    · next hs =>
      cases h
      rw [eq_utf8_of_fromUTF8? hs] at hinner
      exact ⟨inner, hinner.charsText, rfl⟩
    · cases h
  · rintro ⟨inner, hinner, rfl⟩
    refine ⟨(utf8 s.toList, rest), hinner.stringBytes rest ?_, ?_⟩
    · rw [List.length_append]
      omega
    · dsimp only
      rw [fromUTF8?_utf8, String.ofList_toList]
      rfl

theorem string_eq_ok {text rest : List UInt8} {s : String} :
    string text = .ok (s, rest) ↔ ∃ raw, QuotedText raw s ∧ skipBlanks text = raw ++ rest := by
  unfold string
  constructor
  · intro h
    split at h
    · next tail htext =>
      obtain ⟨inner, hinner, rfl⟩ := stringTail_eq_ok.1 h
      exact ⟨_, ⟨hinner⟩, by rw [htext, List.cons_append, List.append_assoc]; rfl⟩
    · cases h
  · rintro ⟨_, ⟨hinner⟩, htext⟩
    rw [List.cons_append, List.append_assoc] at htext
    rw [htext]
    exact stringTail_eq_ok.2 ⟨_, hinner, rfl⟩

/-! ### Strings that are passed over -/

theorem skippedUnit_eq_ok {text rest : List UInt8} (hquote : ∀ tail, text ≠ 0x22 :: tail)
    (h : skippedUnit text = .ok rest) {inner : List UInt8} (hinner : SkippedChars inner) :
    ∃ front, text = front ++ rest ∧ SkippedChars (front ++ inner) := by
  unfold skippedUnit at h
  split at h
  · cases h
  · next a b c d tail =>
    split at h
    · next hunit =>
      cases h
      exact ⟨[0x5c, 0x75, a, b, c, d], rfl, .unit hunit hinner⟩
    · cases h
  · next letter tail _ =>
    split at h
    · next hletter =>
      cases h
      exact ⟨[0x5c, letter], rfl, .short hletter hinner⟩
    · cases h
  · cases h
  · next byte tail _ hletter hlast =>
    split at h
    · cases h
    · next hlow =>
      cases h
      exact ⟨[byte], rfl, .plain (plain_of_not hlow hquote hletter hlast) hinner⟩

theorem skippedChars_of_skipStringTail {bound : Nat} {text rest : List UInt8}
    (h : skipStringTail bound text = .ok rest) :
    ∃ inner, SkippedChars inner ∧ text = inner ++ 0x22 :: rest := by
  induction bound generalizing text with
  | zero => cases h
  | succ bound ih =>
    by_cases hquote : ∀ tail, text ≠ 0x22 :: tail
    · rw [skipStringTail.eq_3 _ _ hquote] at h
      obtain ⟨text', hunit, h⟩ := bind_eq_ok.1 h
      obtain ⟨inner, hinner, rfl⟩ := ih h
      obtain ⟨front, rfl, hfront⟩ := skippedUnit_eq_ok hquote hunit hinner
      exact ⟨front ++ inner, hfront, (List.append_assoc _ _ _).symm⟩
    · obtain ⟨tail, rfl⟩ := not_forall_not.1 hquote
      cases h
      exact ⟨[], .nil, rfl⟩

theorem skippedUnit_plain {byte : UInt8} (h : Plain byte) (rest : List UInt8) :
    skippedUnit (byte :: rest) = .ok rest := by
  obtain ⟨hlow, -, hescape⟩ := h
  unfold skippedUnit
  split
  · next heq => cases heq
  · next heq => exact absurd (List.cons.inj heq).1 hescape
  · next heq => exact absurd (List.cons.inj heq).1 hescape
  · next heq => exact absurd (List.cons.inj heq).1 hescape
  · next heq =>
    obtain ⟨rfl, rfl⟩ := List.cons.inj heq
    refine if_neg ?_
    rw [UInt8.lt_iff_toNat_lt]
    exact Nat.not_lt.2 hlow

theorem skippedUnit_short {letter : UInt8} (h : (shortEscape? letter).isSome = true)
    (rest : List UInt8) : skippedUnit (0x5c :: letter :: rest) = .ok rest := by
  unfold skippedUnit
  split
  · next heq => cases heq
  · next heq =>
    obtain ⟨rfl, -⟩ := List.cons.inj (List.cons.inj heq).2
    cases h
  · next heq =>
    obtain ⟨-, hletter⟩ := List.cons.inj heq
    obtain ⟨rfl, rfl⟩ := List.cons.inj hletter
    exact if_pos h
  · next heq => cases heq
  · next hletter _ heq =>
    obtain ⟨rfl, rfl⟩ := List.cons.inj heq
    exact absurd rfl (hletter letter rest rfl)

theorem skipStringTail_unit {text rest : List UInt8} (hquote : ∀ tail, text ≠ 0x22 :: tail)
    (hunit : skippedUnit text = .ok rest) (bound : Nat) :
    skipStringTail (bound + 1) text = skipStringTail bound rest := by
  rw [skipStringTail.eq_3 _ _ hquote, hunit]
  rfl

theorem SkippedChars.skipStringTail {inner : List UInt8} (h : SkippedChars inner)
    (rest : List UInt8) {bound : Nat} (hbound : inner.length < bound) :
    skipStringTail bound (inner ++ 0x22 :: rest) = .ok rest := by
  have hescape : ∀ {text tail : List UInt8}, 0x5c :: text ≠ 0x22 :: tail :=
    fun heq => absurd (List.cons.inj heq).1 (by decide)
  obtain ⟨bound, rfl⟩ := Nat.exists_eq_add_one_of_ne_zero (Nat.ne_of_gt (Nat.zero_lt_of_lt hbound))
  induction h generalizing bound with
  | nil => rfl
  | @plain byte text hbyte _ ih =>
    rw [List.length_cons] at hbound
    obtain ⟨bound, rfl⟩ : ∃ smaller, bound = smaller + 1 := ⟨bound - 1, by omega⟩
    have hquote : ∀ tail, byte :: (text ++ 0x22 :: rest) ≠ 0x22 :: tail :=
      fun tail heq => hbyte.2.1 (List.cons.inj heq).1
    rw [List.cons_append, skipStringTail_unit hquote (skippedUnit_plain hbyte _), ih]
    omega
  | @short letter text hletter _ ih =>
    simp only [List.length_cons] at hbound
    obtain ⟨bound, rfl⟩ : ∃ smaller, bound = smaller + 1 := ⟨bound - 1, by omega⟩
    rw [List.cons_append, List.cons_append,
      skipStringTail_unit (fun _ => hescape) (skippedUnit_short hletter _), ih]
    omega
  | @unit a b c d text hunit _ ih =>
    simp only [List.length_cons] at hbound
    obtain ⟨bound, rfl⟩ : ∃ smaller, bound = smaller + 1 := ⟨bound - 1, by omega⟩
    have hread : skippedUnit (0x5c :: 0x75 :: a :: b :: c :: d :: (text ++ 0x22 :: rest)) =
        .ok (text ++ 0x22 :: rest) := if_pos hunit
    simp only [List.cons_append]
    rw [skipStringTail_unit (fun _ => hescape) hread, ih]
    omega

/-! ## Numbers -/

/-- The text does not continue a number or a word: it is at its end, or goes on with a comma or a
closing bracket. -/
def Delimits : List UInt8 → Prop
  | [] => True
  | byte :: _ => byte = 0x2c ∨ byte = 0x5d ∨ byte = 0x7d

/-- No digit comes first. -/
def NoDigit : List UInt8 → Prop
  | [] => True
  | byte :: _ => isDigit byte = false

theorem Delimits.noDigit {rest : List UInt8} (h : Delimits rest) : NoDigit rest := by
  cases rest with
  | nil => trivial
  | cons byte rest => rcases h with rfl | rfl | rfl <;> rfl

/-- No point comes first. -/
def NoPoint : List UInt8 → Prop
  | [] => True
  | byte :: _ => byte ≠ 0x2e

/-- No power of ten comes first. -/
def NoPower : List UInt8 → Prop
  | [] => True
  | byte :: _ => byte ≠ 0x65 ∧ byte ≠ 0x45

theorem Delimits.noPoint {rest : List UInt8} (h : Delimits rest) : NoPoint rest := by
  cases rest with
  | nil => trivial
  | cons byte rest => rcases h with rfl | rfl | rfl <;> exact fun heq => absurd heq (by decide)

theorem Delimits.noPower {rest : List UInt8} (h : Delimits rest) : NoPower rest := by
  cases rest with
  | nil => trivial
  | cons byte rest => rcases h with rfl | rfl | rfl <;> exact ⟨by decide, by decide⟩

theorem someDigits_append {digits rest : List UInt8} (hne : digits ≠ [])
    (hdigits : ∀ byte ∈ digits, isDigit byte = true) (hrest : NoDigit rest) :
    someDigits (digits ++ rest) = .ok (digits, rest) := by
  have htake : (digits ++ rest).takeWhile isDigit = digits := by
    rw [List.takeWhile_append_of_pos hdigits]
    cases rest with
    | nil => exact List.append_nil digits
    | cons byte rest =>
      rw [List.takeWhile_cons_of_neg (Bool.eq_false_iff.1 hrest), List.append_nil]
  have hdrop : (digits ++ rest).dropWhile isDigit = rest := by
    rw [List.dropWhile_append_of_pos hdigits]
    cases rest with
    | nil => rfl
    | cons byte rest => exact List.dropWhile_cons_of_neg (Bool.eq_false_iff.1 hrest)
  unfold someDigits
  rw [List.span_eq_takeWhile_dropWhile, htake, hdrop]
  cases digits with
  | nil => exact absurd rfl hne
  | cons digit digits => rfl

/-- The first byte of a numeral. -/
def BeginsNumber (byte : UInt8) : Prop := byte = 0x2d ∨ isDigit byte = true

instance (byte : UInt8) : Decidable (BeginsNumber byte) :=
  inferInstanceAs (Decidable (byte = 0x2d ∨ isDigit byte = true))

theorem someDigits_eq_ok {text digits rest : List UInt8} (hrest : NoDigit rest) :
    someDigits text = .ok (digits, rest) ↔ Digits digits ∧ text = digits ++ rest := by
  constructor
  · intro h
    unfold someDigits at h
    rw [List.span_eq_takeWhile_dropWhile] at h
    split at h
    · cases h
    · next digits' rest' hne heq =>
      cases h
      obtain ⟨rfl, rfl⟩ := Prod.mk.inj heq
      exact ⟨⟨hne, fun _ => List.mem_takeWhile_imp⟩, List.takeWhile_append_dropWhile.symm⟩
  · rintro ⟨⟨hne, hdigits⟩, rfl⟩
    exact someDigits_append hne hdigits hrest

theorem wholePart_eq_ok {text digits rest : List UInt8} (hrest : NoDigit rest) :
    wholePart text = .ok (digits, rest) ↔ WholeDigits digits ∧ text = digits ++ rest := by
  have hzero : Digits [0x30] := ⟨nofun, List.forall_mem_singleton.2 rfl⟩
  constructor
  · intro h
    unfold wholePart at h
    split at h
    · split at h
      · split at h
        · cases h
        · cases h
          exact ⟨⟨hzero, .inl rfl⟩, rfl⟩
      · cases h
        exact ⟨⟨hzero, .inl rfl⟩, rfl⟩
    · next hother =>
      obtain ⟨hdigits, rfl⟩ := (someDigits_eq_ok hrest).1 h
      refine ⟨⟨hdigits, .inr fun hhead => ?_⟩, rfl⟩
      obtain ⟨tail, rfl⟩ := List.head?_eq_some_iff.1 hhead
      exact hother _ rfl
  · rintro ⟨⟨hdigits, rfl | hhead⟩, rfl⟩
    · cases rest with
      | nil => rfl
      | cons byte rest => exact if_neg (Bool.eq_false_iff.1 hrest)
    · unfold wholePart
      split
      · next tail heq =>
        obtain ⟨digit, tail, rfl⟩ := List.exists_cons_of_ne_nil hdigits.1
        obtain ⟨rfl, -⟩ := List.cons.inj heq
        exact absurd rfl hhead
      · exact (someDigits_eq_ok hrest).2 ⟨hdigits, rfl⟩

theorem fractionPart_eq_ok {text rest : List UInt8} {places : Option (List UInt8)}
    (hdigit : NoDigit rest) (hpoint : NoPoint rest) :
    fractionPart text = .ok (places, rest) ↔
      ∃ raw, FractionText raw places ∧ text = raw ++ rest := by
  constructor
  · intro h
    unfold fractionPart at h
    split at h
    · obtain ⟨⟨digits, rest'⟩, hread, h⟩ := bind_eq_ok.1 h
      cases h
      obtain ⟨hdigits, rfl⟩ := (someDigits_eq_ok hdigit).1 hread
      exact ⟨_, .some hdigits, rfl⟩
    · cases h
      exact ⟨[], .none, rfl⟩
  · rintro ⟨_, hplaces, rfl⟩
    cases hplaces with
    | none =>
      unfold fractionPart
      split
      · next heq =>
        rw [List.nil_append] at heq
        rw [heq] at hpoint
        exact absurd rfl hpoint
      · rfl
    | @some digits hdigits =>
      exact bind_eq_ok.2 ⟨_, (someDigits_eq_ok hdigit).2 ⟨hdigits, rfl⟩, rfl⟩

theorem exponentPart_eq_ok {text rest : List UInt8} {exponent : Option Int}
    (hdigit : NoDigit rest) (hpower : NoPower rest) :
    exponentPart text = .ok (exponent, rest) ↔
      ∃ raw, PowerText raw exponent ∧ text = raw ++ rest := by
  constructor
  · intro h
    unfold exponentPart at h
    split at h
    · next letter tail =>
      split at h
      · next hletter =>
        rw [Bool.or_eq_true, beq_iff_eq, beq_iff_eq] at hletter
        split at h
        all_goals
          obtain ⟨⟨digits, rest'⟩, hread, h⟩ := bind_eq_ok.1 h
          cases h
          obtain ⟨hdigits, rfl⟩ := (someDigits_eq_ok hdigit).1 hread
        · exact ⟨_, .minus hletter hdigits, rfl⟩
        · exact ⟨_, .plus hletter hdigits, rfl⟩
        · exact ⟨_, .bare hletter hdigits, rfl⟩
      · cases h
        exact ⟨[], .none, rfl⟩
    · cases h
      exact ⟨[], .none, rfl⟩
  · rintro ⟨_, hexponent, rfl⟩
    have hread : ∀ {digits}, Digits digits → someDigits (digits ++ rest) = .ok (digits, rest) :=
      fun hdigits => (someDigits_eq_ok hdigit).2 ⟨hdigits, rfl⟩
    have hletter : ∀ {letter : UInt8}, letter = 0x65 ∨ letter = 0x45 →
        (letter == 0x65 || letter == 0x45) = true := by
      rintro letter (rfl | rfl) <;> rfl
    cases hexponent with
    | none =>
      cases rest with
      | nil => rfl
      | cons byte rest =>
        refine if_neg ?_
        rw [Bool.or_eq_true, beq_iff_eq, beq_iff_eq, not_or]
        exact hpower
    | @bare letter digits hl hdigits =>
      have hfirst : ∀ {sign tail}, digits ++ rest = sign :: tail → isDigit sign = true := by
        obtain ⟨digit, digits, rfl⟩ := List.exists_cons_of_ne_nil hdigits.1
        rintro sign tail heq
        obtain ⟨rfl, -⟩ := List.cons.inj heq
        exact hdigits.2 _ List.mem_cons_self
      refine (if_pos (hletter hl)).trans ?_
      split
      · next heq => exact absurd (hfirst heq) (by decide)
      · next heq => exact absurd (hfirst heq) (by decide)
      · exact bind_eq_ok.2 ⟨_, hread hdigits, rfl⟩
    | plus hl hdigits =>
      exact (if_pos (hletter hl)).trans (bind_eq_ok.2 ⟨_, hread hdigits, rfl⟩)
    | minus hl hdigits =>
      exact (if_pos (hletter hl)).trans (bind_eq_ok.2 ⟨_, hread hdigits, rfl⟩)

/-- Behind blanks the text is at its end, or goes on with a comma or a closing bracket. -/
def Ends (rest : List UInt8) : Prop := Delimits (skipBlanks rest)

theorem Delimits.noBlank {rest : List UInt8} (h : Delimits rest) : NoBlank rest := by
  cases rest with
  | nil => trivial
  | cons byte rest => rcases h with rfl | rfl | rfl <;> rfl

theorem Delimits.ends {rest : List UInt8} (h : Delimits rest) : Ends rest := by
  unfold Ends
  rwa [h.noBlank.skipBlanks]

theorem Ends.noNumber {rest : List UInt8} (h : Ends rest) :
    NoDigit rest ∧ NoPoint rest ∧ NoPower rest := by
  unfold Ends at h
  cases rest with
  | nil => exact ⟨trivial, trivial, trivial⟩
  | cons byte rest =>
    cases hblank : isBlank byte with
    | true =>
      have hother : ∀ other, isBlank other = false → byte ≠ other := by
        rintro other hother rfl
        exact Bool.noConfusion (hblank.symm.trans hother)
      refine ⟨?_, hother 0x2e rfl, hother 0x65 rfl, hother 0x45 rfl⟩
      simp only [isBlank, Bool.or_eq_true, beq_iff_eq] at hblank
      rcases hblank with ((rfl | rfl) | rfl) | rfl <;> rfl
    | false =>
      have hbyte : NoBlank (byte :: rest) := hblank
      rw [hbyte.skipBlanks] at h
      exact ⟨h.noDigit, h.noPoint, h.noPower⟩

/-- What stands behind the integer digits of a number. -/
theorem PowerText.noDigit {power rest : List UInt8} {exponent : Option Int}
    (h : PowerText power exponent) (hrest : Ends rest) :
    NoDigit (power ++ rest) ∧ NoPoint (power ++ rest) := by
  obtain ⟨hdigit, hpoint, -⟩ := hrest.noNumber
  have hstops : ∀ {letter : UInt8} {tail : List UInt8}, letter = 0x65 ∨ letter = 0x45 →
      NoDigit (letter :: tail) ∧ NoPoint (letter :: tail) := by
    rintro letter tail (rfl | rfl) <;> exact ⟨rfl, fun heq => absurd heq (by decide)⟩
  cases h with
  | none => exact ⟨hdigit, hpoint⟩
  | bare hletter => exact hstops hletter
  | plus hletter => exact hstops hletter
  | minus hletter => exact hstops hletter

theorem FractionText.noDigit {fraction rest : List UInt8} {places : Option (List UInt8)}
    (h : FractionText fraction places) (hrest : NoDigit rest) : NoDigit (fraction ++ rest) := by
  cases h with
  | none => exact hrest
  | some => rfl

/-- A number begins with its sign or a digit. -/
theorem DecimalText.begins {text : List UInt8} {t : NumberText} (h : DecimalText text t) :
    ∃ byte tail, text = byte :: tail ∧ BeginsNumber byte := by
  obtain ⟨hsign, ⟨⟨hne, hdigits⟩, -⟩, -, -⟩ := h
  cases hsign with
  | none =>
    obtain ⟨digit, digits, rfl⟩ := List.exists_cons_of_ne_nil hne
    exact ⟨digit, _, rfl, .inr (hdigits digit List.mem_cons_self)⟩
  | minus => exact ⟨0x2d, _, rfl, .inl rfl⟩

/-- The parts of a number behind its sign. -/
def unsigned (negative : Bool) : Reading NumberText := fun text => do
  let (whole, text) ← wholePart text
  let (fraction, text) ← fractionPart text
  let (exponent, text) ← exponentPart text
  return (⟨negative, whole, fraction, exponent⟩, text)

theorem numberText_eq_unsigned {sign text : List UInt8} {negative : Bool}
    (hsign : SignText sign negative) (hminus : sign = [] → ∀ tail, text ≠ 0x2d :: tail) :
    numberText (sign ++ text) = unsigned negative text := by
  cases hsign with
  | none =>
    unfold numberText
    rw [List.nil_append]
    split
    · next heq =>
      split at heq
      · exact absurd rfl (hminus rfl _)
      · cases heq
        rfl
  | minus => rfl

theorem unsigned_eq_ok {negative : Bool} {text rest : List UInt8} {t : NumberText}
    (hrest : Ends rest) :
    unsigned negative text = .ok (t, rest) ↔
      ∃ whole fraction power places exponent, WholeDigits whole ∧ FractionText fraction places ∧
        PowerText power exponent ∧ t = ⟨negative, whole, places, exponent⟩ ∧
        text = whole ++ (fraction ++ (power ++ rest)) := by
  obtain ⟨hdigit, -, hpower⟩ := hrest.noNumber
  constructor
  · intro h
    obtain ⟨⟨whole, text₁⟩, hwhole, h⟩ := bind_eq_ok.1 h
    obtain ⟨⟨places, text₂⟩, hplaces, h⟩ := bind_eq_ok.1 h
    obtain ⟨⟨exponent, text₃⟩, hexponent, h⟩ := bind_eq_ok.1 h
    cases h
    obtain ⟨power, hpowerText, rfl⟩ := (exponentPart_eq_ok hdigit hpower).1 hexponent
    obtain ⟨hdigit₂, hpoint₂⟩ := hpowerText.noDigit hrest
    obtain ⟨fraction, hfraction, rfl⟩ := (fractionPart_eq_ok hdigit₂ hpoint₂).1 hplaces
    obtain ⟨hwholeDigits, rfl⟩ := (wholePart_eq_ok (hfraction.noDigit hdigit₂)).1 hwhole
    exact ⟨whole, fraction, power, places, exponent, hwholeDigits, hfraction, hpowerText, rfl, rfl⟩
  · rintro ⟨whole, fraction, power, places, exponent, hwhole, hfraction, hpowerText, rfl, rfl⟩
    obtain ⟨hdigit₂, hpoint₂⟩ := hpowerText.noDigit hrest
    refine bind_eq_ok.2 ⟨_, (wholePart_eq_ok (hfraction.noDigit hdigit₂)).2 ⟨hwhole, rfl⟩, ?_⟩
    refine bind_eq_ok.2 ⟨_, (fractionPart_eq_ok hdigit₂ hpoint₂).2 ⟨_, hfraction, rfl⟩, ?_⟩
    exact bind_eq_ok.2 ⟨_, (exponentPart_eq_ok hdigit hpower).2 ⟨_, hpowerText, rfl⟩, rfl⟩

theorem numberText_eq_ok {text rest : List UInt8} {t : NumberText} (hrest : Ends rest) :
    numberText text = .ok (t, rest) ↔ ∃ raw, DecimalText raw t ∧ text = raw ++ rest := by
  constructor
  · intro h
    obtain ⟨sign, negative, tail, hsign, rfl, hminus⟩ : ∃ sign negative tail, SignText sign negative ∧
        text = sign ++ tail ∧ (sign = [] → ∀ other, tail ≠ 0x2d :: other) := by
      by_cases hminus : ∀ tail, text ≠ 0x2d :: tail
      · exact ⟨[], false, text, .none, rfl, fun _ => hminus⟩
      · obtain ⟨tail, rfl⟩ := not_forall_not.1 hminus
        exact ⟨[0x2d], true, tail, .minus, rfl, nofun⟩
    rw [numberText_eq_unsigned hsign hminus, unsigned_eq_ok hrest] at h
    obtain ⟨whole, fraction, power, places, exponent, hwhole, hfraction, hpower, rfl, rfl⟩ := h
    refine ⟨_, .mk hsign hwhole hfraction hpower, ?_⟩
    simp only [List.append_assoc]
  · rintro ⟨_, ⟨hsign, hwhole, hfraction, hpower⟩, rfl⟩
    simp only [List.append_assoc]
    rw [numberText_eq_unsigned hsign, unsigned_eq_ok hrest]
    · exact ⟨_, _, _, _, _, hwhole, hfraction, hpower, rfl, rfl⟩
    · -- The first digit is not a minus.
      rintro - tail heq
      obtain ⟨digit, digits, rfl⟩ := List.exists_cons_of_ne_nil hwhole.1.1
      obtain ⟨rfl, -⟩ := List.cons.inj heq
      exact absurd (hwhole.1.2 _ List.mem_cons_self) (by decide)

theorem number_eq_ok {text rest : List UInt8} {n : Number} (hrest : Ends rest) :
    number text = .ok (n, rest) ↔
      ∃ raw, (∃ t, DecimalText raw t ∧ t.value? = some n) ∧ text = raw ++ rest := by
  unfold number
  rw [bind_eq_ok]
  constructor
  · rintro ⟨⟨t, rest'⟩, hwritten, h⟩
    dsimp only at h
    split at h
    · next hvalue =>
      cases h
      obtain ⟨raw, hraw, heq⟩ := (numberText_eq_ok hrest).1 hwritten
      exact ⟨raw, ⟨t, hraw, hvalue⟩, heq⟩
    · cases h
  · rintro ⟨raw, ⟨t, hraw, hvalue⟩, heq⟩
    refine ⟨_, (numberText_eq_ok hrest).2 ⟨raw, hraw, heq⟩, ?_⟩
    dsimp only
    rw [hvalue]
    rfl

end ServiceContract.Json
