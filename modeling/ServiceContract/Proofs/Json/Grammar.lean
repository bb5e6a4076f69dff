import ServiceContract.Json.Lexeme
import ServiceContract.Json.Value
import ServiceContract.Proofs.Json.Utf8

/-!
# The grammar of JSON texts

What a text looks like and what it stands for, without a word about how it is read. Strings are written
with characters, so that a text of this grammar is UTF-8 as a whole; the texts of values are told
apart by how many arrays and objects they may have inside one another. What is passed over has a grammar
of its own, which is about bytes: it asks for well-formed escapes and for no control characters, and
is satisfied with any other bytes in a string.
-/

namespace ServiceContract.Json

/-- Texts, each with what it stands for. -/
abbrev Grammar (α : Type) := List UInt8 → α → Prop

/-- Blanks and nothing else. -/
def Blanks (text : List UInt8) : Prop := ∀ byte ∈ text, isBlank byte = true

section Sequences

variable {α κ : Type}

/-- Blanks may stand on both sides. -/
inductive Spaced (G : Grammar α) : List UInt8 → α → Prop where
  /-- A text between blanks. -/
  | mk {before text after : List UInt8} {x : α} (hbefore : Blanks before) (h : G text x)
      (hafter : Blanks after) : Spaced G (before ++ (text ++ after)) x

/-- One or more items with commas between them. -/
inductive Items (G : Grammar α) : List UInt8 → List α → Prop where
  /-- A single item. -/
  | one {text : List UInt8} {x : α} (h : Spaced G text x) : Items G text [x]
  /-- An item in front of others. -/
  | more {text rest : List UInt8} {x : α} {xs : List α} (h : Spaced G text x)
      (hrest : Items G rest xs) : Items G (text ++ 0x2c :: rest) (x :: xs)

/-- Items between an opening and a closing byte. -/
inductive Enclosed (opening closing : UInt8) (G : Grammar α) : List UInt8 → List α → Prop where
  /-- There are none. -/
  | none {inner : List UInt8} (h : Blanks inner) :
      Enclosed opening closing G (opening :: (inner ++ [closing])) []
  /-- There are some. -/
  | some {inner : List UInt8} {xs : List α} (h : Items G inner xs) :
      Enclosed opening closing G (opening :: (inner ++ [closing])) xs

/-- A key and a value with a colon between them. -/
inductive MemberText (K : Grammar κ) (G : Grammar α) : List UInt8 → κ × α → Prop where
  /-- Blanks may stand on both sides of the colon. -/
  | mk {keyText before after text : List UInt8} {key : κ} {x : α} (hkey : K keyText key)
      (hbefore : Blanks before) (hafter : Blanks after) (h : G text x) :
      MemberText K G (keyText ++ (before ++ 0x3a :: (after ++ text))) (key, x)

end Sequences

/-! ## Strings -/

/-- An escape and its character. -/
inductive EscapeText : List UInt8 → Char → Prop where
  /-- A backslash and a letter. -/
  | short {letter byte : UInt8} (h : shortEscape? letter = some byte) :
      EscapeText [0x5c, letter] (Char.ofNat byte.toNat)
  /-- A code point that is not a surrogate, by its four digits. -/
  | unit {a b c d : UInt8} {code : Nat} (h : hexUnit? a b c d = some code)
      (hhigh : isHighSurrogate code = false) (hlow : isLowSurrogate code = false) :
      EscapeText [0x5c, 0x75, a, b, c, d] (Char.ofNat code)
  /-- A code point by its two surrogates. -/
  | pair {a b c d e f g h : UInt8} {high low : Nat} (hfirst : hexUnit? a b c d = some high)
      (hsecond : hexUnit? e f g h = some low) (hhigh : isHighSurrogate high = true)
      (hlow : isLowSurrogate low = true) :
      EscapeText [0x5c, 0x75, a, b, c, d, 0x5c, 0x75, e, f, g, h]
        (Char.ofNat (0x10000 + (high - 0xd800) * 0x400 + (low - 0xdc00)))

/-- What stands between quotes and the characters it is worth. -/
inductive CharsText : List UInt8 → List Char → Prop where
  /-- Nothing. -/
  | nil : CharsText [] []
  /-- A character that stands for itself. -/
  | plain {c : Char} {text : List UInt8} {cs : List Char} (hlow : 0x20 ≤ c.toNat) (hquote : c ≠ '"')
      (hescape : c ≠ '\\') (h : CharsText text cs) :
      CharsText (String.utf8EncodeChar c ++ text) (c :: cs)
  /-- An escape. -/
  | escape {front text : List UInt8} {c : Char} {cs : List Char} (hfront : EscapeText front c)
      (h : CharsText text cs) : CharsText (front ++ text) (c :: cs)

/-- A quoted string. -/
inductive QuotedText : List UInt8 → String → Prop where
  /-- Characters between quotes. -/
  | mk {inner : List UInt8} {s : String} (h : CharsText inner s.toList) :
      QuotedText (0x22 :: (inner ++ [0x22])) s

/-! ## Numbers -/

/-- At least one digit. -/
def Digits (text : List UInt8) : Prop := text ≠ [] ∧ ∀ byte ∈ text, isDigit byte = true

/-- The digits of an integer: a zero stands alone. -/
def WholeDigits (text : List UInt8) : Prop :=
  Digits text ∧ (text = [0x30] ∨ text.head? ≠ some 0x30)

/-- A minus or nothing. -/
inductive SignText : List UInt8 → Bool → Prop where
  /-- No sign. -/
  | none : SignText [] false
  /-- A minus. -/
  | minus : SignText [0x2d] true

/-- A point with digits or nothing. -/
inductive FractionText : List UInt8 → Option (List UInt8) → Prop where
  /-- No point. -/
  | none : FractionText [] none
  /-- A point and digits. -/
  | some {digits : List UInt8} (h : Digits digits) : FractionText (0x2e :: digits) (some digits)

/-- A power of ten or nothing. -/
inductive PowerText : List UInt8 → Option Int → Prop where
  /-- No power. -/
  | none : PowerText [] none
  /-- A power without a sign. -/
  | bare {letter : UInt8} {digits : List UInt8} (hletter : letter = 0x65 ∨ letter = 0x45)
      (h : Digits digits) : PowerText (letter :: digits) (some (digitsValue digits))
  /-- A power with a plus. -/
  | plus {letter : UInt8} {digits : List UInt8} (hletter : letter = 0x65 ∨ letter = 0x45)
      (h : Digits digits) : PowerText (letter :: 0x2b :: digits) (some (digitsValue digits))
  /-- A power with a minus. -/
  | minus {letter : UInt8} {digits : List UInt8} (hletter : letter = 0x65 ∨ letter = 0x45)
      (h : Digits digits) : PowerText (letter :: 0x2d :: digits) (some (-(digitsValue digits : Int)))

/-- A written number with its parts. -/
inductive DecimalText : List UInt8 → NumberText → Prop where
  /-- The parts stand in order. -/
  | mk {sign whole fraction power : List UInt8} {negative : Bool} {places : Option (List UInt8)}
      {exponent : Option Int} (hsign : SignText sign negative) (hwhole : WholeDigits whole)
      (hfraction : FractionText fraction places) (hpower : PowerText power exponent) :
      DecimalText (sign ++ (whole ++ (fraction ++ power))) ⟨negative, whole, places, exponent⟩

/-! ## Values -/

/-- Texts with at most as many composites inside one another as a bound says. -/
def Nested {α : Type} (scalar : Grammar α) (composite : Grammar α → Grammar α) : Nat → Grammar α
  | 0 => scalar
  | depth + 1 => fun text x =>
    scalar text x ∨ composite (Nested scalar composite depth) text x

/-- A value that holds no others. -/
inductive ScalarText : List UInt8 → Value → Prop where
  /-- The word for null. -/
  | null : ScalarText [0x6e, 0x75, 0x6c, 0x6c] .null
  /-- The word for true. -/
  | true : ScalarText [0x74, 0x72, 0x75, 0x65] (.bool true)
  /-- The word for false. -/
  | false : ScalarText [0x66, 0x61, 0x6c, 0x73, 0x65] (.bool false)
  /-- A string. -/
  | string {text : List UInt8} {s : String} (h : QuotedText text s) : ScalarText text (.string s)
  /-- A number that is in range. -/
  | number {text : List UInt8} {t : NumberText} {n : Number} (h : DecimalText text t)
      (hvalue : t.value? = some n) : ScalarText text (.number n)

/-- An array or an object of values. -/
inductive CompositeText (G : Grammar Value) : List UInt8 → Value → Prop where
  /-- An array. -/
  | array {text : List UInt8} {items : List Value} (h : Enclosed 0x5b 0x5d G text items) :
      CompositeText G text (.array items)
  /-- An object, in which the last member of a key counts. -/
  | object {text : List UInt8} {pairs : List (String × Value)}
      (h : Enclosed 0x7b 0x7d (MemberText QuotedText G) text pairs) :
      CompositeText G text (.object (collectMembers pairs))

/-- A value with at most as many arrays and objects inside one another as the bound says. -/
def ValueText : Nat → Grammar Value := Nested ScalarText CompositeText

/-! ## What is passed over -/

/-- A byte that stands for itself inside a string. -/
def Plain (byte : UInt8) : Prop := 0x20 ≤ byte.toNat ∧ byte ≠ 0x22 ∧ byte ≠ 0x5c

/-- What stands between quotes, by its bytes. -/
inductive SkippedChars : List UInt8 → Prop where
  /-- Nothing. -/
  | nil : SkippedChars []
  /-- A byte that stands for itself. -/
  | plain {byte : UInt8} {text : List UInt8} (hbyte : Plain byte) (h : SkippedChars text) :
      SkippedChars (byte :: text)
  /-- A backslash and a letter. -/
  | short {letter : UInt8} {text : List UInt8} (hletter : (shortEscape? letter).isSome = true)
      (h : SkippedChars text) : SkippedChars (0x5c :: letter :: text)
  /-- Any code unit, by its four digits. -/
  | unit {a b c d : UInt8} {text : List UInt8} (hunit : (hexUnit? a b c d).isSome = true)
      (h : SkippedChars text) : SkippedChars (0x5c :: 0x75 :: a :: b :: c :: d :: text)

/-- A quoted string, by its bytes. -/
inductive SkippedQuoted : List UInt8 → Unit → Prop where
  /-- Bytes between quotes. -/
  | mk {inner : List UInt8} (h : SkippedChars inner) : SkippedQuoted (0x22 :: (inner ++ [0x22])) ()

/-- A member, by its bytes. -/
def SkippedMember (G : Grammar Unit) : Grammar Unit :=
  fun text _ => MemberText SkippedQuoted G text ((), ())

/-- A value that holds no others, by its bytes. -/
inductive SkippedScalar : List UInt8 → Unit → Prop where
  /-- The word for null. -/
  | null : SkippedScalar [0x6e, 0x75, 0x6c, 0x6c] ()
  /-- The word for true. -/
  | true : SkippedScalar [0x74, 0x72, 0x75, 0x65] ()
  /-- The word for false. -/
  | false : SkippedScalar [0x66, 0x61, 0x6c, 0x73, 0x65] ()
  /-- A string. -/
  | string {text : List UInt8} (h : SkippedQuoted text ()) : SkippedScalar text ()
  /-- A number of any size. -/
  | number {text : List UInt8} {t : NumberText} (h : DecimalText text t) : SkippedScalar text ()

/-- An array or an object, by its bytes. -/
inductive SkippedComposite (G : Grammar Unit) : List UInt8 → Unit → Prop where
  /-- An array. -/
  | array {text : List UInt8} {items : List Unit} (h : Enclosed 0x5b 0x5d G text items) :
      SkippedComposite G text ()
  /-- An object. -/
  | object {text : List UInt8} {members : List Unit}
      (h : Enclosed 0x7b 0x7d (SkippedMember G) text members) : SkippedComposite G text ()

/-- A value that is passed over, whatever its nesting. -/
def SkippedText : Grammar Unit :=
  fun text x => ∃ depth, Nested SkippedScalar SkippedComposite depth text x

/-! ## Texts are UTF-8 -/

theorem Blanks.isText {text : List UInt8} (h : Blanks text) : IsText text := by
  refine .of_ascii fun byte hbyte => ?_
  have hblank := h byte hbyte
  simp only [isBlank, Bool.or_eq_true, beq_iff_eq] at hblank
  rcases hblank with ((rfl | rfl) | rfl) | rfl <;> decide

section Sequences

variable {α κ : Type} {G : Grammar α} (hG : ∀ {text x}, G text x → IsText text)
include hG

theorem Spaced.isText {text : List UInt8} {x : α} (h : Spaced G text x) : IsText text := by
  obtain ⟨hbefore, h, hafter⟩ := h
  exact hbefore.isText.append ((hG h).append hafter.isText)

theorem Items.isText {text : List UInt8} {xs : List α} (h : Items G text xs) : IsText text := by
  induction h with
  | one h => exact h.isText hG
  | more h _ ih => exact (h.isText hG).append (.cons (by decide) ih)

theorem Enclosed.isText {opening closing : UInt8} (hopening : opening.toNat < 128)
    (hclosing : closing.toNat < 128) {text : List UInt8} {xs : List α}
    (h : Enclosed opening closing G text xs) : IsText text := by
  have hend : IsText [closing] := .cons hclosing ⟨[], rfl⟩
  cases h with
  | none h => exact .cons hopening (h.isText.append hend)
  | some h => exact .cons hopening ((h.isText hG).append hend)

theorem MemberText.isText {K : Grammar κ} (hK : ∀ {text key}, K text key → IsText text)
    {text : List UInt8} {pair : κ × α} (h : MemberText K G text pair) : IsText text := by
  obtain ⟨hkey, hbefore, hafter, h⟩ := h
  exact (hK hkey).append (hbefore.isText.append (.cons (by decide) (hafter.isText.append (hG h))))

end Sequences

/-! ### Texts of values -/

theorem isDigit_lt {byte : UInt8} (h : isDigit byte = true) : byte.toNat < 128 := by
  unfold isDigit at h
  obtain ⟨-, hhigh⟩ := Bool.and_eq_true_iff.1 h
  have hle := UInt8.le_iff_toNat_le.1 (of_decide_eq_true hhigh)
  exact Nat.lt_of_le_of_lt hle (by decide)

theorem hexValue?_lt {byte : UInt8} {n : Nat} (h : hexValue? byte = some n) : byte.toNat < 128 := by
  unfold hexValue? at h
  simp only [UInt8.le_iff_toNat_le] at h
  split at h
  · next hrange => exact Nat.lt_of_le_of_lt hrange.2 (by decide)
  split at h
  · next hrange => exact Nat.lt_of_le_of_lt hrange.2 (by decide)
  split at h
  · next hrange => exact Nat.lt_of_le_of_lt hrange.2 (by decide)
  · cases h

theorem hexUnit?_lt {a b c d : UInt8} {n : Nat} (h : hexUnit? a b c d = some n) :
    ∀ byte ∈ [a, b, c, d], byte.toNat < 128 := by
  simp only [hexUnit?, Option.bind_eq_bind, Option.bind_eq_some_iff] at h
  obtain ⟨_, ha, _, hb, _, hc, _, hd, -⟩ := h
  simp only [List.forall_mem_cons]
  exact ⟨hexValue?_lt ha, hexValue?_lt hb, hexValue?_lt hc, hexValue?_lt hd, nofun⟩

theorem shortEscape?_lt {letter byte : UInt8} (h : shortEscape? letter = some byte) :
    letter.toNat < 128 := by
  unfold shortEscape? at h
  split at h
  all_goals first | decide | cases h

theorem EscapeText.isText {text : List UInt8} {c : Char} (h : EscapeText text c) : IsText text := by
  cases h with
  | short h => exact .cons (by decide) (.cons (shortEscape?_lt h) ⟨[], rfl⟩)
  | unit h => exact .cons (by decide) (.cons (by decide) (.of_ascii (hexUnit?_lt h)))
  | pair hfirst hsecond =>
    exact .cons (by decide) (.cons (by decide) ((IsText.of_ascii (hexUnit?_lt hfirst)).append
      (.cons (by decide) (.cons (by decide) (.of_ascii (hexUnit?_lt hsecond))))))

theorem CharsText.isText {text : List UInt8} {cs : List Char} (h : CharsText text cs) :
    IsText text := by
  induction h with
  | nil => exact ⟨[], rfl⟩
  | @plain c _ _ _ _ _ _ ih => exact IsText.append ⟨[c], (List.append_nil _).symm⟩ ih
  | escape hfront _ ih => exact hfront.isText.append ih

theorem QuotedText.isText {text : List UInt8} {s : String} (h : QuotedText text s) :
    IsText text := by
  obtain ⟨h⟩ := h
  exact .cons (by decide) (h.isText.append ⟨['"'], rfl⟩)

theorem Digits.isText {text : List UInt8} (h : Digits text) : IsText text :=
  .of_ascii fun byte hbyte => isDigit_lt (h.2 byte hbyte)

theorem PowerText.isText {text : List UInt8} {exponent : Option Int} (h : PowerText text exponent) :
    IsText text := by
  have hascii : ∀ {letter : UInt8}, letter = 0x65 ∨ letter = 0x45 → letter.toNat < 128 := by
    rintro letter (rfl | rfl) <;> decide
  cases h with
  | none => exact ⟨[], rfl⟩
  | bare hletter h => exact .cons (hascii hletter) h.isText
  | plus hletter h => exact .cons (hascii hletter) (.cons (by decide) h.isText)
  | minus hletter h => exact .cons (hascii hletter) (.cons (by decide) h.isText)

theorem DecimalText.isText {text : List UInt8} {t : NumberText} (h : DecimalText text t) :
    IsText text := by
  obtain ⟨hsign, hwhole, hfraction, hpower⟩ := h
  refine IsText.append ?_ (hwhole.1.isText.append (IsText.append ?_ hpower.isText))
  · cases hsign with
    | none => exact ⟨[], rfl⟩
    | minus => exact ⟨['-'], rfl⟩
  · cases hfraction with
    | none => exact ⟨[], rfl⟩
    | some h => exact .cons (by decide) h.isText

/-- Texts of values are UTF-8 as a whole. -/
theorem ValueText.isText {depth : Nat} {text : List UInt8} {v : Value} (h : ValueText depth text v) :
    IsText text := by
  have hscalar : ∀ {text v}, ScalarText text v → IsText text := by
    intro text v h
    cases h with
    | null => exact ⟨['n', 'u', 'l', 'l'], rfl⟩
    | true => exact ⟨['t', 'r', 'u', 'e'], rfl⟩
    | false => exact ⟨['f', 'a', 'l', 's', 'e'], rfl⟩
    | string h => exact h.isText
    | number h => exact h.isText
  induction depth generalizing text v with
  | zero => exact hscalar h
  | succ depth ih =>
    rcases h with h | h
    · exact hscalar h
    · cases h with
      | array h => exact h.isText ih (by decide) (by decide)
      | object h => exact h.isText (MemberText.isText ih QuotedText.isText) (by decide) (by decide)

end ServiceContract.Json
