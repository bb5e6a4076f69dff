import ServiceContract.Proofs.Binary64.Scaling
import ServiceContract.Proofs.Json.Lexing

/-!
# What written numbers are read as

What a number is written as is a numeral: a sign, digits before the point, digits behind it and a
power of ten, of which the last two may be missing. Every well-formed numeral is a text of its parts,
so that the parts are found again, whatever stands behind, as long as it does not continue a number.
An integer is read as itself. For a floating-point number the digits say which one is meant, since it is
the one nearest to them; but the reader does not look for the nearest one, so that it may read another.
It finds the number if there are few digits and the power of ten is small.
-/

namespace ServiceContract.Json

/-! ## Digits -/

/-- The byte of a digit. -/
theorem utf8EncodeChar_digit {c : Char} (h : c.isDigit = true) :
    String.utf8EncodeChar c = [UInt8.ofNat c.toNat] ∧ isDigit (UInt8.ofNat c.toNat) = true ∧
      (UInt8.ofNat c.toNat).toNat = c.toNat := by
  have hrange : 48 ≤ c.toNat ∧ c.toNat ≤ 57 := by
    unfold Char.isDigit at h
    obtain ⟨hlow, hhigh⟩ := Bool.and_eq_true_iff.1 h
    exact ⟨of_decide_eq_true hlow, of_decide_eq_true hhigh⟩
  have hvalue : (UInt8.ofNat c.toNat).toNat = c.toNat := by
    rw [UInt8.toNat_ofNat']
    omega
  refine ⟨utf8EncodeChar_of_le (by omega), ?_, hvalue⟩
  unfold isDigit
  rw [Bool.and_eq_true_iff, decide_eq_true_iff, decide_eq_true_iff, UInt8.le_iff_toNat_le,
    UInt8.le_iff_toNat_le, hvalue]
  exact hrange

/-- A text of digits only. -/
def AllDigits (cs : List Char) : Prop := ∀ c ∈ cs, c.isDigit = true

theorem AllDigits.append {cs ds : List Char} (hc : AllDigits cs) (hd : AllDigits ds) :
    AllDigits (cs ++ ds) := fun c h => (List.mem_append.1 h).elim (hc c) (hd c)

theorem AllDigits.replicate_zero (n : Nat) : AllDigits (List.replicate n '0') := by
  intro c hc
  rw [List.eq_of_mem_replicate hc]
  rfl

theorem allDigits_toDigits (n : Nat) : AllDigits (Nat.toDigits 10 n) :=
  fun _ => Nat.isDigit_of_mem_toDigits (by decide) (by decide)

theorem AllDigits.isDigit_utf8 {cs : List Char} (h : AllDigits cs) :
    ∀ byte ∈ utf8 cs, isDigit byte = true := by
  intro byte hbyte
  obtain ⟨c, hc, hmem⟩ := List.mem_flatMap.1 hbyte
  obtain ⟨hencode, hdigit, -⟩ := utf8EncodeChar_digit (h c hc)
  rw [hencode, List.mem_singleton] at hmem
  rw [hmem]
  exact hdigit

theorem AllDigits.length_utf8 {cs : List Char} (h : AllDigits cs) :
    (utf8 cs).length = cs.length := by
  induction cs with
  | nil => rfl
  | cons c cs ih =>
    have htail := ih fun d hd => h d (List.mem_cons_of_mem c hd)
    rw [utf8_cons, (utf8EncodeChar_digit (h c List.mem_cons_self)).1, List.length_append, htail]
    exact Nat.add_comm _ _

/-- Digits are worth as bytes what they are worth as characters. -/
theorem AllDigits.digitsValue_utf8 {cs : List Char} (h : AllDigits cs) :
    digitsValue (utf8 cs) = Nat.ofDigitChars 10 cs 0 := by
  have step : ∀ n : Nat, (utf8 cs).foldl (fun n digit => n * 10 + (digit.toNat - 0x30)) n =
      Nat.ofDigitChars 10 cs n := by
    induction cs with
    | nil => exact fun n => rfl
    | cons c cs ih =>
      intro n
      obtain ⟨hencode, -, hvalue⟩ := utf8EncodeChar_digit (h c List.mem_cons_self)
      rw [utf8_cons, hencode, List.singleton_append, List.foldl_cons, hvalue, Nat.mul_comm n,
        ih fun d hd => h d (List.mem_cons_of_mem c hd)]
      rfl
  exact step 0

/-- The digits of a positive number do not begin with a zero. -/
theorem head?_toDigits_ne {n : Nat} (hn : 0 < n) : (Nat.toDigits 10 n).head? ≠ some '0' := by
  induction n using Nat.strongRecOn with
  | ind n ih =>
    rw [Nat.toDigits_eq_if (by decide)]
    by_cases hsmall : n < 10
    · have hdigit : ∀ d < 10, 0 < d → some (Nat.digitChar d) ≠ some '0' := by decide
      rw [if_pos hsmall]
      exact hdigit n hsmall hn
    · have hpos : 0 < n / 10 := by omega
      obtain ⟨c, cs, hdigits⟩ := List.exists_cons_of_ne_nil (@Nat.toDigits_ne_nil (n / 10) 10)
      have hhead := ih (n / 10) (by omega) hpos
      rw [if_neg hsmall, hdigits, List.cons_append, List.head?_cons]
      rwa [hdigits, List.head?_cons] at hhead

/-! ## Numerals -/

/-- A number as it is written. -/
structure Numeral where
  /-- A minus stands in front. -/
  negative : Bool
  /-- The digits before the point. -/
  whole : List Char
  /-- The digits behind the point, if there is one. -/
  fraction : Option (List Char)
  /-- The power of ten, if there is one: whether it is negative, and its digits. -/
  power : Option (Bool × List Char)

namespace Numeral

/-- The characters behind the digits before the point, from the point on. -/
def fractionChars (fraction : Option (List Char)) : List Char :=
  match fraction with
  | none => []
  | some digits => '.' :: digits

/-- The characters of the power of ten. -/
def powerChars (power : Option (Bool × List Char)) : List Char :=
  match power with
  | none => []
  | some (negative, digits) => 'e' :: (if negative then '-' else '+') :: digits

/-- The characters of a numeral. -/
def chars (n : Numeral) : List Char :=
  (if n.negative then ['-'] else []) ++ n.whole ++ fractionChars n.fraction ++ powerChars n.power

/-- A numeral that the format knows. -/
structure WellFormed (n : Numeral) : Prop where
  /-- Some digits stand before the point. -/
  whole_ne : n.whole ≠ []
  /-- Only digits do. -/
  whole_digits : AllDigits n.whole
  /-- A zero stands there alone. -/
  whole_head : n.whole = ['0'] ∨ n.whole.head? ≠ some '0'
  /-- Behind a point some digits stand, and nothing else. -/
  fraction : ∀ digits, n.fraction = some digits → digits ≠ [] ∧ AllDigits digits
  /-- So they do in a power of ten. -/
  power : ∀ negative digits, n.power = some (negative, digits) → digits ≠ [] ∧ AllDigits digits

/-- The power of ten that is meant. -/
def powerValue (power : Bool × List Char) : Int :=
  if power.1 then -(Nat.ofDigitChars 10 power.2 0 : Int) else Nat.ofDigitChars 10 power.2 0

/-- The parts that the reader finds. -/
def parts (n : Numeral) : NumberText where
  negative := n.negative
  whole := utf8 n.whole
  fraction := n.fraction.map utf8
  exponent := n.power.map powerValue

end Numeral

/-! ## Numerals are texts of their parts -/

theorem AllDigits.digits {cs : List Char} (h : AllDigits cs) (hne : cs ≠ []) : Digits (utf8 cs) := by
  refine ⟨fun hnil => ?_, h.isDigit_utf8⟩
  have hlength := h.length_utf8
  rw [hnil, List.length_nil] at hlength
  exact hne (List.length_eq_zero_iff.1 hlength.symm)

namespace Numeral.WellFormed

variable {n : Numeral} (h : n.WellFormed)
include h

theorem wholeDigits : WholeDigits (utf8 n.whole) := by
  refine ⟨h.whole_digits.digits h.whole_ne, ?_⟩
  rcases h.whole_head with hzero | hhead
  · rw [hzero]
    exact .inl rfl
  · obtain ⟨c, cs, hwhole⟩ := List.exists_cons_of_ne_nil h.whole_ne
    obtain ⟨hencode, -, hvalue⟩ := utf8EncodeChar_digit
      (h.whole_digits c (by rw [hwhole]; exact List.mem_cons_self))
    rw [hwhole] at hhead ⊢
    rw [utf8_cons, hencode]
    refine .inr fun hbyte => hhead ?_
    -- The first byte is that of a zero only if the first character is one.
    rw [Option.some.inj hbyte] at hvalue
    exact congrArg some (Char.toNat_inj.1 hvalue.symm)

theorem fractionText :
    FractionText (utf8 (fractionChars n.fraction)) (n.fraction.map utf8) := by
  cases hfraction : n.fraction with
  | none => exact .none
  | some digits =>
    obtain ⟨hne, hdigits⟩ := h.fraction digits hfraction
    exact .some (hdigits.digits hne)

theorem powerText : PowerText (utf8 (powerChars n.power)) (n.power.map powerValue) := by
  cases hpower : n.power with
  | none => exact .none
  | some power =>
    obtain ⟨negative, digits⟩ := power
    obtain ⟨hne, hdigits⟩ := h.power negative digits hpower
    have hvalue := hdigits.digitsValue_utf8
    cases negative with
    | true =>
      have htext := PowerText.minus (.inl rfl) (hdigits.digits hne)
      rwa [hvalue] at htext
    | false =>
      have htext := PowerText.plus (.inl rfl) (hdigits.digits hne)
      rwa [hvalue] at htext

/-- The characters of a numeral are a number with its parts. -/
theorem decimalText : DecimalText (utf8 n.chars) n.parts := by
  have hsign : SignText (utf8 (if n.negative then ['-'] else [])) n.negative := by
    cases n.negative with
    | true => exact .minus
    | false => exact .none
  unfold chars
  simp only [utf8_append, List.append_assoc]
  exact .mk hsign h.wholeDigits h.fractionText h.powerText

end Numeral.WellFormed

/-! ## What a numeral is worth -/

namespace Numeral

/-- The decimal that a numeral stands for, without its sign. -/
def decimal (n : Numeral) : Decimal where
  digits := Nat.ofDigitChars 10 (n.whole ++ n.fraction.getD []) 0
  exponent := (n.power.map powerValue).getD 0 - (n.fraction.getD []).length

theorem WellFormed.fraction_digits {n : Numeral} (h : n.WellFormed) :
    AllDigits (n.fraction.getD []) := by
  cases hfraction : n.fraction with
  | none => exact fun c hc => absurd hc List.not_mem_nil
  | some digits => exact (h.fraction digits hfraction).2

/-- The digits of a numeral as bytes are worth the digits of its decimal. -/
theorem WellFormed.digitsValue_parts {n : Numeral} (h : n.WellFormed) :
    digitsValue (n.parts.whole ++ n.parts.fraction.getD []) = n.decimal.digits := by
  have hall := (h.whole_digits.append h.fraction_digits).digitsValue_utf8
  rw [utf8_append] at hall
  unfold parts decimal
  dsimp only
  rw [← hall]
  cases n.fraction <;> rfl

theorem WellFormed.exponent_parts {n : Numeral} (h : n.WellFormed) :
    n.parts.exponent.getD 0 - ((n.parts.fraction.getD []).length : Nat) = n.decimal.exponent := by
  have hlength := h.fraction_digits.length_utf8
  unfold parts decimal
  dsimp only
  rw [← hlength]
  cases n.fraction <;> rfl

/-- With a point or a power of ten a numeral is worth a floating-point number. -/
theorem number?_parts {n : Numeral} (hform : n.fraction.isSome = true ∨ n.power.isSome = true)
    (float : Option Binary64) : n.parts.number? float = float.map Number.float := by
  have hpoint : (n.parts.fraction.isSome || n.parts.exponent.isSome) = true := by
    unfold parts
    dsimp only
    rw [Option.isSome_map, Option.isSome_map, Bool.or_eq_true]
    exact hform
  unfold NumberText.number?
  dsimp only
  rw [if_pos hpoint]

end Numeral

/-- The number that a text means: where it means a floating-point number, the one nearest to it. -/
def NumberText.nearest? (t : NumberText) : Option Number :=
  let fraction := t.fraction.getD []
  t.number? (Binary64.ofDecimal? t.negative
    ⟨digitsValue (t.whole ++ fraction), t.exponent.getD 0 - fraction.length⟩)

namespace Numeral

theorem nearest?_parts {n : Numeral} (h : n.WellFormed)
    (hform : n.fraction.isSome = true ∨ n.power.isSome = true) :
    n.parts.nearest? = (Binary64.ofDecimal? n.negative n.decimal).map Number.float := by
  unfold NumberText.nearest?
  dsimp only
  rw [number?_parts hform, h.digitsValue_parts, h.exponent_parts]
  rfl

end Numeral

/-! ## Integers -/

/-- An integer in decimal. -/
def Numeral.ofInt (n : Int) : Numeral := ⟨decide (n < 0), Nat.toDigits 10 n.natAbs, none, none⟩

theorem toDigits_head (n : Nat) :
    Nat.toDigits 10 n = ['0'] ∨ (Nat.toDigits 10 n).head? ≠ some '0' := by
  cases n with
  | zero => exact .inl rfl
  | succ n => exact .inr (head?_toDigits_ne (Nat.succ_pos n))

theorem Numeral.wellFormed_ofInt (n : Int) : (Numeral.ofInt n).WellFormed where
  whole_ne := Nat.toDigits_ne_nil
  whole_digits := allDigits_toDigits _
  whole_head := toDigits_head _
  fraction := nofun
  power := nofun

theorem toList_repr (n : Nat) : n.repr.toList = Nat.toDigits 10 n := by
  rw [Nat.repr_eq_ofList_toDigits, String.toList_ofList]

theorem toList_toString_int (n : Int) : (toString n).toList = (Numeral.ofInt n).chars := by
  cases n with
  | ofNat n =>
    show n.repr.toList = (if decide (Int.ofNat n < 0) = true then ['-'] else []) ++
      Nat.toDigits 10 n ++ [] ++ []
    have hsign : ¬ Int.ofNat n < 0 := Int.not_lt.2 (Int.natCast_nonneg n)
    rw [if_neg (by rw [decide_eq_true_iff]; exact hsign), toList_repr, List.append_nil,
      List.append_nil, List.nil_append]
  | negSucc n =>
    show ("-" ++ n.succ.repr).toList = (if decide (Int.negSucc n < 0) = true then ['-'] else []) ++
      Nat.toDigits 10 n.succ ++ [] ++ []
    rw [if_pos (decide_eq_true (Int.negSucc_lt_zero n)), String.toList_append, toList_repr,
      List.append_nil, List.append_nil]
    rfl

/-- An integer in range is worth itself, whatever it would be as a floating-point number. -/
theorem Numeral.number?_ofInt {n : Int}
    (hrange : -9223372036854775808 ≤ n ∧ n < 18446744073709551616) (float : Option Binary64) :
    (Numeral.ofInt n).parts.number? float = some (.integer n hrange) := by
  have hdigits : digitsValue (utf8 (Nat.toDigits 10 n.natAbs)) = n.natAbs := by
    rw [(allDigits_toDigits _).digitsValue_utf8, Nat.ofDigitChars_toDigits (by decide) (by decide)]
  have hofInt : Number.ofInt? n = some (.integer n hrange) := dif_pos hrange
  unfold NumberText.number? Numeral.parts Numeral.ofInt
  dsimp only [Option.map_none, Option.isSome_none, Bool.or_false]
  rw [hdigits, if_neg (by decide)]
  by_cases hneg : n < 0
  · have habs : -(n.natAbs : Int) = n := by omega
    rw [if_pos (decide_eq_true hneg), if_neg (by omega), habs, hofInt]
    rfl
  · have habs : (n.natAbs : Int) = n := by omega
    rw [if_neg (by rw [decide_eq_true_iff]; exact hneg), habs, hofInt]
    rfl

/-! ## Floating-point numbers -/

namespace Numeral

/-- Digits with a point, `places` of them before it. -/
def positional (negative : Bool) (digits : List Char) (places : Int) : Numeral :=
  match places with
  | .ofNat n =>
    let whole := digits.take n ++ List.replicate (n - digits.length) '0'
    let rest := digits.drop n
    ⟨negative, if whole.isEmpty then ['0'] else whole, some (if rest.isEmpty then ['0'] else rest),
      none⟩
  | .negSucc n => ⟨negative, ['0'], some (List.replicate (n + 1) '0' ++ digits), none⟩

/-- Digits with a point after the first, if there is a second, and a power of ten. -/
def scientific (negative : Bool) (digits : List Char) (power : Int) : Numeral :=
  ⟨negative, digits.take 1, if (digits.drop 1).isEmpty then none else some (digits.drop 1),
    some (decide (power < 0), Nat.toDigits 10 power.natAbs)⟩

/-- The numeral of a floating-point number. -/
def ofBinary64 (x : Binary64) : Numeral :=
  if x.magnitude = 0 then ⟨x.negative, ['0'], some ['0'], none⟩
  else
    let d := Decimal.dropZeros 20 x.shortest
    let digits := Nat.toDigits 10 d.digits
    let places : Int := digits.length + d.exponent
    if -4 ≤ places ∧ places ≤ 16 then positional x.negative digits places
    else scientific x.negative digits (places - 1)

/-- It has a point or a power of ten. -/
theorem ofBinary64_form (x : Binary64) :
    (ofBinary64 x).fraction.isSome = true ∨ (ofBinary64 x).power.isSome = true := by
  have hpositional : ∀ (digits : List Char) (places : Int),
      (positional x.negative digits places).fraction.isSome = true := by
    intro digits places
    cases places <;> rfl
  have hscientific : ∀ (digits : List Char) (power : Int),
      (scientific x.negative digits power).power.isSome = true := fun _ _ => rfl
  unfold ofBinary64
  generalize Decimal.dropZeros 20 x.shortest = d
  dsimp only
  split
  · exact .inl rfl
  · split
    · exact .inl (hpositional _ _)
    · exact .inr (hscientific _ _)

theorem chars_positional (negative : Bool) (digits : List Char) (places : Int) :
    (positional negative digits places).chars =
      (if negative then ['-'] else []) ++ Binary64.positional digits places := by
  cases places with
  | ofNat n =>
    show _ ++ _ ++ _ ++ [] = _
    rw [List.append_nil, List.append_assoc]
    rfl
  | negSucc n =>
    show _ ++ _ ++ _ ++ [] = _
    rw [List.append_nil, List.append_assoc]
    rfl

theorem chars_scientific (negative : Bool) {digits : List Char} (power : Int) :
    (scientific negative digits power).chars =
      (if negative then ['-'] else []) ++ Binary64.scientific digits power := by
  have hsign : ∀ rest : List Char, 'e' :: (if decide (power < 0) = true then '-' else '+') :: rest =
      'e' :: (if power < 0 then '-' else '+') :: rest := by
    intro rest
    by_cases hneg : power < 0
    · rw [if_pos hneg, if_pos (decide_eq_true hneg)]
    · rw [if_neg hneg, if_neg (by rw [decide_eq_true_iff]; exact hneg)]
  unfold chars scientific Binary64.scientific
  simp only [powerChars, hsign, List.append_assoc]
  congr 1
  match digits with
  | [] => rfl
  | [_] => rfl
  | _ :: _ :: _ => rfl

theorem chars_ofBinary64 (x : Binary64) : (ofBinary64 x).chars = x.chars := by
  unfold ofBinary64 Binary64.chars
  dsimp only
  by_cases hzero : x.magnitude = 0
  · rw [if_pos hzero, if_pos hzero]
    show _ ++ _ ++ _ ++ [] = _
    rw [List.append_nil, List.append_assoc]
    rfl
  · rw [if_neg hzero, if_neg hzero]
    split
    · exact chars_positional _ _ _
    · exact chars_scientific _ _

/-- Zeros before the digits do not count. -/
theorem ofDigitChars_zeros_append (k : Nat) (digits : List Char) :
    Nat.ofDigitChars 10 (List.replicate k '0' ++ digits) 0 = Nat.ofDigitChars 10 digits 0 := by
  rw [Nat.ofDigitChars_append, Nat.ofDigitChars_replicate_zero, Nat.mul_zero]

/-- Zeros behind the digits are a power of ten. -/
theorem ofDigitChars_append_zeros (k : Nat) (digits : List Char) :
    Nat.ofDigitChars 10 (digits ++ List.replicate k '0') 0 =
      10 ^ k * Nat.ofDigitChars 10 digits 0 := by
  rw [Nat.ofDigitChars_append, Nat.ofDigitChars_replicate_zero]

/-- Digits that are laid out with a point are worth the digits and the places behind them, up to
zeros that were added. -/
theorem decimal_positional {negative : Bool} {digits : List Char} (hdigits : digits ≠ [])
    (places : Int) : ∃ k : Nat, (positional negative digits places).decimal =
      ⟨10 ^ k * Nat.ofDigitChars 10 digits 0, places - digits.length - k⟩ := by
  have hlength : 0 < digits.length := List.length_pos_iff.2 hdigits
  unfold decimal
  cases places with
  | negSucc before =>
    refine ⟨0, ?_⟩
    dsimp only [positional, Option.getD_some, Option.map_none, Option.getD_none]
    rw [← List.append_assoc, List.singleton_append, ← List.replicate_succ,
      ofDigitChars_zeros_append, Nat.pow_zero, Nat.one_mul, List.length_append,
      List.length_replicate]
    congr 1
    omega
  | ofNat before =>
    dsimp only [positional, Option.getD_some, Option.map_none, Option.getD_none]
    by_cases hbehind : before < digits.length
    · have hdrop : (digits.drop before).isEmpty = false := by
        rw [List.isEmpty_eq_false_iff, ← List.length_pos_iff, List.length_drop]
        omega
      have hzeros : List.replicate (before - digits.length) '0' = [] := by
        rw [Nat.sub_eq_zero_of_le (Nat.le_of_lt hbehind), List.replicate_zero]
      have hexponent : (0 : Int) - ((digits.drop before).length : Nat) =
          Int.ofNat before - digits.length - (0 : Nat) := by
        rw [List.length_drop, Int.ofNat_eq_natCast]
        omega
      refine ⟨0, ?_⟩
      rw [hzeros, List.append_nil, hdrop, Nat.pow_zero, Nat.one_mul, if_neg Bool.false_ne_true,
        hexponent]
      congr 1
      cases before with
      | zero => exact ofDigitChars_zeros_append 1 digits
      | succ before =>
        have htake : (digits.take (before + 1)).isEmpty = false := by
          rw [List.isEmpty_eq_false_iff, ← List.length_pos_iff, List.length_take]
          omega
        rw [htake, if_neg Bool.false_ne_true, List.take_append_drop]
    · have hle : digits.length ≤ before := Nat.le_of_not_lt hbehind
      have hwhole : (digits ++ List.replicate (before - digits.length) '0').isEmpty = false := by
        rw [List.isEmpty_eq_false_iff, ← List.length_pos_iff, List.length_append]
        omega
      have hzeros : List.replicate (before - digits.length) '0' ++ ['0'] =
          List.replicate (before - digits.length + 1) '0' := List.replicate_succ'.symm
      refine ⟨before - digits.length + 1, ?_⟩
      rw [List.take_of_length_le hle, List.drop_of_length_le hle, hwhole,
        if_neg Bool.false_ne_true, List.isEmpty_nil, if_pos rfl, List.append_assoc, hzeros,
        ofDigitChars_append_zeros, Int.ofNat_eq_natCast, List.length_singleton]
      congr 1
      omega

/-- The digits of a decimal, laid out with a point, have the same nearest number as the decimal. -/
theorem ofDecimal?_positional {negative : Bool} {n : Nat} {exponent : Int} (hn : 0 < n) :
    Binary64.ofDecimal? negative (positional negative (Nat.toDigits 10 n)
      ((Nat.toDigits 10 n).length + exponent)).decimal =
        Binary64.ofDecimal? negative ⟨n, exponent⟩ := by
  obtain ⟨k, hk⟩ := @decimal_positional negative (Nat.toDigits 10 n) Nat.toDigits_ne_nil
    ((Nat.toDigits 10 n).length + exponent)
  rw [hk, Nat.ofDigitChars_toDigits (by decide) (by decide), Binary64.ofDecimal?_mul_pow hn,
    Int.sub_add_cancel, add_sub_cancel_left]

/-- With a power of ten they are worth the decimal. -/
theorem decimal_scientific {negative : Bool} {n : Nat} {exponent : Int} :
    (scientific negative (Nat.toDigits 10 n)
      ((Nat.toDigits 10 n).length + exponent - 1)).decimal = ⟨n, exponent⟩ := by
  have hvalue := @Nat.ofDigitChars_toDigits 10 n (by decide) (by decide)
  obtain ⟨first, rest, hdigits⟩ := List.exists_cons_of_ne_nil (@Nat.toDigits_ne_nil n 10)
  rw [hdigits] at hvalue ⊢
  rw [List.length_cons]
  generalize hpower : ((rest.length + 1 : Nat) : Int) + exponent - 1 = power
  have hpowerValue : powerValue (decide (power < 0), Nat.toDigits 10 power.natAbs) = power := by
    unfold powerValue
    dsimp only
    rw [Nat.ofDigitChars_toDigits (by decide) (by decide)]
    by_cases hneg : power < 0
    · rw [if_pos (decide_eq_true hneg)]
      omega
    · rw [if_neg (by rw [decide_eq_true_iff]; exact hneg)]
      omega
  have htake : (first :: rest).take 1 = [first] := rfl
  have hdrop : (first :: rest).drop 1 = rest := rfl
  unfold decimal scientific
  dsimp only
  rw [htake, hdrop, Option.map_some, Option.getD_some, hpowerValue]
  cases rest with
  | nil =>
    rw [List.length_nil] at hpower
    rw [List.isEmpty_nil, if_pos rfl, Option.getD_none, List.append_nil, hvalue, List.length_nil]
    congr 1
    omega
  | cons second rest =>
    rw [List.length_cons] at hpower
    rw [List.isEmpty_cons, if_neg Bool.false_ne_true, Option.getD_some, List.singleton_append,
      hvalue, List.length_cons]
    congr 1
    omega

theorem wellFormed_positional {negative : Bool} {digits : List Char} (hne : digits ≠ [])
    (hall : AllDigits digits) (hhead : digits.head? ≠ some '0') (places : Int) :
    (positional negative digits places).WellFormed := by
  have hzero : AllDigits ['0'] := AllDigits.replicate_zero 1
  cases places with
  | negSucc before =>
    refine ⟨List.cons_ne_nil _ _, hzero, .inl rfl, ?_, nofun⟩
    intro rest hrest
    cases hrest
    exact ⟨List.cons_ne_nil _ _, (AllDigits.replicate_zero _).append hall⟩
  | ofNat before =>
    have hwhole : AllDigits (digits.take before ++
        List.replicate (before - digits.length) '0') :=
      AllDigits.append (fun c hc => hall c (List.mem_of_mem_take hc)) (AllDigits.replicate_zero _)
    have hrest : AllDigits (digits.drop before) := fun c hc => hall c (List.mem_of_mem_drop hc)
    refine ⟨?_, ?_, ?_, ?_, nofun⟩
    · dsimp only [positional]
      split
      · exact List.cons_ne_nil _ _
      · next hsome => exact fun hnil => hsome (List.isEmpty_iff.2 hnil)
    · dsimp only [positional]
      split
      · exact hzero
      · exact hwhole
    · dsimp only [positional]
      split
      · exact .inl rfl
      · next hsome =>
        refine .inr ?_
        -- The first of the digits stands first, since it does not stand behind the point.
        obtain ⟨first, rest, rfl⟩ := List.exists_cons_of_ne_nil hne
        cases before with
        | zero =>
          rw [List.take_zero, Nat.zero_sub] at hsome
          exact absurd rfl hsome
        | succ before => exact hhead
    · intro rest heq
      cases heq
      split
      · exact ⟨List.cons_ne_nil _ _, hzero⟩
      · next hsome => exact ⟨fun hnil => hsome (List.isEmpty_iff.2 hnil), hrest⟩

theorem wellFormed_scientific {negative : Bool} {digits : List Char} (hne : digits ≠ [])
    (hall : AllDigits digits) (hhead : digits.head? ≠ some '0') (power : Int) :
    (scientific negative digits power).WellFormed := by
  obtain ⟨first, rest, rfl⟩ := List.exists_cons_of_ne_nil hne
  refine ⟨List.cons_ne_nil _ _, fun c hc => hall c (List.mem_of_mem_take hc), .inr hhead, ?_, ?_⟩
  · intro behind heq
    dsimp only [scientific] at heq
    split at heq
    · cases heq
    · next hsome =>
      cases heq
      exact ⟨fun hnil => hsome (List.isEmpty_iff.2 hnil),
        fun c hc => hall c (List.mem_of_mem_drop hc)⟩
  · intro sign behind heq
    cases heq
    exact ⟨Nat.toDigits_ne_nil, allDigits_toDigits _⟩

/-- Zero is written as a zero on either side of the point. -/
theorem ofBinary64_zero {x : Binary64} (h : x.magnitude = 0) :
    (ofBinary64 x).WellFormed ∧ (ofBinary64 x).parts.nearest? = some (.float x) := by
  have hzero : ['0'] ≠ [] ∧ AllDigits ['0'] := ⟨List.cons_ne_nil _ _, AllDigits.replicate_zero 1⟩
  have hform : (Numeral.mk x.negative ['0'] (some ['0']) none).WellFormed := by
    refine ⟨hzero.1, hzero.2, .inl rfl, ?_, nofun⟩
    intro digits heq
    cases heq
    exact hzero
  have hself : Binary64.zero x.negative = x := by
    have hunits := Binary64.ofUnits_magnitude x
    rw [h] at hunits
    exact Option.some.inj hunits
  have hnumeral : ofBinary64 x = ⟨x.negative, ['0'], some ['0'], none⟩ := if_pos h
  rw [hnumeral]
  refine ⟨hform, ?_⟩
  rw [nearest?_parts hform (.inl rfl)]
  show some (Number.float (Binary64.zero x.negative)) = some (Number.float x)
  rw [hself]

/-- The layouts of a decimal to which a number is nearest mean the number. -/
theorem positional_means {x : Binary64} {d : Decimal} (hpos : 0 < d.digits)
    (h : Binary64.ofDecimal? x.negative d = some x) :
    (positional x.negative (Nat.toDigits 10 d.digits)
        ((Nat.toDigits 10 d.digits).length + d.exponent)).WellFormed ∧
      (positional x.negative (Nat.toDigits 10 d.digits)
        ((Nat.toDigits 10 d.digits).length + d.exponent)).parts.nearest? = some (.float x) := by
  have hform := @wellFormed_positional x.negative _ Nat.toDigits_ne_nil
    (allDigits_toDigits d.digits) (head?_toDigits_ne hpos)
    ((Nat.toDigits 10 d.digits).length + d.exponent)
  have hdecimal := @ofDecimal?_positional x.negative d.digits d.exponent hpos
  have hparts : ∀ places : Int,
      (positional x.negative (Nat.toDigits 10 d.digits) places).negative = x.negative ∧
        (positional x.negative (Nat.toDigits 10 d.digits) places).fraction.isSome = true := by
    intro places
    cases places <;> exact ⟨rfl, rfl⟩
  obtain ⟨hnegative, hfraction⟩ := hparts ((Nat.toDigits 10 d.digits).length + d.exponent)
  refine ⟨hform, ?_⟩
  rw [nearest?_parts hform (.inl hfraction), hnegative, hdecimal, h, Option.map_some]

theorem scientific_means {x : Binary64} {d : Decimal} (hpos : 0 < d.digits)
    (h : Binary64.ofDecimal? x.negative d = some x) :
    (scientific x.negative (Nat.toDigits 10 d.digits)
        ((Nat.toDigits 10 d.digits).length + d.exponent - 1)).WellFormed ∧
      (scientific x.negative (Nat.toDigits 10 d.digits)
        ((Nat.toDigits 10 d.digits).length + d.exponent - 1)).parts.nearest? = some (.float x) := by
  have hform := @wellFormed_scientific x.negative _ Nat.toDigits_ne_nil
    (allDigits_toDigits d.digits) (head?_toDigits_ne hpos)
    ((Nat.toDigits 10 d.digits).length + d.exponent - 1)
  have hdecimal := @decimal_scientific x.negative d.digits d.exponent
  have hnegative : (scientific x.negative (Nat.toDigits 10 d.digits)
      ((Nat.toDigits 10 d.digits).length + d.exponent - 1)).negative = x.negative := rfl
  refine ⟨hform, ?_⟩
  rw [nearest?_parts hform (.inr rfl), hdecimal, hnegative, h, Option.map_some]

/-- The numeral of a floating-point number is well-formed and means the number. -/
theorem ofBinary64_means (x : Binary64) :
    (ofBinary64 x).WellFormed ∧ (ofBinary64 x).parts.nearest? = some (.float x) := by
  by_cases hzero : x.magnitude = 0
  · exact ofBinary64_zero hzero
  · obtain ⟨hpos, hdrop⟩ := @Binary64.ofDecimal?_dropZeros x.negative x.shortest
      (Binary64.shortest_digits_pos hzero) 20
    have hnumber := hdrop.trans (Binary64.ofDecimal?_shortest hzero)
    unfold ofBinary64
    rw [if_neg hzero]
    generalize Decimal.dropZeros 20 x.shortest = d at hpos hnumber ⊢
    dsimp only
    split
    · exact positional_means hpos hnumber
    · exact scientific_means hpos hnumber

/-- The numeral of a number. -/
def ofNumber : Number → Numeral
  | .integer n _ => ofInt n
  | .float x => ofBinary64 x

end Numeral

/-! ## Numbers -/

theorem Number.toList_text (n : Number) : n.text.toList = (Numeral.ofNumber n).chars := by
  cases n with
  | integer n hrange => exact toList_toString_int n
  | float x =>
    show (String.ofList x.chars).toList = (Numeral.ofBinary64 x).chars
    rw [String.toList_ofList, Numeral.chars_ofBinary64]

/-- The numeral of a number is well-formed and means the number. -/
theorem Numeral.ofNumber_means (n : Number) :
    (ofNumber n).WellFormed ∧ (ofNumber n).parts.nearest? = some n := by
  cases n with
  | integer n hrange => exact ⟨wellFormed_ofInt n, number?_ofInt hrange _⟩
  | float x => exact ofBinary64_means x

/-- A number is known by the parts of its text. -/
theorem Numeral.parts_ofNumber_injective : Function.Injective fun n => (ofNumber n).parts := by
  intro n m h
  have hparts : (ofNumber n).parts.nearest? = (ofNumber m).parts.nearest? := congrArg _ h
  rw [(ofNumber_means n).2, (ofNumber_means m).2] at hparts
  exact Option.some.inj hparts

/-- The parts of a written number are found, whatever follows. -/
theorem numberText_text (n : Number) {rest : List UInt8} (hrest : Delimits rest) :
    numberText (utf8 n.text.toList ++ rest) = .ok ((Numeral.ofNumber n).parts, rest) := by
  rw [n.toList_text]
  exact (numberText_eq_ok hrest.ends).2 ⟨_, (Numeral.ofNumber_means n).1.decimalText, rfl⟩

/-! ## Reading numbers again -/

/-- What the text of a number is read as. -/
def Number.reread (n : Number) : Except Fault Number :=
  (number (utf8 n.text.toList)).map Prod.fst

theorem number_of_numberText {text rest : List UInt8} {t : NumberText}
    (h : numberText text = .ok (t, rest)) :
    number text = match t.value? with
      | some n => .ok (n, rest)
      | none => .error .numberOutOfRange := by
  unfold number
  rw [h, ok_bind]
  dsimp only
  cases t.value? <;> rfl

/-- What is read depends on the parts of the text. -/
theorem Number.reread_eq (n : Number) :
    n.reread = match (Numeral.ofNumber n).parts.value? with
      | some m => .ok m
      | none => .error .numberOutOfRange := by
  have hparts := @numberText_text n [] trivial
  rw [List.append_nil] at hparts
  unfold reread
  rw [number_of_numberText hparts]
  cases (Numeral.ofNumber n).parts.value? <;> rfl

/-- The text of a number is read in the same way whatever follows. -/
theorem number_text (n : Number) {rest : List UInt8} (hrest : Delimits rest) :
    number (utf8 n.text.toList ++ rest) = n.reread.map fun m => (m, rest) := by
  rw [number_of_numberText (numberText_text n hrest), n.reread_eq]
  cases (Numeral.ofNumber n).parts.value? <;> rfl

/-- The only thing that can be wrong with it is its size. -/
theorem Number.reread_error {n : Number} {fault : Fault} (h : n.reread = .error fault) :
    fault = .numberOutOfRange := by
  rw [n.reread_eq] at h
  split at h
  · cases h
  · cases h
    rfl

/-- Integers are read as themselves. -/
theorem Number.reread_integer {n : Int}
    (hrange : -9223372036854775808 ≤ n ∧ n < 18446744073709551616) :
    (Number.integer n hrange).reread = .ok (.integer n hrange) := by
  rw [reread_eq]
  show (match (Numeral.ofInt n).parts.number? (Numeral.ofInt n).parts.float? with
    | some m => Except.ok m
    | none => .error Fault.numberOutOfRange) = _
  rw [Numeral.number?_ofInt hrange]

/-! ### Floating-point numbers with few digits -/

/-- The number that digits stand for behind those of `n`. -/
def digitsBehind (n : Nat) (digits : List UInt8) : Nat :=
  digits.foldl (fun n digit => n * 10 + (digit.toNat - 0x30)) n

theorem le_digitsBehind (n : Nat) (digits : List UInt8) : n ≤ digitsBehind n digits := by
  induction digits generalizing n with
  | nil => exact Nat.le_refl n
  | cons digit digits ih =>
    have hdigit : n ≤ n * 10 + (digit.toNat - 0x30) := by omega
    exact hdigit.trans (ih _)

theorem digitsValue_append (whole fraction : List UInt8) :
    digitsValue (whole ++ fraction) = digitsBehind (digitsValue whole) fraction :=
  List.foldl_append

/-- Digits that a word holds are collected all. -/
theorem collectDigits_of_lt {n : Nat} {digits : List UInt8}
    (h : digitsBehind n digits < 18446744073709551616) :
    collectDigits n digits = (digitsBehind n digits, []) := by
  induction digits generalizing n with
  | nil => rfl
  | cons digit digits ih =>
    have hnext : digitsBehind n (digit :: digits) =
        digitsBehind (n * 10 + (digit.toNat - 0x30)) digits := rfl
    rw [hnext] at h ⊢
    unfold collectDigits
    dsimp only
    rw [if_pos ((le_digitsBehind _ _).trans_lt h), ih h]

/-- A text whose digits a word holds is scaled as a whole. -/
theorem NumberText.float?_of_lt {t : NumberText}
    (h : digitsValue (t.whole ++ t.fraction.getD []) < 18446744073709551616) :
    t.float? = Binary64.scaled? t.negative (digitsValue (t.whole ++ t.fraction.getD []))
      (t.exponent.getD 0 - ((t.fraction.getD []).length : Nat)) := by
  rw [digitsValue_append] at h ⊢
  have hwhole : collectDigits 0 t.whole = (digitsValue t.whole, []) :=
    collectDigits_of_lt ((le_digitsBehind _ _).trans_lt h)
  unfold float?
  dsimp only
  rw [hwhole]
  dsimp only
  rw [collectDigits_of_lt h]
  dsimp only [List.length_nil]
  rw [Nat.sub_zero, Int.natCast_zero, Int.add_zero]

/-- A floating-point number whose digits take no more than 53 bits, with a power of ten up to `10 ^ 22`
upwards or downwards, is read as itself. -/
theorem Number.reread_float {x : Binary64} (hdigits : (Numeral.ofBinary64 x).decimal.digits ≤ 2 ^ 53)
    (hleast : -22 ≤ (Numeral.ofBinary64 x).decimal.exponent)
    (hmost : (Numeral.ofBinary64 x).decimal.exponent ≤ 22) :
    (Number.float x).reread = .ok (.float x) := by
  obtain ⟨hform, hmeans⟩ := Numeral.ofBinary64_means x
  have hfits : digitsValue ((Numeral.ofBinary64 x).parts.whole ++
      (Numeral.ofBinary64 x).parts.fraction.getD []) < 18446744073709551616 := by
    rw [hform.digitsValue_parts]
    omega
  have hvalue : (Numeral.ofBinary64 x).parts.value? = (Numeral.ofBinary64 x).parts.nearest? := by
    unfold NumberText.value? NumberText.nearest?
    dsimp only
    rw [NumberText.float?_of_lt hfits, hform.digitsValue_parts, hform.exponent_parts,
      Binary64.scaled?_eq_ofDecimal? hdigits hleast hmost]
  rw [reread_eq]
  show (match (Numeral.ofBinary64 x).parts.value? with
    | some m => Except.ok m
    | none => .error Fault.numberOutOfRange) = _
  rw [hvalue, hmeans]

/-- A number comes out in the form it was written in. -/
theorem Number.isInteger_reread {n m : Number} (h : n.reread = .ok m) : m.isInteger = n.isInteger := by
  cases n with
  | integer n hrange =>
    rw [reread_integer] at h
    cases h
    rfl
  | float x =>
    rw [reread_eq] at h
    have hvalue : (Numeral.ofNumber (.float x)).parts.value? =
        (Numeral.ofBinary64 x).parts.float?.map Number.float :=
      Numeral.number?_parts (Numeral.ofBinary64_form x) _
    rw [hvalue] at h
    cases hfloat : (Numeral.ofBinary64 x).parts.float? with
    | none =>
      rw [hfloat] at h
      cases h
    | some y =>
      rw [hfloat] at h
      cases h
      rfl

end ServiceContract.Json

namespace ServiceContract.Sample

/-- The largest odd number of 53 bits, `9007199254740991`. It is written with a zero behind the point,
and the digits with that zero take more than 53 bits. -/
def uneven : Binary64 :=
  { Binary64.zero false with
    exponent := ⟨1075, by decide⟩
    fraction := ⟨4503599627370495, by decide⟩ }

/-- The number before it, `9007199254740990`. -/
def even : Binary64 :=
  { Binary64.zero false with
    exponent := ⟨1075, by decide⟩
    fraction := ⟨4503599627370494, by decide⟩ }

/-- The text of the one is read as the other. -/
theorem reread_uneven : (Json.Number.float uneven).reread = .ok (.float even) := by decide +kernel

end ServiceContract.Sample
