import ServiceContract.Proofs.Binary64.Nearest
import ServiceContract.Proofs.Validation.Conformance

/-!
# The order of numbers

Integers are compared by what they are worth, and so are floating-point numbers. An integer is compared
with a floating-point number by the nearest one, so that it counts as equal to the number that it is
rounded to, and otherwise stands where its value does. This is where the order is not transitive: two
integers that are rounded to one number are equal to it, though not to one another.
-/

namespace ServiceContract.Json.Number

open Binary64 (unitsPerOne unitsPerOne_pos)

variable {m n : Int} {hm : -9223372036854775808 ≤ m ∧ m < 18446744073709551616}
  {hn : -9223372036854775808 ≤ n ∧ n < 18446744073709551616} {x y : Binary64} {a b c : Number}

/-! ## Values -/

/-- What a number is worth, in units of the least positive floating-point number. -/
def value : Number → Int
  | .integer n _ => n * unitsPerOne
  | .float x => x.scaled

/-- The first number is an integer, and the second one is worth as much as the floating-point number
that it is rounded to. -/
def RoundsTo : Number → Number → Prop
  | .integer n hn, .float x => (Number.integer n hn).toBinary64.scaled = x.scaled
  | _, _ => False

/-- An integer goes to the number nearest to it, with its sign. -/
theorem isNearestTo_toBinary64 : (Number.integer n hn).toBinary64.negative = decide (n < 0) ∧
    (Number.integer n hn).toBinary64.IsNearestTo (n.natAbs * unitsPerOne) := by
  obtain ⟨places, hplaces⟩ : ∃ places, places = 1074 := ⟨_, rfl⟩
  have hunits := Binary64.unitsPerOne_eq hplaces
  have hrange : (n.natAbs * unitsPerOne).log2 < 2097 := by
    by_cases hzero : n.natAbs * unitsPerOne = 0
    · rw [hzero]
      decide
    · refine (Nat.log2_lt hzero).2 ?_
      have hsmall : n.natAbs < 2 ^ 65 := by omega
      calc n.natAbs * unitsPerOne < 2 ^ 65 * 2 ^ places := by
            rw [hunits]
            exact Nat.mul_lt_mul_of_pos_right hsmall (Nat.two_pow_pos _)
        _ = 2 ^ (65 + places) := (Nat.pow_add ..).symm
        _ ≤ 2 ^ 2097 := Nat.pow_le_pow_right (by decide) (by omega)
  obtain ⟨x, hx, hnegative, hnearest⟩ := @Binary64.exists_nearest (decide (n < 0)) _ hrange
  have hsame : (Number.integer n hn).toBinary64 = x := by
    rw [toBinary64, Binary64.ofInt?, hx, Option.getD_some]
  rw [hsame]
  exact ⟨hnegative, hnearest⟩

/-- No number is nearer to an integer than the one that it goes to, and of two that are as near it goes to
one with an even fraction. -/
theorem toBinary64_nearest (y : Binary64) :
    ((Number.integer n hn).toBinary64.scaled - n * unitsPerOne).natAbs ≤
        (y.scaled - n * unitsPerOne).natAbs ∧
      (((Number.integer n hn).toBinary64.scaled - n * unitsPerOne).natAbs =
          (y.scaled - n * unitsPerOne).natAbs →
        y.scaled = (Number.integer n hn).toBinary64.scaled ∨
          (Number.integer n hn).toBinary64.fraction.val % 2 = 0) := by
  obtain ⟨hnegative, hnearest⟩ := @isNearestTo_toBinary64 n hn
  have hleast := hnearest.least y
  have htie := hnearest.tie y
  have hzero := hnearest.least (Binary64.zero false)
  have hvalue : (n.natAbs * unitsPerOne : Nat) = if n < 0 then -(n * unitsPerOne) else n * unitsPerOne := by
    split
    · rw [Nat.cast_mul, Int.ofNat_natAbs_of_nonpos (by omega), Int.neg_mul]
    · rw [Nat.cast_mul, Int.natAbs_of_nonneg (by omega)]
  have hnone : (Binary64.zero false).magnitude = 0 := by decide
  generalize (Number.integer n hn).toBinary64 = x at *
  generalize n.natAbs * unitsPerOne = units at *
  generalize n * (unitsPerOne : Int) = worth at *
  unfold Nat.dist at *
  unfold Binary64.scaled
  rw [hnegative]
  by_cases hsign : n < 0
  · rw [if_pos hsign] at hvalue
    rw [decide_eq_true hsign, if_pos rfl]
    split <;> omega
  · rw [if_neg hsign] at hvalue
    rw [decide_eq_false hsign, if_neg Bool.false_ne_true]
    split <;> omega

/-- A floating-point number stands on the side of an integer that it stands on of the number that this
goes to, unless it is this number. -/
theorem toBinary64_sides (x : Binary64) :
    (x.scaled < n * unitsPerOne → x.scaled ≤ (Number.integer n hn).toBinary64.scaled) ∧
    (n * unitsPerOne < x.scaled → (Number.integer n hn).toBinary64.scaled ≤ x.scaled) ∧
    (n * unitsPerOne = x.scaled → (Number.integer n hn).toBinary64.scaled = x.scaled) := by
  have hnearest := (@toBinary64_nearest n hn x).1
  generalize n * (unitsPerOne : Int) = worth at *
  omega

theorem value_lt_value_iff : m * (unitsPerOne : Int) < n * unitsPerOne ↔ m < n :=
  Int.mul_lt_mul_right (by exact_mod_cast unitsPerOne_pos)

/-- Integers go to numbers in their order. -/
theorem toBinary64_mono (h : m ≤ n) :
    (Number.integer m hm).toBinary64.scaled ≤ (Number.integer n hn).toBinary64.scaled := by
  rcases Int.lt_or_eq_of_le h with hlt | rfl
  · have hworth := value_lt_value_iff.2 hlt
    have hnear := (@toBinary64_nearest m hm (Number.integer n hn).toBinary64).1
    have hnear' := (@toBinary64_nearest n hn (Number.integer m hm).toBinary64).1
    generalize m * (unitsPerOne : Int) = worth at *
    generalize n * (unitsPerOne : Int) = worth' at *
    omega
  · exact Int.le_refl _

/-! ## The order -/

theorem order_swap (a b : Number) : b.order a = (a.order b).swap := by
  cases a <;> cases b <;> simp only [order, Binary64.order] <;> exact Std.OrientedCmp.eq_swap

/-- Numbers are equal if they are worth the same, or one of them is rounded to the other one. -/
theorem equalTo_iff_value : a.EqualTo b ↔ a.value = b.value ∨ a.RoundsTo b ∨ b.RoundsTo a := by
  cases a with
  | integer m hm =>
    cases b with
    | integer n hn =>
      have hworth := @value_lt_value_iff m n
      have hworth' := @value_lt_value_iff n m
      simp only [EqualTo, value, RoundsTo, or_false]
      omega
    | float x =>
      have hsides := @toBinary64_sides m hm x
      simp only [EqualTo, value, RoundsTo, or_false]
      exact ⟨.inr, fun h => h.elim hsides.2.2 id⟩
  | float x =>
    cases b with
    | integer n hn =>
      have hsides := @toBinary64_sides n hn x
      simp only [EqualTo, value, RoundsTo, false_or]
      exact ⟨fun h => .inr h.symm, fun h => (h.elim (fun h => hsides.2.2 h.symm) id).symm⟩
    | float y => simp only [EqualTo, value, RoundsTo, or_false]; rfl

/-- One is less than the other one if it is worth less, and neither is rounded to the other. -/
theorem lessThan_iff_value : a.LessThan b ↔ a.value < b.value ∧ ¬ a.RoundsTo b ∧ ¬ b.RoundsTo a := by
  cases a with
  | integer m hm =>
    cases b with
    | integer n hn =>
      simp only [LessThan, value, RoundsTo, not_false_eq_true, and_true]
      exact value_lt_value_iff.symm
    | float x =>
      have hsides := @toBinary64_sides m hm x
      simp only [LessThan, value, RoundsTo, not_false_eq_true, and_true]
      have hfloat : (Number.float x).toBinary64 = x := rfl
      rw [hfloat]
      generalize m * (unitsPerOne : Int) = worth at *
      omega
  | float x =>
    cases b with
    | integer n hn =>
      have hsides := @toBinary64_sides n hn x
      simp only [LessThan, value, RoundsTo, not_false_eq_true, true_and]
      have hfloat : (Number.float x).toBinary64 = x := rfl
      rw [hfloat]
      generalize n * (unitsPerOne : Int) = worth at *
      omega
    | float y =>
      simp only [LessThan, value, RoundsTo, not_false_eq_true, and_true]
      rfl

/-! ## Where it is transitive

The order is that of the floating-point numbers which the numbers go to, and integers that go to the same
one stand in their own order. -/

theorem roundsTo_iff : a.RoundsTo b ↔ a.isInteger = true ∧ b.isInteger = false ∧
    a.toBinary64.scaled = b.toBinary64.scaled := by
  cases a <;> cases b <;> simp [RoundsTo, isInteger, toBinary64]

theorem lessThan_iff_rounded : a.LessThan b ↔ a.toBinary64.scaled < b.toBinary64.scaled ∨
    a.toBinary64.scaled = b.toBinary64.scaled ∧
      a.isInteger = true ∧ b.isInteger = true ∧ a.value < b.value := by
  cases a with
  | integer m hm =>
    cases b with
    | integer n hn =>
      have hmono := @toBinary64_mono m n hm hn
      have hmono' := @toBinary64_mono n m hn hm
      have hworth := @value_lt_value_iff m n
      simp only [LessThan, isInteger, value, true_and]
      omega
    | float y => simp [LessThan, isInteger]
  | float x => cases b <;> simp [LessThan, isInteger]

theorem equalTo_iff_rounded : a.EqualTo b ↔ a.toBinary64.scaled = b.toBinary64.scaled ∧
    (a.isInteger = true → b.isInteger = true → a.value = b.value) := by
  cases a with
  | integer m hm =>
    cases b with
    | integer n hn =>
      have hworth := @value_lt_value_iff m n
      have hworth' := @value_lt_value_iff n m
      simp only [EqualTo, isInteger, value, forall_const]
      refine ⟨?_, fun h => by omega⟩
      rintro rfl
      exact ⟨rfl, rfl⟩
    | float y => simp [EqualTo, isInteger]
  | float x => cases b <;> simp [EqualTo, isInteger]

/-- Equality is passed on, unless two integers are rounded to the number between them. -/
theorem equalTo_trans_iff (hab : a.EqualTo b) (hbc : b.EqualTo c) :
    a.EqualTo c ↔ (a.RoundsTo b → c.RoundsTo b → a.value = c.value) := by
  rw [equalTo_iff_rounded] at hab hbc ⊢
  rw [roundsTo_iff, roundsTo_iff]
  grind

/-- What is less than something is less than what that is not greater than, unless both are rounded to
this. -/
theorem lessThan_of_not_greater_iff (hab : a.LessThan b) (hbc : ¬ c.LessThan b) :
    a.LessThan c ↔ ¬ (a.RoundsTo c ∧ b.RoundsTo c) := by
  rw [lessThan_iff_rounded] at hab hbc ⊢
  rw [roundsTo_iff, roundsTo_iff]
  grind

theorem lessThan_of_not_less_iff (hab : ¬ b.LessThan a) (hbc : b.LessThan c) :
    a.LessThan c ↔ ¬ (b.RoundsTo a ∧ c.RoundsTo a) := by
  rw [lessThan_iff_rounded] at hab hbc ⊢
  rw [roundsTo_iff, roundsTo_iff]
  grind

/-! ## Two forms of one value -/

/-- A whole number that is written with a point stands to another number as it does without it, unless
this is another integer that is rounded to it. -/
theorem order_of_forms_iff (h : n * unitsPerOne = x.scaled) :
    (Number.integer n hn).order c = (Number.float x).order c ↔
      (c.RoundsTo (.float x) → c.value = x.scaled) := by
  have hform : (Number.integer n hn).toBinary64.scaled = x.scaled := (toBinary64_sides x).2.2 h
  cases c with
  | float y =>
    refine iff_of_true ?_ fun h => h.elim
    simp only [order, Binary64.order, hform]
    rfl
  | integer p hp =>
    have hrounds : (Number.integer p hp).RoundsTo (.float x) ↔
        (Number.integer p hp).toBinary64.scaled = x.scaled := Iff.rfl
    have hless := @value_lt_value_iff p n
    have hgreater := @value_lt_value_iff n p
    have hmono := @toBinary64_mono p n hp hn
    have hmono' := @toBinary64_mono n p hn hp
    have hfloat : (Number.float x).toBinary64 = x := rfl
    simp only [order, Binary64.order, hrounds, value, hfloat]
    rcases Int.lt_trichotomy p n with hlt | rfl | hgt
    · rw [compare_gt_iff_gt.2 hlt, eq_comm, compare_gt_iff_gt]
      omega
    · rw [hform, compare_eq_iff_eq.2 rfl, compare_eq_iff_eq.2 rfl]
      exact iff_of_true rfl fun _ => h
    · rw [compare_lt_iff_lt.2 hgt, eq_comm, compare_lt_iff_lt]
      omega

end ServiceContract.Json.Number

namespace ServiceContract

open Json (Number)
open Json.Number
open Binary64 (unitsPerOne unitsPerOne_pos)

namespace Primitive

variable {p : Primitive} {n : Int} {hn : -9223372036854775808 ≤ n ∧ n < 18446744073709551616}
  {x : Binary64}

/-- A number is one of the bounds. -/
def HasBound (p : Primitive) (bound : Number) : Prop :=
  p.minimum = some bound ∨ p.maximum = some bound ∨ p.exclusiveMinimum = some bound ∨
    p.exclusiveMaximum = some bound

/-- A whole number meets the bounds in both forms or in neither, unless one of them is another integer
that is rounded to it. -/
theorem allowsNumber_of_forms (h : n * unitsPerOne = x.scaled)
    (hbounds : ∀ bound, p.HasBound bound → bound.RoundsTo (.float x) → bound.value = x.scaled) :
    p.AllowsNumber (.integer n hn) ↔ p.AllowsNumber (.float x) := by
  have hsame : ∀ bound, p.HasBound bound →
      ((Number.integer n hn).LessThan bound ↔ (Number.float x).LessThan bound) ∧
        (bound.LessThan (.integer n hn) ↔ bound.LessThan (.float x)) := by
    intro bound hbound
    have horder := (@order_of_forms_iff n hn x bound h).2 (hbounds bound hbound)
    exact ⟨by rw [← order_eq_lt_iff, ← order_eq_lt_iff, horder],
      by rw [← order_eq_gt_iff, ← order_eq_gt_iff, horder]⟩
  rw [allowsNumber_iff, allowsNumber_iff]
  refine and_congr ?_ (and_congr ?_ (and_congr ?_ ?_))
  · exact forall₂_congr fun bound hbound => not_congr (hsame bound (.inl hbound)).1
  · exact forall₂_congr fun bound hbound => not_congr (hsame bound (.inr (.inl hbound))).2
  · exact forall₂_congr fun bound hbound => (hsame bound (.inr (.inr (.inl hbound)))).2
  · exact forall₂_congr fun bound hbound => (hsame bound (.inr (.inr (.inr hbound)))).1

end Primitive

/-- Numbers are compared by what they are worth, but for integers that are rounded to the number that they
are compared with, which is the nearest one. With the two the other way round they compare the other way
round. Two numbers are equal if they are worth the same or one is rounded to the other; otherwise the one
that is worth less is less. It is passed on that numbers are equal, and that one is less than another
which is not greater than a third, except through a number that two of the integers are rounded to. And a
whole number is compared with a number in the same way in both forms, and meets the same bounds, except
for another integer that is rounded to it. -/
theorem Json.Number.order_by_value :
    (∀ n hn (y : Binary64),
      ((Number.integer n hn).toBinary64.scaled - n * unitsPerOne).natAbs ≤
          (y.scaled - n * unitsPerOne).natAbs ∧
        (((Number.integer n hn).toBinary64.scaled - n * unitsPerOne).natAbs =
            (y.scaled - n * unitsPerOne).natAbs →
          y.scaled = (Number.integer n hn).toBinary64.scaled ∨
            (Number.integer n hn).toBinary64.fraction.val % 2 = 0)) ∧
    (∀ a b : Number, b.order a = (a.order b).swap) ∧
    (∀ a b : Number, a.order b = .eq ↔ a.value = b.value ∨ a.RoundsTo b ∨ b.RoundsTo a) ∧
    (∀ a b : Number, a.order b = .lt ↔
      a.value < b.value ∧ ¬ a.RoundsTo b ∧ ¬ b.RoundsTo a) ∧
    (∀ a b c : Number, a.order b = .eq → b.order c = .eq →
      (a.order c = .eq ↔ (a.RoundsTo b → c.RoundsTo b → a.value = c.value))) ∧
    (∀ a b c : Number, a.order b = .lt → b.order c ≠ .gt →
      (a.order c = .lt ↔ ¬ (a.RoundsTo c ∧ b.RoundsTo c))) ∧
    (∀ a b c : Number, a.order b ≠ .gt → b.order c = .lt →
      (a.order c = .lt ↔ ¬ (b.RoundsTo a ∧ c.RoundsTo a))) ∧
    ∀ n hn (x : Binary64), n * unitsPerOne = x.scaled →
      (∀ c, (Number.integer n hn).order c = (Number.float x).order c ↔
        (c.RoundsTo (.float x) → c.value = x.scaled)) ∧
      ∀ p : Primitive,
        (∀ bound, p.HasBound bound → bound.RoundsTo (.float x) → bound.value = x.scaled) →
          (checkBounds p (.integer n hn) = .ok () ↔ checkBounds p (.float x) = .ok ()) := by
  refine ⟨fun _ _ => toBinary64_nearest, order_swap, ?_, ?_, ?_, ?_, ?_, ?_⟩
  · intro a b
    rw [order_eq_eq_iff, equalTo_iff_value]
  · intro a b
    rw [order_eq_lt_iff, lessThan_iff_value]
  · intro a b c hab hbc
    rw [order_eq_eq_iff] at hab hbc ⊢
    exact equalTo_trans_iff hab hbc
  · intro a b c hab hbc
    rw [order_eq_lt_iff] at hab ⊢
    rw [Ne, order_eq_gt_iff] at hbc
    exact lessThan_of_not_greater_iff hab hbc
  · intro a b c hab hbc
    rw [order_eq_lt_iff] at hbc ⊢
    rw [Ne, order_eq_gt_iff] at hab
    exact lessThan_of_not_less_iff hab hbc
  · intro n hn x h
    refine ⟨fun c => order_of_forms_iff h, fun p hbounds => ?_⟩
    rw [checkBounds_ok_iff, checkBounds_ok_iff]
    exact Primitive.allowsNumber_of_forms h hbounds

namespace Sample

/-- The first power of two that is no longer one apart from the next floating-point number. -/
def evenNumber : Number := .integer 9007199254740992 (by decide)

/-- The integer after it, which is rounded to it. -/
def oddNumber : Number := .integer 9007199254740993 (by decide)

/-- The power of two in the other form. -/
def powerOfTwo : Number := .float ⟨false, ⟨1076, by decide⟩, ⟨0, by decide⟩⟩

end Sample

/-- Both integers are equal to the power of two, though one is less than the other. So equality is not
passed on, nor is it that one is less; and the power of two meets the other integer as a minimum only in
the form that is not an integer. -/
theorem Json.Number.order_not_by_value :
    Sample.oddNumber.order Sample.powerOfTwo = .eq ∧
    Sample.powerOfTwo.order Sample.evenNumber = .eq ∧
    Sample.oddNumber.order Sample.evenNumber = .gt ∧
    Sample.evenNumber.order Sample.oddNumber = .lt ∧
    Sample.evenNumber.order Sample.powerOfTwo ≠ .lt ∧
    Sample.evenNumber.value = Sample.powerOfTwo.value ∧
    checkBounds { kind := .number, minimum := some Sample.oddNumber } Sample.evenNumber ≠ .ok () ∧
    checkBounds { kind := .number, minimum := some Sample.oddNumber } Sample.powerOfTwo = .ok () := by
  decide +kernel

end ServiceContract
