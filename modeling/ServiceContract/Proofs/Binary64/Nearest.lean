import Mathlib.Data.Nat.Dist
import ServiceContract.Proofs.Binary64.Rounding

/-!
# Rounding finds the nearest number

The numbers of one size are the multiples of one power of two, and all smaller ones lie below them. So
the nearest multiple of that power is the nearest number, and of two that are equally near it is the one
with an even fraction. Every integer of 64 bits has a nearest number.
-/

namespace ServiceContract.Binary64

variable {negative : Bool} {num den units scale : Nat} {x y : Binary64}

/-! ## Multiples -/

/-- A quotient is rounded by a half at most, and by a half to an even number only. -/
theorem dist_roundHalfEven (hden : 0 < den) :
    2 * Nat.dist (roundHalfEven num den * den) num ≤ den ∧
      (2 * Nat.dist (roundHalfEven num den * den) num = den → roundHalfEven num den % 2 = 0) := by
  have hdivision := Nat.div_add_mod' num den
  have hremainder := Nat.mod_lt num hden
  have hnext : (num / den + 1) * den = num / den * den + den := Nat.succ_mul _ _
  unfold roundHalfEven Nat.dist
  dsimp only
  split
  · omega
  · split
    · rw [hnext]
      omega
    · rcases Nat.mod_two_eq_zero_or_one (num / den) with heven | hodd
      · rw [heven, Nat.add_zero]
        omega
      · rw [hodd, hnext]
        omega

theorem roundHalfEven_bounds :
    num / den ≤ roundHalfEven num den ∧ roundHalfEven num den ≤ num / den + 1 := by
  unfold roundHalfEven
  dsimp only
  split
  · omega
  · split <;> omega

/-- Another multiple is at least one step away. -/
theorem mul_apart {k q : Nat} (hne : k ≠ q) : k * den + den ≤ q * den ∨ q * den + den ≤ k * den := by
  rcases Nat.lt_or_gt_of_ne hne with h | h
  · exact .inl (Nat.succ_mul k den ▸ Nat.mul_le_mul_right den h)
  · exact .inr (Nat.succ_mul q den ▸ Nat.mul_le_mul_right den h)

/-- No multiple is nearer than that of the rounded quotient, and one is as near only if this is even. -/
theorem dist_roundHalfEven_le (hden : 0 < den) (k : Nat) :
    Nat.dist (roundHalfEven num den * den) num ≤ Nat.dist (k * den) num ∧
      (Nat.dist (roundHalfEven num den * den) num = Nat.dist (k * den) num →
        k = roundHalfEven num den ∨ roundHalfEven num den % 2 = 0) := by
  obtain ⟨hhalf, heven⟩ := @dist_roundHalfEven num den hden
  by_cases hsame : k = roundHalfEven num den
  · subst hsame
    exact ⟨Nat.le_refl _, fun _ => .inl rfl⟩
  · have hapart := @mul_apart den _ _ hsame
    unfold Nat.dist at hhalf heven ⊢
    refine ⟨by omega, fun htie => .inr (heven ?_)⟩
    omega

/-! ## Numbers of one size -/

theorem significand_lt (x : Binary64) : x.significand < 2 ^ 53 := by
  have hfraction := x.fraction.isLt
  unfold significand
  split <;> omega

/-- A number is a multiple of a power of two, or lies below those with the leading bit in front of it. -/
theorem magnitude_grid (y : Binary64) (scale : Nat) :
    (∃ k, y.magnitude = k * 2 ^ scale) ∨ y.magnitude < 2 ^ 52 * 2 ^ scale := by
  rw [magnitude_eq]
  rcases Nat.lt_or_ge (y.exponent.val - 1) scale with hsmaller | hlarger
  · right
    calc y.significand * 2 ^ (y.exponent.val - 1) < 2 ^ 53 * 2 ^ (y.exponent.val - 1) :=
          Nat.mul_lt_mul_of_pos_right y.significand_lt (Nat.two_pow_pos _)
      _ = 2 ^ 52 * 2 ^ (y.exponent.val - 1 + 1) := by rw [Nat.pow_succ']; ring
      _ ≤ 2 ^ 52 * 2 ^ scale :=
          Nat.mul_le_mul_left _ (Nat.pow_le_pow_right (by decide) hsmaller)
  · left
    refine ⟨y.significand * 2 ^ (y.exponent.val - 1 - scale), ?_⟩
    rw [Nat.mul_assoc, ← Nat.pow_add, Nat.sub_add_cancel hlarger]

/-- Multiples of a power of two with 53 bits can be held, and the last bit is that of the fraction. -/
theorem exists_ofUnits {q : Nat} (hleast : 2 ^ 52 ≤ q) (hmost : q ≤ 2 ^ 53) (hscale : scale + 2 < 2047) :
    ∃ x, ofUnits negative (q * 2 ^ scale) = some x ∧ x.negative = negative ∧
      x.magnitude = q * 2 ^ scale ∧ x.fraction.val % 2 = q % 2 := by
  have hheld : ∀ x : Binary64, x.negative = negative → x.magnitude = q * 2 ^ scale →
      ofUnits negative (q * 2 ^ scale) = some x := by
    rintro x rfl hmagnitude
    rw [← hmagnitude, ofUnits_magnitude]
  by_cases hcarry : q = 2 ^ 53
  · -- The leading bit moves one place up.
    let x : Binary64 := ⟨negative, ⟨scale + 2, hscale⟩, ⟨0, by decide⟩⟩
    have hleading : 4503599627370496 * 2 = 2 ^ 53 := by norm_num
    have hmagnitude : x.magnitude = q * 2 ^ scale := by
      show 4503599627370496 * 2 ^ (scale + 1) = q * 2 ^ scale
      rw [hcarry, Nat.pow_succ', ← Nat.mul_assoc, hleading]
    refine ⟨x, hheld x rfl hmagnitude, rfl, hmagnitude, ?_⟩
    show 0 % 2 = q % 2
    omega
  · let x : Binary64 := ⟨negative, ⟨scale + 1, by omega⟩, ⟨q - 2 ^ 52, by omega⟩⟩
    have hleading : 4503599627370496 + (q - 2 ^ 52) = q := by omega
    have hmagnitude : x.magnitude = q * 2 ^ scale := by
      show (4503599627370496 + (q - 2 ^ 52)) * 2 ^ scale = q * 2 ^ scale
      rw [hleading]
    refine ⟨x, hheld x rfl hmagnitude, rfl, hmagnitude, ?_⟩
    show (q - 2 ^ 52) % 2 = q % 2
    omega

/-! ## The nearest number -/

/-- Nothing is nearer to a number of units than a number, and what is as near is worth as much or has
the even one beside it. -/
structure IsNearestTo (x : Binary64) (units : Nat) : Prop where
  /-- Nothing is nearer. -/
  least : ∀ y : Binary64, Nat.dist x.magnitude units ≤ Nat.dist y.magnitude units
  /-- A tie goes to the even one. -/
  tie : ∀ y : Binary64, Nat.dist x.magnitude units = Nat.dist y.magnitude units →
    y.magnitude = x.magnitude ∨ x.fraction.val % 2 = 0

/-- A number is nearest to itself. -/
theorem isNearestTo_magnitude (x : Binary64) : x.IsNearestTo x.magnitude where
  least y := by
    rw [Nat.dist_self]
    exact Nat.zero_le _
  tie y htie := by
    rw [Nat.dist_self] at htie
    exact .inl (Nat.eq_of_dist_eq_zero htie.symm)

/-- If the leading bit of the numbers of one size is not too large, then the nearest one of them is the
nearest number. -/
theorem isNearestTo_of_roundHalfEven (hlow : 2 ^ 52 * 2 ^ scale ≤ units)
    (hmagnitude : x.magnitude = roundHalfEven units (2 ^ scale) * 2 ^ scale)
    (hparity : x.fraction.val % 2 = roundHalfEven units (2 ^ scale) % 2) : x.IsNearestTo units := by
  have hmultiple := fun k => @dist_roundHalfEven_le units (2 ^ scale) (Nat.two_pow_pos _) k
  rw [← hparity, ← hmagnitude] at hmultiple
  -- What is not a multiple is smaller than one that is nearer.
  have hleading := (hmultiple (2 ^ 52)).1
  refine ⟨fun y => ?_, fun y htie => ?_⟩
  · rcases magnitude_grid y scale with ⟨k, hk⟩ | hbelow
    · rw [hk]
      exact (hmultiple k).1
    · unfold Nat.dist at hleading ⊢
      omega
  · rcases magnitude_grid y scale with ⟨k, hk⟩ | hbelow
    · rw [hk] at htie ⊢
      refine ((hmultiple k).2 htie).imp_left fun hsame => ?_
      rw [hmagnitude, hsame]
    · unfold Nat.dist at hleading htie
      omega

theorem exists_nearest (hrange : units.log2 < 2097) :
    ∃ x, nearest negative units 1 = some x ∧ x.negative = negative ∧ x.IsNearestTo units := by
  by_cases hsmall : units < 2 ^ 52
  · -- Small numbers of units are held as they are.
    let x : Binary64 := ⟨negative, 0, ⟨units, hsmall⟩⟩
    have hmagnitude : x.magnitude = units := magnitude_of_exponent_eq_zero rfl
    have hheld := nearest_magnitude x Nat.one_pos
    rw [hmagnitude, Nat.mul_one] at hheld
    exact ⟨x, hheld, rfl, hmagnitude ▸ isNearestTo_magnitude x⟩
  · have hne : units ≠ 0 := by omega
    obtain ⟨scale, hscale⟩ : ∃ scale, units.log2 = 52 + scale := by
      have hle := (Nat.le_log2 hne).2 (Nat.not_lt.1 hsmall)
      exact ⟨units.log2 - 52, by omega⟩
    obtain ⟨hlow, hhigh⟩ := (Nat.log2_eq_iff hne).1 hscale
    have hpos : 0 < 2 ^ scale := Nat.two_pow_pos _
    have hleast : 2 ^ 52 ≤ units / 2 ^ scale := by
      rw [Nat.le_div_iff_mul_le hpos, ← Nat.pow_add]
      exact hlow
    have hmost : units / 2 ^ scale < 2 ^ 53 := by
      have hplaces : 53 + scale = 52 + scale + 1 := by omega
      rw [Nat.div_lt_iff_lt_mul hpos, ← Nat.pow_add, hplaces]
      exact hhigh
    have hround := @roundHalfEven_bounds units (2 ^ scale)
    obtain ⟨x, hheld, hnegative, hmagnitude, hparity⟩ := @exists_ofUnits negative scale
      (roundHalfEven units (2 ^ scale)) (by omega) (by omega) (by omega)
    refine ⟨x, ?_, hnegative, isNearestTo_of_roundHalfEven ?_ hmagnitude hparity⟩
    · unfold nearest
      dsimp only
      rw [Nat.div_one, Nat.one_mul, Nat.pow_eq, hscale, Nat.add_sub_cancel_left]
      exact hheld
    · rw [← Nat.pow_add]
      exact hlow

end ServiceContract.Binary64
