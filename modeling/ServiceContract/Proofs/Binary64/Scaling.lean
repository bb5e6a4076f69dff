import ServiceContract.Binary64.Scaling
import ServiceContract.Proofs.Binary64.Nearest

/-!
# When scaling finds the nearest number

Whole numbers of up to 53 bits are floating-point numbers, and so are the powers of ten up to
`10 ^ 22`, of whose factors only the fives take bits. The product or quotient of two such numbers is
rounded once, and comes out as the number nearest to the decimal. Other decimals are rounded more than
once, and may come out as a neighbour of it.
-/

namespace ServiceContract.Binary64

variable {negative : Bool} {num den : Nat}

/-! ## Signs -/

/-- The sign does not take part in rounding. -/
theorem nearest_sign :
    (nearest false num den).map (fun x => { x with negative }) = nearest negative num den := by
  unfold nearest ofUnits
  dsimp only
  split
  · rfl
  · split <;> rfl

theorem nearest_zero (hden : 0 < den) : nearest negative 0 den = some (zero negative) := by
  have hzero : (zero negative).magnitude = 0 := magnitude_of_exponent_eq_zero rfl
  have hheld := nearest_magnitude (zero negative) hden
  rwa [hzero, Nat.zero_mul] at hheld

/-! ## Numbers that are held exactly -/

/-- At most 53 bits can be moved to where the bits of a number begin. -/
theorem exists_shift {k places : Nat} (hpos : 0 < k) (hk : k ≤ 2 ^ 53) (hplaces : 52 ≤ places) :
    ∃ shift scale, shift + scale = places ∧ 2 ^ 52 ≤ k * 2 ^ shift ∧ k * 2 ^ shift ≤ 2 ^ 53 := by
  by_cases hmost : k = 2 ^ 53
  · refine ⟨0, places, Nat.zero_add _, ?_⟩
    rw [hmost]
    norm_num
  · have hlog : k.log2 ≤ 52 := Nat.le_of_lt_succ ((Nat.log2_lt hpos.ne').2 (by omega))
    obtain ⟨hlow, hhigh⟩ := (Nat.log2_eq_iff hpos.ne').1 rfl
    refine ⟨52 - k.log2, places - (52 - k.log2), by omega, ?_, ?_⟩
    · calc 2 ^ 52 = 2 ^ k.log2 * 2 ^ (52 - k.log2) := by
            rw [← Nat.pow_add, Nat.add_sub_cancel' hlog]
        _ ≤ k * 2 ^ (52 - k.log2) := Nat.mul_le_mul_right _ hlow
    · calc k * 2 ^ (52 - k.log2) ≤ 2 ^ (k.log2 + 1) * 2 ^ (52 - k.log2) :=
            Nat.mul_le_mul_right _ hhigh.le
        _ = 2 ^ 53 := by
            rw [← Nat.pow_add]
            congr 1
            omega

/-- At most 53 bits in front of zeros can be held. -/
theorem exists_magnitude {k zeros : Nat} (hk : k ≤ 2 ^ 53) (hzeros : zeros ≤ 900) :
    ∃ x : Binary64, x.negative = negative ∧ x.magnitude = k * 2 ^ zeros * unitsPerOne := by
  rcases Nat.eq_zero_or_pos k with rfl | hpos
  · refine ⟨zero negative, rfl, ?_⟩
    rw [Nat.zero_mul, Nat.zero_mul]
    exact magnitude_of_exponent_eq_zero rfl
  · obtain ⟨places, hplaces⟩ : ∃ places, places = 1074 := ⟨_, rfl⟩
    obtain ⟨shift, scale, hsum, hlow, hhigh⟩ :=
      @exists_shift k (zeros + places) hpos hk (by omega)
    obtain ⟨x, -, hnegative, hmagnitude, -⟩ :=
      @exists_ofUnits negative scale (k * 2 ^ shift) hlow hhigh (by omega)
    refine ⟨x, hnegative, ?_⟩
    rw [hmagnitude, unitsPerOne_eq hplaces, Nat.mul_assoc, ← Nat.pow_add, hsum, Nat.pow_add,
      Nat.mul_assoc]

/-- A whole number of up to 53 bits is not rounded. -/
theorem ofInt?_of_le {n : Nat} (hn : n ≤ 2 ^ 53) :
    ∃ x, ofInt? n = some x ∧ x.negative = false ∧ x.magnitude = n * unitsPerOne := by
  obtain ⟨x, hnegative, hmagnitude⟩ := @exists_magnitude false n 0 hn (Nat.zero_le _)
  rw [Nat.pow_zero, Nat.mul_one] at hmagnitude
  refine ⟨x, ?_, hnegative, hmagnitude⟩
  have hheld := nearest_magnitude x Nat.one_pos
  rw [Nat.mul_one, hmagnitude, hnegative] at hheld
  unfold ofInt?
  rw [Int.natAbs_natCast, decide_eq_false (Int.not_lt.2 (Int.natCast_nonneg n))]
  exact hheld

/-- Nor is a power of ten whose fives take no more than 53 bits. -/
theorem powerOfTen_of_le {power : Nat} (h : power ≤ 22) :
    (powerOfTen power).negative = false ∧
      (powerOfTen power).magnitude = 10 ^ power * unitsPerOne := by
  have hfives : 5 ^ power ≤ 2 ^ 53 :=
    (Nat.pow_le_pow_right (by decide) h).trans (by norm_num)
  have hten : 5 ^ power * 2 ^ power = 10 ^ power := (Nat.mul_pow 5 2 power).symm
  obtain ⟨x, hnegative, hmagnitude⟩ := @exists_magnitude false _ power hfives (by omega)
  rw [hten] at hmagnitude
  have hheld := nearest_magnitude x Nat.one_pos
  rw [Nat.mul_one, hmagnitude, hnegative] at hheld
  unfold powerOfTen
  rw [Nat.pow_eq, hheld]
  exact ⟨hnegative, hmagnitude⟩

/-! ## Decimals -/

/-- Decimals of a moderate size are rounded without a look at their size. -/
theorem ofDecimal?_of_places {digits : Nat} {exponent : Int} :
    (Decimal.digitCount digits : Int) + exponent ≤ 310 →
      -330 ≤ (Decimal.digitCount digits : Int) + exponent →
        ofDecimal? negative ⟨digits, exponent⟩ =
          match exponent with
          | .ofNat e => nearest negative (digits * 10 ^ e * unitsPerOne) 1
          | .negSucc e => nearest negative (digits * unitsPerOne) (10 ^ (e + 1)) := by
  intro hmost hleast
  unfold ofDecimal?
  dsimp only
  by_cases hzero : digits = 0
  · rw [if_pos hzero, hzero]
    cases exponent with
    | ofNat e =>
      dsimp only
      rw [Nat.zero_mul, Nat.zero_mul]
      exact (nearest_zero Nat.one_pos).symm
    | negSucc e =>
      dsimp only
      rw [Nat.zero_mul]
      exact (nearest_zero (Nat.pow_pos (by decide))).symm
  · rw [if_neg hzero, if_neg (by omega), if_neg (by omega)]
    cases exponent <;> rfl

theorem times_powerOfTen {x : Binary64} {digits power : Nat} (hnegative : x.negative = false)
    (hmagnitude : x.magnitude = digits * unitsPerOne) (hpower : power ≤ 22) :
    x.times (powerOfTen power) = nearest false (digits * 10 ^ power * unitsPerOne) 1 := by
  obtain ⟨hsign, hten⟩ := powerOfTen_of_le hpower
  have hproduct : digits * unitsPerOne * (10 ^ power * unitsPerOne) =
      digits * 10 ^ power * unitsPerOne * unitsPerOne := by ring
  have hround := @nearest_mul false (digits * 10 ^ power * unitsPerOne) 1 _ unitsPerOne_pos
  rw [Nat.one_mul] at hround
  unfold times
  rw [hnegative, hsign, hmagnitude, hten, hproduct]
  exact hround

theorem dividedBy_powerOfTen {x : Binary64} {digits power : Nat} (hnegative : x.negative = false)
    (hmagnitude : x.magnitude = digits * unitsPerOne) (hpower : power ≤ 22) :
    x.dividedBy (powerOfTen power) = nearest false (digits * unitsPerOne) (10 ^ power) := by
  obtain ⟨hsign, hten⟩ := powerOfTen_of_le hpower
  unfold dividedBy
  rw [hnegative, hsign, hmagnitude, hten, nearest_mul unitsPerOne_pos]
  rfl

/-- Up to 53 bits and a power of ten up to `10 ^ 22`, upwards or downwards, are scaled to the number
that is nearest. -/
theorem scaled?_eq_ofDecimal? {significand : Nat} {exponent : Int} (hsignificand : significand ≤ 2 ^ 53)
    (hleast : -22 ≤ exponent) (hmost : exponent ≤ 22) :
    scaled? negative significand exponent = ofDecimal? negative ⟨significand, exponent⟩ := by
  have hdigits : Decimal.digitCount significand ≤ 16 :=
    (digitCount_le_iff (by decide)).2 (hsignificand.trans_lt (by norm_num))
  obtain ⟨x, hx, hnegative, hmagnitude⟩ := ofInt?_of_le hsignificand
  have hresult : ∀ y : Option Binary64, (do return { ← y with negative } : Option Binary64) =
      y.map fun y => { y with negative } := fun y => by cases y <;> rfl
  rw [ofDecimal?_of_places (by omega) (by omega)]
  unfold scaled?
  rw [hx]
  cases exponent with
  | ofNat power =>
    have hpower : power ≤ 22 := Int.ofNat_le.1 hmost
    have hscaled : x.timesTen power = nearest false (significand * 10 ^ power * unitsPerOne) 1 := by
      unfold timesTen
      rw [if_pos (by omega), times_powerOfTen hnegative hmagnitude hpower]
    show (do return { ← x.timesTen power with negative } : Option Binary64) = _
    rw [hresult, hscaled, nearest_sign]
  | negSucc power =>
    have hpower : power + 1 ≤ 22 := by omega
    have hscaled : x.overTen (power + 1) =
        nearest false (significand * unitsPerOne) (10 ^ (power + 1)) := by
      unfold overTen
      rw [if_pos (by omega), dividedBy_powerOfTen hnegative hmagnitude hpower]
    show (do return { ← x.overTen (power + 1) with negative } : Option Binary64) = _
    rw [hresult, hscaled, nearest_sign]

end ServiceContract.Binary64
