import Mathlib.Data.Nat.Log
import Mathlib.Tactic.Ring
import Mathlib.Tactic.NormNum
import ServiceContract.Binary64.Decimal

/-!
# Rounding gives back what can be held

Rounding looks at a quotient only, so that a factor in numerator and denominator does not count, and a
value that is a floating-point number already is not changed. A decimal with a zero added at its end
has the same nearest number. The digits that are chosen for a number are chosen because the number is
nearest to them; where it is not nearest to any short ones, the exact expansion stands behind them.
-/

namespace ServiceContract.Binary64

/-! ## Quotients -/

/-- A factor in numerator and denominator does not count. -/
theorem roundHalfEven_mul {num den k : Nat} (hk : 0 < k) :
    roundHalfEven (num * k) (den * k) = roundHalfEven num den := by
  have hquotient : num * k / (den * k) = num / den := Nat.mul_div_mul_right num den hk
  have hremainder : num * k % (den * k) = num % den * k := Nat.mul_mod_mul_right k num den
  have hless : ∀ a b : Nat, a * k < b * k ↔ a < b := fun a b => Nat.mul_lt_mul_right hk
  unfold roundHalfEven
  dsimp only
  rw [hquotient, hremainder, ← Nat.mul_assoc]
  simp only [hless]

/-- A whole number is not changed. -/
theorem roundHalfEven_exact {n den : Nat} (hden : 0 < den) : roundHalfEven (n * den) den = n := by
  unfold roundHalfEven
  dsimp only
  rw [Nat.mul_div_cancel n hden, Nat.mul_mod_left, Nat.mul_zero, if_pos hden]

theorem nearest_mul {negative : Bool} {num den k : Nat} (hk : 0 < k) :
    nearest negative (num * k) (den * k) = nearest negative num den := by
  have hquotient : num * k / (den * k) = num / den := Nat.mul_div_mul_right num den hk
  unfold nearest
  dsimp only
  rw [hquotient, Nat.mul_right_comm den k, roundHalfEven_mul hk]

/-! ## Numbers that can be held -/

/-- A normal number has its leading bit in front of its fraction. -/
theorem log2_magnitude {x : Binary64} (h : x.exponent.val ≠ 0) :
    x.magnitude ≠ 0 ∧ x.magnitude.log2 = 52 + (x.exponent.val - 1) := by
  have hfraction := x.fraction.isLt
  have hpow : 0 < 2 ^ (x.exponent.val - 1) := Nat.two_pow_pos _
  have hmagnitude : x.magnitude =
      (4503599627370496 + x.fraction.val) * 2 ^ (x.exponent.val - 1) := by
    unfold magnitude significand
    rw [if_neg h]
    rfl
  have hne : x.magnitude ≠ 0 := by
    rw [hmagnitude]
    exact Nat.mul_ne_zero (by omega) hpow.ne'
  refine ⟨hne, (Nat.log2_eq_iff hne).2 ⟨?_, ?_⟩⟩
  · rw [hmagnitude, Nat.pow_add]
    exact Nat.mul_le_mul_right _ (by omega)
  · rw [hmagnitude, Nat.add_right_comm, Nat.pow_add]
    exact Nat.mul_lt_mul_of_pos_right (by omega) hpow

/-- A zero or subnormal number is its fraction. -/
theorem magnitude_of_exponent_eq_zero {x : Binary64} (h : x.exponent.val = 0) :
    x.magnitude = x.fraction.val := by
  unfold magnitude significand
  rw [if_pos h, h]
  exact Nat.mul_one _

theorem ofUnits_magnitude (x : Binary64) : ofUnits x.negative x.magnitude = some x := by
  have hfraction := x.fraction.isLt
  unfold ofUnits
  by_cases h : x.exponent.val = 0
  · have hmagnitude := magnitude_of_exponent_eq_zero h
    have hexponent : x.exponent = 0 := Fin.ext h
    simp only [hmagnitude, hfraction, dif_pos, ← hexponent]
  · obtain ⟨hne, hlog⟩ := log2_magnitude h
    have hlarge : ¬ x.magnitude < 4503599627370496 := by
      have hle : 2 ^ (52 + (x.exponent.val - 1)) ≤ x.magnitude := ((Nat.log2_eq_iff hne).1 hlog).1
      have hpow : 2 ^ 52 ≤ 2 ^ (52 + (x.exponent.val - 1)) :=
        Nat.pow_le_pow_right (by decide) (Nat.le_add_right _ _)
      omega
    have hshift : x.magnitude.log2 - 52 = x.exponent.val - 1 := by omega
    have hexponent : x.exponent.val - 1 + 1 = x.exponent.val := by omega
    have hdigits : x.magnitude / Nat.pow 2 (x.exponent.val - 1) =
        4503599627370496 + x.fraction.val := by
      unfold magnitude significand
      rw [if_neg h]
      exact Nat.mul_div_cancel _ (Nat.two_pow_pos _)
    have hmod : Fin.ofNat 4503599627370496 (4503599627370496 + x.fraction.val) = x.fraction := by
      refine Fin.ext ?_
      show (4503599627370496 + x.fraction.val) % 4503599627370496 = x.fraction.val
      omega
    rw [dif_neg hlarge]
    simp only [hshift, hexponent, x.exponent.isLt, dif_pos, hdigits, hmod]

/-- Rounding does not change a number that can be held. -/
theorem nearest_magnitude (x : Binary64) {den : Nat} (hden : 0 < den) :
    nearest x.negative (x.magnitude * den) den = some x := by
  have hstep : 0 < 2 ^ (x.magnitude.log2 - 52) := Nat.two_pow_pos _
  -- The kept bits are all there are.
  have hdvd : 2 ^ (x.magnitude.log2 - 52) ∣ x.magnitude := by
    by_cases h : x.exponent.val = 0
    · have hmagnitude := magnitude_of_exponent_eq_zero h
      have hsmall : x.magnitude < 2 ^ 52 := by
        rw [hmagnitude]
        exact x.fraction.isLt
      have hlog : x.magnitude.log2 - 52 = 0 := by
        by_cases hzero : x.magnitude = 0
        · rw [hzero]
          rfl
        · have hlt := (Nat.log2_lt hzero).2 hsmall
          omega
      rw [hlog]
      exact one_dvd _
    · rw [(log2_magnitude h).2, Nat.add_sub_cancel_left]
      exact Nat.dvd_mul_left _ _
  obtain ⟨q, hq⟩ := hdvd
  have hround : roundHalfEven (x.magnitude * den) (den * 2 ^ (x.magnitude.log2 - 52)) = q := by
    rw [← roundHalfEven_exact (n := q) (Nat.mul_pos hden hstep)]
    congr 1
    conv_lhs => rw [hq]
    ring
  unfold nearest
  rw [Nat.mul_div_cancel _ hden]
  show ofUnits x.negative (roundHalfEven (x.magnitude * den)
    (den * 2 ^ (x.magnitude.log2 - 52)) * 2 ^ (x.magnitude.log2 - 52)) = some x
  rw [hround, Nat.mul_comm, ← hq]
  exact ofUnits_magnitude x

/-! ## Decimals -/

/-- A zero at the end adds a digit. -/
theorem digitCount_mul_ten {n : Nat} (hn : 0 < n) :
    Decimal.digitCount (10 * n) = Decimal.digitCount n + 1 := by
  have happend := Nat.toDigits_append_toDigits (b := 10) (d := 0) (by decide) hn (by decide)
  unfold Decimal.digitCount
  rw [Nat.add_zero] at happend
  rw [← happend, List.length_append]
  rfl

/-- The powers of ten between which a number lies tell its number of digits. -/
theorem digitCount_le_iff {n k : Nat} (hk : 0 < k) : Decimal.digitCount n ≤ k ↔ n < 10 ^ k :=
  Nat.length_toDigits_le_iff (by decide) hk

/-- A zero at the end of the digits does not change which number is nearest. -/
theorem ofDecimal?_mul_ten {negative : Bool} {n : Nat} {e : Int} (hn : 0 < n) :
    ofDecimal? negative ⟨10 * n, e⟩ = ofDecimal? negative ⟨n, e + 1⟩ := by
  have hplaces : ((Decimal.digitCount (10 * n) : Nat) : Int) + e =
      (Decimal.digitCount n : Nat) + (e + 1) := by
    rw [digitCount_mul_ten hn]
    push_cast
    ring
  have hne : 10 * n ≠ 0 := by omega
  unfold ofDecimal?
  dsimp only
  rw [hplaces, if_neg hne, if_neg hn.ne']
  generalize unitsPerOne = units
  split
  · rfl
  · split
    · rfl
    · cases e with
      | ofNat e =>
        have hpow : 10 * n * 10 ^ e = n * 10 ^ (e + 1) := by ring
        exact congrArg (fun digits => nearest negative (digits * units) 1) hpow
      | negSucc e =>
        have hunits : 10 * n * units = n * units * 10 := by ring
        cases e with
        | zero =>
          show nearest negative (10 * n * units) 10 = nearest negative (n * 1 * units) 1
          rw [hunits, Nat.mul_one]
          exact @nearest_mul negative (n * units) 1 10 (by decide)
        | succ e =>
          show nearest negative (10 * n * units) (10 ^ (e + 1) * 10) =
            nearest negative (n * units) (10 ^ (e + 1))
          rw [hunits]
          exact nearest_mul (by decide)

/-- So do any number of zeros. -/
theorem ofDecimal?_mul_pow {negative : Bool} {n k : Nat} {e : Int} (hn : 0 < n) :
    ofDecimal? negative ⟨10 ^ k * n, e⟩ = ofDecimal? negative ⟨n, e + k⟩ := by
  induction k generalizing e with
  | zero => simp
  | succ k ih =>
    have hpos : 0 < 10 ^ k * n := Nat.mul_pos (Nat.pow_pos (by decide)) hn
    have hsplit : 10 ^ (k + 1) * n = 10 * (10 ^ k * n) := by ring
    rw [hsplit, ofDecimal?_mul_ten hpos, ih]
    congr 2
    push_cast
    ring

theorem ofDecimal?_dropZeros {negative : Bool} {d : Decimal} (hd : 0 < d.digits) (count : Nat) :
    0 < (Decimal.dropZeros count d).digits ∧
      ofDecimal? negative (Decimal.dropZeros count d) = ofDecimal? negative d := by
  induction count generalizing d with
  | zero => exact ⟨hd, rfl⟩
  | succ count ih =>
    unfold Decimal.dropZeros
    by_cases hzero : d.digits % 10 = 0
    · rw [if_pos hzero]
      have hpos : 0 < d.digits / 10 := by omega
      have hdigits : 10 * (d.digits / 10) = d.digits := by omega
      obtain ⟨hdropped, hreads⟩ := ih (d := ⟨d.digits / 10, d.exponent + 1⟩) hpos
      refine ⟨hdropped, hreads.trans ?_⟩
      rw [← ofDecimal?_mul_ten hpos, hdigits]
    · rw [if_neg hzero]
      exact ⟨hd, rfl⟩

/-! ## Digits to which a number is nearest -/

/-- A power of two lies below the power of ten with three tenths of its exponent, and a bit. -/
theorem two_pow_le_ten_pow (m : Nat) : 2 ^ (93 * m + 1) ≤ 10 ^ (28 * m + 1) := by
  have hblock : (2 : Nat) ^ 93 ≤ 10 ^ 28 := by norm_num
  calc 2 ^ (93 * m + 1) = (2 ^ 93) ^ m * 2 := by rw [← Nat.pow_mul, ← Nat.pow_succ]
    _ ≤ (10 ^ 28) ^ m * 10 := Nat.mul_le_mul (Nat.pow_le_pow_left hblock m) (by decide)
    _ = 10 ^ (28 * m + 1) := by rw [← Nat.pow_mul, ← Nat.pow_succ]

/-- A power of five lies above the power of ten with seven tenths of its exponent, less a bit. -/
theorem ten_pow_le_five_pow (m : Nat) : 10 ^ (9 * m + 5) ≤ 5 ^ (13 * m + 8) := by
  have hblock : (10 : Nat) ^ 9 ≤ 5 ^ 13 := by norm_num
  calc 10 ^ (9 * m + 5) = (10 ^ 9) ^ m * 10 ^ 5 := by rw [← Nat.pow_mul, ← Nat.pow_add]
    _ ≤ (5 ^ 13) ^ m * 5 ^ 8 := Nat.mul_le_mul (Nat.pow_le_pow_left hblock m) (by norm_num)
    _ = 5 ^ (13 * m + 8) := by rw [← Nat.pow_mul, ← Nat.pow_add]

/-- The number of units as a power with a variable, which keeps it from being computed. -/
theorem unitsPerOne_eq {places : Nat} (h : places = 1074) : unitsPerOne = 2 ^ places := by
  unfold unitsPerOne
  rw [← h, Nat.pow_eq]

theorem unitsPerOne_pos : 0 < unitsPerOne := by
  obtain ⟨places, hplaces⟩ : ∃ places, places = 1074 := ⟨_, rfl⟩
  rw [unitsPerOne_eq hplaces]
  exact Nat.two_pow_pos places

theorem magnitude_eq (x : Binary64) : x.magnitude = x.significand * 2 ^ (x.exponent.val - 1) := by
  unfold magnitude
  rw [Nat.pow_eq]

/-- The largest number has 309 digits before the point. -/
theorem magnitude_lt (x : Binary64) : x.magnitude < 10 ^ (28 * 11 + 1) * unitsPerOne := by
  have hfraction := x.fraction.isLt
  have hexponent := x.exponent.isLt
  have hsignificand : x.significand < 2 ^ 53 := by
    unfold significand
    split <;> omega
  obtain ⟨places, hplaces⟩ : ∃ places, places = 1074 := ⟨_, rfl⟩
  obtain ⟨most, hmost⟩ : ∃ most, 53 + most = 93 * 11 + 1 + places := ⟨2045, by rw [hplaces]⟩
  have hpow : 2 ^ (x.exponent.val - 1) ≤ 2 ^ most := Nat.pow_le_pow_right (by decide) (by omega)
  rw [magnitude_eq, unitsPerOne_eq hplaces]
  calc x.significand * 2 ^ (x.exponent.val - 1) < 2 ^ 53 * 2 ^ most :=
        Nat.mul_lt_mul_of_lt_of_le hsignificand hpow (Nat.two_pow_pos _)
    _ = 2 ^ (93 * 11 + 1) * 2 ^ places := by rw [← Nat.pow_add, ← Nat.pow_add, hmost]
    _ ≤ 10 ^ (28 * 11 + 1) * 2 ^ places := Nat.mul_le_mul_right _ (two_pow_le_ten_pow 11)

/-- A number is nearest to its exact expansion. -/
theorem ofDecimal?_exactDecimal {x : Binary64} (h : x.magnitude ≠ 0) :
    ofDecimal? x.negative x.exactDecimal = some x := by
  obtain ⟨places, hplaces⟩ : ∃ places, places + 1 = 1074 := ⟨1073, rfl⟩
  have hexpansion : x.exactDecimal = ⟨x.magnitude * 5 ^ (places + 1), .negSucc places⟩ := by
    unfold exactDecimal
    rw [← hplaces, Nat.pow_eq]
    congr 1
    omega
  have hunits : 5 ^ (places + 1) * unitsPerOne = 10 ^ (places + 1) := by
    rw [unitsPerOne_eq hplaces, ← Nat.mul_pow]
  have hfive : 0 < 5 ^ (places + 1) := Nat.pow_pos (by decide)
  -- Neither bound on the places before the point is met.
  have hmost : Decimal.digitCount (x.magnitude * 5 ^ (places + 1)) ≤
      28 * 11 + 1 + (places + 1) := by
    refine (digitCount_le_iff (by omega)).2 ?_
    calc x.magnitude * 5 ^ (places + 1) < 10 ^ (28 * 11 + 1) * unitsPerOne * 5 ^ (places + 1) :=
          Nat.mul_lt_mul_of_pos_right x.magnitude_lt hfive
      _ = 10 ^ (28 * 11 + 1 + (places + 1)) := by
          rw [Nat.mul_assoc, Nat.mul_comm unitsPerOne, hunits, ← Nat.pow_add]
  have hleast : 9 * 82 + 5 < Decimal.digitCount (x.magnitude * 5 ^ (places + 1)) := by
    by_contra hnot
    have hsmall := (digitCount_le_iff (by decide)).1 (Nat.not_lt.1 hnot)
    have hfives := ten_pow_le_five_pow 82
    rw [show 13 * 82 + 8 = places + 1 by omega] at hfives
    have hlarge := hfives.trans (Nat.le_mul_of_pos_left _ (Nat.pos_of_ne_zero h))
    exact absurd hsmall (Nat.not_lt.2 hlarge)
  have hne : x.magnitude * 5 ^ (places + 1) ≠ 0 := Nat.mul_ne_zero h hfive.ne'
  rw [hexpansion]
  unfold ofDecimal?
  dsimp only
  rw [if_neg hne, if_neg (by omega), if_neg (by omega), Nat.mul_assoc, hunits]
  exact nearest_magnitude x (Nat.pow_pos (by decide))

/-- The digits on a grid are chosen because the number is nearest to them. -/
theorem ofDecimal?_onGrid {x : Binary64} {exponent : Int} {d : Decimal}
    (h : x.onGrid exponent = some d) : ofDecimal? x.negative d = some x := by
  unfold onGrid at h
  generalize x.ratioAt exponent = ratio at h
  obtain ⟨num, den⟩ := ratio
  dsimp only at h
  split at h
  · next hboth =>
    obtain ⟨hbelow, habove⟩ := Bool.and_eq_true_iff.1 hboth
    cases h
    split
    · exact of_decide_eq_true hbelow
    · exact of_decide_eq_true habove
  · split at h
    · next hbelow =>
      cases h
      exact of_decide_eq_true hbelow
    · split at h
      · next habove =>
        cases h
        exact of_decide_eq_true habove
      · cases h

/-- A number is nearest to the digits that are chosen for it. -/
theorem ofDecimal?_shortest {x : Binary64} (h : x.magnitude ≠ 0) :
    ofDecimal? x.negative x.shortest = some x := by
  unfold shortest
  generalize hexact : x.exactDecimal = exact
  cases hfound : (List.range 17).findSome? fun (n : Nat) => x.onGrid (x.leadingPower - n) with
  | some d =>
    obtain ⟨n, -, hgrid⟩ := List.exists_of_findSome?_eq_some hfound
    rw [Option.getD_some]
    exact ofDecimal?_onGrid hgrid
  | none =>
    rw [Option.getD_none, ← hexact]
    exact ofDecimal?_exactDecimal h

/-- Only zero has no digits. -/
theorem shortest_digits_pos {x : Binary64} (h : x.magnitude ≠ 0) : 0 < x.shortest.digits := by
  by_contra hnot
  have hreads := ofDecimal?_shortest h
  unfold ofDecimal? at hreads
  dsimp only at hreads
  rw [if_pos (Nat.eq_zero_of_not_pos hnot)] at hreads
  have hzero : zero x.negative = x := Option.some.inj hreads
  refine h ?_
  rw [← hzero, magnitude_of_exponent_eq_zero rfl]
  rfl

end ServiceContract.Binary64
