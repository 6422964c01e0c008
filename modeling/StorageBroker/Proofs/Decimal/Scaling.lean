import StorageBroker.Decimal.Binary64

/-!
# Scaling down does not increase

An integer that is multiplied by a factor of at most one, rounded, and rounded down is at most the
integer (`exists_floor?_multiply`), as long as the integer has at most 53 bits.

What is compared are numbers `significand * 2 ^ exponent` and natural numbers (`Within`). A bound on
factors is a bound on their exact product (`Within.multiply`), and rounding to the nearest keeps a
bound that is itself a number of 53 bits (`exists_ofRatio`).
-/

set_option autoImplicit false

namespace StorageBroker.Binary64

/-! ## Bounds on numbers -/

/-- The number `significand * 2 ^ exponent` is at most a natural number. -/
def Within (significand : Nat) (exponent : Int) (bound : Nat) : Prop :=
  significand * Nat.pow 2 exponent.toNat ≤ bound * Nat.pow 2 (-exponent).toNat

variable {significand left right bound numerator denominator : Nat}
  {exponent leftExponent rightExponent : Int}

/-- Both sides may be raised by a common power of two. -/
theorem within_of_raised (up down : Nat)
    (raised : significand * Nat.pow 2 up ≤ bound * Nat.pow 2 down)
    (difference : (up : Int) - down = exponent) : Within significand exponent bound := by
  obtain ⟨common, sameUp, sameDown⟩ : ∃ common : Nat,
      up = exponent.toNat + common ∧ down = (-exponent).toNat + common := by
    refine ⟨up - exponent.toNat, ?_, ?_⟩
    · omega
    · omega
  rw [sameUp, sameDown, Nat.pow_eq, Nat.pow_eq, Nat.pow_add, Nat.pow_add, ← Nat.mul_assoc, ← Nat.mul_assoc] at raised
  exact Nat.le_of_mul_le_mul_right raised (Nat.two_pow_pos common)

/-- Half the significand with the next exponent is the same number. -/
theorem Within.halve (within : Within (2 * significand) exponent bound) :
    Within significand (exponent + 1) bound := by
  apply within_of_raised (exponent.toNat + 1) (-exponent).toNat
  · calc significand * 2 ^ (exponent.toNat + 1)
        = 2 * significand * 2 ^ exponent.toNat := by rw [Nat.pow_succ]; ac_rfl
      _ ≤ bound * 2 ^ (-exponent).toNat := within
  · omega

/-- The exact product with a number that is at most one keeps a bound. -/
theorem Within.multiply (bounded : Within left leftExponent bound)
    (fraction : Within right rightExponent 1) :
    Within (left * right) (leftExponent + rightExponent) bound := by
  apply within_of_raised (leftExponent.toNat + rightExponent.toNat)
    ((-leftExponent).toNat + (-rightExponent).toNat)
  · calc left * right * 2 ^ (leftExponent.toNat + rightExponent.toNat)
        = left * 2 ^ leftExponent.toNat * (right * 2 ^ rightExponent.toNat) := by
          rw [Nat.pow_add]; ac_rfl
      _ ≤ bound * 2 ^ (-leftExponent).toNat * (1 * 2 ^ (-rightExponent).toNat) :=
          Nat.mul_le_mul bounded fraction
      _ = bound * 2 ^ ((-leftExponent).toNat + (-rightExponent).toNat) := by
          rw [Nat.one_mul, Nat.mul_assoc, ← Nat.pow_add]
  · omega

/-! ## Rounding -/

/-- Rounding to the nearest does not exceed an integer that is not exceeded. -/
theorem divideToNearest_le (positive : 0 < denominator)
    (within : numerator ≤ bound * denominator) :
    divideToNearest numerator denominator ≤ bound := by
  have parts := Nat.div_add_mod numerator denominator
  have rest := Nat.mod_lt numerator positive
  unfold divideToNearest
  generalize numerator / denominator = quotient at parts
  generalize numerator % denominator = remainder at parts rest
  dsimp only
  by_cases exact : remainder = 0
  · subst exact
    rw [if_pos positive]
    refine Nat.le_of_mul_le_mul_right ?_ positive
    rw [Nat.mul_comm quotient]
    omega
  · have below : quotient < bound := by
      refine Nat.lt_of_mul_lt_mul_right (a := denominator) ?_
      rw [Nat.mul_comm quotient]
      omega
    split
    · omega
    · split
      · omega
      · omega

theorem fullPrecision_eq : fullPrecision = Nat.pow 2 52 := rfl

/-- At the exponent of a quotient, if it is not negative, the significand has all its bits. -/
theorem mul_fullPrecision_le (positive : numerator ≠ 0)
    (nonneg : 0 ≤ exponentOf numerator denominator) :
    denominator * Nat.pow 2 (exponentOf numerator denominator).toNat * fullPrecision ≤
      numerator := by
  unfold exponentOf leastExponent at nonneg ⊢
  dsimp only at nonneg ⊢
  split at nonneg
  · next below =>
    rw [if_pos below]
    have exact : (max ((numerator.log2 : Int) - denominator.log2 - 52 - 1) (-1074)).toNat +
        (denominator.log2 + 1) + 52 = numerator.log2 := by omega
    calc denominator * 2 ^ (max ((numerator.log2 : Int) - denominator.log2 - 52 - 1) (-1074)).toNat *
          fullPrecision
        ≤ 2 ^ (denominator.log2 + 1) *
          2 ^ (max ((numerator.log2 : Int) - denominator.log2 - 52 - 1) (-1074)).toNat *
          2 ^ 52 :=
          Nat.mul_le_mul_right _ (Nat.mul_le_mul_right _ (Nat.le_of_lt Nat.lt_log2_self))
      _ = 2 ^ numerator.log2 := by
          rw [← Nat.pow_add, ← Nat.pow_add, Nat.add_comm (denominator.log2 + 1), exact]
      _ ≤ numerator := Nat.log2_self_le positive
  · next above =>
    rw [if_neg above]
    have same : max ((numerator.log2 : Int) - denominator.log2 - 52) (-1074) =
        (numerator.log2 : Int) - denominator.log2 - 52 := by omega
    rw [same] at nonneg ⊢
    unfold isBelowPrecision at above
    rw [if_pos nonneg] at above
    simpa using above

/-- The significand of a quotient keeps a bound, and the exponent is small: a quotient of 53 bits leaves
no room for one above one. -/
theorem within_scaleToNearest (positive : 0 < denominator) (nonzero : numerator ≠ 0)
    (within : numerator ≤ bound * denominator) (short : bound ≤ 2 * fullPrecision) :
    Within (scaleToNearest numerator denominator (exponentOf numerator denominator))
        (exponentOf numerator denominator) bound ∧
      exponentOf numerator denominator ≤ 1 := by
  unfold Within scaleToNearest
  by_cases nonneg : 0 ≤ exponentOf numerator denominator
  · have full := mul_fullPrecision_le nonzero nonneg
    generalize exponentOf numerator denominator = exponent at nonneg full
    have down : (-exponent).toNat = 0 := by omega
    rw [if_pos nonneg, down]
    simp only [Nat.pow_eq, Nat.pow_zero, Nat.mul_one] at full ⊢
    rw [fullPrecision_eq, Nat.pow_eq] at short full
    have large : 2 ^ exponent.toNat * 2 ^ 52 ≤ bound := by
      refine Nat.le_of_mul_le_mul_right ?_ positive
      calc 2 ^ exponent.toNat * 2 ^ 52 * denominator
          = denominator * 2 ^ exponent.toNat * 2 ^ 52 := by ac_rfl
        _ ≤ numerator := full
        _ ≤ bound * denominator := within
    have small : exponent.toNat ≤ 1 := by
      have power : 2 ^ (exponent.toNat + 52) ≤ 2 ^ (1 + 52) := by
        rw [Nat.pow_add, Nat.pow_add 2 1, Nat.pow_one]
        exact Nat.le_trans large short
      have := (Nat.pow_le_pow_iff_right (by decide : 1 < 2)).1 power
      omega
    refine ⟨?_, by omega⟩
    obtain zero | one : exponent.toNat = 0 ∨ exponent.toNat = 1 := by omega
    · rw [zero, Nat.pow_zero, Nat.mul_one, Nat.mul_one]
      exact divideToNearest_le positive within
    · rw [one] at large ⊢
      have exact : bound = 2 ^ 52 * 2 := by omega
      have half : divideToNearest numerator (denominator * 2 ^ 1) ≤ 2 ^ 52 := by
        refine divideToNearest_le (by omega) ?_
        rw [exact] at within
        omega
      omega
  · have up : (exponentOf numerator denominator).toNat = 0 := by omega
    rw [if_neg nonneg, up]
    simp only [Nat.pow_eq, Nat.pow_zero, Nat.mul_one]
    refine ⟨divideToNearest_le positive ?_, by omega⟩
    calc numerator * 2 ^ (-exponentOf numerator denominator).toNat
        ≤ bound * denominator * 2 ^ (-exponentOf numerator denominator).toNat :=
          Nat.mul_le_mul_right _ within
      _ = bound * 2 ^ (-exponentOf numerator denominator).toNat * denominator := by ac_rfl

/-- A quotient within a bound of at most 53 bits is rounded to a finite number within the bound. -/
theorem exists_ofRatio (positive : 0 < denominator) (within : numerator ≤ bound * denominator)
    (short : bound ≤ 2 * fullPrecision) :
    ∃ significand exponent, ofRatio false numerator denominator =
      finite false significand exponent ∧ Within significand exponent bound := by
  unfold ofRatio
  dsimp only
  by_cases zero : numerator = 0
  · exact ⟨0, leastExponent, if_pos zero, by simp [Within]⟩
  · rw [if_neg zero]
    obtain ⟨scaled, small⟩ := within_scaleToNearest positive zero within short
    generalize scaleToNearest numerator denominator (exponentOf numerator denominator) =
      significand at scaled
    generalize exponentOf numerator denominator = exponent at scaled small
    have finite : ∀ other : Int, other ≤ 2 → ¬ greatestExponent < other := by
      intro other atMost
      unfold greatestExponent
      omega
    by_cases carried : significand = 2 * fullPrecision
    · rw [if_pos carried, if_pos carried, if_neg (finite (exponent + 1) (by omega))]
      rw [carried] at scaled
      exact ⟨fullPrecision, exponent + 1, rfl, scaled.halve⟩
    · rw [if_neg carried, if_neg carried, if_neg (finite exponent (by omega))]
      exact ⟨significand, exponent, rfl, scaled⟩

/-! ## Floors -/

theorem floor?_finite (significand : Nat) (exponent : Int) :
    (finite false significand exponent).floor? =
      some ((significand * Nat.pow 2 exponent.toNat / Nat.pow 2 (-exponent).toNat : Nat) : Int) := by
  by_cases nonneg : 0 ≤ exponent
  · have down : (-exponent).toNat = 0 := by omega
    simp [floor?, signed, nonneg, down]
  · have up : exponent.toNat = 0 := by omega
    have whole := Int.fdiv_eq_ediv_of_nonneg (significand : Int)
      (Int.natCast_nonneg (2 ^ (-exponent).toNat))
    simpa [floor?, signed, nonneg, up] using whole

/-- A number within a bound has a floor that is at most the bound. -/
theorem Within.exists_floor? (within : Within significand exponent bound) :
    ∃ floor : Nat, (finite false significand exponent).floor? = some (floor : Int) ∧
      floor ≤ bound := by
  refine ⟨_, floor?_finite significand exponent, ?_⟩
  refine Nat.div_le_of_le_mul ?_
  rw [Nat.mul_comm _ bound]
  exact within

/-- A floor that is small enough is converted as it is. -/
theorem toInt_floorToInt64 {number : Binary64} {floor : Nat} (has : number.floor? = some (floor : Int))
    (short : floor ≤ 2 * fullPrecision) : number.floorToInt64.toInt = floor := by
  cases number with
  | finite negative significand exponent =>
    change (Int64.ofIntClamp ((finite negative significand exponent).floor?.getD 0)).toInt = floor
    rw [has, Option.getD_some]
    rw [fullPrecision_eq, Nat.pow_eq] at short
    refine Int64.toInt_ofIntClamp ?_ ?_
    · rw [Int64.toInt_minValue]
      omega
    · rw [Int64.toInt_maxValue]
      omega
  | infinite negative => cases has
  | undefined => cases has

/-! ## Fractions -/

/-- A number above zero and at most one. -/
theorem exists_of_fraction {factor : Binary64} (positive : (ofInt 0).less factor = true)
    (atMostOne : factor.atMost (ofInt 1) = true) :
    ∃ significand exponent, factor = finite false significand exponent ∧
      Within significand exponent 1 := by
  have zero : ofInt 0 = finite false 0 (-1074) := rfl
  have one : ofInt 1 = finite false fullPrecision (-52) := by decide +kernel
  rw [zero] at positive
  rw [one] at atMostOne
  cases factor with
  | undefined => cases positive
  | infinite negative => cases negative <;> simp [less, atMost] at positive atMostOne
  | finite negative significand exponent =>
    cases negative with
    | true =>
      have size := Int.mul_nonneg (Int.natCast_nonneg significand)
        (Int.natCast_nonneg (Nat.pow 2 (exponent - min (-1074) exponent).toNat))
      simp only [less, signed, decide_eq_true_eq, if_true, Bool.false_eq_true, if_false,
        Int.natCast_zero, Int.zero_mul, Int.neg_mul] at positive
      omega
    | false =>
      refine ⟨significand, exponent, rfl, ?_⟩
      have raised : significand * 2 ^ (exponent - min (-52) exponent).toNat ≤
          fullPrecision * 2 ^ (-52 - min (-52) exponent).toNat := by
        have casted := atMostOne
        simp only [atMost, less, signed, Bool.not_eq_true', decide_eq_false_iff_not, Int.not_lt,
          Bool.false_eq_true, if_false, Nat.pow_eq] at casted
        exact_mod_cast casted
      rw [fullPrecision_eq, Nat.pow_eq, ← Nat.pow_add, ← Nat.one_mul (2 ^ (52 + _))] at raised
      exact within_of_raised _ _ raised (by omega)

/-- **Scaling down does not increase.** A natural number of at most 53 bits that is multiplied by a
factor of at most one has a floor that is at most the number. -/
theorem exists_floor?_multiply {factor : Binary64} {value : Nat}
    (short : value ≤ 2 * fullPrecision)
    (positive : (ofInt 0).less factor = true) (atMostOne : factor.atMost (ofInt 1) = true) :
    ∃ floor : Nat, ((ofInt value).multiply factor).floor? = some (floor : Int) ∧ floor ≤ value := by
  obtain ⟨right, rightExponent, rfl, fraction⟩ := exists_of_fraction positive atMostOne
  obtain ⟨left, leftExponent, same, within⟩ :=
    exists_ofRatio Nat.one_pos (Nat.le_of_eq (Nat.mul_one value).symm) short
  have converted : ofInt value = finite false left leftExponent := by
    have notNegative : ¬ (value : Int) < 0 := by omega
    rw [← same]
    simp [ofInt, notNegative]
  have product := within.multiply fraction
  rw [converted, multiply, ofDyadic]
  unfold Within at product
  split
  · next nonneg =>
    have down : (-(leftExponent + rightExponent)).toNat = 0 := by omega
    simp only [down, Nat.pow_eq, Nat.pow_zero] at product
    obtain ⟨significand, exponent, rounded, rest⟩ := exists_ofRatio Nat.one_pos product short
    rw [Nat.pow_eq, bne_self_eq_false, rounded]
    exact rest.exists_floor?
  · next negative =>
    have up : (leftExponent + rightExponent).toNat = 0 := by omega
    simp only [up, Nat.pow_eq, Nat.pow_zero, Nat.mul_one] at product
    obtain ⟨significand, exponent, rounded, rest⟩ :=
      exists_ofRatio (Nat.two_pow_pos _) product short
    rw [Nat.pow_eq, bne_self_eq_false, Nat.one_mul, rounded]
    exact rest.exists_floor?

end StorageBroker.Binary64
