import ChainDash.Lib.Ieee

/-!
# How far rounding moves a number

Conversion of a natural number to floating point moves it by at most one part in
`2 ^ (mb + 1)` (`toRat?_ofNat`). From a double back to a 64-bit word (`roundToU64`) it
moves by at most a half more, or to the largest word (`roundToU64_bounds`).
-/

namespace Ieee
set_option autoImplicit false

/-- `x.round() as u64`: half away from zero, then the nearest word; a NaN gives zero. -/
def Binary.roundToU64 {eb mb : Nat} : Binary eb mb → UInt64
  | .nan => 0
  | .inf negative => if negative then 0 else UInt64.ofNat (2 ^ 64 - 1)
  | .finite negative exponent fraction =>
    if negative then 0 else UInt64.ofNat (min ⌊magnitude exponent fraction + 1 / 2⌋₊ (2 ^ 64 - 1))

/-- `x.round() as u16`. -/
def Binary.roundToU16 {eb mb : Nat} : Binary eb mb → UInt16
  | .nan => 0
  | .inf negative => if negative then 0 else UInt16.ofNat (2 ^ 16 - 1)
  | .finite negative exponent fraction =>
    if negative then 0 else UInt16.ofNat (min ⌊magnitude exponent fraction + 1 / 2⌋₊ (2 ^ 16 - 1))

/-! ## The nearest number -/

theorem abs_roundHalfEven_sub_le {q : Rat} (nonneg : 0 ≤ q) : |(roundHalfEven q : Rat) - q| ≤ 1 / 2 := by
  have low : (⌊q⌋₊ : Rat) ≤ q := Nat.floor_le nonneg
  have high : q < ⌊q⌋₊ + 1 := Nat.lt_floor_add_one q
  rw [abs_le]
  simp only [roundHalfEven]
  split
  · constructor <;> linarith
  · split
    · push_cast
      constructor <;> linarith
    · split
      · constructor <;> linarith
      · push_cast
        constructor <;> linarith

theorem le_roundHalfEven {q : Rat} {n : Nat} (le : (n : Rat) ≤ q) : n ≤ roundHalfEven q := by
  have down : n ≤ ⌊q⌋₊ := Nat.le_floor le
  simp only [roundHalfEven]
  split
  · exact down
  · split
    · omega
    · split <;> omega

variable {eb mb : Nat}

theorem magnitude_of_pos {exponent : Fin (2 ^ eb - 1)} (fraction : Fin (2 ^ mb))
    (normal : 0 < exponent.val) : magnitude exponent fraction =
      (2 ^ mb + fraction.val : Nat) * (2 : Rat) ^ (exponent.val - bias eb - mb) := by
  rw [magnitude, if_neg normal.ne']

/-- The number at a position given by the exponent and the whole significand, the carry
of the largest one included. -/
theorem toRat?_ofPosition {negative : Bool} {steps significand : Nat}
    (normal : 2 ^ mb ≤ significand) (carry : significand ≤ 2 ^ (mb + 1))
    (finite : (ofPosition eb mb negative (steps * 2 ^ mb + significand)).isFinite = true) :
    ∃ exponent fraction,
      ofPosition eb mb negative (steps * 2 ^ mb + significand) = .finite negative exponent fraction ∧
      magnitude exponent fraction = significand * (2 : Rat) ^ (steps + minExponent eb - mb) := by
  have pos : 0 < 2 ^ mb := Nat.two_pow_pos mb
  have quotient : (steps * 2 ^ mb + significand) / 2 ^ mb = steps + significand / 2 ^ mb := by
    rw [Nat.add_comm, Nat.add_mul_div_right _ _ pos, Nat.add_comm]
  have remainder : (steps * 2 ^ mb + significand) % 2 ^ mb = significand % 2 ^ mb := by
    rw [Nat.add_comm, Nat.add_mul_mod_self_right]
  by_cases inRange : (steps * 2 ^ mb + significand) / 2 ^ mb < 2 ^ eb - 1
  case neg => simp [ofPosition, inRange, Binary.isFinite] at finite
  rw [ofPosition, dif_pos inRange]
  refine ⟨_, _, rfl, ?_⟩
  have one : 1 ≤ significand / 2 ^ mb := (Nat.one_le_div_iff pos).mpr normal
  rw [magnitude_of_pos _ (by dsimp only; omega)]
  dsimp only
  rw [quotient, remainder]
  rcases Nat.lt_or_eq_of_le carry with below | top
  · have once : significand / 2 ^ mb = 1 :=
      Nat.div_eq_of_lt_le (by omega) (by rw [pow_succ] at below; omega)
    have rest : 2 ^ mb + significand % 2 ^ mb = significand := by
      have split := Nat.div_add_mod significand (2 ^ mb)
      rw [once] at split
      omega
    rw [once, rest]
    congr 2
    unfold minExponent
    push_cast
    ring
  · -- the significand was rounded up to the next power of two
    rw [top, pow_succ, Nat.mul_mod_right, Nat.mul_div_cancel_left _ pos, Nat.add_zero]
    have up : ((steps + 2 : Nat) : Int) - bias eb - mb = steps + minExponent eb - mb + 1 := by
      unfold minExponent
      push_cast
      ring
    rw [up, zpow_add_one₀ two_ne_zero]
    push_cast
    ring

theorem minExponent_nonpos (exponents : 2 ≤ eb) : minExponent eb ≤ 0 := by
  have two : 2 ≤ 2 ^ (eb - 1) := le_self_pow₀ one_le_two (by omega)
  have cast : bias eb = ((2 ^ (eb - 1) : Nat) : Int) - 1 := by simp [bias]
  unfold minExponent
  omega

variable (mb) in
/-- In units of the last place a positive number is a significand of full length. -/
theorem significand_range (q : Rat) (pos : 0 < q) :
    (2 : Rat) ^ mb ≤ q / (2 : Rat) ^ (Int.log 2 q - mb) ∧
      q / (2 : Rat) ^ (Int.log 2 q - mb) < (2 : Rat) ^ (mb + 1) := by
  have unit : (0 : Rat) < (2 : Rat) ^ (Int.log 2 q - mb) := zpow_pos two_pos _
  rw [le_div_iff₀ unit, div_lt_iff₀ unit, ← zpow_natCast, ← zpow_natCast, ← zpow_add₀ two_ne_zero,
    ← zpow_add₀ two_ne_zero]
  have low : ((mb : Nat) : Int) + (Int.log 2 q - mb) = Int.log 2 q := by omega
  have high : ((mb + 1 : Nat) : Int) + (Int.log 2 q - mb) = Int.log 2 q + 1 := by omega
  rw [low, high]
  exact ⟨Int.zpow_log_le_self Nat.one_lt_two pos, Int.lt_zpow_succ_log_self Nat.one_lt_two q⟩

variable (mb) in
/-- A natural number as a floating-point number: its significand in units of the last place
is rounded. -/
theorem ofNat_finite {n : Nat} (exponents : 2 ≤ eb) (some : 0 < n)
    (fits : (n : Rat) < (2 : Rat) ^ bias eb) :
    ∃ exponent fraction, ofNat eb mb n = .finite false exponent fraction ∧
      magnitude exponent fraction = roundHalfEven (n / (2 : Rat) ^ ((Nat.log 2 n : Int) - mb)) *
        (2 : Rat) ^ ((Nat.log 2 n : Int) - mb) := by
  have pos : (0 : Rat) < n := Nat.cast_pos.mpr some
  have finite := @isFinite_ofNat eb mb n exponents fits
  have least := minExponent_nonpos exponents
  obtain ⟨low, high⟩ := significand_range mb (n : Rat) pos
  unfold ofNat round roundMagnitude at finite ⊢
  simp only [Nat.abs_cast, pos.ne', if_false, Int.log_natCast, not_lt.mpr pos.le, decide_false,
    max_eq_left (least.trans (Int.natCast_nonneg _))] at finite low high ⊢
  obtain ⟨exponent, fraction, same, value⟩ := toRat?_ofPosition
    (le_roundHalfEven (by push_cast; exact low))
    (roundHalfEven_le (Nat.two_pow_pos _) (by push_cast; exact high)) finite
  refine ⟨exponent, fraction, same, ?_⟩
  have steps : (((Nat.log 2 n : Int) - minExponent eb).toNat : Int) + minExponent eb - mb =
      (Nat.log 2 n : Int) - mb := by omega
  rw [value, steps]

variable (mb) in
/-- The nearest number to a natural number. -/
theorem ofNat_near {n : Nat} (exponents : 2 ≤ eb) (some : 0 < n)
    (fits : (n : Rat) < (2 : Rat) ^ bias eb) :
    ∃ exponent fraction, ofNat eb mb n = .finite false exponent fraction ∧
      |magnitude exponent fraction - n| ≤ n / 2 ^ (mb + 1) := by
  obtain ⟨exponent, fraction, same, value⟩ := ofNat_finite mb exponents some fits
  refine ⟨exponent, fraction, same, ?_⟩
  obtain ⟨low, -⟩ := significand_range mb (n : Rat) (Nat.cast_pos.mpr some)
  rw [Int.log_natCast] at low
  have unit : (0 : Rat) < (2 : Rat) ^ ((Nat.log 2 n : Int) - mb) := zpow_pos two_pos _
  have back := div_mul_cancel₀ (n : Rat) unit.ne'
  have half := abs_roundHalfEven_sub_le (le_trans (by positivity) low)
  rw [value]
  generalize (2 : Rat) ^ ((Nat.log 2 n : Int) - mb) = ulp at unit back half low ⊢
  calc |(roundHalfEven (n / ulp) : Rat) * ulp - n|
      = |(roundHalfEven (n / ulp) - n / ulp : Rat) * ulp| := by rw [sub_mul, back]
    _ = |(roundHalfEven (n / ulp) : Rat) - n / ulp| * ulp := by rw [abs_mul, abs_of_pos unit]
    _ ≤ 1 / 2 * ulp := by gcongr
    _ = 2 ^ mb * ulp / 2 ^ (mb + 1) := by field_simp; ring
    _ ≤ n / ulp * ulp / 2 ^ (mb + 1) := by gcongr
    _ = n / 2 ^ (mb + 1) := by rw [back]

/-- Every 64-bit word is in the range of the doubles. -/
theorem word_fits {n : Nat} (word : n < 2 ^ 64) : (n : Rat) < (2 : Rat) ^ bias 11 := by
  have range : bias 11 = ((1023 : Nat) : Int) := rfl
  rw [range, zpow_natCast]
  calc (n : Rat) < 2 ^ 64 := by exact_mod_cast word
    _ ≤ 2 ^ 1023 := pow_le_pow_right₀ one_le_two (by decide)

/-- The largest word rounds to the power of two above it. -/
theorem ofNat_max : ∃ exponent fraction,
    ofNat 11 52 (2 ^ 64 - 1) = .finite false exponent fraction ∧
      magnitude exponent fraction = 2 ^ 64 := by
  obtain ⟨exponent, fraction, same, value⟩ :=
    ofNat_finite 52 (by decide) (by decide) (word_fits (n := 2 ^ 64 - 1) (by decide))
  have log : Nat.log 2 (2 ^ 64 - 1) = 63 := by
    rw [Nat.log_eq_iff (by simp)]
    decide
  have ulp : (2 : Rat) ^ (((63 : Nat) : Int) - (52 : Nat)) = 2 ^ 11 := by norm_num
  have up : roundHalfEven (((2 ^ 64 - 1 : Nat) : Rat) / 2 ^ 11) = 2 ^ 53 := by
    have down : ⌊((2 ^ 64 - 1 : Nat) : Rat) / 2 ^ 11⌋₊ = 2 ^ 53 - 1 := by
      rw [Nat.floor_eq_iff (by positivity)]
      norm_num
    simp only [roundHalfEven, down]
    norm_num
  refine ⟨exponent, fraction, same, ?_⟩
  rw [value, log, ulp, up]
  norm_num

variable (mb) in
/-- Zero, and what is read off it. -/
theorem zero_finite (exponents : 2 ≤ eb) : ∃ exponent fraction,
    (Binary.zero : Binary eb mb) = .finite false exponent fraction ∧ magnitude exponent fraction = 0 := by
  have four : 2 ^ 2 ≤ 2 ^ eb := Nat.pow_le_pow_right two_pos exponents
  have inRange : 0 / 2 ^ mb < 2 ^ eb - 1 := by
    rw [Nat.zero_div]
    omega
  have position : (Binary.zero : Binary eb mb) = ofPosition eb mb false 0 := by
    simp [Binary.zero, ofNat, round, roundMagnitude, roundHalfEven]
  rw [position, ofPosition, dif_pos inRange]
  exact ⟨_, _, rfl, by simp [magnitude]⟩

variable (mb) in
/-- A natural number is positive as a floating-point number when it is positive. -/
theorem zero_lt_ofNat {n : Nat} (exponents : 2 ≤ eb) (fits : (n : Rat) < (2 : Rat) ^ bias eb) :
    (Binary.zero : Binary eb mb).lt (ofNat eb mb n) = decide (0 < n) := by
  obtain ⟨exponent, fraction, zero, none⟩ := zero_finite mb exponents
  rcases Nat.eq_zero_or_pos n with rfl | some
  · show (Binary.zero : Binary eb mb).lt Binary.zero = _
    rw [zero]
    simp [Binary.lt]
  · obtain ⟨exponent', fraction', value, near⟩ := ofNat_near mb exponents some fits
    have pos : (0 : Rat) < n := Nat.cast_pos.mpr some
    have share : (n : Rat) / 2 ^ (mb + 1) < n := by
      rw [div_lt_iff₀ (by positivity)]
      exact lt_mul_of_one_lt_right pos (one_lt_pow₀ one_lt_two (Nat.succ_ne_zero mb))
    have above : 0 < magnitude exponent' fraction' := by
      have close := (abs_le.mp near).1
      linarith
    rw [zero, value]
    simp [Binary.lt, Binary.toRat?, none, above, some]

theorem roundToU64_toNat {x : Binary eb mb} {exponent : Fin (2 ^ eb - 1)} {fraction : Fin (2 ^ mb)}
    (value : x = .finite false exponent fraction) :
    x.roundToU64.toNat = min ⌊magnitude exponent fraction + 1 / 2⌋₊ (2 ^ 64 - 1) := by
  rw [value, Binary.roundToU64, if_neg Bool.false_ne_true, UInt64.toNat_ofNat_of_lt']
  exact (min_le_right _ _).trans_lt (by decide)

/-- The largest word is read back as it is. -/
theorem roundToU64_max : (ofNat 11 52 (2 ^ 64 - 1)).roundToU64.toNat = 2 ^ 64 - 1 := by
  obtain ⟨exponent, fraction, same, value⟩ := ofNat_max
  rw [roundToU64_toNat same, value]
  apply min_eq_right
  apply Nat.le_floor
  norm_num

variable (mb) in
/-- A word read back from the nearest number to it: at most one part in `2 ^ (mb + 1)` and a
half away, unless it is the largest. -/
theorem roundToU64_bounds {n : Nat} (exponents : 2 ≤ eb) (some : 0 < n)
    (fits : (n : Rat) < (2 : Rat) ^ bias eb) :
    ((ofNat eb mb n).roundToU64.toNat : Rat) ≤ n + n / 2 ^ (mb + 1) + 1 / 2 ∧
    ((ofNat eb mb n).roundToU64.toNat = 2 ^ 64 - 1 ∨
      (n : Rat) - n / 2 ^ (mb + 1) - 1 / 2 ≤ (ofNat eb mb n).roundToU64.toNat) := by
  obtain ⟨exponent, fraction, value, near⟩ := ofNat_near mb exponents some fits
  obtain ⟨low, high⟩ := abs_le.mp near
  have pos : (0 : Rat) < n := Nat.cast_pos.mpr some
  have share : (n : Rat) / 2 ^ (mb + 1) ≤ n :=
    div_le_self pos.le (one_le_pow₀ one_le_two)
  have floor : (⌊magnitude exponent fraction + 1 / 2⌋₊ : Rat) ≤ magnitude exponent fraction + 1 / 2 :=
    Nat.floor_le (by linarith)
  rw [roundToU64_toNat value]
  constructor
  · have capped : ((min ⌊magnitude exponent fraction + 1 / 2⌋₊ (2 ^ 64 - 1) : Nat) : Rat) ≤
        ⌊magnitude exponent fraction + 1 / 2⌋₊ := Nat.cast_le.mpr (min_le_left _ _)
    linarith
  · rcases le_total (2 ^ 64 - 1) ⌊magnitude exponent fraction + 1 / 2⌋₊ with large | small
    · exact .inl (min_eq_right large)
    · rw [min_eq_left small]
      have next := Nat.lt_floor_add_one (magnitude exponent fraction + 1 / 2)
      exact .inr (by linarith)

end Ieee
