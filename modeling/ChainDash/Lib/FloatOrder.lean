import ChainDash.Lib.Rounding

/-!
# Rounding keeps the order

The non-negative numbers of a format are ordered as their bit patterns are, so rounding,
which picks a bit pattern, is monotone (`round_mono`). A whole number that fits the
significand is exact (`ofNat_exact`).
-/

namespace Ieee
set_option autoImplicit false

theorem roundHalfEven_mono {q q' : Rat} (nonneg : 0 ≤ q) (le : q ≤ q') :
    roundHalfEven q ≤ roundHalfEven q' := by
  by_contra above
  have step : (roundHalfEven q' : Rat) + 1 ≤ roundHalfEven q := by
    rw [not_le] at above
    exact_mod_cast above
  have near := abs_le.mp (abs_roundHalfEven_sub_le nonneg)
  have near' := abs_le.mp (abs_roundHalfEven_sub_le (nonneg.trans le))
  -- both are half way between the same two numbers, so they are the same
  have same : q = q' := by linarith
  rw [same] at above
  exact above le_rfl

theorem roundHalfEven_natCast (n : Nat) : roundHalfEven n = n := by
  have near := abs_le.mp (abs_roundHalfEven_sub_le (Nat.cast_nonneg (α := Rat) n))
  apply le_antisymm
  · have below : (roundHalfEven n : Rat) < (n + 1 : Nat) := by
      push_cast
      linarith
    exact Nat.lt_succ_iff.mp (by exact_mod_cast below)
  · exact le_roundHalfEven le_rfl

section

variable {eb mb : Nat}

/-! ## Bit patterns in order -/

variable (eb mb) in
/-- The number at a position, as if the exponents had no end. -/
def valueAt (position : Nat) : Rat :=
  if position / 2 ^ mb = 0 then
    (position % 2 ^ mb : Nat) * (2 : Rat) ^ (minExponent eb - mb)
  else
    (2 ^ mb + position % 2 ^ mb : Nat) * (2 : Rat) ^ ((position / 2 ^ mb : Nat) - bias eb - mb)

variable (eb mb) in
theorem ofPosition_cases (position : Nat) :
    (∃ exponent fraction, ofPosition eb mb false position = .finite false exponent fraction ∧
      magnitude exponent fraction = valueAt eb mb position) ∨
    ((2 ^ eb - 1) * 2 ^ mb ≤ position ∧ ofPosition eb mb false position = .inf false) := by
  unfold ofPosition
  split
  case isTrue inRange => exact .inl ⟨_, _, rfl, rfl⟩
  case isFalse outside =>
    exact .inr ⟨(Nat.le_div_iff_mul_le (Nat.two_pow_pos mb)).mp (not_lt.mp outside), rfl⟩

variable (mb) in
theorem cast_two_pow : ((2 ^ mb : Nat) : Rat) = (2 : Rat) ^ (mb : Int) := by
  push_cast
  exact (zpow_natCast 2 mb).symm

/-- A position lies below the power of two that the next exponent starts with. -/
theorem valueAt_lt (position : Nat) :
    valueAt eb mb position < (2 : Rat) ^ (((position / 2 ^ mb : Nat) : Int) + 1 - bias eb) := by
  have rest : position % 2 ^ mb < 2 ^ mb := Nat.mod_lt _ (Nat.two_pow_pos mb)
  unfold valueAt
  split
  case isTrue low =>
    have split : (2 : Rat) ^ (((position / 2 ^ mb : Nat) : Int) + 1 - bias eb) =
        (2 ^ mb : Nat) * (2 : Rat) ^ (minExponent eb - mb) := by
      rw [low, cast_two_pow, ← zpow_add₀ two_ne_zero]
      congr 1
      unfold minExponent
      push_cast
      omega
    rw [split]
    gcongr
  case isFalse =>
    have split : (2 : Rat) ^ (((position / 2 ^ mb : Nat) : Int) + 1 - bias eb) =
        (2 ^ mb + 2 ^ mb : Nat) * (2 : Rat) ^ (((position / 2 ^ mb : Nat) : Int) - bias eb - mb) := by
      rw [← two_mul, ← pow_succ', cast_two_pow, ← zpow_add₀ two_ne_zero]
      congr 1
      push_cast
      omega
    rw [split]
    gcongr

/-- From the first normal exponent on, a position is at least the power of two its exponent
starts with. -/
theorem le_valueAt {position : Nat} (normal : position / 2 ^ mb ≠ 0) :
    (2 : Rat) ^ (((position / 2 ^ mb : Nat) : Int) - bias eb) ≤ valueAt eb mb position := by
  have split : (2 : Rat) ^ (((position / 2 ^ mb : Nat) : Int) - bias eb) =
      (2 ^ mb : Nat) * (2 : Rat) ^ (((position / 2 ^ mb : Nat) : Int) - bias eb - mb) := by
    rw [cast_two_pow, ← zpow_add₀ two_ne_zero]
    congr 1
    omega
  rw [valueAt, if_neg normal, split]
  gcongr
  omega

variable (eb mb) in
theorem valueAt_mono {position position' : Nat} (le : position ≤ position') :
    valueAt eb mb position ≤ valueAt eb mb position' := by
  rcases Nat.lt_or_eq_of_le (Nat.div_le_div_right (c := 2 ^ mb) le) with less | same
  · calc valueAt eb mb position
        ≤ (2 : Rat) ^ (((position / 2 ^ mb : Nat) : Int) + 1 - bias eb) := (valueAt_lt position).le
      _ ≤ (2 : Rat) ^ (((position' / 2 ^ mb : Nat) : Int) - bias eb) := by
          apply zpow_le_zpow_right₀ one_le_two
          omega
      _ ≤ valueAt eb mb position' := le_valueAt ((Nat.zero_le _).trans_lt less).ne'
  · have rest : position % 2 ^ mb ≤ position' % 2 ^ mb := by
      have split := Nat.div_add_mod position (2 ^ mb)
      have split' := Nat.div_add_mod position' (2 ^ mb)
      rw [same] at split
      omega
    unfold valueAt
    rw [same]
    split <;> gcongr

theorem ofPosition_le {position position' : Nat} (le : position ≤ position') :
    (ofPosition eb mb false position).le (ofPosition eb mb false position') = true := by
  rcases ofPosition_cases eb mb position with ⟨e, f, at_, value⟩ | ⟨beyond, at_⟩ <;>
    rcases ofPosition_cases eb mb position' with
      ⟨e', f', at_', value'⟩ | ⟨beyond', at_'⟩
  · have order := valueAt_mono eb mb le
    rw [at_, at_']
    simpa [Binary.le, Binary.lt, Binary.toRat?, value, value'] using order
  · rw [at_, at_']
    rfl
  · have inRange := e'.isLt
    have finite : position' / 2 ^ mb < 2 ^ eb - 1 := by
      by_contra outside
      rw [ofPosition, dif_neg outside] at at_'
      cases at_'
    have past := (Nat.le_div_iff_mul_le (Nat.two_pow_pos mb)).mpr beyond
    have order := Nat.div_le_div_right (c := 2 ^ mb) le
    omega
  · rw [at_, at_']
    rfl

/-! ## Rounding -/

variable (eb) in
/-- The exponent in which a magnitude is rounded. -/
def roundExponent (q : Rat) : Int :=
  if q = 0 then minExponent eb else max (Int.log 2 q) (minExponent eb)

variable (eb mb) in
/-- The position that a magnitude is rounded to. -/
def roundPosition (q : Rat) : Nat :=
  (roundExponent eb q - minExponent eb).toNat * 2 ^ mb +
    roundHalfEven (q / (2 : Rat) ^ (roundExponent eb q - mb))

theorem round_of_nonneg {q : Rat} (nonneg : 0 ≤ q) :
    round eb mb false q = ofPosition eb mb false (roundPosition eb mb q) := by
  unfold round roundMagnitude roundPosition roundExponent
  rw [abs_of_nonneg nonneg]
  split
  · rfl
  · rw [decide_eq_false (not_lt.mpr nonneg)]

theorem roundExponent_of_pos {q : Rat} (pos : 0 < q) :
    roundExponent eb q = max (Int.log 2 q) (minExponent eb) := if_neg pos.ne'

variable (eb) in
theorem roundExponent_ge (q : Rat) : minExponent eb ≤ roundExponent eb q := by
  unfold roundExponent
  split
  · exact le_rfl
  · exact le_max_right _ _

variable (eb) in
theorem roundExponent_mono {q q' : Rat} (nonneg : 0 ≤ q) (le : q ≤ q') :
    roundExponent eb q ≤ roundExponent eb q' := by
  rcases nonneg.eq_or_lt with rfl | pos
  · exact roundExponent_ge eb q'
  · rw [roundExponent_of_pos pos, roundExponent_of_pos (pos.trans_le le)]
    exact max_le_max_right _ (Int.log_mono_right pos le)

variable (eb mb) in
theorem significand_le {q : Rat} (nonneg : 0 ≤ q) :
    roundHalfEven (q / (2 : Rat) ^ (roundExponent eb q - mb)) ≤ 2 ^ (mb + 1) := by
  apply roundHalfEven_le (Nat.two_pow_pos _)
  rcases nonneg.eq_or_lt with rfl | pos
  · rw [zero_div]
    positivity
  · have unit : (0 : Rat) < (2 : Rat) ^ (Int.log 2 q - mb) := zpow_pos two_pos _
    push_cast
    refine lt_of_le_of_lt (div_le_div_of_nonneg_left pos.le unit ?_) (significand_range mb q pos).2
    apply zpow_le_zpow_right₀ one_le_two
    have above := le_max_left (Int.log 2 q) (minExponent eb)
    rw [roundExponent_of_pos pos]
    omega

variable (mb) in
/-- Above the smallest exponent a significand has full length. -/
theorem le_significand {q : Rat} (nonneg : 0 ≤ q) (normal : minExponent eb < roundExponent eb q) :
    2 ^ mb ≤ roundHalfEven (q / (2 : Rat) ^ (roundExponent eb q - mb)) := by
  rcases nonneg.eq_or_lt with rfl | pos
  · rw [roundExponent, if_pos rfl] at normal
    exact absurd normal (lt_irrefl _)
  · rw [roundExponent_of_pos pos] at normal ⊢
    rw [max_eq_left (by omega)]
    apply le_roundHalfEven
    push_cast
    exact (significand_range mb q pos).1

theorem roundPosition_mono {q q' : Rat} (nonneg : 0 ≤ q) (le : q ≤ q') :
    roundPosition eb mb q ≤ roundPosition eb mb q' := by
  have carry := significand_le eb mb nonneg
  have low := roundExponent_ge eb q
  unfold roundPosition
  rcases (roundExponent_mono eb nonneg le).eq_or_lt with same | less
  · rw [same]
    apply Nat.add_le_add_left
    apply roundHalfEven_mono (by positivity)
    gcongr
  · -- a significand may be carried into the next exponent, which starts there
    have full := le_significand mb (nonneg.trans le) (low.trans_lt less)
    have steps : (roundExponent eb q - minExponent eb).toNat + 1 ≤
        (roundExponent eb q' - minExponent eb).toNat := by omega
    have scaled := Nat.mul_le_mul_right (2 ^ mb) steps
    rw [Nat.add_mul, Nat.one_mul] at scaled
    rw [pow_succ] at carry
    omega

variable (eb mb) in
theorem round_mono {q q' : Rat} (nonneg : 0 ≤ q) (le : q ≤ q') :
    (round eb mb false q).le (round eb mb false q') = true := by
  rw [round_of_nonneg nonneg, round_of_nonneg (nonneg.trans le)]
  exact ofPosition_le (roundPosition_mono nonneg le)

variable (eb mb) in
/-- A non-negative magnitude in range, rounded. -/
theorem round_finite {q : Rat} (exponents : 2 ≤ eb) (nonneg : 0 ≤ q)
    (fits : q < (2 : Rat) ^ bias eb) : ∃ exponent fraction,
      round eb mb false q = .finite false exponent fraction := by
  have finite : (round eb mb false q).isFinite = true :=
    isFinite_round exponents (by rwa [abs_of_nonneg nonneg])
  rw [round_of_nonneg nonneg] at finite ⊢
  rcases ofPosition_cases eb mb (roundPosition eb mb q) with
    ⟨exponent, fraction, at_, -⟩ | ⟨-, at_⟩
  · exact ⟨exponent, fraction, at_⟩
  · rw [at_] at finite
    cases finite

/-! ## Whole numbers -/

variable (mb) in
/-- A whole number that fits the significand is exact. -/
theorem ofNat_exact {n : Nat} (exponents : 2 ≤ eb) (some : 0 < n) (short : n < 2 ^ (mb + 1))
    (fits : (n : Rat) < (2 : Rat) ^ bias eb) : ∃ exponent fraction,
      ofNat eb mb n = .finite false exponent fraction ∧ magnitude exponent fraction = n := by
  obtain ⟨exponent, fraction, at_, value⟩ := ofNat_finite mb exponents some fits
  refine ⟨exponent, fraction, at_, ?_⟩
  have length : Nat.log 2 n ≤ mb := by
    have := Nat.log_lt_of_lt_pow some.ne' short
    omega
  have shift : (2 : Rat) ^ ((Nat.log 2 n : Int) - mb) = ((2 ^ (mb - Nat.log 2 n) : Nat) : Rat)⁻¹ := by
    push_cast
    rw [← zpow_natCast, ← zpow_neg]
    congr 1
    omega
  have whole : (n : Rat) / (2 : Rat) ^ ((Nat.log 2 n : Int) - mb) =
      ((n * 2 ^ (mb - Nat.log 2 n) : Nat) : Rat) := by
    rw [shift, div_inv_eq_mul]
    push_cast
    rfl
  rw [value, whole, roundHalfEven_natCast, shift]
  push_cast
  field_simp

variable (eb mb) in
theorem ofNat_le {m n : Nat} (le : m ≤ n) : (ofNat eb mb m).le (ofNat eb mb n) = true :=
  round_mono eb mb (Nat.cast_nonneg m) (Nat.cast_le.mpr le)

theorem le_iff_magnitude_le {e e' : Fin (2 ^ eb - 1)} {f f' : Fin (2 ^ mb)} :
    (Binary.finite false e f).le (.finite false e' f') = true ↔ magnitude e f ≤ magnitude e' f' := by
  simp [Binary.le, Binary.lt, Binary.toRat?]

theorem magnitude_nonneg (e : Fin (2 ^ eb - 1)) (f : Fin (2 ^ mb)) : 0 ≤ magnitude e f := by
  unfold magnitude
  split <;> positivity

/-! ## Parts of a whole -/

theorem one_fits (exponents : 2 ≤ eb) : ((1 : Nat) : Rat) < (2 : Rat) ^ bias eb := by
  have two : 2 ≤ 2 ^ (eb - 1) := le_self_pow₀ one_le_two (by omega)
  have cast : bias eb = ((2 ^ (eb - 1) : Nat) : Int) - 1 := by simp [bias]
  rw [Nat.cast_one]
  exact one_lt_zpow₀ one_lt_two (by omega)

variable (eb mb) in
/-- A part over the whole, all rounded, is at most one. -/
theorem ratio_le_one {m n : Nat} (exponents : 2 ≤ eb) (some : 0 < n) (part : m ≤ n)
    (fits : (n : Rat) < (2 : Rat) ^ bias eb) : ∃ e f,
      (ofNat eb mb m).div (ofNat eb mb n) = .finite false e f ∧ magnitude e f ≤ 1 := by
  have order := ofNat_le eb mb part
  have positive := zero_lt_ofNat mb exponents fits
  obtain ⟨e, f, atM⟩ := round_finite eb mb exponents (Nat.cast_nonneg m)
    ((Nat.cast_le.mpr part).trans_lt fits)
  obtain ⟨e', f', atN⟩ := round_finite eb mb exponents (Nat.cast_nonneg n) fits
  obtain ⟨e₀, f₀, zero, none⟩ := zero_finite mb exponents
  obtain ⟨e₁, f₁, one, value⟩ := ofNat_exact mb exponents Nat.one_pos
    (Nat.one_lt_two_pow (Nat.succ_ne_zero mb)) (one_fits exponents)
  have whole : 0 < magnitude e' f' := by
    rw [zero, show ofNat eb mb n = _ from atN] at positive
    simpa [Binary.lt, Binary.toRat?, none, some] using positive
  have below : magnitude e f ≤ magnitude e' f' := by
    rw [show ofNat eb mb m = _ from atM, show ofNat eb mb n = _ from atN] at order
    exact le_iff_magnitude_le.mp order
  have nonneg : 0 ≤ magnitude e f / magnitude e' f' := div_nonneg (magnitude_nonneg e f) whole.le
  have small : magnitude e f / magnitude e' f' ≤ ((1 : Nat) : Rat) := by
    rw [Nat.cast_one]
    exact (div_le_one whole).mpr below
  obtain ⟨e'', f'', quotient⟩ := round_finite eb mb exponents nonneg
    (small.trans_lt (one_fits exponents))
  have bound := round_mono eb mb nonneg small
  rw [quotient, show round eb mb false ((1 : Nat) : Rat) = _ from one] at bound
  refine ⟨e'', f'', ?_, by simpa [value] using le_iff_magnitude_le.mp bound⟩
  rw [show ofNat eb mb m = _ from atM, show ofNat eb mb n = _ from atN]
  simpa [Binary.div, Binary.toRat?, whole.ne'] using quotient

/-- A share of at most one of a whole number that is exact is at most that number. -/
theorem share_le {n : Nat} {e : Fin (2 ^ eb - 1)} {f : Fin (2 ^ mb)} (exponents : 2 ≤ eb)
    (some : 0 < n) (short : n < 2 ^ (mb + 1)) (fits : (n : Rat) < (2 : Rat) ^ bias eb)
    (share : magnitude e f ≤ 1) :
    Binary.le .zero ((Binary.finite false e f).mul (ofNat eb mb n)) = true ∧
      ((Binary.finite false e f).mul (ofNat eb mb n)).le (ofNat eb mb n) = true := by
  obtain ⟨e', f', whole, value⟩ := ofNat_exact mb exponents some short fits
  have nonneg : 0 ≤ magnitude e f * (n : Rat) := mul_nonneg (magnitude_nonneg e f) (Nat.cast_nonneg n)
  have product : (Binary.finite false e f).mul (ofNat eb mb n) =
      round eb mb false (magnitude e f * (n : Rat)) := by
    rw [whole]
    simp [Binary.mul, Binary.toRat?, value]
  rw [product]
  constructor
  · apply round_mono eb mb (Nat.cast_nonneg 0)
    rw [Nat.cast_zero]
    exact nonneg
  · exact round_mono eb mb nonneg (mul_le_of_le_one_left (Nat.cast_nonneg n) share)

end

end Ieee
