import Mathlib.Data.List.TakeWhile
import ChainDash.Lib.FloatOrder

/-!
# Writing a float so that it is read back

`Binary.display` is Rust's `{}` of a float: the shortest decimal that is read as the float, and
of several the nearest, without an exponent. The search for it goes down the places of the last
digit and ends where the decimal is exact at the latest (`reads_shortest`); so a finite number is
read back from its text (`parse_display`).
-/

namespace Ieee
set_option autoImplicit false

variable {eb mb : Nat}

/-- The number that ends in a digit at a place. -/
def decimal (significand : Nat) (place : Int) : Rat := significand * (10 : Rat) ^ place

/-- The two significands around a number, the nearer one first. -/
def neighbours (q : Rat) (place : Int) : List Nat :=
  let scaled := q / (10 : Rat) ^ place
  let down := ⌊scaled⌋₊
  if scaled - down < 1 / 2 then [down, down + 1] else [down + 1, down]

/-- The first decimal that passes, from a place downwards. -/
def searchDecimal (reads : Nat → Int → Bool) (q : Rat) : Nat → Int → Option (Nat × Int)
  | 0, _ => none
  | places + 1, place =>
    match (neighbours q place).find? (reads · place) with
    | some significand => some (significand, place)
    | none => searchDecimal reads q places (place - 1)

/-- The exponent of the last place of a finite number. -/
def unitExponent (mb : Nat) (exponent : Fin (2 ^ eb - 1)) : Int :=
  (if exponent.val = 0 then minExponent eb else exponent.val - bias eb) - mb

def readsAs (exponent : Fin (2 ^ eb - 1)) (fraction : Fin (2 ^ mb)) (significand : Nat) (place : Int) :
    Bool :=
  decide (roundMagnitude eb mb false (decimal significand place) = .finite false exponent fraction)

/-- The digits of a positive number, from one place above its first digit on. -/
def shortest (exponent : Fin (2 ^ eb - 1)) (fraction : Fin (2 ^ mb)) : Nat × Int :=
  let q := magnitude exponent fraction
  let top := Int.log 10 q + 1
  let last := min 0 (unitExponent mb exponent)
  (searchDecimal (readsAs exponent fraction) q (top - last + 1).toNat top).getD (0, 0)

def decimalText (significand : Nat) (place : Int) : String :=
  if 0 ≤ place then toString (significand * 10 ^ place.toNat)
  else fixedDigits (-place).toNat significand

/-- `format!("{}", x)`. -/
def Binary.display : Binary eb mb → String
  | .nan => "NaN"
  | .inf negative => if negative then "-inf" else "inf"
  | .finite negative exponent fraction =>
    let text :=
      if magnitude exponent fraction = 0 then "0"
      else decimalText (shortest exponent fraction).1 (shortest exponent fraction).2
    if negative then "-" ++ text else text

/-! ## A number is its own nearest -/

theorem magnitude_eq (exponent : Fin (2 ^ eb - 1)) (fraction : Fin (2 ^ mb)) :
    magnitude exponent fraction =
      ((if exponent.val = 0 then 0 else 2 ^ mb) + fraction.val : Nat) *
        (2 : Rat) ^ unitExponent mb exponent := by
  unfold magnitude unitExponent
  split
  · rw [Nat.zero_add]
  · rfl

/-- A full significand tells the exponent. -/
theorem log_magnitude {exponent : Fin (2 ^ eb - 1)} (fraction : Fin (2 ^ mb))
    (normal : 0 < exponent.val) : 0 < magnitude exponent fraction ∧
      Int.log 2 (magnitude exponent fraction) = exponent.val - bias eb := by
  have short := fraction.isLt
  have bottom : (2 : Rat) ^ (mb : Int) ≤ (2 ^ mb + fraction.val : Nat) := by
    exact_mod_cast Nat.le_add_right (2 ^ mb) fraction.val
  have top : ((2 ^ mb + fraction.val : Nat) : Rat) < (2 : Rat) ^ ((mb : Int) + 1) := by
    have sum : 2 ^ mb + fraction.val < 2 ^ (mb + 1) := by
      rw [pow_succ]
      omega
    exact_mod_cast sum
  have unit : (0 : Rat) < (2 : Rat) ^ (exponent.val - bias eb - mb) := zpow_pos two_pos _
  have at_ := magnitude_of_pos fraction normal
  have low : (2 : Rat) ^ (exponent.val - bias eb) ≤ magnitude exponent fraction := by
    calc (2 : Rat) ^ (exponent.val - bias eb)
        = (2 : Rat) ^ (mb : Int) * (2 : Rat) ^ (exponent.val - bias eb - mb) := by
          rw [← zpow_add₀ two_ne_zero, add_sub_cancel]
      _ ≤ magnitude exponent fraction := by
          rw [at_]
          exact mul_le_mul_of_nonneg_right bottom unit.le
  have high : magnitude exponent fraction < (2 : Rat) ^ (exponent.val - bias eb + 1) := by
    calc magnitude exponent fraction
        < (2 : Rat) ^ ((mb : Int) + 1) * (2 : Rat) ^ (exponent.val - bias eb - mb) := by
          rw [at_]
          exact mul_lt_mul_of_pos_right top unit
      _ = (2 : Rat) ^ (exponent.val - bias eb + 1) := by
          rw [← zpow_add₀ two_ne_zero]
          congr 1
          ring
  have pos : 0 < magnitude exponent fraction := lt_of_lt_of_le (zpow_pos two_pos _) low
  have least := (Int.zpow_le_iff_le_log Nat.one_lt_two pos).mp low
  have most := (Int.lt_zpow_iff_log_lt Nat.one_lt_two pos).mp high
  exact ⟨pos, by omega⟩

theorem roundExponent_magnitude (exponent : Fin (2 ^ eb - 1)) (fraction : Fin (2 ^ mb)) :
    roundExponent eb (magnitude exponent fraction) = unitExponent mb exponent + mb := by
  unfold unitExponent
  rw [sub_add_cancel]
  split
  case isFalse normal =>
    obtain ⟨pos, log⟩ := log_magnitude fraction (Nat.pos_of_ne_zero normal)
    rw [roundExponent_of_pos pos, log, max_eq_left]
    unfold minExponent
    omega
  case isTrue subnormal =>
    have unit : (0 : Rat) < (2 : Rat) ^ (minExponent eb - mb) := zpow_pos two_pos _
    have below : magnitude exponent fraction < (2 : Rat) ^ minExponent eb := by
      have short : (fraction.val : Rat) < (2 : Rat) ^ (mb : Int) := by exact_mod_cast fraction.isLt
      calc magnitude exponent fraction
          = fraction.val * (2 : Rat) ^ (minExponent eb - mb) := by rw [magnitude, if_pos subnormal]
        _ < (2 : Rat) ^ (mb : Int) * (2 : Rat) ^ (minExponent eb - mb) :=
          mul_lt_mul_of_pos_right short unit
        _ = (2 : Rat) ^ minExponent eb := by rw [← zpow_add₀ two_ne_zero, add_sub_cancel]
    rcases (magnitude_nonneg exponent fraction).eq_or_lt with zero | pos
    · rw [← zero, roundExponent, if_pos rfl]
    · have log := (Int.lt_zpow_iff_log_lt Nat.one_lt_two pos).mp below
      rw [roundExponent_of_pos pos, max_eq_right log.le]

/-- A number of the format is rounded to itself. -/
theorem roundMagnitude_magnitude (negative : Bool) (exponent : Fin (2 ^ eb - 1))
    (fraction : Fin (2 ^ mb)) : roundMagnitude eb mb negative (magnitude exponent fraction) =
      .finite negative exponent fraction := by
  have short := fraction.isLt
  have unit : (2 : Rat) ^ unitExponent mb exponent ≠ 0 := zpow_ne_zero _ two_ne_zero
  have significand : roundHalfEven (magnitude exponent fraction /
      (2 : Rat) ^ (roundExponent eb (magnitude exponent fraction) - mb)) =
        (if exponent.val = 0 then 0 else 2 ^ mb) + fraction.val := by
    rw [roundExponent_magnitude, add_sub_cancel_right, magnitude_eq, mul_div_cancel_right₀ _ unit,
      roundHalfEven_natCast]
  have position : roundPosition eb mb (magnitude exponent fraction) =
      exponent.val * 2 ^ mb + fraction.val := by
    rw [roundPosition, significand, roundExponent_magnitude]
    unfold unitExponent minExponent
    split
    case isTrue subnormal =>
      have none_ : (1 - bias eb - mb + mb - (1 - bias eb)).toNat = 0 := by omega
      rw [none_, subnormal, Nat.zero_mul, Nat.zero_add, Nat.zero_add]
    case isFalse normal =>
      have steps : ((exponent.val : Int) - bias eb - mb + mb - (1 - bias eb)).toNat + 1 =
          exponent.val := by omega
      rw [← Nat.add_assoc, ← Nat.succ_mul, Nat.succ_eq_add_one, steps]
  have quotient : (exponent.val * 2 ^ mb + fraction.val) / 2 ^ mb = exponent.val := by
    rw [Nat.add_comm, Nat.add_mul_div_right _ _ (Nat.two_pow_pos mb), Nat.div_eq_of_lt short,
      Nat.zero_add]
  have remainder : (exponent.val * 2 ^ mb + fraction.val) % 2 ^ mb = fraction.val := by
    rw [Nat.add_comm, Nat.add_mul_mod_self_right, Nat.mod_eq_of_lt short]
  show ofPosition eb mb negative (roundPosition eb mb (magnitude exponent fraction)) = _
  rw [position]
  unfold ofPosition
  simp only [quotient, remainder, exponent.isLt, ↓reduceDIte]

/-- The sign is rounded along. -/
theorem roundMagnitude_of_unsigned {q : Rat} {exponent : Fin (2 ^ eb - 1)} {fraction : Fin (2 ^ mb)}
    (unsigned : roundMagnitude eb mb false q = .finite false exponent fraction) (negative : Bool) :
    roundMagnitude eb mb negative q = .finite negative exponent fraction := by
  change ofPosition eb mb false (roundPosition eb mb q) = _ at unsigned
  change ofPosition eb mb negative (roundPosition eb mb q) = _
  unfold ofPosition at unsigned ⊢
  split at unsigned
  case isFalse => cases unsigned
  case isTrue inRange =>
    cases unsigned
    rw [dif_pos inRange]

/-! ## The search ends -/

theorem readsAs_decimal {exponent : Fin (2 ^ eb - 1)} {fraction : Fin (2 ^ mb)} {significand : Nat}
    {place : Int} (exact_ : decimal significand place = magnitude exponent fraction) :
    readsAs exponent fraction significand place = true := by
  unfold readsAs
  rw [exact_, roundMagnitude_magnitude, decide_eq_true rfl]

theorem searchDecimal_reads {reads : Nat → Int → Bool} {q : Rat} {places : Nat} {place : Int}
    {found : Nat × Int} (search : searchDecimal reads q places place = some found) :
    reads found.1 found.2 = true := by
  induction places generalizing place with
  | zero => cases search
  | succ places ih =>
    unfold searchDecimal at search
    split at search
    case h_1 significand first =>
      obtain rfl := Option.some.inj search
      exact List.find?_some (p := (reads · place)) first
    case h_2 => exact ih search

/-- The search finds something if a place among those tried has a decimal that passes. -/
theorem searchDecimal_isSome {reads : Nat → Int → Bool} {q : Rat} {significand : Nat} {last : Int}
    (near : significand ∈ neighbours q last) (passes : reads significand last = true) {places : Nat}
    {place : Int} (below : last ≤ place) (within : place < last + places) :
    (searchDecimal reads q places place).isSome := by
  induction places generalizing place with
  | zero => omega
  | succ places ih =>
    unfold searchDecimal
    split
    case h_1 => rfl
    case h_2 none_ =>
      refine ih ?_ (by omega)
      by_contra above
      obtain rfl : place = last := by omega
      have fails := List.find?_eq_none.mp none_ significand near
      exact fails passes

theorem mem_neighbours_of_eq {q : Rat} {place : Int} {significand : Nat}
    (exact_ : q = decimal significand place) : significand ∈ neighbours q place := by
  have scaled : q / (10 : Rat) ^ place = significand := by
    rw [exact_, decimal, mul_div_cancel_right₀ _ (zpow_ne_zero _ (by decide))]
  unfold neighbours
  dsimp only
  rw [scaled, Nat.floor_natCast]
  split <;> simp

/-- A number of the format is a whole number of its last place, and then of a decimal place. -/
theorem exists_exact (exponent : Fin (2 ^ eb - 1)) (fraction : Fin (2 ^ mb)) :
    ∃ significand, magnitude exponent fraction =
      decimal significand (min 0 (unitExponent mb exponent)) := by
  rw [magnitude_eq]
  generalize (if exponent.val = 0 then 0 else 2 ^ mb) + fraction.val = units
  generalize unitExponent mb exponent = place
  rcases le_total 0 place with whole | part
  · refine ⟨units * 2 ^ place.toNat, ?_⟩
    rw [min_eq_left whole, decimal, zpow_zero, mul_one]
    obtain ⟨n, rfl⟩ := Int.eq_ofNat_of_zero_le whole
    push_cast
    rw [Int.toNat_natCast, zpow_natCast]
  · obtain ⟨n, at_⟩ := Int.eq_ofNat_of_zero_le (neg_nonneg.mpr part)
    obtain rfl : place = -(n : Int) := by omega
    refine ⟨units * 5 ^ n, ?_⟩
    rw [min_eq_right part, decimal, zpow_neg, zpow_neg, zpow_natCast, zpow_natCast]
    have ten : (10 : Rat) ^ n = 2 ^ n * 5 ^ n := by rw [← mul_pow]; norm_num
    push_cast
    rw [ten, mul_inv, mul_assoc, mul_left_comm ((5 : Rat) ^ n), mul_inv_cancel₀ (by positivity),
      mul_one]

theorem reads_shortest (exponent : Fin (2 ^ eb - 1)) (fraction : Fin (2 ^ mb))
    (pos : 0 < magnitude exponent fraction) : roundMagnitude eb mb false
      (decimal (shortest exponent fraction).1 (shortest exponent fraction).2) =
        .finite false exponent fraction := by
  obtain ⟨significand, exact_⟩ := exists_exact exponent fraction
  generalize last : min 0 (unitExponent mb exponent) = place at exact_
  have below : place ≤ Int.log 10 (magnitude exponent fraction) := by
    refine (Int.zpow_le_iff_le_log (by decide) pos).mp ?_
    have some : 0 < significand := by
      by_contra none_
      rw [exact_, Nat.eq_zero_of_not_pos none_, decimal, Nat.cast_zero, zero_mul] at pos
      exact lt_irrefl _ pos
    have one : (1 : Rat) ≤ significand := by exact_mod_cast some
    rw [exact_]
    exact le_mul_of_one_le_left (zpow_pos (by decide) _).le one
  have found : (searchDecimal (readsAs exponent fraction) (magnitude exponent fraction)
      (Int.log 10 (magnitude exponent fraction) + 1 - place + 1).toNat
      (Int.log 10 (magnitude exponent fraction) + 1)).isSome :=
    searchDecimal_isSome (mem_neighbours_of_eq exact_) (readsAs_decimal exact_.symm) (by omega)
      (by omega)
  obtain ⟨found, search⟩ := Option.isSome_iff_exists.mp found
  have reads := searchDecimal_reads search
  unfold shortest
  dsimp only
  rw [last, search, Option.getD_some]
  exact of_decide_eq_true reads

/-! ## The text is read -/

theorem digitValue_eq (digits : List Char) : digitValue digits = Nat.ofDigitChars 10 digits 0 := by
  rw [Nat.ofDigitChars_eq_foldl]
  rfl

theorem parseNumber_whole {whole : List Char} (nonempty : whole ≠ [])
    (digits : ∀ c ∈ whole, c.isDigit = true) :
    parseNumber whole = some (digitValue whole : Rat) := by
  have front : whole.takeWhile Char.isDigit = whole := List.takeWhile_eq_self_iff.mpr digits
  have rest : whole.dropWhile Char.isDigit = [] := List.dropWhile_eq_nil_iff.mpr digits
  unfold parseNumber
  dsimp only
  rw [front, rest]
  simp [nonempty, parseExponent]

theorem parseNumber_point {whole fraction : List Char} (nonempty : whole ≠ [])
    (digits : ∀ c ∈ whole ++ fraction, c.isDigit = true) :
    parseNumber (whole ++ '.' :: fraction) =
      some (digitValue (whole ++ fraction) * (10 : Rat) ^ (-(fraction.length : Int))) := by
  have wholeDigits := fun c mem => digits c (List.mem_append_left _ mem)
  have fractionDigits := fun c mem => digits c (List.mem_append_right _ mem)
  have front : (whole ++ '.' :: fraction).takeWhile Char.isDigit = whole := by
    rw [List.takeWhile_append_of_pos wholeDigits, List.takeWhile_cons_of_neg (by decide),
      List.append_nil]
  have rest : (whole ++ '.' :: fraction).dropWhile Char.isDigit = '.' :: fraction := by
    rw [List.dropWhile_append_of_pos wholeDigits, List.dropWhile_cons_of_neg (by decide)]
  have fractionFront : fraction.takeWhile Char.isDigit = fraction :=
    List.takeWhile_eq_self_iff.mpr fractionDigits
  have fractionRest : fraction.dropWhile Char.isDigit = [] :=
    List.dropWhile_eq_nil_iff.mpr fractionDigits
  unfold parseNumber
  simp only [front, rest, fractionFront, fractionRest]
  simp [nonempty, parseExponent]

theorem parseSign_of_digit {c : Char} (digit : c.isDigit = true) (rest : List Char) :
    parseSign (c :: rest) = (false, c :: rest) := by
  unfold parseSign
  split
  case h_1 same => exact absurd ((List.cons.inj same).1 ▸ digit) (by decide)
  case h_2 same => exact absurd ((List.cons.inj same).1 ▸ digit) (by decide)
  case h_3 => rfl

variable (eb mb) in
/-- A text that starts with a digit is none of the words, with a sign or without. -/
theorem parse_of_digit {c : Char} (digit : c.isDigit = true) (rest : List Char) :
    parse eb mb (String.ofList (c :: rest)) =
      (parseNumber (c :: rest)).map (roundMagnitude eb mb false) ∧
    parse eb mb (String.ofList ('-' :: c :: rest)) =
      (parseNumber (c :: rest)).map (roundMagnitude eb mb true) := by
  have range : '0'.val ≤ c.val ∧ c.val ≤ '9'.val := by
    obtain ⟨low, high⟩ := Bool.and_eq_true_iff.mp digit
    exact ⟨of_decide_eq_true low, of_decide_eq_true high⟩
  have lower : c.toLower.isDigit = true := by
    have small : ¬ ('A'.val ≤ c.val ∧ c.val ≤ 'Z'.val) := fun capital =>
      absurd (UInt32.le_trans capital.1 range.2) (by decide)
    have same : c.toLower = c := dif_neg small
    rw [same, digit]
  have noWord : ∀ word : String, (∃ first ∈ word.toList.head?, first.isDigit = false) →
      String.ofList ((c :: rest).map Char.toLower) ≠ word := by
    rintro _ ⟨first, head, noDigit⟩ rfl
    rw [String.toList_ofList, List.map_cons, List.head?_cons, Option.mem_some_iff] at head
    rw [head, noDigit] at lower
    cases lower
  have inf := noWord "inf" ⟨'i', rfl, rfl⟩
  have infinity := noWord "infinity" ⟨'i', rfl, rfl⟩
  have nan := noWord "nan" ⟨'n', rfl, rfl⟩
  constructor
  · unfold parse
    rw [String.toList_ofList, parseSign_of_digit digit]
    simp only [inf, infinity, nan, or_self, if_false]
  · unfold parse
    rw [String.toList_ofList]
    simp only [parseSign, inf, infinity, nan, or_self, if_false]

theorem isDigit_of_mem_toDigits {n : Nat} {c : Char} (mem : c ∈ Nat.toDigits 10 n) :
    c.isDigit = true := Nat.isDigit_of_mem_toDigits (by decide) (by decide) mem

theorem exists_toDigits (n : Nat) : ∃ c rest, Nat.toDigits 10 n = c :: rest ∧ c.isDigit = true := by
  obtain ⟨c, rest, digits⟩ := List.exists_cons_of_ne_nil (Nat.toDigits_ne_nil (n := n) (b := 10))
  exact ⟨c, rest, digits, isDigit_of_mem_toDigits (digits ▸ List.mem_cons_self)⟩

theorem parseNumber_toDigits (n : Nat) : parseNumber (Nat.toDigits 10 n) = some (n : Rat) := by
  rw [parseNumber_whole Nat.toDigits_ne_nil (fun c mem => isDigit_of_mem_toDigits mem), digitValue_eq,
    Nat.ofDigitChars_ten_toDigits]

theorem minus_append (text : List Char) : "-" ++ String.ofList text = String.ofList ('-' :: text) := by
  rw [← String.toList_inj]
  simp

/-- The digits of a whole number, with its sign in front. -/
theorem toString_eq (n : Int) : toString n =
    String.ofList (if n < 0 then '-' :: Nat.toDigits 10 n.natAbs else Nat.toDigits 10 n.natAbs) := by
  cases n with
  | ofNat n =>
    rw [if_neg (by simp)]
    exact Nat.toString_eq_ofList_toDigits
  | negSucc n =>
    have text : toString (Int.negSucc n) = "-" ++ toString (n + 1) := rfl
    rw [text, Nat.toString_eq_ofList_toDigits, minus_append, if_pos (Int.negSucc_lt_zero n)]
    rfl

theorem parseSign_toString (n : Int) :
    parseSign (toString n).toList = (decide (n < 0), Nat.toDigits 10 n.natAbs) := by
  obtain ⟨c, rest, digits, digit⟩ := exists_toDigits n.natAbs
  rw [toString_eq, String.toList_ofList]
  by_cases negative : n < 0
  · rw [if_pos negative, decide_eq_true negative]
    rfl
  · rw [if_neg negative, decide_eq_false negative, digits, parseSign_of_digit digit]

/-- A whole number is read as the float nearest to it. -/
theorem parse_toString (n : Int) : parse eb mb (toString n) = some (round eb mb false n) := by
  obtain ⟨c, rest, digits, digit⟩ := exists_toDigits n.natAbs
  have read := parseNumber_toDigits n.natAbs
  rw [digits] at read
  have abs_ : |(n : Rat)| = n.natAbs := by
    rw [Nat.cast_natAbs, Int.cast_abs]
  rw [toString_eq, digits]
  by_cases negative : n < 0
  · have below : (n : Rat) < 0 := by exact_mod_cast negative
    rw [if_pos negative, (parse_of_digit eb mb digit rest).2, read, round, if_neg below.ne,
      decide_eq_true below, abs_]
    rfl
  · have above : ¬ (n : Rat) < 0 := by exact_mod_cast negative
    rw [if_neg negative, (parse_of_digit eb mb digit rest).1, read, round, decide_eq_false above,
      ite_self, abs_]
    rfl

/-- The places after the point, with the zeros in front. -/
def fractionDigits (d n : Nat) : List Char :=
  List.replicate (d - (Nat.toDigits 10 (n % 10 ^ d)).length) '0' ++ Nat.toDigits 10 (n % 10 ^ d)

theorem length_fractionDigits {d : Nat} (some : 0 < d) (n : Nat) :
    (fractionDigits d n).length = d := by
  have short : (Nat.toDigits 10 (n % 10 ^ d)).length ≤ d :=
    (Nat.length_toDigits_le_iff (by decide) some).mpr (Nat.mod_lt _ (by positivity))
  unfold fractionDigits
  rw [List.length_append, List.length_replicate]
  omega

theorem digitValue_fixedDigits {d : Nat} (some : 0 < d) (n : Nat) :
    digitValue (Nat.toDigits 10 (n / 10 ^ d) ++ fractionDigits d n) = n := by
  rw [digitValue_eq, Nat.ofDigitChars_append, Nat.ofDigitChars_eq_ofDigitChars_zero,
    length_fractionDigits some, fractionDigits, Nat.ofDigitChars_append,
    Nat.ofDigitChars_replicate_zero, Nat.mul_zero, Nat.ofDigitChars_ten_toDigits, Nat.ofDigitChars_ten_toDigits]
  exact Nat.div_add_mod n (10 ^ d)

theorem toList_fixedDigits {d : Nat} (some : 0 < d) (n : Nat) : (fixedDigits d n).toList =
    Nat.toDigits 10 (n / 10 ^ d) ++ '.' :: fractionDigits d n := by
  have zeros : ∀ k, ("".pushn '0' k).toList = List.replicate k '0' := by
    intro k
    rw [String.pushn_eq_repeat_push]
    induction k with
    | zero => rfl
    | succ k ih => rw [Nat.repeat, String.toList_push, ih, List.replicate_succ']
  unfold fixedDigits
  rw [if_neg some.ne']
  simp only [String.toList_append, Nat.toString_eq_ofList_toDigits, String.toList_ofList, zeros]
  simp [fractionDigits, String.length_ofList]

/-- The text of a decimal starts with a digit and is read as the decimal. -/
theorem decimalText_read (significand : Nat) (place : Int) : ∃ c rest,
    decimalText significand place = String.ofList (c :: rest) ∧ c.isDigit = true ∧
      parseNumber (c :: rest) = some (decimal significand place) := by
  unfold decimalText
  split
  case isTrue whole =>
    obtain ⟨n, rfl⟩ := Int.eq_ofNat_of_zero_le whole
    obtain ⟨c, rest, digits, digit⟩ := exists_toDigits (significand * 10 ^ n)
    refine ⟨c, rest, ?_, digit, ?_⟩
    · rw [Int.toNat_natCast, Nat.toString_eq_ofList_toDigits, digits]
    · rw [← digits, parseNumber_toDigits, decimal, zpow_natCast]
      push_cast
      rfl
  case isFalse part =>
    obtain ⟨d, at_⟩ := Int.eq_ofNat_of_zero_le (neg_nonneg.mpr (not_le.mp part).le)
    obtain rfl : place = -(d : Int) := by omega
    have some : 0 < d := by omega
    obtain ⟨c, rest, digits, digit⟩ := exists_toDigits (significand / 10 ^ d)
    have text := toList_fixedDigits some significand
    refine ⟨c, rest ++ '.' :: fractionDigits d significand, ?_, digit, ?_⟩
    · rw [neg_neg, Int.toNat_natCast, ← List.cons_append, ← digits, ← text, String.ofList_toList]
    · rw [← List.cons_append, ← digits, parseNumber_point Nat.toDigits_ne_nil,
        digitValue_fixedDigits some, length_fractionDigits some, decimal]
      intro c mem
      rcases List.mem_append.mp mem with mem | mem
      · exact isDigit_of_mem_toDigits mem
      · rcases List.mem_append.mp mem with mem | mem
        · rw [List.eq_of_mem_replicate mem]
          rfl
        · exact isDigit_of_mem_toDigits mem

/-- A finite number is read back from its text. -/
theorem parse_display {x : Binary eb mb} (finite : x.isFinite = true) :
    parse eb mb x.display = some x := by
  cases x with
  | nan | inf negative => cases finite
  | finite negative exponent fraction =>
    have text : ∃ c rest q,
        (if magnitude exponent fraction = 0 then "0"
          else decimalText (shortest exponent fraction).1 (shortest exponent fraction).2) =
            String.ofList (c :: rest) ∧ c.isDigit = true ∧ parseNumber (c :: rest) = some q ∧
        ∀ negative, roundMagnitude eb mb negative q = .finite negative exponent fraction := by
      split
      case isTrue zero =>
        refine ⟨'0', [], magnitude exponent fraction, rfl, rfl, ?_, fun negative => ?_⟩
        · rw [zero, parseNumber_whole (by simp) (by simp)]
          simp [digitValue]
        · exact roundMagnitude_magnitude negative exponent fraction
      case isFalse nonzero =>
        have pos := lt_of_le_of_ne (magnitude_nonneg exponent fraction) (Ne.symm nonzero)
        obtain ⟨c, rest, text, digit, read⟩ := decimalText_read (shortest exponent fraction).1
          (shortest exponent fraction).2
        exact ⟨c, rest, _, text, digit, read, roundMagnitude_of_unsigned (reads_shortest _ _ pos)⟩
    obtain ⟨c, rest, q, text, digit, read, rounds⟩ := text
    obtain ⟨plain, signed⟩ := parse_of_digit eb mb digit rest
    unfold Binary.display
    dsimp only
    rw [text]
    cases negative with
    | false =>
      rw [if_neg (by decide), plain, read, Option.map_some, rounds]
    | true =>
      rw [if_pos rfl, minus_append, signed, read, Option.map_some, rounds]

end Ieee
