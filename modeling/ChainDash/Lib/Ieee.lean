import Mathlib.Data.Int.Log
import Mathlib.Data.Rat.Floor
import Mathlib.Algebra.Order.Archimedean.Basic
import Mathlib.Algebra.Order.Field.Power
import Mathlib.Tactic.Ring

/-!
# Binary floating-point numbers

`Binary eb mb` is the IEEE 754 interchange format with `eb` exponent bits and `mb`
bits of trailing significand; a NaN carries no payload. Arithmetic is exact rational
arithmetic followed by one rounding to nearest, ties to even (`round`). Reading and
writing decimal text (`parse`, `formatFixed`) follows Rust's `f64` parser and its
`{:.d}` formatter.
-/

namespace Ieee
set_option autoImplicit false

/-- A floating-point datum: the fields of a finite number are in range by type. -/
inductive Binary (eb mb : Nat) where
  | nan
  | inf (negative : Bool)
  | finite (negative : Bool) (exponent : Fin (2 ^ eb - 1)) (fraction : Fin (2 ^ mb))
  deriving DecidableEq, Repr

/-- `f64`. -/
abbrev F64 := Binary 11 52

/-- `f32`. -/
abbrev F32 := Binary 8 23

section Format

variable {eb mb : Nat}

def bias (eb : Nat) : Int := 2 ^ (eb - 1) - 1

/-- The exponent of the smallest normal number. -/
def minExponent (eb : Nat) : Int := 1 - bias eb

/-- `f64::is_finite`. -/
def Binary.isFinite : Binary eb mb → Bool
  | .finite .. => true
  | _ => false

/-- The magnitude of a finite number. -/
def magnitude (exponent : Fin (2 ^ eb - 1)) (fraction : Fin (2 ^ mb)) : Rat :=
  if exponent.val = 0 then
    fraction.val * (2 : Rat) ^ (minExponent eb - mb)
  else
    (2 ^ mb + fraction.val : Nat) * (2 : Rat) ^ (exponent.val - bias eb - mb)

def Binary.toRat? : Binary eb mb → Option Rat
  | .finite negative exponent fraction =>
    some (if negative then -magnitude exponent fraction else magnitude exponent fraction)
  | _ => none

/-- The nearest natural number, ties to even. -/
def roundHalfEven (q : Rat) : Nat :=
  let down := ⌊q⌋₊
  let rest := q - down
  if rest < 1 / 2 then down
  else if 1 / 2 < rest then down + 1
  else if down % 2 = 0 then down else down + 1

/-- The datum with the given position in the order of the non-negative finite numbers,
which is its bit pattern without the sign; positions past the last one are infinite. -/
def ofPosition (eb mb : Nat) (negative : Bool) (position : Nat) : Binary eb mb :=
  if h : position / 2 ^ mb < 2 ^ eb - 1 then
    .finite negative ⟨position / 2 ^ mb, h⟩ ⟨position % 2 ^ mb, Nat.mod_lt _ (by positivity)⟩
  else
    .inf negative

/-- Round a magnitude: the significand in units of the last place, carried into the
exponent by the order of bit patterns. -/
def roundMagnitude (eb mb : Nat) (negative : Bool) (q : Rat) : Binary eb mb :=
  let exponent := if q = 0 then minExponent eb else max (Int.log 2 q) (minExponent eb)
  let significand := roundHalfEven (q / (2 : Rat) ^ (exponent - mb))
  ofPosition eb mb negative ((exponent - minExponent eb).toNat * 2 ^ mb + significand)

/-- Round a rational number; an exact zero gets the sign given. -/
def round (eb mb : Nat) (zeroSign : Bool) (q : Rat) : Binary eb mb :=
  roundMagnitude eb mb (if q = 0 then zeroSign else decide (q < 0)) |q|

/-- `n as f64`. -/
def ofNat (eb mb n : Nat) : Binary eb mb := round eb mb false n

def Binary.zero : Binary eb mb := ofNat eb mb 0

def Binary.sign : Binary eb mb → Bool
  | .nan => false
  | .inf negative => negative
  | .finite negative .. => negative

/-- `a < b`; false when either is a NaN. -/
def Binary.lt : Binary eb mb → Binary eb mb → Bool
  | .nan, _ | _, .nan => false
  | .inf a, .inf b => a && !b
  | .inf a, .finite .. => a
  | .finite .., .inf b => !b
  | .finite s e f, .finite s' e' f' =>
    decide (((Binary.finite s e f).toRat?.getD 0) < ((Binary.finite s' e' f').toRat?.getD 0))

/-- `a <= b`; false when either is a NaN. -/
def Binary.le : Binary eb mb → Binary eb mb → Bool
  | .nan, _ | _, .nan => false
  | a, b => !b.lt a

/-- `f64::max`: a NaN gives way to the other one. -/
def Binary.maxNum : Binary eb mb → Binary eb mb → Binary eb mb
  | .nan, b => b
  | a, .nan => a
  | a, b => if a.lt b then b else a

def Binary.minNum : Binary eb mb → Binary eb mb → Binary eb mb
  | .nan, b => b
  | a, .nan => a
  | a, b => if b.lt a then b else a

/-- `-x`. -/
def Binary.neg : Binary eb mb → Binary eb mb
  | .nan => .nan
  | .inf negative => .inf !negative
  | .finite negative exponent fraction => .finite (!negative) exponent fraction

def Binary.clamp (x low high : Binary eb mb) : Binary eb mb :=
  let x := if x.lt low then low else x
  if high.lt x then high else x

def Binary.add : Binary eb mb → Binary eb mb → Binary eb mb
  | .nan, _ | _, .nan => .nan
  | .inf a, .inf b => if a = b then .inf a else .nan
  | .inf a, .finite .. => .inf a
  | .finite .., .inf b => .inf b
  | .finite s e f, .finite s' e' f' =>
    round eb mb (s && s')
      ((Binary.finite s e f).toRat?.getD 0 + (Binary.finite s' e' f').toRat?.getD 0)

def Binary.sub : Binary eb mb → Binary eb mb → Binary eb mb
  | .nan, _ | _, .nan => .nan
  | .inf a, .inf b => if a = b then .nan else .inf a
  | .inf a, .finite .. => .inf a
  | .finite .., .inf b => .inf (!b)
  | .finite s e f, .finite s' e' f' =>
    round eb mb (s && !s')
      ((Binary.finite s e f).toRat?.getD 0 - (Binary.finite s' e' f').toRat?.getD 0)

def Binary.mul : Binary eb mb → Binary eb mb → Binary eb mb
  | .nan, _ | _, .nan => .nan
  | .inf a, .inf b => .inf (a != b)
  | .inf a, .finite s e f | .finite s e f, .inf a =>
    if (Binary.finite s e f).toRat?.getD 0 = 0 then .nan else .inf (a != s)
  | .finite s e f, .finite s' e' f' =>
    round eb mb (s != s')
      ((Binary.finite s e f).toRat?.getD 0 * (Binary.finite s' e' f').toRat?.getD 0)

def Binary.div : Binary eb mb → Binary eb mb → Binary eb mb
  | .nan, _ | _, .nan => .nan
  | .inf _, .inf _ => .nan
  | .inf a, .finite s .. => .inf (a != s)
  | .finite s .., .inf b =>
    if s = b then .zero else round eb mb true 0
  | .finite s e f, .finite s' e' f' =>
    let p := (Binary.finite s e f).toRat?.getD 0
    let q := (Binary.finite s' e' f').toRat?.getD 0
    if q = 0 then (if p = 0 then .nan else .inf (s != s')) else round eb mb (s != s') (p / q)

/-- The digits of `n / 10 ^ d` with `d` places after the point. -/
def fixedDigits (d n : Nat) : String :=
  let whole := toString (n / 10 ^ d)
  let digits := toString (n % 10 ^ d)
  if d = 0 then whole else whole ++ "." ++ "".pushn '0' (d - digits.length) ++ digits

/-- `format!("{:.d}", x)`. -/
def Binary.formatFixed (d : Nat) : Binary eb mb → String
  | .nan => "NaN"
  | .inf negative => if negative then "-inf" else "inf"
  | .finite negative e f =>
    (if negative then "-" else "") ++ fixedDigits d (roundHalfEven (magnitude e f * 10 ^ d))

/-! ## Finite results -/

theorem isFinite_ofPosition {negative : Bool} {position : Nat}
    (h : position < (2 ^ eb - 1) * 2 ^ mb) : (ofPosition eb mb negative position).isFinite = true := by
  have small : position / 2 ^ mb < 2 ^ eb - 1 := Nat.div_lt_of_lt_mul (by rwa [Nat.mul_comm])
  rw [ofPosition, dif_pos small]
  rfl

theorem roundHalfEven_le {q : Rat} {n : Nat} (pos : 0 < n) (h : q < n) : roundHalfEven q ≤ n := by
  have down : ⌊q⌋₊ < n := (Nat.floor_lt' pos.ne').mpr h
  simp only [roundHalfEven]
  split
  · omega
  · split
    · omega
    · split <;> omega

/-- Below half the range nothing overflows. -/
theorem isFinite_roundMagnitude {negative : Bool} {q : Rat} (exponents : 2 ≤ eb) (nonneg : 0 ≤ q)
    (h : q < (2 : Rat) ^ bias eb) : (roundMagnitude eb mb negative q).isFinite = true := by
  have two : 2 ≤ 2 ^ (eb - 1) := le_self_pow₀ one_le_two (by omega)
  have powers : 2 ^ eb = 2 * 2 ^ (eb - 1) := by rw [← pow_succ', Nat.sub_add_cancel (by omega)]
  have cast : bias eb = ((2 ^ (eb - 1) : Nat) : Int) - 1 := by simp [bias]
  simp only [roundMagnitude]
  generalize exp : (if q = 0 then minExponent eb else max (Int.log 2 q) (minExponent eb)) = exponent
  have range : minExponent eb ≤ exponent ∧ exponent < bias eb ∧ q < (2 : Rat) ^ (exponent + 1) := by
    rw [← exp]
    have least : minExponent eb < bias eb := by
      unfold minExponent
      omega
    split
    case isTrue zero =>
      refine ⟨le_refl _, least, ?_⟩
      rw [zero]
      exact zpow_pos two_pos _
    case isFalse nonzero =>
      have pos : 0 < q := lt_of_le_of_ne nonneg (Ne.symm nonzero)
      have log : Int.log 2 q < bias eb := (Int.lt_zpow_iff_log_lt Nat.one_lt_two pos).mp h
      have next : q < (2 : Rat) ^ (Int.log 2 q + 1) := Int.lt_zpow_succ_log_self Nat.one_lt_two q
      refine ⟨le_max_right _ _, max_lt log least, next.trans_le ?_⟩
      exact zpow_le_zpow_right₀ one_le_two (by omega)
  obtain ⟨low, high, below⟩ := range
  have significand : roundHalfEven (q / (2 : Rat) ^ (exponent - mb)) ≤ 2 ^ (mb + 1) := by
    refine roundHalfEven_le (Nat.two_pow_pos _) ?_
    rw [div_lt_iff₀ (zpow_pos two_pos _), Nat.cast_pow, Nat.cast_two, ← zpow_natCast,
      ← zpow_add₀ two_ne_zero]
    have sum : ((mb + 1 : Nat) : Int) + (exponent - mb) = exponent + 1 := by omega
    rwa [sum]
  refine isFinite_ofPosition ?_
  have steps : (exponent - minExponent eb).toNat + 2 < 2 ^ eb - 1 := by
    unfold minExponent at *
    omega
  calc (exponent - minExponent eb).toNat * 2 ^ mb + roundHalfEven (q / (2 : Rat) ^ (exponent - mb))
      ≤ (exponent - minExponent eb).toNat * 2 ^ mb + 2 ^ (mb + 1) := by omega
    _ = ((exponent - minExponent eb).toNat + 2) * 2 ^ mb := by ring
    _ < (2 ^ eb - 1) * 2 ^ mb := Nat.mul_lt_mul_of_pos_right steps (Nat.two_pow_pos _)

theorem isFinite_round {zeroSign : Bool} {q : Rat} (exponents : 2 ≤ eb)
    (h : |q| < (2 : Rat) ^ bias eb) : (round eb mb zeroSign q).isFinite = true :=
  isFinite_roundMagnitude exponents (abs_nonneg q) h

theorem isFinite_ofNat {n : Nat} (exponents : 2 ≤ eb) (h : (n : Rat) < (2 : Rat) ^ bias eb) :
    (ofNat eb mb n).isFinite = true := by
  unfold ofNat
  exact isFinite_round exponents (by rwa [Nat.abs_cast])

theorem isFinite_zero (exponents : 2 ≤ eb) : (Binary.zero : Binary eb mb).isFinite = true := by
  unfold Binary.zero
  exact isFinite_ofNat exponents (by rw [Nat.cast_zero]; exact zpow_pos two_pos _)

end Format

section Parse

def digitValue (digits : List Char) : Nat :=
  digits.foldl (fun n c => 10 * n + (c.toNat - '0'.toNat)) 0

/-- An optional sign: `-` is read as `true`. -/
def parseSign : List Char → Bool × List Char
  | '-' :: rest => (true, rest)
  | '+' :: rest => (false, rest)
  | text => (false, text)

/-- The exponent part of a literal, to the end of the text. -/
def parseExponent : List Char → Option Int
  | [] => some 0
  | c :: rest =>
    if c = 'e' ∨ c = 'E' then
      let (negative, digits) := parseSign rest
      if digits ≠ [] ∧ digits.all Char.isDigit then
        some (if negative then -(digitValue digits : Int) else digitValue digits)
      else none
    else none

/-- An unsigned decimal literal: digits with an optional point, at least one digit in
all, and an optional exponent. -/
def parseNumber (text : List Char) : Option Rat :=
  let whole := text.takeWhile Char.isDigit
  let afterWhole := text.dropWhile Char.isDigit
  let (fraction, rest) := match afterWhole with
    | '.' :: tail => (tail.takeWhile Char.isDigit, tail.dropWhile Char.isDigit)
    | _ => ([], afterWhole)
  if whole = [] ∧ fraction = [] then none
  else (parseExponent rest).map fun (exponent : Int) =>
    digitValue (whole ++ fraction) * (10 : Rat) ^ (exponent - fraction.length)

/-- `str::parse::<f64>`: `none` is a parse error. The words are read in any case. -/
def parse (eb mb : Nat) (text : String) : Option (Binary eb mb) :=
  let (negative, body) := parseSign text.toList
  let word := String.ofList (body.map Char.toLower)
  if word = "inf" ∨ word = "infinity" then some (.inf negative)
  else if word = "nan" then some .nan
  else (parseNumber body).map (roundMagnitude eb mb negative)

end Parse

end Ieee
