import Mathlib.Data.List.Perm.Subperm
import Mathlib.Data.String.Basic
import Mathlib.Order.Lattice
import Mathlib.Algebra.Order.Group.Int
import Mathlib.Order.Cover
import Mathlib.Tactic.IntervalCases

/-!
# Calendar dates and their ISO 8601 text

`NaiveDate` is a date of the proleptic Gregorian calendar in the year range of the
`chrono` crate, with the validity of its fields carried by the type. Dates are
ordered as triples. The text of a date (`toIso`) has fixed width for the years 0 to
9999, so on these years the order of the texts is the order of the dates
(`toIso_lt_toIso`).
-/

namespace Calendar
set_option autoImplicit false

def isLeapYear (year : Int) : Bool := year % 4 == 0 && (year % 100 != 0 || year % 400 == 0)

def daysInMonth (year : Int) : Nat → Nat
  | 2 => if isLeapYear year then 29 else 28
  | 4 | 6 | 9 | 11 => 30
  | _ => 31

theorem daysInMonth_le (year : Int) (month : Nat) : daysInMonth year month ≤ 31 := by
  unfold daysInMonth
  split <;> try omega
  split <;> omega

theorem one_le_daysInMonth (year : Int) (month : Nat) : 1 ≤ daysInMonth year month := by
  unfold daysInMonth
  split <;> try omega
  split <;> omega

/-- The first and the last year of the range. -/
def minYear : Int := -262143
def maxYear : Int := 262142

/-- `chrono::NaiveDate`. -/
@[ext] structure NaiveDate where
  year : Int
  month : Nat
  day : Nat
  yearRange : minYear ≤ year ∧ year ≤ maxYear
  monthRange : 1 ≤ month ∧ month ≤ 12
  dayRange : 1 ≤ day ∧ day ≤ daysInMonth year month
  deriving DecidableEq

namespace NaiveDate

/-- `NaiveDate::from_ymd_opt`. -/
def fromYmdOpt (year : Int) (month day : Nat) : Option NaiveDate :=
  if h : (minYear ≤ year ∧ year ≤ maxYear) ∧ (1 ≤ month ∧ month ≤ 12) ∧
      (1 ≤ day ∧ day ≤ daysInMonth year month) then
    some ⟨year, month, day, h.1, h.2.1, h.2.2⟩
  else none

/-- `NaiveDate::pred_opt`: `none` on the first date of the range. -/
def predOpt (date : NaiveDate) : Option NaiveDate :=
  if 1 < date.day then fromYmdOpt date.year date.month (date.day - 1)
  else if 1 < date.month then
    fromYmdOpt date.year (date.month - 1) (daysInMonth date.year (date.month - 1))
  else fromYmdOpt (date.year - 1) 12 31

theorem fromYmdOpt_eq_some {year : Int} {month day : Nat} {date : NaiveDate} :
    fromYmdOpt year month day = some date ↔
      date.year = year ∧ date.month = month ∧ date.day = day := by
  unfold fromYmdOpt
  constructor
  · intro h
    split at h
    · cases h
      exact ⟨rfl, rfl, rfl⟩
    · cases h
  · rintro ⟨rfl, rfl, rfl⟩
    rw [dif_pos ⟨date.yearRange, date.monthRange, date.dayRange⟩]

/-! ## The order of dates -/

instance : LE NaiveDate where
  le a b := a.year < b.year ∨
    a.year = b.year ∧ (a.month < b.month ∨ a.month = b.month ∧ a.day ≤ b.day)

instance : LT NaiveDate where
  lt a b := a.year < b.year ∨
    a.year = b.year ∧ (a.month < b.month ∨ a.month = b.month ∧ a.day < b.day)

theorem le_iff {a b : NaiveDate} : a ≤ b ↔ a.year < b.year ∨
    a.year = b.year ∧ (a.month < b.month ∨ a.month = b.month ∧ a.day ≤ b.day) := Iff.rfl

theorem lt_iff {a b : NaiveDate} : a < b ↔ a.year < b.year ∨
    a.year = b.year ∧ (a.month < b.month ∨ a.month = b.month ∧ a.day < b.day) := Iff.rfl

instance : LinearOrder NaiveDate where
  le_refl a := by
    rw [le_iff]
    omega
  le_trans a b c := by
    simp only [le_iff]
    omega
  lt_iff_le_not_ge a b := by
    simp only [le_iff, lt_iff]
    omega
  le_antisymm a b := by
    simp only [le_iff, NaiveDate.ext_iff]
    omega
  le_total a b := by
    simp only [le_iff]
    omega
  toDecidableLE a b := decidable_of_iff _ le_iff.symm
  toDecidableEq := inferInstance
  toDecidableLT a b := decidable_of_iff _ lt_iff.symm

/-- Nothing lies between a date and its predecessor. -/
theorem le_of_lt_of_predOpt {date pred x : NaiveDate} (h : predOpt date = some pred)
    (lt : x < date) : x ≤ pred := by
  rw [← not_lt]
  intro between
  rw [lt_iff] at lt between
  have xDays := x.dayRange
  have xMonths := x.monthRange
  have dateMonths := date.monthRange
  have dateDays := date.dayRange
  unfold predOpt at h
  split at h
  · obtain ⟨year, month, day⟩ := fromYmdOpt_eq_some.mp h
    omega
  · split at h
    · obtain ⟨year, month, day⟩ := fromYmdOpt_eq_some.mp h
      rcases between with _ | ⟨year', _ | ⟨month', _⟩⟩ <;> try omega
      rw [← year', year, ← month', month] at xDays
      omega
    · obtain ⟨year, month, day⟩ := fromYmdOpt_eq_some.mp h
      have := daysInMonth_le x.year x.month
      omega

theorem lt_of_predOpt {date pred : NaiveDate} (h : predOpt date = some pred) : pred < date := by
  rw [lt_iff]
  have dateMonths := date.monthRange
  unfold predOpt at h
  split at h
  · obtain ⟨year, month, day⟩ := fromYmdOpt_eq_some.mp h
    omega
  · split at h
    all_goals
      obtain ⟨year, month, day⟩ := fromYmdOpt_eq_some.mp h
      omega

theorem isSome_predOpt {date x : NaiveDate} (lt : x < date) : (predOpt date).isSome := by
  rw [lt_iff] at lt
  have xYears := x.yearRange
  have xMonths := x.monthRange
  have xDays := x.dayRange
  have years := date.yearRange
  have months := date.monthRange
  have days := date.dayRange
  unfold predOpt fromYmdOpt
  split
  · rw [dif_pos (by omega)]
    rfl
  · split
    · have := one_le_daysInMonth date.year (date.month - 1)
      rw [dif_pos (by omega)]
      rfl
    · have december : daysInMonth (date.year - 1) 12 = 31 := rfl
      rw [dif_pos (by omega)]
      rfl

/-- The predecessor is the date just before. -/
theorem predOpt_eq_some_iff {date pred : NaiveDate} : predOpt date = some pred ↔ pred ⋖ date := by
  constructor
  · intro h
    exact ⟨lt_of_predOpt h, fun x after before => (le_of_lt_of_predOpt h before).not_gt after⟩
  · intro cover
    obtain ⟨last, found⟩ := Option.isSome_iff_exists.mp (isSome_predOpt cover.1)
    have le := le_of_lt_of_predOpt found cover.1
    rw [found, eq_of_le_of_not_lt le fun lt => cover.2 lt (lt_of_predOpt found)]

/-! ## Text -/

/-- The last `width` decimal digits of `n`, with leading zeros. -/
def padded : Nat → Nat → List Char
  | 0, _ => []
  | width + 1, n => padded width (n / 10) ++ [Nat.digitChar (n % 10)]

/-- The year as `chrono` prints it: four digits, or with a sign outside 0 to 9999. -/
def yearText (year : Int) : List Char :=
  if 0 ≤ year ∧ year ≤ 9999 then padded 4 year.toNat
  else (if year < 0 then '-' else '+') :: List.leftpad 4 '0' (Nat.toDigits 10 year.natAbs)

/-- `NaiveDate::to_string`. -/
def toIso (date : NaiveDate) : String :=
  String.ofList (yearText date.year ++ '-' :: (padded 2 date.month ++ '-' :: padded 2 date.day))

@[simp] theorem length_padded (width n : Nat) : (padded width n).length = width := by
  induction width generalizing n with
  | zero => rfl
  | succ width ih => simp [padded, ih]

theorem digitChar_lt {a b : Nat} (ha : a < 10) (hb : b < 10) :
    Nat.digitChar a < Nat.digitChar b ↔ a < b := by
  interval_cases a <;> interval_cases b <;> decide

theorem append_lt_append {α : Type*} [LinearOrder α] {l l' r r' : List α}
    (len : l.length = l'.length) : l ++ r < l' ++ r' ↔ l < l' ∨ l = l' ∧ r < r' := by
  induction l generalizing l' with
  | nil =>
    obtain rfl := List.length_eq_zero_iff.mp len.symm
    simp
  | cons a l ih =>
    cases l' with
    | nil => simp at len
    | cons a' l' =>
      have := ih (Nat.succ.inj len)
      simp only [List.cons_append, List.cons_lt_cons_iff, this, List.cons.injEq]
      tauto

theorem padded_lt {width m n : Nat} (hm : m < 10 ^ width) (hn : n < 10 ^ width) :
    padded width m < padded width n ↔ m < n := by
  induction width generalizing m n with
  | zero => simp [padded]; omega
  | succ width ih =>
    have hm' : m / 10 < 10 ^ width := by rw [Nat.div_lt_iff_lt_mul (by omega)]; omega
    have hn' : n / 10 < 10 ^ width := by rw [Nat.div_lt_iff_lt_mul (by omega)]; omega
    have same : padded width (m / 10) = padded width (n / 10) ↔ m / 10 = n / 10 := by
      have lt := ih hm' hn'
      have gt := ih hn' hm'
      constructor
      · intro eq
        rw [eq] at lt gt
        simp at lt gt
        omega
      · intro eq; rw [eq]
    have lastDigit : [Nat.digitChar (m % 10)] < [Nat.digitChar (n % 10)] ↔ m % 10 < n % 10 := by
      rw [List.cons_lt_cons_iff, digitChar_lt (by omega) (by omega)]
      simp
    rw [padded, padded, append_lt_append (by simp), ih hm' hn', same, lastDigit]
    omega

theorem padded_inj {width m n : Nat} (hm : m < 10 ^ width) (hn : n < 10 ^ width) :
    padded width m = padded width n ↔ m = n := by
  constructor
  · intro eq
    have lt := padded_lt hm hn
    have gt := padded_lt hn hm
    rw [eq] at lt gt
    simp at lt gt
    omega
  · rintro rfl; rfl

/-- The years whose text has four digits and no sign. -/
def FourDigit (date : NaiveDate) : Prop := 0 ≤ date.year ∧ date.year ≤ 9999

instance (date : NaiveDate) : Decidable date.FourDigit :=
  inferInstanceAs (Decidable (0 ≤ date.year ∧ date.year ≤ 9999))

theorem yearText_of_fourDigit {date : NaiveDate} (h : date.FourDigit) :
    yearText date.year = padded 4 date.year.toNat := if_pos h

theorem month_lt_hundred (date : NaiveDate) : date.month < 10 ^ 2 := by
  have := date.monthRange
  omega

theorem day_lt_hundred (date : NaiveDate) : date.day < 10 ^ 2 := by
  have := date.dayRange
  have := daysInMonth_le date.year date.month
  omega

/-- On four-digit years the texts are ordered as the dates are. -/
theorem toIso_lt_toIso {a b : NaiveDate} (ha : a.FourDigit) (hb : b.FourDigit) :
    a.toIso < b.toIso ↔ a < b := by
  have yearBound (d : NaiveDate) (h : d.FourDigit) : d.year.toNat < 10 ^ 4 := by
    have := h.1
    have := h.2
    omega
  have ha' := ha.1
  have hb' := hb.1
  rw [String.lt_iff_toList_lt, lt_iff]
  simp only [toIso, String.toList_ofList, yearText_of_fourDigit ha, yearText_of_fourDigit hb]
  rw [append_lt_append (by simp), padded_lt (yearBound a ha) (yearBound b hb),
    padded_inj (yearBound a ha) (yearBound b hb), List.cons_lt_cons_iff,
    append_lt_append (by simp), padded_lt a.month_lt_hundred b.month_lt_hundred,
    padded_inj a.month_lt_hundred b.month_lt_hundred, List.cons_lt_cons_iff,
    padded_lt a.day_lt_hundred b.day_lt_hundred]
  simp only [lt_irrefl, true_and, false_or]
  omega

theorem toIso_le_toIso {a b : NaiveDate} (ha : a.FourDigit) (hb : b.FourDigit) :
    a.toIso ≤ b.toIso ↔ a ≤ b := by
  rw [← not_lt, ← not_lt, toIso_lt_toIso hb ha]

theorem isDigit_of_mem_padded {width n : Nat} {c : Char} (h : c ∈ padded width n) : c.isDigit := by
  induction width generalizing n with
  | zero => cases h
  | succ width ih =>
    rcases List.mem_append.mp h with front | last
    · exact ih front
    · obtain rfl := List.mem_singleton.mp last
      have : n % 10 < 10 := Nat.mod_lt _ (by omega)
      interval_cases n % 10 <;> decide

theorem isSign_notMem_padded {width n : Nat} {sign : Char} (h : sign = '-' ∨ sign = '+') :
    sign ∉ padded width n := by
  intro mem
  have digit := isDigit_of_mem_padded mem
  rcases h with rfl | rfl <;> exact absurd digit (by decide)

/-- Leading zeros do not change the number. -/
theorem ofDigitChars_leftpad (width n : Nat) :
    Nat.ofDigitChars 10 (List.leftpad width '0' (Nat.toDigits 10 n)) 0 = n := by
  rw [List.leftpad, Nat.ofDigitChars_append, Nat.ofDigitChars_replicate_zero, Nat.mul_zero,
    Nat.ofDigitChars_ten_toDigits]

/-- A signed year is not the text of a year of four digits. -/
theorem padded_ne_signed {year : Int} {n : Nat} {rest : List Char} :
    padded 4 n ≠ (if year < 0 then '-' else '+') :: rest := by
  intro same
  have sign : (if year < 0 then '-' else '+') ∈ padded 4 n := by rw [same]; exact List.mem_cons_self
  refine isSign_notMem_padded ?_ sign
  split <;> simp

theorem yearText_injective : Function.Injective yearText := by
  intro y y' same
  unfold yearText at same
  by_cases four : 0 ≤ y ∧ y ≤ 9999 <;> by_cases four' : 0 ≤ y' ∧ y' ≤ 9999
  · rw [if_pos four, if_pos four'] at same
    have := (padded_inj (by omega) (by omega)).mp same
    omega
  · rw [if_pos four, if_neg four'] at same
    exact absurd same padded_ne_signed
  · rw [if_neg four, if_pos four'] at same
    exact absurd same.symm padded_ne_signed
  · rw [if_neg four, if_neg four'] at same
    obtain ⟨sign, digits⟩ := List.cons.inj same
    have size := congrArg (Nat.ofDigitChars 10 · 0) digits
    simp only [ofDigitChars_leftpad] at size
    by_cases neg : y < 0 <;> by_cases neg' : y' < 0 <;> simp [neg, neg'] at sign <;> omega

/-- Different dates have different texts, whatever their years. -/
theorem toIso_injective : Function.Injective toIso := by
  intro a b same
  have lists := congrArg String.toList same
  simp only [toIso, String.toList_ofList] at lists
  obtain ⟨years, rest⟩ := List.append_inj' lists (by simp)
  obtain ⟨months, days⟩ := List.append_inj (List.cons.inj rest).2 (by simp)
  ext
  · exact yearText_injective years
  · exact (padded_inj a.month_lt_hundred b.month_lt_hundred).mp months
  · exact (padded_inj a.day_lt_hundred b.day_lt_hundred).mp (List.cons.inj days).2

theorem toIso_inj {a b : NaiveDate} : a.toIso = b.toIso ↔ a = b := toIso_injective.eq_iff

/-- A month has at most 31 dates. -/
theorem length_le_of_same_month {dates : List NaiveDate} {year : Int} {month : Nat}
    (ascend : dates.Pairwise (· < ·)) (same : ∀ date ∈ dates, date.year = year ∧ date.month = month) :
    dates.length ≤ 31 := by
  have days : (dates.map (·.day)).Pairwise (· < ·) := by
    rw [List.pairwise_map]
    apply ascend.imp_of_mem
    intro a b memA memB lt
    have := same a memA
    have := same b memB
    rw [lt_iff] at lt
    omega
  have inside : dates.map (·.day) ⊆ List.range' 1 31 := by
    rw [List.subset_def, List.forall_mem_map]
    intro date _
    have := date.dayRange
    have := daysInMonth_le date.year date.month
    simp only [List.mem_range'_1]
    omega
  have few := (List.subperm_of_subset (days.imp fun lt => lt.ne) inside).length_le
  rwa [List.length_map, List.length_range'] at few

/-- Within a month the texts are ordered as the days are, also beyond four digits. -/
theorem toIso_lt_of_same_month {a b : NaiveDate} (year : a.year = b.year) (month : a.month = b.month)
    (lt : a < b) : a.toIso < b.toIso := by
  rw [lt_iff] at lt
  rw [String.lt_iff_toList_lt]
  simp only [toIso, String.toList_ofList, year, month]
  rw [append_lt_append rfl]
  refine .inr ⟨rfl, ?_⟩
  rw [List.cons_lt_cons_iff, append_lt_append rfl, List.cons_lt_cons_iff,
    padded_lt a.day_lt_hundred b.day_lt_hundred]
  exact .inr ⟨rfl, .inr ⟨rfl, .inr ⟨rfl, by omega⟩⟩⟩

/-! ## Parsing -/

/-- At most `limit` digits, at least one. -/
def scanNumber (limit : Nat) (text : List Char) : Option (Nat × List Char) :=
  let digits := (text.take limit).takeWhile Char.isDigit
  if digits = [] then none
  else some (digits.foldl (fun n c => 10 * n + (c.toNat - '0'.toNat)) 0, text.drop digits.length)

/-- The `%Y` item: up to four digits, or any number of digits after a sign. -/
def scanYear (text : List Char) : Option (Int × List Char) :=
  match text.dropWhile Char.isWhitespace with
  | '-' :: rest => (scanNumber rest.length rest).map fun (n, tail) => (-(n : Int), tail)
  | '+' :: rest => (scanNumber rest.length rest).map fun (n, tail) => ((n : Int), tail)
  | rest => (scanNumber 4 rest).map fun (n, tail) => ((n : Int), tail)

def scanDash : List Char → Option (List Char)
  | '-' :: rest => some rest
  | _ => none

/-- `NaiveDate::parse_from_str(text, "%Y-%m-%d")`. -/
def parseIso (text : String) : Option NaiveDate := do
  let (year, rest) ← scanYear text.toList
  let rest ← scanDash rest
  let (month, rest) ← scanNumber 2 (rest.dropWhile Char.isWhitespace)
  let rest ← scanDash rest
  let (day, rest) ← scanNumber 2 (rest.dropWhile Char.isWhitespace)
  if rest = [] then fromYmdOpt year month day else none

example : (parseIso "2024-02-29").map toIso = some "2024-02-29" := by decide

example : parseIso "2023-02-29" = none := by decide

end NaiveDate

end Calendar
