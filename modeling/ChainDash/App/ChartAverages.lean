import Mathlib.Algebra.Order.BigOperators.Group.List
import ChainDash.App.Charts
import ChainDash.Lib.Rounding

/-!
# The averages under the block-time chart

The averages and their trend are computed from the points of the chart, in 64-bit sums
that nothing keeps from overflowing: an interval may saturate near the top of the range.
In terms of the block timestamps, the sums fit as long as the timestamps do not run ahead
by 2^64 ms within a window (`chart_averages_fit`).
-/

namespace ChainDash.App
set_option autoImplicit false

open Collect Ieee

/-- `widgets::time::AVERAGE_WINDOW_DATA_POINTS`. -/
def averageWindowDataPoints : Nat := 10

def roundedNonzeroValues (data : List (F64 × F64)) : List UInt64 :=
  data.filterMap fun point => if Binary.zero.lt point.2 then some point.2.roundToU64 else none

/-- `iter().sum::<u64>()`; `none` is an overflow, which panics, or wraps around where the
checks are compiled out. -/
def sumU64 (values : List UInt64) : Option UInt64 :=
  values.foldlM (fun sum value =>
    if sum.toNat + value.toNat < 2 ^ 64 then some (sum + value) else none) 0

def recentValues (data : List (F64 × F64)) (sampleCount : Nat) : List UInt64 :=
  (roundedNonzeroValues data).reverse.take sampleCount

def averageRecentNonzeroRounded (data : List (F64 × F64)) (sampleCount : Nat) : Option UInt64 :=
  if (recentValues data sampleCount).isEmpty then some 0
  else (sumU64 (recentValues data sampleCount)).map
    (· / UInt64.ofNat (recentValues data sampleCount).length)

def recentWindowTrendSymbol (data : List (F64 × F64)) (sampleCount : Nat) : Option String :=
  let values := roundedNonzeroValues data
  if sampleCount = 0 ∨ values.length < sampleCount * 2 then some "→"
  else do
    let recent := values.drop (values.length - sampleCount)
    let previous := (values.drop (values.length - sampleCount * 2)).take sampleCount
    let recentAvg := (← sumU64 recent) / UInt64.ofNat sampleCount
    let previousAvg := (← sumU64 previous) / UInt64.ofNat sampleCount
    if recentAvg > previousAvg then some "↑"
    else if recentAvg < previousAvg then some "↓"
    else some "→"

/-- The sums fit a word, and an average of at least one value lies between the smallest and
the largest of them. -/
structure AveragesFit (data : List (F64 × F64)) (sampleCount : Nat) : Prop where
  average : ∃ average, averageRecentNonzeroRounded data sampleCount = some average ∧
    (recentValues data sampleCount ≠ [] →
      (∃ low ∈ recentValues data sampleCount, low ≤ average) ∧
      ∃ high ∈ recentValues data sampleCount, average ≤ high)
  trend : (recentWindowTrendSymbol data sampleCount).isSome

/-! ## In terms of the timestamps -/

def recordedSteps (events : List ChartEvent) : List UInt64 := blockSteps (recordedSamples events)

/-- The forward steps behind the points that the block-time chart shows. -/
def shownSteps (events : List ChartEvent) : List UInt64 :=
  ((0 :: seriesAt .updateTime recordedSteps events).rtake maxDataPoints).filter (0 < ·)

/-- The windows that are summed: the latest steps and, when there are enough, those before. -/
def summedWindows (events : List ChartEvent) : List (List UInt64) :=
  let steps := shownSteps events
  let recent := steps.drop (steps.length - averageWindowDataPoints)
  let previous := (steps.drop (steps.length - averageWindowDataPoints * 2)).take
    averageWindowDataPoints
  if steps.length < averageWindowDataPoints * 2 then [recent] else [recent, previous]

def seconds (window : List UInt64) : Nat := (window.map UInt64.toNat).sum

/-- One step, or less than 2^64 ms in all. -/
def Modest (window : List UInt64) : Prop := window.length ≤ 1 ∨ seconds window ≤ 18446744073709547

/-- Several steps, and more than 2^64 ms in all. -/
def Excessive (window : List UInt64) : Prop := 2 ≤ window.length ∧ 18446744073709556 ≤ seconds window

/-! ## Sums of words -/

/-- The sum is that of the natural numbers, when it fits. -/
theorem sumU64_eq (values : List UInt64) : sumU64 values =
    if (values.map UInt64.toNat).sum < 2 ^ 64 then
      some (UInt64.ofNat (values.map UInt64.toNat).sum) else none := by
  have onward (sum : UInt64) : values.foldlM (fun sum value =>
      if sum.toNat + value.toNat < 2 ^ 64 then some (sum + value) else none) sum =
      if sum.toNat + (values.map UInt64.toNat).sum < 2 ^ 64 then
        some (UInt64.ofNat (sum.toNat + (values.map UInt64.toNat).sum)) else none := by
    induction values generalizing sum with
    | nil =>
      have word : sum.toNat < 2 ^ 64 := sum.toNat_lt
      rw [List.map_nil, List.sum_nil, Nat.add_zero, if_pos word, UInt64.ofNat_toNat]
      rfl
    | cons value rest ih =>
      rw [List.foldlM_cons, List.map_cons, List.sum_cons]
      by_cases fits : sum.toNat + value.toNat < 2 ^ 64
      · have both : (sum + value).toNat = sum.toNat + value.toNat := by
          rw [UInt64.toNat_add, Nat.mod_eq_of_lt fits]
        rw [if_pos fits, Option.bind_eq_bind, Option.bind_some, ih, both, Nat.add_assoc]
      · rw [if_neg fits, if_neg (by omega)]
        rfl
  simpa [sumU64] using onward 0

theorem isSome_sumU64 {values : List UInt64} :
    (sumU64 values).isSome ↔ (values.map UInt64.toNat).sum < 2 ^ 64 := by
  rw [sumU64_eq]
  split <;> simp_all

/-- Some value is at most the average, and some value at least. -/
theorem average_between {values : List Nat} (some : values ≠ []) :
    (∃ low ∈ values, low ≤ values.sum / values.length) ∧
      ∃ high ∈ values, values.sum / values.length ≤ high := by
  have pos : 0 < values.length := List.length_pos_iff.mpr some
  constructor
  · by_contra! above
    have least := List.card_nsmul_le_sum values (values.sum / values.length + 1) above
    rw [Nat.nsmul_eq_mul, Nat.mul_add, Nat.mul_one] at least
    have split := Nat.div_add_mod values.sum values.length
    have rest := Nat.mod_lt values.sum pos
    omega
  · by_contra! below
    obtain ⟨first, mem⟩ := List.exists_mem_of_ne_nil values some
    have most := List.sum_le_card_nsmul values (values.sum / values.length - 1) fun value inside =>
      Nat.le_sub_one_of_lt (below value inside)
    have split := Nat.div_add_mod values.sum values.length
    have one := below first mem
    rw [Nat.nsmul_eq_mul, Nat.mul_sub, Nat.mul_one] at most
    have less : values.length ≤ values.length * (values.sum / values.length) :=
      Nat.le_mul_of_pos_right _ (by omega)
    omega

/-! ## What the chart shows -/

/-- The value that stands in a sum for a forward step. -/
def shownValue (step : UInt64) : UInt64 :=
  (ofNat 11 52 (saturatingMul step 1000).toNat).roundToU64

theorem toNat_saturatingMul (a b : UInt64) :
    (saturatingMul a b).toNat = min (a.toNat * b.toNat) (2 ^ 64 - 1) := by
  have size : UInt64.size = 2 ^ 64 := rfl
  unfold saturatingMul
  split
  case isTrue fits =>
    rw [UInt64.toNat_mul, Nat.mod_eq_of_lt (size ▸ fits)]
    omega
  case isFalse large =>
    rw [UInt64.toNat_ofNat_of_lt' (by omega)]
    omega

theorem saturatingMul_pos (step : UInt64) : 0 < (saturatingMul step 1000).toNat ↔ 0 < step := by
  have thousand : (1000 : UInt64).toNat = 1000 := rfl
  rw [toNat_saturatingMul, UInt64.lt_iff_toNat_lt, thousand, UInt64.toNat_zero]
  omega

theorem seriesAt_intervals (events : List ChartEvent) :
    seriesAt .updateTime recordedIntervals events =
      (seriesAt .updateTime recordedSteps events).map (saturatingMul · 1000) := by
  unfold seriesAt
  split <;> rfl

/-- A point of the chart counts when its step is positive. -/
theorem filterMap_points (steps : List UInt64) :
    (steps.map fun step => ofNat 11 52 (saturatingMul step 1000).toNat).filterMap (fun value =>
        if Binary.zero.lt value then some value.roundToU64 else none) =
      (steps.filter (0 < ·)).map shownValue := by
  induction steps with
  | nil => rfl
  | cons step rest ih =>
    have counts := zero_lt_ofNat 52 (n := (saturatingMul step 1000).toNat) (by decide : 2 ≤ 11)
      (word_fits (UInt64.toNat_lt _))
    rw [decide_eq_decide.mpr (saturatingMul_pos step)] at counts
    by_cases positive : 0 < step
    · rw [List.map_cons, List.filterMap_cons_some, ih, List.filter_cons_of_pos (by simpa using positive),
        List.map_cons, shownValue]
      rw [if_pos (counts.trans (decide_eq_true positive))]
    · rw [List.map_cons, List.filterMap_cons_none, ih, List.filter_cons_of_neg (by simpa using positive)]
      rw [counts, if_neg (by simpa using positive)]

theorem pointsFrom_values (first : Nat) (samples : List UInt64) :
    (pointsFrom first samples).map Prod.snd = samples.map fun sample => ofNat 11 52 sample.toNat := by
  induction samples generalizing first with
  | nil => rfl
  | cons sample rest ih => rw [pointsFrom_cons, List.map_cons, ih, List.map_cons]

theorem map_rtake {α β : Type*} (f : α → β) (values : List α) (count : Nat) :
    (values.rtake count).map f = (values.map f).rtake count := by
  rw [List.rtake, List.rtake, List.map_drop, List.length_map]

/-- The values of the chart are those of the forward steps it shows. -/
theorem roundedNonzeroValues_shown (events : List ChartEvent) :
    roundedNonzeroValues (Charts.run events).time.data = (shownSteps events).map shownValue := by
  have placeholder : saturatingMul 0 1000 = 0 := by decide
  have points : ((Binary.zero, Binary.zero) :: pointsFrom 0
      ((seriesAt .updateTime recordedSteps events).map (saturatingMul · 1000))).map Prod.snd =
      (0 :: seriesAt .updateTime recordedSteps events).map fun step =>
        ofNat 11 52 (saturatingMul step 1000).toNat := by
    rw [List.map_cons, pointsFrom_values, List.map_map, List.map_cons, placeholder, UInt64.toNat_zero,
      Binary.zero, Function.comp_def]
  have values (data : List (F64 × F64)) : roundedNonzeroValues data =
      (data.map Prod.snd).filterMap fun value =>
        if Binary.zero.lt value then some value.roundToU64 else none := by
    rw [roundedNonzeroValues, List.filterMap_map, Function.comp_def]
  rw [values, (chartsInv_of_run events).time.data, seriesAt_intervals, map_rtake, points, ← map_rtake]
  exact filterMap_points _

/-- A value is its step in milliseconds up to the rounding, or the largest word. -/
theorem shownValue_bounds {step : UInt64} (positive : 0 < step) :
    2 ^ 54 * (shownValue step).toNat ≤ (2 ^ 54 + 2) * (1000 * step.toNat) + 2 ^ 53 ∧
    1 ≤ (shownValue step).toNat ∧
    ((shownValue step).toNat = 2 ^ 64 - 1 ∨
      (2 ^ 54 - 2) * (1000 * step.toNat) ≤ 2 ^ 54 * (shownValue step).toNat + 2 ^ 53) := by
  have thousand : (1000 : UInt64).toNat = 1000 := rfl
  have ms := toNat_saturatingMul step 1000
  rw [thousand] at ms
  have some := (saturatingMul_pos step).mpr positive
  obtain ⟨high, low⟩ := roundToU64_bounds 52 (by decide) some (word_fits (UInt64.toNat_lt _))
  rw [← shownValue] at high low
  have above : 2 ^ 54 * (shownValue step).toNat ≤
      (2 ^ 54 + 2) * (saturatingMul step 1000).toNat + 2 ^ 53 := by
    have scaled : (2 ^ 54 * (shownValue step).toNat : Rat) ≤
        (2 ^ 54 + 2) * (saturatingMul step 1000).toNat + 2 ^ 53 := by linarith
    exact_mod_cast scaled
  have below : (shownValue step).toNat = 2 ^ 64 - 1 ∨ (2 ^ 54 - 2) * (saturatingMul step 1000).toNat ≤
      2 ^ 54 * (shownValue step).toNat + 2 ^ 53 := by
    refine low.imp id fun low => ?_
    have scaled : ((2 ^ 54 - 2 : Nat) * (saturatingMul step 1000).toNat : Rat) ≤
        2 ^ 54 * (shownValue step).toNat + 2 ^ 53 := by
      push_cast
      linarith
    exact_mod_cast scaled
  have one : 1 ≤ step.toNat := UInt64.lt_iff_toNat_lt.mp positive
  refine ⟨by omega, by omega, ?_⟩
  by_cases saturated : 2 ^ 64 ≤ step.toNat * 1000
  · left
    have largest : (saturatingMul step 1000).toNat = 2 ^ 64 - 1 := by omega
    rw [shownValue, largest]
    exact roundToU64_max
  · rcases below with largest | near
    · exact .inl largest
    · right
      omega

/-! ## The sum of a window -/

/-- What a window of steps sums to as shown. -/
def shownSum (window : List UInt64) : Nat := ((window.map shownValue).map UInt64.toNat).sum

/-- The sum is the milliseconds of the steps up to the rounding of each, or one of the values
is the largest word. -/
theorem shownSum_bounds {window : List UInt64} (positive : ∀ step ∈ window, 0 < step) :
    2 ^ 54 * shownSum window ≤ (2 ^ 54 + 2) * (1000 * seconds window) + 2 ^ 53 * window.length ∧
    window.length ≤ shownSum window ∧
    (2 ^ 64 + window.length ≤ shownSum window + 2 ∨
      (2 ^ 54 - 2) * (1000 * seconds window) ≤ 2 ^ 54 * shownSum window + 2 ^ 53 * window.length) := by
  induction window with
  | nil => simp [shownSum, seconds]
  | cons step rest ih =>
    obtain ⟨high, one, low⟩ := shownValue_bounds (positive step (.head _))
    obtain ⟨highRest, oneRest, lowRest⟩ := ih fun other mem => positive other (.tail _ mem)
    have sum : shownSum (step :: rest) = (shownValue step).toNat + shownSum rest := rfl
    have total : seconds (step :: rest) = step.toNat + seconds rest := rfl
    rw [sum, total, List.length_cons]
    refine ⟨by omega, by omega, ?_⟩
    rcases lowRest with large | lowRest
    · exact .inl (by omega)
    · rcases low with largest | low
      · exact .inl (by omega)
      · exact .inr (by omega)

theorem shownSum_singleton (step : UInt64) : shownSum [step] = (shownValue step).toNat := by
  rw [shownSum, List.map_singleton, List.map_singleton, List.sum_singleton]

theorem shownSum_lt_of_modest {window : List UInt64} (positive : ∀ step ∈ window, 0 < step)
    (few : window.length ≤ averageWindowDataPoints) (modest : Modest window) :
    shownSum window < 2 ^ 64 := by
  rcases modest with single | modest
  · cases window with
    | nil => exact Nat.two_pow_pos 64
    | cons step rest =>
      obtain rfl := List.length_eq_zero_iff.mp (Nat.le_zero.mp (Nat.le_of_succ_le_succ single))
      rw [shownSum_singleton]
      exact UInt64.toNat_lt _
  · have high := (shownSum_bounds positive).1
    unfold averageWindowDataPoints at few
    omega

theorem le_shownSum_of_excessive {window : List UInt64} (positive : ∀ step ∈ window, 0 < step)
    (few : window.length ≤ averageWindowDataPoints) (excessive : Excessive window) :
    2 ^ 64 ≤ shownSum window := by
  obtain ⟨several, ahead⟩ := excessive
  obtain ⟨-, -, large | low⟩ := shownSum_bounds positive
  · omega
  · unfold averageWindowDataPoints at few
    omega

/-! ## The averages at any moment -/

theorem mem_summedWindows {events : List ChartEvent} {window : List UInt64}
    (mem : window ∈ summedWindows events) :
    (∀ step ∈ window, 0 < step) ∧ window.length ≤ averageWindowDataPoints := by
  have positive : ∀ step ∈ shownSteps events, 0 < step := by
    intro step inside
    simpa using (List.mem_filter.mp inside).2
  dsimp only [summedWindows] at mem
  generalize shownSteps events = steps at positive mem
  generalize averageWindowDataPoints = count at mem ⊢
  have recent : ∀ step ∈ steps.drop (steps.length - count), 0 < step :=
    fun step inside => positive step (List.mem_of_mem_drop inside)
  split at mem
  · obtain rfl := List.mem_singleton.mp mem
    exact ⟨recent, by rw [List.length_drop]; omega⟩
  · rcases List.mem_pair.mp mem with rfl | rfl
    · exact ⟨recent, by rw [List.length_drop]; omega⟩
    · refine ⟨fun step inside => ?_, List.length_take_le _ _⟩
      exact positive step (List.mem_of_mem_drop (List.mem_of_mem_take inside))

theorem isSome_sumU64_shown (window : List UInt64) :
    (sumU64 (window.map shownValue)).isSome ↔ shownSum window < 2 ^ 64 := isSome_sumU64

/-- The average of the latest values, if their sum fits. -/
theorem average_iff {data : List (F64 × F64)} {sampleCount : Nat} (word : sampleCount < 2 ^ 64) :
    (∃ average, averageRecentNonzeroRounded data sampleCount = some average ∧
      (recentValues data sampleCount ≠ [] →
        (∃ low ∈ recentValues data sampleCount, low ≤ average) ∧
        ∃ high ∈ recentValues data sampleCount, average ≤ high)) ↔
      (sumU64 (recentValues data sampleCount)).isSome := by
  have short : (recentValues data sampleCount).length < 2 ^ 64 :=
    (List.length_take_le _ _).trans_lt word
  unfold averageRecentNonzeroRounded
  generalize recentValues data sampleCount = values at short ⊢
  cases values with
  | nil => simp [sumU64]
  | cons first rest =>
    rw [if_neg (by simp), isSome_sumU64]
    constructor
    · rintro ⟨average, found, -⟩
      obtain ⟨sum, summed, -⟩ := Option.map_eq_some_iff.mp found
      exact isSome_sumU64.mp (summed ▸ rfl)
    · intro fits
      have mean := @average_between ((first :: rest).map UInt64.toNat) (by simp)
      rw [List.length_map] at mean
      generalize values_ : first :: rest = values at *
      refine ⟨_, by rw [sumU64_eq, if_pos fits, Option.map_some], fun _ => ?_⟩
      have quotient : (UInt64.ofNat (values.map UInt64.toNat).sum / UInt64.ofNat values.length).toNat =
          (values.map UInt64.toNat).sum / values.length := by
        rw [UInt64.toNat_div, UInt64.toNat_ofNat_of_lt' fits, UInt64.toNat_ofNat_of_lt' short]
      simp only [UInt64.le_iff_toNat_le, quotient]
      simpa using mean

/-- The trend of two windows, if both sums fit. -/
theorem trend_iff (data : List (F64 × F64)) {sampleCount : Nat} (some : 0 < sampleCount) :
    (recentWindowTrendSymbol data sampleCount).isSome ↔
      (sampleCount * 2 ≤ (roundedNonzeroValues data).length →
        (sumU64 ((roundedNonzeroValues data).drop
          ((roundedNonzeroValues data).length - sampleCount))).isSome ∧
        (sumU64 (((roundedNonzeroValues data).drop
          ((roundedNonzeroValues data).length - sampleCount * 2)).take sampleCount)).isSome) := by
  dsimp only [recentWindowTrendSymbol]
  generalize roundedNonzeroValues data = values
  by_cases enough : sampleCount * 2 ≤ values.length
  · rw [if_neg (by omega)]
    cases recent : sumU64 (values.drop (values.length - sampleCount)) with
    | none => simp [enough]
    | some recentSum =>
      cases previous : sumU64 ((values.drop (values.length - sampleCount * 2)).take sampleCount) with
      | none => simp [enough]
      | some previousSum =>
        simp only [bind, Option.bind_some, Option.isSome_some, enough, forall_const, and_self, iff_true]
        split
        · rfl
        · split <;> rfl
  · rw [if_pos (by omega)]
    simp [enough]

/-- The averages fit exactly when each summed window does. -/
theorem averagesFit_iff (events : List ChartEvent) :
    AveragesFit (Charts.run events).time.data averageWindowDataPoints ↔
      ∀ window ∈ summedWindows events, shownSum window < 2 ^ 64 := by
  have shown := roundedNonzeroValues_shown events
  have recent : (sumU64 (recentValues (Charts.run events).time.data averageWindowDataPoints)).isSome ↔
      shownSum ((shownSteps events).drop
        ((shownSteps events).length - averageWindowDataPoints)) < 2 ^ 64 := by
    rw [isSome_sumU64, recentValues, shown, List.take_reverse, List.map_reverse, List.sum_reverse,
      List.length_map, ← List.map_drop]
    rfl
  have trend := trend_iff (Charts.run events).time.data (show 0 < averageWindowDataPoints by decide)
  rw [shown, List.length_map, ← List.map_drop, ← List.map_drop, ← List.map_take,
    isSome_sumU64_shown, isSome_sumU64_shown] at trend
  have fits : AveragesFit (Charts.run events).time.data averageWindowDataPoints ↔ _ ∧ _ :=
    ⟨fun fit => ⟨fit.average, fit.trend⟩, fun both => ⟨both.1, both.2⟩⟩
  rw [fits, average_iff (by decide), recent, trend]
  dsimp only [summedWindows]
  split
  case isTrue few => simp only [List.mem_singleton, forall_eq, not_le.mpr few, false_imp_iff, and_true]
  case isFalse enough =>
    simp only [List.mem_cons, List.not_mem_nil, or_false, forall_eq_or_imp, forall_eq,
      not_lt.mp enough, true_imp_iff]
    exact and_self_left

/-- Whenever the chart may be drawn: while no summed window has several steps that run ahead
by 2^64 ms, the sums fit and the averages lie between their values; and as soon as one has
several steps that run ahead by more (four seconds, for the rounding), a sum overflows. -/
theorem chart_averages_fit (events : List ChartEvent) :
    ((∀ window ∈ summedWindows events, Modest window) →
      AveragesFit (Charts.run events).time.data averageWindowDataPoints) ∧
    ((∃ window ∈ summedWindows events, Excessive window) →
      ¬ AveragesFit (Charts.run events).time.data averageWindowDataPoints) := by
  rw [averagesFit_iff]
  constructor
  · intro modest window mem
    obtain ⟨positive, few⟩ := mem_summedWindows mem
    exact shownSum_lt_of_modest positive few (modest window mem)
  · rintro ⟨window, mem, excessive⟩ fit
    obtain ⟨positive, few⟩ := mem_summedWindows mem
    exact absurd (fit window mem) (not_lt.mpr (le_shownSum_of_excessive positive few excessive))

/-- Steps of two and three seconds, drawn. -/
def steadyBlocks : List ChartEvent := [.record 1 100 0, .record 2 102 0, .record 3 105 0, .updateTime]

theorem chart_averages_fit_steady :
    AveragesFit (Charts.run steadyBlocks).time.data averageWindowDataPoints := by
  refine (chart_averages_fit steadyBlocks).1 fun window mem => ?_
  have windows : summedWindows steadyBlocks = [[2, 3]] := by decide
  rw [windows] at mem
  obtain rfl := List.mem_singleton.mp mem
  exact .inr (by decide)

/-- Two jumps to the end of the range, and back. -/
def farJumps : List ChartEvent :=
  [.record 1 1 0, .record 2 (.ofNat (2 ^ 64 - 1)) 0, .record 3 1 0, .record 4 (.ofNat (2 ^ 64 - 1)) 0,
    .updateTime]

/-- Two saturated intervals in one window. -/
theorem chart_averages_overflow :
    ¬ ∀ events, AveragesFit (Charts.run events).time.data averageWindowDataPoints := by
  intro fit
  have windows : summedWindows farJumps = [[.ofNat (2 ^ 64 - 2), .ofNat (2 ^ 64 - 2)]] := by decide
  have sum := (averagesFit_iff farJumps).mp (fit farJumps) _ (windows ▸ List.mem_singleton_self _)
  have far : (UInt64.ofNat (2 ^ 64 - 2)).toNat = 2 ^ 64 - 2 := UInt64.toNat_ofNat_of_lt' (by decide)
  generalize UInt64.ofNat (2 ^ 64 - 2) = jump at sum far
  have positive : 0 < jump := by
    rw [UInt64.lt_iff_toNat_lt, far]
    decide
  have excessive : Excessive [jump, jump] := by
    refine ⟨by simp, ?_⟩
    simp only [seconds, List.map_cons, List.map_nil, List.sum_cons, List.sum_nil, far]
    omega
  have few : [jump, jump].length ≤ averageWindowDataPoints := by
    show 2 ≤ averageWindowDataPoints
    decide
  have overflow : 2 ^ 64 ≤ shownSum [jump, jump] :=
    le_shownSum_of_excessive (by simpa using positive) few excessive
  exact absurd sum (not_lt.mpr overflow)

end ChainDash.App
