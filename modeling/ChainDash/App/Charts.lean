import Mathlib.Data.List.DropRight
import ChainDash.App.Widgets
import ChainDash.Collect.ChainStatistics
import ChainDash.Lib.History

/-!
# The two charts over a whole run

Block samples recorded in any order with updates of the two chart widgets. Each chart
drains its own buffer, numbers what it drains and trims its points at every update; over
a whole run that is one list of samples, numbered once and trimmed once (`charts_exact`).
-/

namespace ChainDash.App
set_option autoImplicit false

open Collect Ieee

/-- A block sample is recorded, or one of the charts is updated. -/
inductive ChartEvent where
  | record (blockNumber blockTimestamp txs : UInt64)
  | updateTxs
  | updateTime
  deriving DecidableEq

/-- `Data::default` and two new widgets. -/
structure Charts where
  data : Data := {}
  txs : TxsWidget := {}
  time : TimeWidget := {}

def Charts.step (charts : Charts) : ChartEvent → Charts
  | .record blockNumber blockTimestamp txs =>
    { charts with data := charts.data.recordBlockSample blockNumber blockTimestamp txs }
  | .updateTxs =>
    let (txs, data) := charts.txs.update charts.data
    { charts with txs, data }
  | .updateTime =>
    let (time, data) := charts.time.update charts.data
    { charts with time, data }

def Charts.run (events : List ChartEvent) : Charts := events.foldl Charts.step {}

/-! ## What was recorded -/

def ChartEvent.sample? : ChartEvent → Option BlockSample
  | .record blockNumber blockTimestamp txs => some ⟨blockNumber, blockTimestamp, txs⟩
  | _ => none

/-- The samples recorded, oldest first. -/
def recordedSamples (events : List ChartEvent) : List BlockSample :=
  events.filterMap ChartEvent.sample?

def recordedTxs (events : List ChartEvent) : List UInt64 := (recordedSamples events).map (·.txs)

def recordedIntervals (events : List ChartEvent) : List UInt64 := blockIntervals (recordedSamples events)

/-! ## One chart over its buffer -/

/-- The points of samples numbered from `first` on. -/
def pointsFrom (first : Nat) (samples : List UInt64) : List (F64 × F64) :=
  (samples.zipIdx first).map fun sample => (ofNat 11 52 sample.2, ofNat 11 52 sample.1.toNat)

@[simp] theorem pointsFrom_cons (first : Nat) (sample : UInt64) (samples : List UInt64) :
    pointsFrom first (sample :: samples) =
      (ofNat 11 52 first, ofNat 11 52 sample.toNat) :: pointsFrom (first + 1) samples := rfl

theorem pointsFrom_append (first : Nat) (samples more : List UInt64) :
    pointsFrom first (samples ++ more) =
      pointsFrom first samples ++ pointsFrom (first + samples.length) more := by
  simp [pointsFrom, List.zipIdx_append]

theorem trimDataPoints_eq (data : List (F64 × F64)) (limit : Nat) :
    trimDataPoints data limit = data.rtake limit := by
  unfold trimDataPoints List.rtake
  split
  case isTrue => rfl
  case isFalse short => rw [Nat.sub_eq_zero_of_le (not_lt.mp short), List.drop_zero]

theorem appendU64Samples_eq (data : List (F64 × F64)) (updateCount : Nat) (samples : List UInt64) :
    appendU64Samples data updateCount samples =
      ((data ++ pointsFrom updateCount samples).rtake 200, updateCount + samples.length) := by
  have grow : samples.foldl (fun (chart : List (F64 × F64) × Nat) sample =>
      (chart.1 ++ [(ofNat 11 52 chart.2, ofNat 11 52 sample.toNat)], chart.2 + 1)) (data, updateCount) =
      (data ++ pointsFrom updateCount samples, updateCount + samples.length) := by
    induction samples generalizing data updateCount with
    | nil => simp [pointsFrom]
    | cons sample rest ih =>
      rw [List.foldl_cons, ih]
      simp only [pointsFrom_cons, List.append_assoc, List.singleton_append, List.length_cons,
        Prod.mk.injEq, true_and]
      omega
  unfold appendU64Samples
  simp only [grow, trimDataPoints_eq, maxDataPoints]

/-- A chart that was fed the series: its last points, after the point of a new widget. -/
structure Fed (data : List (F64 × F64)) (updateCount : Nat) (series : List UInt64) : Prop where
  data : data = ((.zero, .zero) :: pointsFrom 0 series).rtake 200
  count : updateCount = series.length

/-- Feeding a chart in two parts is feeding it once. -/
theorem Fed.append {data : List (F64 × F64)} {updateCount : Nat} {series : List UInt64}
    (fed : Fed data updateCount series) (samples : List UInt64) :
    Fed (appendU64Samples data updateCount samples).1 (appendU64Samples data updateCount samples).2
      (series ++ samples) := by
  rw [appendU64Samples_eq]
  constructor
  · rw [fed.data, fed.count, pointsFrom_append, Nat.zero_add, ← List.cons_append,
      History.rtake_rtake_append]
  · rw [fed.count, List.length_append]

/-! ## Both charts over a run -/

/-- The events up to the last one of the given kind. -/
def upTo (event : ChartEvent) (events : List ChartEvent) : List ChartEvent :=
  events.rdropWhile (· ≠ event)

/-- What a chart was fed: nothing before its first update, then all samples recorded up to
its last one, after the placeholder. -/
def seriesAt (update : ChartEvent) (samples : List ChartEvent → List UInt64)
    (events : List ChartEvent) : List UInt64 :=
  if update ∈ events then 0 :: samples (upTo update events) else []

theorem seriesAt_snoc_update (update : ChartEvent) (samples : List ChartEvent → List UInt64)
    (events : List ChartEvent) :
    seriesAt update samples (events ++ [update]) = 0 :: samples (events ++ [update]) := by
  unfold seriesAt upTo
  rw [if_pos (by simp), List.rdropWhile_concat_neg _ _ _ (by simp)]

theorem seriesAt_snoc_other {update event : ChartEvent} (other : event ≠ update)
    (samples : List ChartEvent → List UInt64) (events : List ChartEvent) :
    seriesAt update samples (events ++ [event]) = seriesAt update samples events := by
  unfold seriesAt upTo
  rw [List.rdropWhile_concat_pos _ _ _ (by simpa using other)]
  simp [other.symm]

/-- Without the updates of the other chart a chart is fed the same. -/
theorem seriesAt_filter {update other : ChartEvent} (different : update ≠ other)
    {samples : List ChartEvent → List UInt64}
    (blind : ∀ events, samples (events.filter (· ≠ other)) = samples events)
    (events : List ChartEvent) :
    seriesAt update samples (events.filter (· ≠ other)) = seriesAt update samples events := by
  induction events using List.reverseRecOn with
  | nil => rfl
  | append_singleton events event ih =>
    have kept := blind (events ++ [event])
    rw [List.filter_append] at kept ⊢
    by_cases own : event = update
    · subst own
      rw [List.filter_cons_of_pos (by simpa using different), List.filter_nil] at kept ⊢
      rw [seriesAt_snoc_update, seriesAt_snoc_update, kept]
    · rw [seriesAt_snoc_other own]
      by_cases dropped : event = other
      · rw [List.filter_cons_of_neg (by simpa using dropped), List.filter_nil, List.append_nil, ih]
      · rw [List.filter_cons_of_pos (by simpa using dropped), List.filter_nil,
          seriesAt_snoc_other own, ih]

/-- Fed so far and still in the buffer: together all samples, and nothing twice. -/
structure ChartsInv (events : List ChartEvent) (charts : Charts) : Prop where
  txs : Fed charts.txs.data charts.txs.updateCount (seriesAt .updateTxs recordedTxs events)
  time : Fed charts.time.data charts.time.updateCount (seriesAt .updateTime recordedIntervals events)
  txns : seriesAt .updateTxs recordedTxs events ++ charts.data.chain.txns = 0 :: recordedTxs events
  intervals : seriesAt .updateTime recordedIntervals events ++ charts.data.chain.intervals =
    0 :: recordedIntervals events
  clock : (lastBlockTime (recordedSamples events)).getD 0 =
    if 0 < charts.data.chain.curBlockTime then charts.data.chain.curBlockTime
    else charts.data.chain.prevBlockTime

theorem recordedSamples_snoc (events : List ChartEvent) (event : ChartEvent) :
    recordedSamples (events ++ [event]) = recordedSamples events ++ event.sample?.toList := by
  unfold recordedSamples
  rw [List.filterMap_append]
  cases sample : event.sample? <;> simp [sample]

theorem recordedSamples_record (events : List ChartEvent) (blockNumber blockTimestamp txs : UInt64) :
    recordedSamples (events ++ [.record blockNumber blockTimestamp txs]) =
      recordedSamples events ++ [⟨blockNumber, blockTimestamp, txs⟩] := recordedSamples_snoc ..

theorem recordedSamples_update (events : List ChartEvent) {update : ChartEvent}
    (silent : update.sample? = none) :
    recordedSamples (events ++ [update]) = recordedSamples events := by
  rw [recordedSamples_snoc, silent, Option.toList_none, List.append_nil]

theorem ChartsInv.record {events : List ChartEvent} {charts : Charts} (inv : ChartsInv events charts)
    (blockNumber blockTimestamp txs : UInt64) :
    ChartsInv (events ++ [.record blockNumber blockTimestamp txs])
      (charts.step (.record blockNumber blockTimestamp txs)) := by
  have chain : (charts.step (.record blockNumber blockTimestamp txs)).data.chain =
      charts.data.chain.recordBlockSample blockNumber blockTimestamp txs := by
    simp [Charts.step, Data.recordBlockSample, Data.markChainDirty]
  obtain ⟨txns, intervals, -, -, -, -, clock⟩ :=
    charts.data.chain.recordBlockSample_spec blockNumber blockTimestamp txs inv.clock
  constructor
  · rw [seriesAt_snoc_other (by simp)]
    exact inv.txs
  · rw [seriesAt_snoc_other (by simp)]
    exact inv.time
  · rw [seriesAt_snoc_other (by simp), chain, txns, ← List.append_assoc, inv.txns, recordedTxs,
      recordedTxs, recordedSamples_record, List.map_append]
    rfl
  · rw [seriesAt_snoc_other (by simp), chain, intervals, ← List.append_assoc, inv.intervals,
      recordedIntervals, recordedIntervals, recordedSamples_record, blockIntervals_snoc]
    rfl
  · rw [recordedSamples_record, chain, clock, lastBlockTime_snoc]
    split <;> rfl

/-- An update feeds the chart its buffer, and the other chart has its own. -/
theorem ChartsInv.updateTxs {events : List ChartEvent} {charts : Charts}
    (inv : ChartsInv events charts) :
    ChartsInv (events ++ [.updateTxs]) (charts.step .updateTxs) := by
  have same := @recordedSamples_update events .updateTxs rfl
  have txs : recordedTxs (events ++ [.updateTxs]) = recordedTxs events := by
    rw [recordedTxs, same, recordedTxs]
  have series : seriesAt .updateTxs recordedTxs (events ++ [.updateTxs]) =
      seriesAt .updateTxs recordedTxs events ++ charts.data.chain.txns := by
    rw [seriesAt_snoc_update, txs, inv.txns]
  constructor
  · rw [series]
    exact inv.txs.append _
  · rw [seriesAt_snoc_other (by simp)]
    exact inv.time
  · rw [series, txs]
    exact (List.append_nil _).trans inv.txns
  · rw [seriesAt_snoc_other (by simp), recordedIntervals, same]
    exact inv.intervals
  · rw [same]
    exact inv.clock

theorem ChartsInv.updateTime {events : List ChartEvent} {charts : Charts}
    (inv : ChartsInv events charts) :
    ChartsInv (events ++ [.updateTime]) (charts.step .updateTime) := by
  have same := @recordedSamples_update events .updateTime rfl
  have intervals : recordedIntervals (events ++ [.updateTime]) = recordedIntervals events := by
    rw [recordedIntervals, same, recordedIntervals]
  have series : seriesAt .updateTime recordedIntervals (events ++ [.updateTime]) =
      seriesAt .updateTime recordedIntervals events ++ charts.data.chain.intervals := by
    rw [seriesAt_snoc_update, intervals, inv.intervals]
  constructor
  · rw [seriesAt_snoc_other (by simp)]
    exact inv.txs
  · rw [series]
    exact inv.time.append _
  · rw [seriesAt_snoc_other (by simp), recordedTxs, same]
    exact inv.txns
  · rw [series, intervals]
    exact (List.append_nil _).trans inv.intervals
  · rw [same]
    exact inv.clock

theorem chartsInv_of_run (events : List ChartEvent) : ChartsInv events (.run events) := by
  induction events using List.reverseRecOn with
  | nil =>
    constructor
    · exact ⟨rfl, rfl⟩
    · exact ⟨rfl, rfl⟩
    · rfl
    · rfl
    · rfl
  | append_singleton events event ih =>
    rw [Charts.run, List.foldl_append, ← Charts.run, List.foldl_cons, List.foldl_nil]
    cases event with
    | record blockNumber blockTimestamp txs => exact ih.record blockNumber blockTimestamp txs
    | updateTxs => exact ih.updateTxs
    | updateTime => exact ih.updateTime

theorem recordedSamples_filter (events : List ChartEvent) {update : ChartEvent}
    (silent : update.sample? = none) :
    recordedSamples (events.filter (· ≠ update)) = recordedSamples events := by
  unfold recordedSamples
  rw [List.filterMap_filter]
  refine List.filterMap_congr fun event _ => ?_
  by_cases dropped : event = update
  · simp [dropped, silent]
  · simp [dropped]

theorem recordedTxs_filter (events : List ChartEvent) :
    recordedTxs (events.filter (· ≠ .updateTime)) = recordedTxs events := by
  rw [recordedTxs, recordedSamples_filter events rfl, recordedTxs]

theorem recordedIntervals_filter (events : List ChartEvent) :
    recordedIntervals (events.filter (· ≠ .updateTxs)) = recordedIntervals events := by
  rw [recordedIntervals, recordedSamples_filter events rfl, recordedIntervals]

/-- Whatever the order of samples and updates: each chart, once updated, shows the last
200 points of one list, that of everything recorded up to its latest update, and the
updates of the other chart make no difference to it. -/
theorem charts_exact (events : List ChartEvent) :
    (.updateTxs ∈ events → Fed (Charts.run events).txs.data (Charts.run events).txs.updateCount
      (0 :: recordedTxs (upTo .updateTxs events))) ∧
    (.updateTime ∈ events → Fed (Charts.run events).time.data (Charts.run events).time.updateCount
      (0 :: recordedIntervals (upTo .updateTime events))) ∧
    (Charts.run (events.filter (· ≠ .updateTime))).txs.data = (Charts.run events).txs.data ∧
    (Charts.run (events.filter (· ≠ .updateTxs))).time.data = (Charts.run events).time.data := by
  have inv := chartsInv_of_run events
  refine ⟨?_, ?_, ?_, ?_⟩
  · intro updated
    have fed := inv.txs
    rwa [seriesAt, if_pos updated] at fed
  · intro updated
    have fed := inv.time
    rwa [seriesAt, if_pos updated] at fed
  · rw [inv.txs.data, (chartsInv_of_run _).txs.data, seriesAt_filter (by simp) recordedTxs_filter]
  · rw [inv.time.data, (chartsInv_of_run _).time.data,
      seriesAt_filter (by simp) recordedIntervals_filter]

/-- Two samples a second apart, the first chart updated between them. -/
theorem charts_exact_twoSamples :
    (Charts.run [.record 1 100 5, .updateTxs, .record 2 101 7, .updateTime]).txs.updateCount = 2 ∧
    (Charts.run [.record 1 100 5, .updateTxs, .record 2 101 7, .updateTime]).time.updateCount = 2 := by
  obtain ⟨txs, time, -⟩ := charts_exact [.record 1 100 5, .updateTxs, .record 2 101 7, .updateTime]
  exact ⟨(txs (by decide)).count, (time (by decide)).count⟩

end ChainDash.App
