import Mathlib.Data.List.Induction
import ChainDash.Collect.Data

/-!
# Chain statistics over a whole run

Block samples recorded in any order with the draining of the two buffers. A timestamp of
zero counts as none, so an interval reaches back to the last positive timestamp, however
many samples ago (`chain_statistics_exact`).
-/

namespace ChainDash.Collect
set_option autoImplicit false

/-- The arguments of `record_block_sample`. -/
structure BlockSample where
  blockNumber : UInt64
  blockTimestamp : UInt64
  txs : UInt64
  deriving DecidableEq

inductive ChainOp where
  | recordBlockSample (sample : BlockSample)
  | txnsAndClear
  | intervalsAndClear
  deriving DecidableEq

/-- The data, and all that was drained from its two buffers so far. -/
structure ChainRun where
  data : Data := {}
  drainedTxns : List UInt64 := []
  drainedIntervals : List UInt64 := []

def ChainRun.step (run : ChainRun) : ChainOp → ChainRun
  | .recordBlockSample sample =>
    { run with
      data := run.data.recordBlockSample sample.blockNumber sample.blockTimestamp sample.txs }
  | .txnsAndClear =>
    let (txns, data) := run.data.txnsAndClear
    { run with data, drainedTxns := run.drainedTxns ++ txns }
  | .intervalsAndClear =>
    let (intervals, data) := run.data.intervalsAndClear
    { run with data, drainedIntervals := run.drainedIntervals ++ intervals }

/-- From `Data::default` on. -/
def ChainRun.after (ops : List ChainOp) : ChainRun := ops.foldl ChainRun.step {}

/-! ## What the statistics should be -/

def blockSamples (ops : List ChainOp) : List BlockSample :=
  ops.filterMap fun
    | .recordBlockSample sample => some sample
    | _ => none

/-- The most recent positive timestamp of the samples. -/
def lastBlockTime (samples : List BlockSample) : Option UInt64 :=
  ((samples.map (·.blockTimestamp)).filter (0 < ·)).getLast?

/-- The seconds from there to a further sample. -/
def stepAfter (earlier : List BlockSample) (sample : BlockSample) : Option UInt64 :=
  (lastBlockTime earlier).map (saturatingSub sample.blockTimestamp ·)

/-- The steps to samples that follow the earlier ones. -/
def stepsFrom (earlier : List BlockSample) : List BlockSample → List UInt64
  | [] => []
  | sample :: rest => (stepAfter earlier sample).toList ++ stepsFrom (earlier ++ [sample]) rest

def blockSteps (samples : List BlockSample) : List UInt64 := stepsFrom [] samples

/-- The steps in milliseconds. -/
def blockIntervals (samples : List BlockSample) : List UInt64 :=
  (blockSteps samples).map (saturatingMul · 1000)

/-- The largest of the values, zero if there is none. -/
structure Peak (values : List UInt64) (peak : UInt64) : Prop where
  bound : ∀ value ∈ values, value ≤ peak
  reached : peak = 0 ∨ peak ∈ values

/-- The number of the first sample with so many transactions, zero if there were none. -/
def firstNumber (samples : List BlockSample) (txs : UInt64) : UInt64 :=
  if txs = 0 then 0 else ((samples.find? (·.txs = txs)).map (·.blockNumber)).getD 0

structure ChainExact (samples : List BlockSample) (run : ChainRun) : Prop where
  txns : run.drainedTxns ++ run.data.chain.txns = 0 :: samples.map (·.txs)
  intervals : run.drainedIntervals ++ run.data.chain.intervals = 0 :: blockIntervals samples
  maxTxs : Peak (samples.map (·.txs)) run.data.chain.maxTxs
  maxTxsBlockNumber : run.data.chain.maxTxsBlockNumber = firstNumber samples run.data.chain.maxTxs
  maxInterval : Peak (blockIntervals samples) run.data.chain.maxInterval
  curInterval : run.data.chain.curInterval = (blockIntervals samples).getLast?.getD 0

/-! ## One more sample -/

/-- What a sample does to the statistics: `last` is the most recent positive timestamp
before it, or zero. -/
theorem ChainStats.recordBlockSample_spec (chain : ChainStats)
    (blockNumber blockTimestamp txs : UInt64) {last : UInt64}
    (clock : last = if 0 < chain.curBlockTime then chain.curBlockTime else chain.prevBlockTime) :
    let next := chain.recordBlockSample blockNumber blockTimestamp txs
    let intervalMs := saturatingMul (saturatingSub blockTimestamp last) 1000
    next.txns = chain.txns ++ [txs] ∧
    next.intervals = chain.intervals ++ (if 0 < last then [intervalMs] else []) ∧
    next.maxTxs = (if chain.maxTxs < txs then txs else chain.maxTxs) ∧
    next.maxTxsBlockNumber =
      (if chain.maxTxs < txs then blockNumber else chain.maxTxsBlockNumber) ∧
    next.maxInterval =
      (if 0 < last ∧ chain.maxInterval < intervalMs then intervalMs else chain.maxInterval) ∧
    next.curInterval = (if 0 < last then intervalMs else chain.curInterval) ∧
    (if 0 < next.curBlockTime then next.curBlockTime else next.prevBlockTime) =
      if 0 < blockTimestamp then blockTimestamp else last := by
  unfold recordBlockSample
  rw [← clock]
  by_cases positive : 0 < last <;> simp [positive]

theorem lastBlockTime_snoc (samples : List BlockSample) (sample : BlockSample) :
    lastBlockTime (samples ++ [sample]) =
      if 0 < sample.blockTimestamp then some sample.blockTimestamp else lastBlockTime samples := by
  unfold lastBlockTime
  by_cases positive : 0 < sample.blockTimestamp <;> simp [List.filter_append, positive]

theorem lastBlockTime_pos {samples : List BlockSample} {last : UInt64}
    (found : lastBlockTime samples = some last) : 0 < last := by
  simpa using (List.mem_filter.mp (List.mem_of_getLast? found)).2

theorem stepsFrom_snoc (earlier samples : List BlockSample) (sample : BlockSample) :
    stepsFrom earlier (samples ++ [sample]) =
      stepsFrom earlier samples ++ (stepAfter (earlier ++ samples) sample).toList := by
  induction samples generalizing earlier with
  | nil => simp [stepsFrom]
  | cons first rest ih =>
    rw [List.cons_append, stepsFrom, stepsFrom, ih, List.append_assoc, List.append_assoc]
    rfl

/-- One more sample; a clock that shows zero gives no interval. -/
theorem blockIntervals_snoc (samples : List BlockSample) (sample : BlockSample) :
    blockIntervals (samples ++ [sample]) = blockIntervals samples ++
      if 0 < (lastBlockTime samples).getD 0 then
        [saturatingMul (saturatingSub sample.blockTimestamp ((lastBlockTime samples).getD 0)) 1000]
      else [] := by
  unfold blockIntervals blockSteps
  rw [stepsFrom_snoc, List.map_append, List.nil_append, stepAfter]
  cases found : lastBlockTime samples with
  | none => rfl
  | some last => simp [lastBlockTime_pos found]

/-- Keeping the larger of the peak and a further value. -/
theorem Peak.snoc {values : List UInt64} {peak : UInt64} (top : Peak values peak) (value : UInt64) :
    Peak (values ++ [value]) (if peak < value then value else peak) := by
  constructor
  · intro other mem
    rcases List.mem_append.mp mem with old | new
    · have bound := UInt64.le_iff_toNat_le.mp (top.bound other old)
      rw [UInt64.le_iff_toNat_le]
      split
      case isTrue larger => exact bound.trans (UInt64.lt_iff_toNat_lt.mp larger).le
      case isFalse => exact bound
    · obtain rfl := List.mem_singleton.mp new
      split
      · exact UInt64.le_refl _
      case isFalse small => exact UInt64.not_lt.mp small
  · split
    · exact .inr (by simp)
    · exact top.reached.imp id (List.mem_append_left _)

/-- The first sample that reaches the peak. -/
theorem firstNumber_snoc {samples : List BlockSample} {peak : UInt64}
    (top : Peak (samples.map (·.txs)) peak) (sample : BlockSample) :
    firstNumber (samples ++ [sample]) (if peak < sample.txs then sample.txs else peak) =
      if peak < sample.txs then sample.blockNumber else firstNumber samples peak := by
  split
  case isTrue higher =>
    have some : sample.txs ≠ 0 := by
      rintro none
      rw [none] at higher
      exact absurd higher (by simp)
    have fresh : samples.find? (·.txs = sample.txs) = none := by
      rw [List.find?_eq_none]
      intro other mem same
      have bound := top.bound other.txs (List.mem_map_of_mem mem)
      rw [of_decide_eq_true same] at bound
      exact absurd higher (UInt64.not_lt.mpr bound)
    simp [firstNumber, some, List.find?_append, fresh]
  case isFalse =>
    unfold firstNumber
    split
    · rfl
    case isFalse some =>
      obtain ⟨first, mem, reaches⟩ := List.mem_map.mp (top.reached.resolve_left some)
      have found : (samples.find? (·.txs = peak)).isSome := by
        rw [List.find?_isSome]
        exact ⟨first, mem, by simpa using reaches⟩
      rw [List.find?_append, Option.or_of_isSome found]

/-- What holds after the samples: the clock shows the last positive timestamp. -/
structure ChainInv (samples : List BlockSample) (run : ChainRun) : Prop
    extends ChainExact samples run where
  clock : (if 0 < run.data.chain.curBlockTime then run.data.chain.curBlockTime
    else run.data.chain.prevBlockTime) = (lastBlockTime samples).getD 0

theorem ChainRun.step_recordBlockSample (run : ChainRun) (sample : BlockSample) :
    (run.step (.recordBlockSample sample)).data.chain = run.data.chain.recordBlockSample
      sample.blockNumber sample.blockTimestamp sample.txs := by
  simp [ChainRun.step, Data.recordBlockSample, Data.markChainDirty]

theorem ChainInv.record {samples : List BlockSample} {run : ChainRun} (inv : ChainInv samples run)
    (sample : BlockSample) : ChainInv (samples ++ [sample]) (run.step (.recordBlockSample sample)) := by
  obtain ⟨txns, intervals, maxTxs, maxTxsBlockNumber, maxInterval, curInterval, clock⟩ :=
    run.data.chain.recordBlockSample_spec sample.blockNumber sample.blockTimestamp sample.txs
      inv.clock.symm
  rw [← run.step_recordBlockSample] at txns intervals maxTxs maxTxsBlockNumber
  rw [← run.step_recordBlockSample] at maxInterval curInterval clock
  have top := inv.maxTxs.snoc sample.txs
  refine ⟨⟨?_, ?_, ?_, ?_, ?_, ?_⟩, ?_⟩
  · rw [txns, ← List.append_assoc]
    show run.drainedTxns ++ _ ++ _ = _
    rw [inv.txns, List.map_append]
    rfl
  · rw [intervals, ← List.append_assoc]
    show run.drainedIntervals ++ _ ++ _ = _
    rw [inv.intervals, blockIntervals_snoc]
    rfl
  · rw [maxTxs, List.map_append]
    exact top
  · rw [maxTxs, maxTxsBlockNumber, firstNumber_snoc inv.maxTxs, inv.maxTxsBlockNumber]
  · rw [maxInterval, blockIntervals_snoc]
    by_cases positive : 0 < (lastBlockTime samples).getD 0
    · rw [if_pos positive]
      simpa [positive] using inv.maxInterval.snoc _
    · simpa [positive] using inv.maxInterval
  · rw [curInterval, blockIntervals_snoc]
    split
    · simp
    · simpa using inv.curInterval
  · rw [clock, lastBlockTime_snoc]
    split <;> rfl

/-- Draining a buffer moves it to what was drained before. -/
theorem ChainInv.drain {samples : List BlockSample} {run : ChainRun} (inv : ChainInv samples run) :
    ChainInv samples (run.step .txnsAndClear) ∧ ChainInv samples (run.step .intervalsAndClear) := by
  obtain ⟨⟨txns, intervals, maxTxs, maxTxsBlockNumber, maxInterval, curInterval⟩, clock⟩ := inv
  refine ⟨⟨⟨?_, intervals, maxTxs, maxTxsBlockNumber, maxInterval, curInterval⟩, clock⟩,
    ⟨⟨txns, ?_, maxTxs, maxTxsBlockNumber, maxInterval, curInterval⟩, clock⟩⟩
  · exact (List.append_nil _).trans txns
  · exact (List.append_nil _).trans intervals

/-- Whatever is recorded, and whenever the buffers are drained: both series, the maxima and
the last interval are exact. -/
theorem chain_statistics_exact (ops : List ChainOp) :
    ChainExact (blockSamples ops) (ChainRun.after ops) := by
  suffices inv : ChainInv (blockSamples ops) (ChainRun.after ops) from inv.toChainExact
  induction ops using List.reverseRecOn with
  | nil =>
    have none : Peak [] 0 := ⟨by simp, .inl rfl⟩
    exact ⟨⟨rfl, rfl, none, rfl, none, rfl⟩, rfl⟩
  | append_singleton ops op ih =>
    rw [ChainRun.after, List.foldl_append, ← ChainRun.after, blockSamples, List.filterMap_append,
      ← blockSamples]
    cases op with
    | recordBlockSample sample => exact ih.record sample
    | txnsAndClear => simpa using ih.drain.1
    | intervalsAndClear => simpa using ih.drain.2

/-- The zero timestamp is skipped, the one that goes backwards gives an interval of zero. -/
example : blockIntervals [⟨1, 10, 2⟩, ⟨2, 0, 0⟩, ⟨3, 15, 7⟩, ⟨4, 12, 7⟩, ⟨5, 13, 1⟩] =
    [0, 5000, 0, 1000] := by decide

end ChainDash.Collect
