import ChainDash.Collect.Data

/-!
# The widgets that cache the shared data

What each dashboard widget keeps of the shared data and how `update` loads it. The two
chart widgets drain the samples recorded since their last update.
-/

namespace ChainDash.App
set_option autoImplicit false

open Collect Ieee

def maxDataPoints : Nat := 200

def trimDataPoints (data : List (F64 × F64)) (maxDataPoints : Nat) : List (F64 × F64) :=
  if maxDataPoints < data.length then data.drop (data.length - maxDataPoints) else data

/-- The samples get consecutive numbers, from the update count on. -/
def appendU64Samples (data : List (F64 × F64)) (updateCount : Nat) (samples : List UInt64) :
    List (F64 × F64) × Nat :=
  let (data, updateCount) := samples.foldl (fun (data, updateCount) sample =>
    (data ++ [(ofNat 11 52 updateCount, ofNat 11 52 sample.toNat)], updateCount + 1))
    (data, updateCount)
  (trimDataPoints data maxDataPoints, updateCount)

theorem trimDataPoints_trim (data : List (F64 × F64)) (limit : Nat) :
    trimDataPoints (trimDataPoints data limit) limit = trimDataPoints data limit := by
  unfold trimDataPoints
  split
  case isTrue long => rw [if_neg (by rw [List.length_drop]; omega)]
  case isFalse => rfl

/-- An update without new samples leaves an updated chart alone. -/
theorem appendU64Samples_nil (data : List (F64 × F64)) (updateCount : Nat) (samples : List UInt64) :
    let chart := appendU64Samples data updateCount samples
    appendU64Samples chart.1 chart.2 [] = chart := by
  simp [appendU64Samples, trimDataPoints_trim]

structure TxsWidget where
  updateCount : Nat := 0
  curNum : UInt64 := 0
  curTxs : UInt64 := 0
  max : UInt64 := 0
  maxBlockNumber : UInt64 := 0
  data : List (F64 × F64) := [(.zero, .zero)]

def TxsWidget.update (widget : TxsWidget) (collectData : Data) : TxsWidget × Data :=
  let (samples, collectData') := collectData.txnsAndClear
  let (data, updateCount) := appendU64Samples widget.data widget.updateCount samples
  ({ updateCount
     curNum := collectData.chain.curBlockNumber
     curTxs := collectData.chain.curTxs
     max := collectData.chain.maxTxs
     maxBlockNumber := collectData.chain.maxTxsBlockNumber
     data }, collectData')

structure TimeWidget where
  updateCount : Nat := 0
  curNum : UInt64 := 0
  curTime : UInt64 := 0
  maxTime : UInt64 := 0
  data : List (F64 × F64) := [(.zero, .zero)]

def TimeWidget.update (widget : TimeWidget) (collectData : Data) : TimeWidget × Data :=
  let (samples, collectData') := collectData.intervalsAndClear
  let (data, updateCount) := appendU64Samples widget.data widget.updateCount samples
  ({ updateCount
     curNum := collectData.chain.curBlockNumber
     curTime := collectData.chain.curInterval
     maxTime := collectData.chain.maxInterval
     data }, collectData')

structure NodeWidget where
  nodes : List ConsensusState := []

def NodeWidget.update (_ : NodeWidget) (collectData : Data) : NodeWidget :=
  { nodes := collectData.nodeState.sorted }

structure NodeDetailWidget where
  loading : Bool := true
  nodeDetails : List NodeDetail := []

def NodeDetailWidget.update (_ : NodeDetailWidget) (collectData : Data) : NodeDetailWidget :=
  let nodeDetails := collectData.nodeDetails.sorted
  { loading := nodeDetails.isEmpty && !collectData.nodeDetails.loaded, nodeDetails }

structure SystemSummaryWidget where
  systemStats : SystemStats := {}

def SystemSummaryWidget.update (_ : SystemSummaryWidget) (collectData : Data) : SystemSummaryWidget :=
  { systemStats := collectData.system.stats }

/-- What the summary shows of the statistics: not which disk is selected. -/
def displayed (stats : SystemStats) : SystemStats := { stats with currentDiskIndex := 0 }

structure DiskListWidget where
  systemStats : SystemStats := {}

def DiskListWidget.update (_ : DiskListWidget) (collectData : Data) : DiskListWidget :=
  { systemStats := collectData.system.stats }

structure Widgets where
  txs : TxsWidget := {}
  time : TimeWidget := {}
  node : NodeWidget := {}
  nodeDetails : NodeDetailWidget := {}
  systemSummary : SystemSummaryWidget := {}
  diskList : DiskListWidget := {}

inductive WidgetName where
  | txs
  | time
  | node
  | nodeDetails
  | systemSummary
  | diskList
  deriving DecidableEq

namespace Widgets

/-- Update one widget under the lock. -/
def update (widgets : Widgets) (collectData : Data) : WidgetName → Widgets × Data
  | .txs =>
    let (txs, collectData) := widgets.txs.update collectData
    ({ widgets with txs }, collectData)
  | .time =>
    let (time, collectData) := widgets.time.update collectData
    ({ widgets with time }, collectData)
  | .node => ({ widgets with node := widgets.node.update collectData }, collectData)
  | .nodeDetails =>
    ({ widgets with nodeDetails := widgets.nodeDetails.update collectData }, collectData)
  | .systemSummary =>
    ({ widgets with systemSummary := widgets.systemSummary.update collectData }, collectData)
  | .diskList => ({ widgets with diskList := widgets.diskList.update collectData }, collectData)

/-- What a widget holds is what its update would load now; for the summary, what it
displays. -/
def Fresh (widgets : Widgets) (collectData : Data) : WidgetName → Prop
  | .txs => (widgets.txs.update collectData).1 = widgets.txs
  | .time => (widgets.time.update collectData).1 = widgets.time
  | .node => widgets.node.update collectData = widgets.node
  | .nodeDetails => widgets.nodeDetails.update collectData = widgets.nodeDetails
  | .systemSummary => displayed (widgets.systemSummary.update collectData).systemStats =
      displayed widgets.systemSummary.systemStats
  | .diskList => widgets.diskList.update collectData = widgets.diskList

end Widgets

/-- The part of the data that a widget loads. -/
def WidgetName.part : WidgetName → Part
  | .txs => .chain
  | .time => .chain
  | .node => .nodeState
  | .nodeDetails => .nodeDetails
  | .systemSummary => .system
  | .diskList => .system

namespace Widgets

variable {widgets : Widgets} {data data' : Data}

/-- Whether a widget is fresh depends on its part of the data. -/
theorem fresh_congr {name : WidgetName} (same : data.SameIn data' name.part) :
    widgets.Fresh data' name ↔ widgets.Fresh data name := by
  cases name
  case txs => simp [Fresh, TxsWidget.update, Data.txnsAndClear, show data'.chain = data.chain from same]
  case time =>
    simp [Fresh, TimeWidget.update, Data.intervalsAndClear, show data'.chain = data.chain from same]
  case node => simp [Fresh, NodeWidget.update, show data'.nodeState = data.nodeState from same]
  case nodeDetails =>
    simp [Fresh, NodeDetailWidget.update, show data'.nodeDetails = data.nodeDetails from same]
  case systemSummary =>
    simp [Fresh, SystemSummaryWidget.update, show data'.system = data.system from same]
  case diskList => simp [Fresh, DiskListWidget.update, show data'.system = data.system from same]

/-- An updated widget is fresh. -/
theorem fresh_update (name : WidgetName) :
    (widgets.update data name).1.Fresh (widgets.update data name).2 name := by
  cases name
  case txs =>
    simp only [Fresh, update, TxsWidget.update, Data.txnsAndClear]
    exact congrArg (fun chart : List (F64 × F64) × Nat => (⟨chart.2, _, _, _, _, chart.1⟩ : TxsWidget))
      (appendU64Samples_nil widgets.txs.data widgets.txs.updateCount data.chain.txns)
  case time =>
    simp only [Fresh, update, TimeWidget.update, Data.intervalsAndClear]
    exact congrArg (fun chart : List (F64 × F64) × Nat => (⟨chart.2, _, _, _, chart.1⟩ : TimeWidget))
      (appendU64Samples_nil widgets.time.data widgets.time.updateCount data.chain.intervals)
  all_goals rfl

/-- An update does not change whether another widget is fresh. -/
theorem fresh_update_other {name other : WidgetName} (different : other ≠ name) :
    (widgets.update data name).1.Fresh (widgets.update data name).2 other ↔ widgets.Fresh data other := by
  cases name <;> cases other <;> first | exact absurd rfl different | rfl

/-- An update drains samples and changes nothing else in the data. -/
theorem update_data (name : WidgetName) :
    (widgets.update data name).2.uiDirty = data.uiDirty ∧
    (widgets.update data name).2.uiWaker = data.uiWaker := by
  cases name <;> exact ⟨rfl, rfl⟩

end Widgets

end ChainDash.App
