import ChainDash.Collect.NodeDetail
import ChainDash.Lib.Calendar
import ChainDash.Lib.History

/-!
# Daily node snapshots

The history of daily snapshots as `collect::daily_snapshot` keeps it in memory, and the
rows of a daily summary computed from it: the gains of a node since the day before and,
on the first of a month, since the first of the month before.
-/

namespace ChainDash.Collect
set_option autoImplicit false

open Calendar Ieee

structure StoredDailyNodeSnapshotDetail where
  nodeId : String
  nodeName : String
  blockQty : UInt64
  rewardValue : F64
  deriving DecidableEq

def StoredDailyNodeSnapshotDetail.mapReward (f : F64 → F64) (detail : StoredDailyNodeSnapshotDetail) :
    StoredDailyNodeSnapshotDetail :=
  { detail with rewardValue := f detail.rewardValue }

structure StoredDailyNodeSnapshot where
  date : String
  nodeDetails : List StoredDailyNodeSnapshotDetail
  deriving DecidableEq

def StoredDailyNodeSnapshot.mapRewards (f : F64 → F64) (snapshot : StoredDailyNodeSnapshot) :
    StoredDailyNodeSnapshot :=
  { snapshot with nodeDetails := snapshot.nodeDetails.map (·.mapReward f) }

def StoredDailyNodeSnapshot.fromNodeDetails (date : NaiveDate) (nodeDetails : List NodeDetail) :
    StoredDailyNodeSnapshot where
  date := date.toIso
  nodeDetails := nodeDetails.map fun detail =>
    { nodeId := detail.nodeId
      nodeName := detail.nodeName
      blockQty := detail.blockQty
      rewardValue := detail.rewardValue }

@[ext] structure StoredDailyNodeSnapshotStore where
  snapshots : List StoredDailyNodeSnapshot := []
  deriving DecidableEq

def dailyNodeSnapshotHistoryLimit : Nat := 32

namespace StoredDailyNodeSnapshotStore

def snapshotFor (store : StoredDailyNodeSnapshotStore) (date : NaiveDate) :
    Option StoredDailyNodeSnapshot :=
  store.snapshots.find? (·.date = date.toIso)

def upsert (store : StoredDailyNodeSnapshotStore) (snapshot : StoredDailyNodeSnapshot) :
    StoredDailyNodeSnapshotStore where
  snapshots := History.upsert (·.date) store.snapshots snapshot

def prune (store : StoredDailyNodeSnapshotStore) : StoredDailyNodeSnapshotStore where
  snapshots := History.prune dailyNodeSnapshotHistoryLimit store.snapshots

def mapRewards (f : F64 → F64) (store : StoredDailyNodeSnapshotStore) : StoredDailyNodeSnapshotStore where
  snapshots := store.snapshots.map (·.mapRewards f)

/-- The history that `save_snapshot` writes over the history it has read; an empty list
writes nothing. -/
def saved (store : StoredDailyNodeSnapshotStore) (date : NaiveDate) (nodeDetails : List NodeDetail) :
    StoredDailyNodeSnapshotStore :=
  if nodeDetails.isEmpty then store
  else (store.upsert (.fromNodeDetails date nodeDetails)).prune

end StoredDailyNodeSnapshotStore

/-- By a non-empty id first, then by a non-empty name. -/
def findSnapshotDetail (snapshot : Option StoredDailyNodeSnapshot) (detail : NodeDetail) :
    Option StoredDailyNodeSnapshotDetail := do
  let snapshot ← snapshot
  let byId := if detail.nodeId = "" then none else
    snapshot.nodeDetails.find? fun candidate =>
      candidate.nodeId ≠ "" && candidate.nodeId = detail.nodeId
  let byName := if detail.nodeName = "" then none else
    snapshot.nodeDetails.find? fun candidate =>
      candidate.nodeName ≠ "" && candidate.nodeName = detail.nodeName
  byId.or byName

def nonNegativeRewardDelta (current previous : F64) : F64 :=
  if previous.lt current then current.sub previous else .zero

def buildDailySummaryDetails (nodeDetails : List NodeDetail)
    (previousSnapshot monthlySnapshot : Option StoredDailyNodeSnapshot) (showMonthlyTotals : Bool) :
    List DailyNodeSummaryDetail :=
  nodeDetails.map fun detail =>
    let previous := findSnapshotDetail previousSnapshot detail
    let monthly := findSnapshotDetail monthlySnapshot detail
    { nodeId := detail.nodeId
      nodeName := detail.nodeName
      ranking := detail.ranking
      blockQty := detail.blockQty
      rewardValue := detail.rewardValue
      dailyBlockQty := previous.map fun snapshot => saturatingSub detail.blockQty snapshot.blockQty
      dailyRewardValue := previous.map fun snapshot =>
        nonNegativeRewardDelta detail.rewardValue snapshot.rewardValue
      showMonthlyTotals
      monthlyBlockQty := monthly.map fun snapshot => saturatingSub detail.blockQty snapshot.blockQty
      monthlyRewardValue := monthly.map fun snapshot =>
        nonNegativeRewardDelta detail.rewardValue snapshot.rewardValue }

def previousMonthStartSnapshotDate (date : NaiveDate) : Option NaiveDate :=
  if date.day ≠ 1 then none
  else date.predOpt.bind fun previousDay => NaiveDate.fromYmdOpt previousDay.year previousDay.month 1

/-- `daily_summary_details` once the store has been read. -/
def dailySummaryDetails (store : StoredDailyNodeSnapshotStore) (date : NaiveDate)
    (nodeDetails : List NodeDetail) : List DailyNodeSummaryDetail :=
  let previousSnapshot := date.predOpt.bind store.snapshotFor
  let showMonthlyTotals := date.day == 1
  let monthlySnapshot := (previousMonthStartSnapshotDate date).bind store.snapshotFor
  buildDailySummaryDetails nodeDetails previousSnapshot monthlySnapshot showMonthlyTotals

/-- The first of the month before, counting months through the years. -/
theorem previousMonthStartSnapshotDate_eq_some_iff {date first : NaiveDate} :
    previousMonthStartSnapshotDate date = some first ↔ date.day = 1 ∧ first.day = 1 ∧
      first.year * 12 + first.month + 1 = date.year * 12 + date.month := by
  have months := date.monthRange
  have firstMonths := first.monthRange
  have firstYears := first.yearRange
  unfold previousMonthStartSnapshotDate
  by_cases one : date.day = 1
  case neg => simp [one]
  simp only [one, ne_eq, not_true_eq_false, if_false, true_and, Option.bind_eq_some_iff,
    NaiveDate.fromYmdOpt_eq_some]
  constructor
  · rintro ⟨previousDay, before, year, month, day⟩
    unfold NaiveDate.predOpt at before
    rw [if_neg (by omega)] at before
    split at before
    all_goals
      obtain ⟨year', month', -⟩ := NaiveDate.fromYmdOpt_eq_some.mp before
      omega
  · rintro ⟨day, count⟩
    have earlier : first < date := by
      rw [NaiveDate.lt_iff]
      omega
    obtain ⟨previousDay, before⟩ := Option.isSome_iff_exists.mp (NaiveDate.isSome_predOpt earlier)
    refine ⟨previousDay, before, ?_⟩
    unfold NaiveDate.predOpt at before
    rw [if_neg (by omega)] at before
    split at before
    all_goals
      obtain ⟨year', month', -⟩ := NaiveDate.fromYmdOpt_eq_some.mp before
      omega

end ChainDash.Collect
