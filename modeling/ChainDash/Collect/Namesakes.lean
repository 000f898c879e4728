import ChainDash.Collect.DailySnapshot

/-!
# Whose past a node is compared with

A node is looked up in a stored snapshot by its id and then by its name. The search by
name takes the first entry of that name, also one that carries another node's id, and
`own_past_iff` says when it does not.
-/

namespace ChainDash.Collect
set_option autoImplicit false

/-- If a value is reported, it is the difference to an entry that carries the node's own id
or none. -/
def ComparedWithOwn (snapshot : Option StoredDailyNodeSnapshot) (detail : NodeDetail)
    (blockQty : Option UInt64) (rewardValue : Option Ieee.F64) : Prop :=
  blockQty.isSome ∨ rewardValue.isSome → ∃ entry, findSnapshotDetail snapshot detail = some entry ∧
    blockQty = some (saturatingSub detail.blockQty entry.blockQty) ∧
    rewardValue = some (nonNegativeRewardDelta detail.rewardValue entry.rewardValue) ∧
    (entry.nodeId = detail.nodeId ∨ entry.nodeId = "")

/-- Every node with an id is compared with its own past, in both of its columns. -/
def OwnPast (nodeDetails : List NodeDetail)
    (previousSnapshot monthlySnapshot : Option StoredDailyNodeSnapshot) (showMonthlyTotals : Bool) :
    Prop :=
  List.Forall₂ (fun detail row => detail.nodeId ≠ "" →
      ComparedWithOwn previousSnapshot detail row.dailyBlockQty row.dailyRewardValue ∧
      ComparedWithOwn monthlySnapshot detail row.monthlyBlockQty row.monthlyRewardValue)
    nodeDetails
    (buildDailySummaryDetails nodeDetails previousSnapshot monthlySnapshot showMonthlyTotals)

/-- The snapshot has an entry of the node's id, or the first entry of its name carries no
id. -/
def NoNamesake (snapshot : Option StoredDailyNodeSnapshot) (detail : NodeDetail) : Prop :=
  ∀ stored ∈ snapshot, (∃ entry ∈ stored.nodeDetails, entry.nodeId = detail.nodeId) ∨
    detail.nodeName = "" ∨
    ∀ first ∈ (stored.nodeDetails.filter (·.nodeName = detail.nodeName)).head?, first.nodeId = ""

/-- The entry found for a node with an id: the first of the id if there is one, else the
first of a non-empty name. -/
theorem findSnapshotDetail_some {detail : NodeDetail} (hasId : detail.nodeId ≠ "")
    (stored : StoredDailyNodeSnapshot) : findSnapshotDetail (some stored) detail =
      (stored.nodeDetails.find? (·.nodeId = detail.nodeId)).or
        (if detail.nodeName = "" then none
          else stored.nodeDetails.find? (·.nodeName = detail.nodeName)) := by
  have byId : (fun candidate : StoredDailyNodeSnapshotDetail => decide (candidate.nodeId ≠ "") &&
      decide (candidate.nodeId = detail.nodeId)) = fun candidate => decide (candidate.nodeId = detail.nodeId) := by
    funext candidate
    by_cases same : candidate.nodeId = detail.nodeId <;> simp [same, hasId]
  unfold findSnapshotDetail
  simp only [bind, Option.bind_some, if_neg hasId, byId]
  congr 1
  split
  · rfl
  case isFalse hasName =>
    congr 1
    funext candidate
    by_cases same : candidate.nodeName = detail.nodeName <;> simp [same, hasName]

/-- One lookup: the entry is the node's own exactly when no namesake stands in. -/
theorem own_entry_iff {detail : NodeDetail} (hasId : detail.nodeId ≠ "")
    (snapshot : Option StoredDailyNodeSnapshot) :
    (∀ entry, findSnapshotDetail snapshot detail = some entry →
      entry.nodeId = detail.nodeId ∨ entry.nodeId = "") ↔ NoNamesake snapshot detail := by
  cases snapshot with
  | none => simp [findSnapshotDetail, NoNamesake]
  | some stored =>
    simp only [NoNamesake, Option.mem_some_iff, forall_eq', findSnapshotDetail_some hasId,
      List.head?_filter]
    cases byId : stored.nodeDetails.find? (·.nodeId = detail.nodeId) with
    | some own =>
      have carries : own.nodeId = detail.nodeId := by simpa using List.find?_some byId
      have present : ∃ entry ∈ stored.nodeDetails, entry.nodeId = detail.nodeId :=
        ⟨own, List.mem_of_find?_eq_some byId, carries⟩
      simp [carries, present]
    | none =>
      have absent : ¬ ∃ entry ∈ stored.nodeDetails, entry.nodeId = detail.nodeId := by
        simpa using byId
      rw [Option.none_or]
      by_cases noName : detail.nodeName = ""
      · simp [noName]
      · simp only [noName, if_false, absent, false_or, Option.mem_def]
        refine forall₂_congr fun entry found => ?_
        have other : entry.nodeId ≠ detail.nodeId :=
          fun same => absent ⟨entry, List.mem_of_find?_eq_some found, same⟩
        simp [other]

/-- The two values of a column, as they are computed from the entry found. -/
theorem comparedWithOwn_iff {detail : NodeDetail} (hasId : detail.nodeId ≠ "")
    (snapshot : Option StoredDailyNodeSnapshot) :
    ComparedWithOwn snapshot detail
      ((findSnapshotDetail snapshot detail).map fun entry =>
        saturatingSub detail.blockQty entry.blockQty)
      ((findSnapshotDetail snapshot detail).map fun entry =>
        nonNegativeRewardDelta detail.rewardValue entry.rewardValue) ↔ NoNamesake snapshot detail := by
  rw [← own_entry_iff hasId]
  unfold ComparedWithOwn
  cases findSnapshotDetail snapshot detail with
  | none => simp
  | some entry => simp

/-- Daily and monthly values compare every node that has an id with its own past if and only
if, in neither snapshot, an entry of another id comes first under the name of a node whose
own id is missing there. -/
theorem own_past_iff (nodeDetails : List NodeDetail)
    (previousSnapshot monthlySnapshot : Option StoredDailyNodeSnapshot) (showMonthlyTotals : Bool) :
    OwnPast nodeDetails previousSnapshot monthlySnapshot showMonthlyTotals ↔
      ∀ detail ∈ nodeDetails, detail.nodeId ≠ "" →
        NoNamesake previousSnapshot detail ∧ NoNamesake monthlySnapshot detail := by
  rw [OwnPast, buildDailySummaryDetails, List.forall₂_map_right_iff, List.forall₂_same]
  refine forall₂_congr fun detail _ => forall_congr' fun hasId => ?_
  exact and_congr (comparedWithOwn_iff hasId _) (comparedWithOwn_iff hasId _)

/-- A node that was added under the name of another one is compared with that node. -/
theorem namesake_compared : ¬ OwnPast [{ nodeId := "0xb", nodeName := "validator", blockQty := 150 }]
    (some ⟨"2026-04-13", [⟨"0xa", "validator", 100, .zero⟩]⟩) none false := by
  intro own
  have compared := ((List.forall₂_cons.mp own).1 (by decide)).1
  obtain ⟨entry, found, -, -, owner⟩ := compared (.inl rfl)
  have other : (findSnapshotDetail (some ⟨"2026-04-13", [⟨"0xa", "validator", 100, .zero⟩]⟩)
      { nodeId := "0xb", nodeName := "validator", blockQty := 150 }).map (·.nodeId) = some "0xa" := by
    decide
  rw [found, Option.map_some, Option.some.injEq] at other
  rw [other] at owner
  revert owner
  decide

end ChainDash.Collect
