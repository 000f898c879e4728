import ChainDash.Collect.DailySnapshot

/-!
# The retention of the snapshot history

The history keeps 32 snapshots, and a daily summary reads at most two of them: that of
the day before, and on the first of a month that of the first of the month before, 31
days back at the most. So what `prune` drops is never missed (`history_suffices`).
-/

namespace ChainDash.Collect
set_option autoImplicit false

open Calendar Ieee

/-- A call of `save_snapshot`. -/
abbrev Save := NaiveDate × List NodeDetail

def Save.snapshot (save : Save) : StoredDailyNodeSnapshot := .fromNodeDetails save.1 save.2

/-- The history after a sequence of calls on an empty store. -/
def storeAfter (saves : List Save) : StoredDailyNodeSnapshotStore :=
  saves.foldl (fun store save => store.saved save.1 save.2) {}

/-- The calls that write. -/
def nonEmptySaves (saves : List Save) : List Save := saves.filter (!·.2.isEmpty)

/-- For each date the last call that writes. -/
def lastSaves (saves : List Save) : List Save := History.lastPerKey (·.1) (nonEmptySaves saves)

/-- The list of the last non-empty save for a date. -/
def lastSave (saves : List Save) (date : NaiveDate) : Option (List NodeDetail) :=
  ((nonEmptySaves saves).filter (·.1 = date)).getLast?.map (·.2)

/-- The entry matched for a node in the last non-empty save for a date. -/
def Baseline (saves : List Save) (date : NaiveDate) (detail : NodeDetail)
    (entry : StoredDailyNodeSnapshotDetail) : Prop :=
  ∃ nodeDetails, lastSave saves date = some nodeDetails ∧
    findSnapshotDetail (some (.fromNodeDetails date nodeDetails)) detail = some entry

/-- The gains of a node are given iff there is an entry to compare it with, and are then
the differences to that entry, cut off at 0. -/
def GivesGains (detail : NodeDetail) (blockQty : Option UInt64) (rewardValue : Option F64)
    (entryIs : StoredDailyNodeSnapshotDetail → Prop) : Prop :=
  ∃ matched, (∀ entry, matched = some entry ↔ entryIs entry) ∧
    blockQty.map (·.toNat) = matched.map (detail.blockQty.toNat - ·.blockQty.toNat) ∧
    rewardValue = matched.map (nonNegativeRewardDelta detail.rewardValue ·.rewardValue)

/-- The row of a daily summary for `date`, in terms of all saves ever made. -/
structure Reports (saves : List Save) (date : NaiveDate) (detail : NodeDetail)
    (row : DailyNodeSummaryDetail) : Prop where
  daily : GivesGains detail row.dailyBlockQty row.dailyRewardValue fun entry =>
    ∃ yesterday, yesterday ⋖ date ∧ Baseline saves yesterday detail entry
  monthly : GivesGains detail row.monthlyBlockQty row.monthlyRewardValue fun entry =>
    date.day = 1 ∧ ∃ first : NaiveDate, first.day = 1 ∧
      first.year * 12 + first.month + 1 = date.year * 12 + date.month ∧
      Baseline saves first detail entry

variable {saves : List Save}

theorem storeAfter_snapshots (saves : List Save) : (storeAfter saves).snapshots =
    ((nonEmptySaves saves).map Save.snapshot).foldl
      (History.record (·.date) dailyNodeSnapshotHistoryLimit) [] := by
  induction saves using List.reverseRecOn with
  | nil => rfl
  | append_singleton saves save ih =>
    rw [storeAfter, List.foldl_append, ← storeAfter, List.foldl_cons, List.foldl_nil,
      StoredDailyNodeSnapshotStore.saved, nonEmptySaves, List.filter_append, ← nonEmptySaves]
    cases empty : save.2.isEmpty with
    | true => simp [empty, ih]
    | false =>
      rw [if_neg Bool.false_ne_true, List.filter_cons_of_pos (by simp [empty]), List.filter_nil,
        List.map_append, List.foldl_append, ← ih]
      rfl

theorem mem_nonEmptySaves {save : Save} (mem : save ∈ lastSaves saves) : save ∈ nonEmptySaves saves :=
  (History.lastPerKey_sublist _).subset mem

theorem mem_lastSaves {save : Save} (mem : save ∈ lastSaves saves) : save ∈ saves :=
  List.mem_of_mem_filter (mem_nonEmptySaves mem)

theorem pairwise_lastSaves (sorted : saves.Pairwise (·.1 ≤ ·.1)) :
    (lastSaves saves).Pairwise (·.1 < ·.1) :=
  History.pairwise_lastPerKey (sorted.filter _)

/-- On years of four digits the order of the stored texts is that of the dates, so the
history holds the latest of the dates saved. -/
theorem storeAfter_eq (sorted : saves.Pairwise (·.1 ≤ ·.1))
    (fourDigit : ∀ save ∈ saves, save.1.FourDigit) : (storeAfter saves).snapshots =
      (History.prune dailyNodeSnapshotHistoryLimit (lastSaves saves)).map Save.snapshot := by
  have digits (save : Save) (mem : save ∈ nonEmptySaves saves) : save.1.FourDigit :=
    fourDigit save (List.mem_of_mem_filter mem)
  have texts : ((nonEmptySaves saves).map Save.snapshot).Pairwise (·.date ≤ ·.date) := by
    rw [List.pairwise_map]
    apply (sorted.filter _).imp_of_mem
    intro a b ma mb le
    exact (NaiveDate.toIso_le_toIso (digits a ma) (digits b mb)).mpr le
  have named : History.lastPerKey (·.date) ((nonEmptySaves saves).map Save.snapshot) =
      (lastSaves saves).map Save.snapshot :=
    History.lastPerKey_map fun _ _ _ _ => NaiveDate.toIso_inj
  rw [storeAfter_snapshots, History.foldl_record texts, named, History.prune_map]

/-- A date with fewer than 32 later ones among those saved is still looked up as saved. -/
theorem snapshotFor_storeAfter (sorted : saves.Pairwise (·.1 ≤ ·.1))
    (fourDigit : ∀ save ∈ saves, save.1.FourDigit) {date : NaiveDate}
    (few : ((lastSaves saves).filter (date < ·.1)).length < dailyNodeSnapshotHistoryLimit) :
    (storeAfter saves).snapshotFor date = (lastSave saves date).map (.fromNodeDetails date) := by
  have found : (lastSaves saves).find? (·.1 = date) =
      ((nonEmptySaves saves).filter (·.1 = date)).getLast? := History.find?_lastPerKey _ date
  have named : ((History.prune dailyNodeSnapshotHistoryLimit (lastSaves saves)).map
      Save.snapshot).find? (·.date = date.toIso) =
        ((History.prune dailyNodeSnapshotHistoryLimit (lastSaves saves)).find? (·.1 = date)).map
          Save.snapshot := History.find?_map fun _ _ => NaiveDate.toIso_inj
  rw [StoredDailyNodeSnapshotStore.snapshotFor, storeAfter_eq sorted fourDigit, named,
    History.find?_prune (pairwise_lastSaves sorted) few, found, lastSave, Option.map_map]
  apply Option.map_congr
  intro save last
  have same := (List.mem_filter.mp (List.mem_of_getLast? last)).2
  rw [Function.comp, Save.snapshot, of_decide_eq_true same]

/-- Nothing is saved after the day before the report. -/
theorem later_than_yesterday {date yesterday : NaiveDate} (later : ∀ save ∈ nonEmptySaves saves, save.1 < date)
    (before : yesterday ⋖ date) : (lastSaves saves).filter (yesterday < ·.1) = [] := by
  rw [List.filter_eq_nil_iff]
  intro save mem after
  exact before.2 (of_decide_eq_true after) (later save (mem_nonEmptySaves mem))

/-- After the first of the month before, at most 30 dates are left before the report. -/
theorem later_than_month_start (sorted : saves.Pairwise (·.1 ≤ ·.1)) {date first : NaiveDate}
    (later : ∀ save ∈ nonEmptySaves saves, save.1 < date)
    (start : previousMonthStartSnapshotDate date = some first) :
    ((lastSaves saves).filter (first < ·.1)).length < dailyNodeSnapshotHistoryLimit := by
  obtain ⟨one, firstOne, count⟩ := previousMonthStartSnapshotDate_eq_some_iff.mp start
  have firstMonths := first.monthRange
  have months := date.monthRange
  have sameMonth : ∀ save ∈ (lastSaves saves).filter (first < ·.1),
      save.1.year = first.year ∧ save.1.month = first.month := by
    intro save mem
    obtain ⟨inside, after⟩ := List.mem_filter.mp mem
    have after := NaiveDate.lt_iff.mp (of_decide_eq_true after)
    have before := NaiveDate.lt_iff.mp (later save (mem_nonEmptySaves inside))
    have months := save.1.monthRange
    have days := save.1.dayRange
    omega
  have ascend : (((lastSaves saves).filter (first < ·.1)).map (·.1)).Pairwise (· < ·) :=
    List.pairwise_map.mpr ((pairwise_lastSaves sorted).filter _)
  have few := NaiveDate.length_le_of_same_month ascend (List.forall_mem_map.mpr sameMonth)
  rw [List.length_map] at few
  unfold dailyNodeSnapshotHistoryLimit
  omega

theorem givesGains_map {detail : NodeDetail} {matched : Option StoredDailyNodeSnapshotDetail}
    {entryIs : StoredDailyNodeSnapshotDetail → Prop}
    (iff : ∀ entry, matched = some entry ↔ entryIs entry) :
    GivesGains detail (matched.map (saturatingSub detail.blockQty ·.blockQty))
      (matched.map (nonNegativeRewardDelta detail.rewardValue ·.rewardValue)) entryIs := by
  refine ⟨matched, iff, ?_, rfl⟩
  rw [Option.map_map]
  congr 1
  funext entry
  exact toNat_saturatingSub _ _

theorem findSnapshotDetail_eq_some_iff {date : NaiveDate} {detail : NodeDetail}
    {entry : StoredDailyNodeSnapshotDetail} :
    findSnapshotDetail ((lastSave saves date).map (.fromNodeDetails date)) detail = some entry ↔
      Baseline saves date detail entry := by
  unfold Baseline
  cases lastSave saves date with
  | none => simp [findSnapshotDetail]
  | some nodeDetails => simp

/-- An entry looked up in the history on a day found by the code, when the history still
has that day. -/
theorem findSnapshotDetail_storeAfter {detail : NodeDetail} {entry : StoredDailyNodeSnapshotDetail}
    {day? : Option NaiveDate} {isDay : NaiveDate → Prop} (found : ∀ day, day? = some day ↔ isDay day)
    (kept : ∀ day, day? = some day →
      (storeAfter saves).snapshotFor day = (lastSave saves day).map (.fromNodeDetails day)) :
    findSnapshotDetail (day?.bind (storeAfter saves).snapshotFor) detail = some entry ↔
      ∃ day, isDay day ∧ Baseline saves day detail entry := by
  simp only [← found]
  cases day? with
  | none => simp [findSnapshotDetail]
  | some day =>
    rw [Option.bind_some, kept day rfl, findSnapshotDetail_eq_some_iff]
    simp

/-- Every row of a report is the one computed from all saves. -/
theorem reports_storeAfter (sorted : saves.Pairwise (·.1 ≤ ·.1))
    (fourDigit : ∀ save ∈ saves, save.1.FourDigit) {date : NaiveDate}
    (later : ∀ save ∈ nonEmptySaves saves, save.1 < date) (nodeDetails : List NodeDetail) :
    List.Forall₂ (Reports saves date) nodeDetails
      (dailySummaryDetails (storeAfter saves) date nodeDetails) := by
  rw [dailySummaryDetails, buildDailySummaryDetails, List.forall₂_map_right_iff, List.forall₂_same]
  intro detail _
  constructor
  · apply givesGains_map
    intro entry
    apply findSnapshotDetail_storeAfter (fun day => NaiveDate.predOpt_eq_some_iff)
    intro day before
    apply snapshotFor_storeAfter sorted fourDigit
    rw [later_than_yesterday later (NaiveDate.predOpt_eq_some_iff.mp before)]
    decide
  · apply givesGains_map
    intro entry
    rw [findSnapshotDetail_storeAfter (fun day => previousMonthStartSnapshotDate_eq_some_iff)
      fun day start => snapshotFor_storeAfter sorted fourDigit
        (later_than_month_start sorted later start)]
    simp only [and_assoc, exists_and_left]

/-- Whatever the saves, dates and node lists: 32 snapshots are as good as all of them. -/
theorem history_suffices (sorted : saves.Pairwise (·.1 ≤ ·.1))
    (fourDigit : ∀ save ∈ saves, save.1.FourDigit) {date : NaiveDate}
    (later : ∀ save ∈ nonEmptySaves saves, save.1 < date) :
    (storeAfter saves).snapshots.Pairwise (·.date < ·.date) ∧
    (storeAfter saves).snapshots =
      ((lastSaves saves).drop ((lastSaves saves).length - 32)).map Save.snapshot ∧
    ∀ nodeDetails, List.Forall₂ (Reports saves date) nodeDetails
      (dailySummaryDetails (storeAfter saves) date nodeDetails) := by
  have kept := storeAfter_eq sorted fourDigit
  refine ⟨?_, ?_, reports_storeAfter sorted fourDigit later⟩
  · rw [kept, List.pairwise_map]
    have suffix := History.prune_suffix dailyNodeSnapshotHistoryLimit (lastSaves saves)
    apply ((pairwise_lastSaves sorted).sublist suffix.sublist).imp_of_mem
    intro a b ma mb lt
    exact (NaiveDate.toIso_lt_toIso (fourDigit a (mem_lastSaves (suffix.subset ma)))
      (fourDigit b (mem_lastSaves (suffix.subset mb)))).mpr lt
  · rw [kept, History.prune_eq_drop]
    rfl

def sampleNodeDetail (blockQty : UInt64) : NodeDetail :=
  { nodeId := "node-a", nodeName := "node-a", ranking := 1, blockQty }

theorem yearRange_2026 : minYear ≤ 2026 ∧ 2026 ≤ maxYear := by decide

theorem monthRange_march : 1 ≤ 3 ∧ 3 ≤ 12 := by decide

theorem monthRange_april : 1 ≤ 4 ∧ 4 ≤ 12 := by decide

/-- The days of April, with four blocks a day. -/
def aprilSaves : List Save :=
  (List.range 30).attach.map fun offset =>
    (⟨2026, 4, offset.1 + 1, yearRange_2026, monthRange_april,
        by exact ⟨by omega, by have := List.mem_range.mp offset.2; exact this⟩⟩,
      [sampleNodeDetail (100 + 4 * offset.1.toUInt64)])

/-- The last days of March. -/
def marchSaves : List Save :=
  [(⟨2026, 3, 28, yearRange_2026, monthRange_march, by decide⟩, [sampleNodeDetail 85]),
    (⟨2026, 3, 29, yearRange_2026, monthRange_march, by decide⟩, [sampleNodeDetail 90]),
    (⟨2026, 3, 30, yearRange_2026, monthRange_march, by decide⟩, [sampleNodeDetail 95])]

/-- The report of the first of May, when the first snapshot of March has been dropped. -/
theorem history_suffices_april :
    let saves := marchSaves ++ aprilSaves
    let date : NaiveDate := ⟨2026, 5, 1, yearRange_2026, by decide, by decide⟩
    saves.length = 33 ∧ (storeAfter saves).snapshots.length = 32 ∧
      (dailySummaryDetails (storeAfter saves) date [sampleNodeDetail 220]).map
        (fun row => (row.dailyBlockQty, row.monthlyBlockQty)) = [(some 4, some 120)] ∧
      List.Forall₂ (Reports saves date) [sampleNodeDetail 220]
        (dailySummaryDetails (storeAfter saves) date [sampleNodeDetail 220]) := by
  intro saves date
  refine ⟨by decide, by decide +kernel, by decide +kernel, ?_⟩
  exact (@history_suffices saves (by decide +kernel) (by decide +kernel) date
    (by decide +kernel)).2.2 _

end ChainDash.Collect
