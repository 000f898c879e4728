import ChainDash.Collect.DailySaving
import Mathlib.Data.List.Chain

/-!
# The daily reports of a month

`send_daily_summary` compares the node details with the snapshots in the file, and then
adds a snapshot of them. Over a month the daily gains of a node sum up to the monthly
gain as long as the snapshot of the first survives in the file to the end
(`month_agrees_iff`).
-/

namespace ChainDash.Collect
set_option autoImplicit false

open Calendar Ieee

/-! ## The reports -/

/-- What a call of `send_daily_summary` leaves: the files, a status warning, and what is
handed to `notify_daily_node_snapshot` unless the process stops before. -/
structure SentSummary (Text : Type) where
  files : Files Text
  warning : Option String
  notification : Option (String × List DailyNodeSummaryDetail)

section SendDailySummary

variable {Text : Type} (text : SnapshotText Text) (store : DailyNodeSnapshotStore)

/-- The details are computed before the snapshot is saved. -/
def sendDailySummary (faults : Faults Text) (tempSuffix : Nat) (scheduledDate : NaiveDate)
    (nodeDetails : List NodeDetail) (files : Files Text) : SentSummary Text :=
  let dailySummaryDetails := store.dailySummaryDetails text files scheduledDate nodeDetails
  let notification := some (scheduledDate.toIso, dailySummaryDetails)
  match store.saveSnapshot text faults tempSuffix scheduledDate nodeDetails files with
  | (files, .returned (.ok ())) => { files, warning := none, notification }
  | (files, .returned (.error err)) =>
    { files
      warning := some ("Failed to persist daily node snapshot for " ++ scheduledDate.toIso ++ ": " ++ err)
      notification }
  | (files, .stopped) => { files, warning := none, notification := none }

/-- A date with its node details, one of them of the node. -/
structure Day (nodeId : String) where
  tempSuffix : Nat
  date : NaiveDate
  nodeDetails : List NodeDetail
  detail : NodeDetail
  once : nodeDetails.filter (·.nodeId = nodeId) = [detail]

/-- The notifications of a run with working I/O. -/
def reports {nodeId : String} : List (Day nodeId) → Files Text →
    List (String × List DailyNodeSummaryDetail)
  | [], _ => []
  | day :: rest, files =>
    let sent := sendDailySummary text store {} day.tempSuffix day.date day.nodeDetails files
    sent.notification.toList ++ reports rest sent.files

end SendDailySummary

/-- The figures of a node in a report. -/
def reportedDaily (nodeId : String) (report : String × List DailyNodeSummaryDetail) : Option UInt64 :=
  (report.2.find? (·.nodeId = nodeId)).bind (·.dailyBlockQty)

def reportedMonthly (nodeId : String) (report : String × List DailyNodeSummaryDetail) : Option UInt64 :=
  (report.2.find? (·.nodeId = nodeId)).bind (·.monthlyBlockQty)

/-- All dates from the first of a month to the first of the next, in order. -/
structure CoversMonth (first : NaiveDate) (rest : List NaiveDate) (last : NaiveDate) : Prop where
  consecutive : (first :: rest ++ [last]).IsChain (· ⋖ ·)
  starts : first.day = 1
  ends : last.day = 1
  next : first.year * 12 + first.month + 1 = last.year * 12 + last.month

/-- Every report after the first has a daily figure, and they sum up to the monthly
figure of the last one. -/
def MonthAgrees (nodeId : String) (reports : List (String × List DailyNodeSummaryDetail)) : Prop :=
  ∃ total, reports.getLast?.bind (reportedMonthly nodeId) = some total ∧
    ∃ gains : List UInt64, reports.tail.map (reportedDaily nodeId) = gains.map some ∧
      (gains.map (·.toNat)).sum = total.toNat

variable {nodeId : String}

namespace Day

def snapshot (day : Day nodeId) : StoredDailyNodeSnapshot := .fromNodeDetails day.date day.nodeDetails

@[simp] theorem date_snapshot (day : Day nodeId) : day.snapshot.date = day.date.toIso := rfl

theorem mem_nodeDetails (day : Day nodeId) : day.detail ∈ day.nodeDetails := by
  have mem : day.detail ∈ day.nodeDetails.filter (·.nodeId = nodeId) := by simp [day.once]
  exact List.mem_of_mem_filter mem

theorem nodeDetails_ne_nil (day : Day nodeId) : day.nodeDetails ≠ [] :=
  List.ne_nil_of_mem day.mem_nodeDetails

theorem nodeId_detail (day : Day nodeId) : day.detail.nodeId = nodeId := by
  have mem : day.detail ∈ day.nodeDetails.filter (·.nodeId = nodeId) := by simp [day.once]
  exact of_decide_eq_true (List.mem_filter.mp mem).2

theorem find?_nodeDetails (day : Day nodeId) :
    day.nodeDetails.find? (·.nodeId = nodeId) = some day.detail := by
  rw [← List.head?_filter, day.once, List.head?_cons]

/-- The node is matched by its id. -/
theorem findSnapshotDetail_snapshot (some_ : nodeId ≠ "") (day : Day nodeId) {detail : NodeDetail}
    (same : detail.nodeId = nodeId) : (findSnapshotDetail (some day.snapshot) detail).map (·.blockQty) =
      some day.detail.blockQty := by
  have stored : day.snapshot.nodeDetails.find? (fun candidate =>
      candidate.nodeId ≠ "" && candidate.nodeId = detail.nodeId) =
        some ⟨day.detail.nodeId, day.detail.nodeName, day.detail.blockQty, day.detail.rewardValue⟩ := by
    have matches_ : (fun candidate : NodeDetail => decide (candidate.nodeId ≠ "") &&
        decide (candidate.nodeId = nodeId)) = fun candidate => decide (candidate.nodeId = nodeId) := by
      funext candidate
      by_cases eq : candidate.nodeId = nodeId <;> simp [eq, some_]
    rw [snapshot, StoredDailyNodeSnapshot.fromNodeDetails, List.find?_map, same]
    simp only [Function.comp_def, matches_, day.find?_nodeDetails, Option.map_some]
  simp only [findSnapshotDetail, bind, Option.bind_some, same, if_neg some_]
  rw [same] at stored
  rw [stored]
  rfl

end Day

/-! ## The history behind the reports -/

/-- The history read after a save if reward values come back: a file that cannot be parsed counts
as empty. -/
def nextHistory (history : StoredDailyNodeSnapshotStore) (day : Day nodeId) :
    StoredDailyNodeSnapshotStore :=
  let saved := history.saved day.date day.nodeDetails
  if saved.isFinite then saved else {}

def historyAfter (history : StoredDailyNodeSnapshotStore) (days : List (Day nodeId)) :
    StoredDailyNodeSnapshotStore :=
  days.foldl nextHistory history

def reportsOf (history : StoredDailyNodeSnapshotStore) :
    List (Day nodeId) → List (String × List DailyNodeSummaryDetail)
  | [] => []
  | day :: rest =>
    (day.date.toIso, dailySummaryDetails history day.date day.nodeDetails) ::
      reportsOf (nextHistory history day) rest

/-! ## What the reports read -/

section History

variable {history : StoredDailyNodeSnapshotStore} {days : List (Day nodeId)}

/-- The history if no save makes the file unreadable. -/
def recorded (history : StoredDailyNodeSnapshotStore) (days : List (Day nodeId)) :
    StoredDailyNodeSnapshotStore where
  snapshots := (days.map Day.snapshot).foldl (History.record (·.date) dailyNodeSnapshotHistoryLimit)
    history.snapshots

@[simp] theorem historyAfter_snoc (day : Day nodeId) :
    historyAfter history (days ++ [day]) = nextHistory (historyAfter history days) day := by
  rw [historyAfter, List.foldl_append]
  rfl

theorem recorded_snoc (history : StoredDailyNodeSnapshotStore) (days : List (Day nodeId)) (day : Day nodeId) :
    recorded history (days ++ [day]) = (recorded history days).saved day.date day.nodeDetails := by
  rw [StoredDailyNodeSnapshotStore.saved, if_neg (by simpa using day.nodeDetails_ne_nil), recorded,
    List.map_append, List.foldl_append]
  rfl

theorem reportsOf_append (before after : List (Day nodeId)) : reportsOf history (before ++ after) =
    reportsOf history before ++ reportsOf (historyAfter history before) after := by
  induction before generalizing history with
  | nil => rfl
  | cons day rest ih => rw [List.cons_append, reportsOf, reportsOf, ih, List.cons_append]; rfl

theorem isFinite_nextHistory (history : StoredDailyNodeSnapshotStore) (day : Day nodeId) :
    (nextHistory history day).isFinite = true := by
  simp only [nextHistory]
  split
  case isTrue finite => exact finite
  case isFalse => rfl

theorem isFinite_historyAfter (days : List (Day nodeId)) (finite : history.isFinite = true) :
    (historyAfter history days).isFinite = true := by
  obtain rfl | ⟨before, last, rfl⟩ := days.eq_nil_or_concat
  · exact finite
  · rw [List.concat_eq_append, historyAfter_snoc]
    exact isFinite_nextHistory _ last

theorem historyAfter_of_finite (readable : history.isFinite = true)
    (finite : ∀ day ∈ days, day.snapshot.isFinite = true) :
    historyAfter history days = recorded history days := by
  induction days using List.reverseRecOn with
  | nil => rfl
  | append_singleton days day ih =>
    have before := ih fun other mem => finite other (List.mem_append_left _ mem)
    have saved := recorded_snoc history days day
    have fine : ((recorded history days).saved day.date day.nodeDetails).isFinite = true := by
      rw [StoredDailyNodeSnapshotStore.saved, if_neg (by simpa using day.nodeDetails_ne_nil)]
      refine (isFinite_record ?_ _).mpr (.inl (finite day (by simp)))
      rw [← before]
      exact isFinite_historyAfter days readable
    rw [historyAfter_snoc, nextHistory, before, saved, if_pos fine]

/-- Once a snapshot is gone it does not come back. -/
theorem absent_nextHistory {date : String} {day : Day nodeId} (other : day.snapshot.date ≠ date)
    (absent : ∀ x ∈ history.snapshots, x.date ≠ date) :
    ∀ x ∈ (nextHistory history day).snapshots, x.date ≠ date := by
  intro x mem
  simp only [nextHistory, StoredDailyNodeSnapshotStore.saved,
    if_neg (by simpa using day.nodeDetails_ne_nil : day.nodeDetails.isEmpty ≠ true)] at mem
  split at mem
  · rcases History.mem_of_mem_record mem with before | rfl
    · exact absent x before
    · exact other
  · cases mem

/-- The file is lost, and with it the first snapshot, or every save is still recorded. -/
theorem historyAfter_cases {first : Day nodeId} {rest : List (Day nodeId)}
    (later : ∀ day ∈ rest, day.snapshot.date ≠ first.snapshot.date) :
    historyAfter history (first :: rest) = recorded history (first :: rest) ∨
      ∀ x ∈ (historyAfter history (first :: rest)).snapshots, x.date ≠ first.snapshot.date := by
  induction rest using List.reverseRecOn with
  | nil =>
    have saved := recorded_snoc history [] first
    simp only [List.nil_append] at saved
    show nextHistory history first = _ ∨ ∀ x ∈ (nextHistory history first).snapshots, _
    rw [saved, nextHistory]
    split
    · exact .inl rfl
    · exact .inr (fun _ mem => nomatch mem)
  | append_singleton rest day ih =>
    rw [← List.cons_append, historyAfter_snoc, recorded_snoc]
    rcases ih fun other mem => later other (List.mem_append_left _ mem) with before | absent
    · rw [before, nextHistory]
      split
      · exact .inl rfl
      · exact .inr (fun _ mem => nomatch mem)
    · exact .inr (absent_nextHistory (later day (by simp)) absent)

end History

/-! ## The figures of a report -/

section Figures

variable {history : StoredDailyNodeSnapshotStore} {day base : Day nodeId} {text : String}

theorem reportedDaily_eq (history : StoredDailyNodeSnapshotStore) (day : Day nodeId) (text : String) :
    reportedDaily nodeId (text, dailySummaryDetails history day.date day.nodeDetails) =
      (findSnapshotDetail (day.date.predOpt.bind history.snapshotFor) day.detail).map
        (saturatingSub day.detail.blockQty ·.blockQty) := by
  simp only [reportedDaily, dailySummaryDetails, buildDailySummaryDetails, List.find?_map,
    Function.comp_def, day.find?_nodeDetails, Option.map_some, Option.bind_some]

theorem reportedMonthly_eq (history : StoredDailyNodeSnapshotStore) (day : Day nodeId) (text : String) :
    reportedMonthly nodeId (text, dailySummaryDetails history day.date day.nodeDetails) =
      (findSnapshotDetail ((previousMonthStartSnapshotDate day.date).bind history.snapshotFor)
        day.detail).map (saturatingSub day.detail.blockQty ·.blockQty) := by
  simp only [reportedMonthly, dailySummaryDetails, buildDailySummaryDetails, List.find?_map,
    Function.comp_def, day.find?_nodeDetails, Option.map_some, Option.bind_some]

/-- The gain since the snapshot of another day. -/
theorem gain_since (some_ : nodeId ≠ "") (day base : Day nodeId) :
    (findSnapshotDetail (some base.snapshot) day.detail).map
      (saturatingSub day.detail.blockQty ·.blockQty) =
        some (saturatingSub day.detail.blockQty base.detail.blockQty) := by
  have matched := base.findSnapshotDetail_snapshot some_ day.nodeId_detail
  have gain := congrArg (Option.map (saturatingSub day.detail.blockQty)) matched
  rwa [Option.map_map, Option.map_some] at gain

theorem reportedDaily_of_kept (some_ : nodeId ≠ "") (before : base.date ⋖ day.date)
    (kept : history.snapshotFor base.date = some base.snapshot) :
    reportedDaily nodeId (text, dailySummaryDetails history day.date day.nodeDetails) =
      some (saturatingSub day.detail.blockQty base.detail.blockQty) := by
  rw [reportedDaily_eq, NaiveDate.predOpt_eq_some_iff.mpr before, Option.bind_some, kept,
    gain_since some_]

theorem reportedMonthly_of_kept (some_ : nodeId ≠ "")
    (start : previousMonthStartSnapshotDate day.date = some base.date)
    (kept : history.snapshotFor base.date = some base.snapshot) :
    reportedMonthly nodeId (text, dailySummaryDetails history day.date day.nodeDetails) =
      some (saturatingSub day.detail.blockQty base.detail.blockQty) := by
  rw [reportedMonthly_eq, start, Option.bind_some, kept, gain_since some_]

/-- A monthly figure needs the snapshot of the first. -/
theorem mem_of_reportedMonthly {total : UInt64}
    (start : previousMonthStartSnapshotDate day.date = some base.date)
    (reported : reportedMonthly nodeId (text, dailySummaryDetails history day.date day.nodeDetails) =
      some total) : ∃ x ∈ history.snapshots, x.date = base.snapshot.date := by
  rw [reportedMonthly_eq, start, Option.bind_some] at reported
  cases found : history.snapshotFor base.date with
  | none => simp [found, findSnapshotDetail] at reported
  | some x =>
    rw [StoredDailyNodeSnapshotStore.snapshotFor] at found
    exact ⟨x, List.mem_of_find?_eq_some found, by simpa using List.find?_some found⟩

/-- The daily gains telescope as long as the snapshot of the day before is always found. -/
theorem sum_dailies (some_ : nodeId ≠ "") {later : List (Day nodeId)}
    (consecutive : (day :: later).IsChain (·.date ⋖ ·.date))
    (grows : (day :: later).IsChain (·.detail.blockQty ≤ ·.detail.blockQty))
    (kept : ∀ before base after, day :: later = before ++ base :: after → after ≠ [] →
      (historyAfter history (before ++ [base])).snapshotFor base.date = some base.snapshot) :
    ∃ gains : List UInt64,
      (reportsOf (nextHistory history day) later).map (reportedDaily nodeId) = gains.map some ∧
      (gains.map (·.toNat)).sum + day.detail.blockQty.toNat =
        (later.getLastD day).detail.blockQty.toNat := by
  induction later generalizing history day with
  | nil => exact ⟨[], rfl, Nat.zero_add _⟩
  | cons next later ih =>
    obtain ⟨before, consecutive⟩ := List.isChain_cons_cons.mp consecutive
    obtain ⟨le, grows⟩ := List.isChain_cons_cons.mp grows
    have found : (nextHistory history day).snapshotFor day.date = some day.snapshot :=
      kept [] day (next :: later) rfl (List.cons_ne_nil next later)
    have following : ∀ before base after, next :: later = before ++ base :: after → after ≠ [] →
        (historyAfter (nextHistory history day) (before ++ [base])).snapshotFor base.date =
          some base.snapshot := by
      intro before base after split more
      exact kept (day :: before) base after (by rw [split]; rfl) more
    obtain ⟨gains, dailies, sum⟩ := ih consecutive grows following
    refine ⟨saturatingSub next.detail.blockQty day.detail.blockQty :: gains, ?_, ?_⟩
    · rw [reportsOf, List.map_cons, List.map_cons, dailies, reportedDaily_of_kept some_ before found]
    · rw [UInt64.le_iff_toNat_le] at le
      rw [List.getLastD_cons, ← sum, List.map_cons, List.sum_cons, toNat_saturatingSub]
      omega

end Figures

/-! ## The reports of the files -/

/-- A reward value only shows in the figures by whether it is finite. -/
def outline (x : F64) : F64 := if x.isFinite then .zero else .inf false

theorem isFinite_outline (x : F64) : (outline x).isFinite = x.isFinite := by
  have zero : (Binary.zero : F64).isFinite = true := isFinite_zero (by decide)
  unfold outline
  cases finite : x.isFinite with
  | true => rw [if_pos rfl, zero]
  | false => rw [if_neg Bool.false_ne_true]; rfl

/-- The figures of a node do not depend on the reward values. -/
def figures (nodeId : String) (report : String × List DailyNodeSummaryDetail) :
    Option UInt64 × Option UInt64 :=
  (reportedDaily nodeId report, reportedMonthly nodeId report)

theorem monthAgrees_congr {shown read : List (String × List DailyNodeSummaryDetail)}
    (same : shown.map (figures nodeId) = read.map (figures nodeId)) :
    MonthAgrees nodeId shown ↔ MonthAgrees nodeId read := by
  have monthly (reports : List (String × List DailyNodeSummaryDetail)) :
      reports.getLast?.bind (reportedMonthly nodeId) =
        (reports.map (figures nodeId)).getLast?.bind (·.2) := by
    rw [List.getLast?_map, Option.bind_map]
    rfl
  have daily (reports : List (String × List DailyNodeSummaryDetail)) :
      reports.tail.map (reportedDaily nodeId) = (reports.map (figures nodeId)).tail.map (·.1) := by
    rw [← List.map_tail, List.map_map]
    rfl
  simp only [MonthAgrees, monthly, daily, same]

section Files

variable {Text : Type} {text : SnapshotText Text} {stateDir : String}
  {stored history : StoredDailyNodeSnapshotStore} {f : F64 → F64}

theorem mapRewards_mapRewards (g : F64 → F64) (history : StoredDailyNodeSnapshotStore) :
    (history.mapRewards g).mapRewards f = history.mapRewards (f ∘ g) := by
  simp only [StoredDailyNodeSnapshotStore.mapRewards, List.map_map, Function.comp_def,
    StoredDailyNodeSnapshot.mapRewards, StoredDailyNodeSnapshotDetail.mapReward]

theorem mapRewards_saved (day : Day nodeId) (same : stored.mapRewards f = history.mapRewards f) :
    (stored.saved day.date day.nodeDetails).mapRewards f =
      (history.saved day.date day.nodeDetails).mapRewards f := by
  have some_ : day.nodeDetails.isEmpty ≠ true := by simpa using day.nodeDetails_ne_nil
  have recorded (old : StoredDailyNodeSnapshotStore) :
      (old.saved day.date day.nodeDetails).mapRewards f =
        ((old.mapRewards f).upsert (day.snapshot.mapRewards f)).prune := by
    rw [StoredDailyNodeSnapshotStore.saved, if_neg some_]
    have keys (x : StoredDailyNodeSnapshot) : (x.mapRewards f).date = x.date := rfl
    exact StoredDailyNodeSnapshotStore.ext
      (History.record_map keys dailyNodeSnapshotHistoryLimit old.snapshots day.snapshot).symm
  rw [recorded, recorded, same]

theorem isFinite_congr (same : stored.mapRewards outline = history.mapRewards outline) :
    stored.isFinite = history.isFinite := by
  rw [← StoredDailyNodeSnapshotStore.isFinite_mapRewards isFinite_outline, same,
    StoredDailyNodeSnapshotStore.isFinite_mapRewards isFinite_outline]

theorem snapshotFor_mapRewards (history : StoredDailyNodeSnapshotStore) (date : NaiveDate) :
    (history.mapRewards f).snapshotFor date = (history.snapshotFor date).map (·.mapRewards f) := by
  rw [StoredDailyNodeSnapshotStore.snapshotFor, StoredDailyNodeSnapshotStore.mapRewards, List.find?_map]
  rfl

theorem findSnapshotDetail_mapRewards (snapshot : Option StoredDailyNodeSnapshot) (detail : NodeDetail) :
    findSnapshotDetail (snapshot.map (·.mapRewards f)) detail =
      (findSnapshotDetail snapshot detail).map (·.mapReward f) := by
  cases snapshot with
  | none => rfl
  | some snapshot =>
    simp only [findSnapshotDetail, Option.map_some, bind, Option.bind_some,
      StoredDailyNodeSnapshot.mapRewards, List.find?_map, Function.comp_def,
      StoredDailyNodeSnapshotDetail.mapReward]
    split <;> split <;> simp [Option.map_or]

/-- Histories that are the same up to their reward values give the same figures. -/
theorem figures_congr (day : Day nodeId) (same : stored.mapRewards f = history.mapRewards f) :
    figures nodeId (day.date.toIso, dailySummaryDetails stored day.date day.nodeDetails) =
      figures nodeId (day.date.toIso, dailySummaryDetails history day.date day.nodeDetails) := by
  have gain (date : Option NaiveDate) (old : StoredDailyNodeSnapshotStore) :
      (findSnapshotDetail (date.bind old.snapshotFor) day.detail).map
          (saturatingSub day.detail.blockQty ·.blockQty) =
        (findSnapshotDetail (date.bind (old.mapRewards f).snapshotFor) day.detail).map
          (saturatingSub day.detail.blockQty ·.blockQty) := by
    have looked : date.bind (old.mapRewards f).snapshotFor =
        (date.bind old.snapshotFor).map (·.mapRewards f) := by
      cases date with
      | none => rfl
      | some date => exact snapshotFor_mapRewards old date
    rw [looked, findSnapshotDetail_mapRewards, Option.map_map]
    rfl
  simp only [figures, reportedDaily_eq, reportedMonthly_eq]
  rw [gain _ stored, gain _ stored, same, ← gain, ← gain]

theorem sendDailySummary_works (day : Day nodeId) (files : Files Text) :
    let store : DailyNodeSnapshotStore := .default stateDir
    let sent := sendDailySummary text store {} day.tempSuffix day.date day.nodeDetails files
    let saved := (store.readStore text files).saved day.date day.nodeDetails
    store.readStore text sent.files = (if saved.isFinite then saved.mapRewards text.reread else {}) ∧
      sent.notification = some (day.date.toIso,
        dailySummaryDetails (store.readStore text files) day.date day.nodeDetails) := by
  intro store sent saved
  obtain ⟨written, done⟩ := @saveSnapshot_works _ text store stateDir rfl day.tempSuffix day.date _
    day.nodeDetails_ne_nil files
  have works : sent = { files := (store.saveSnapshot text {} day.tempSuffix day.date day.nodeDetails files).1
                        warning := none
                        notification := some (day.date.toIso,
                          store.dailySummaryDetails text files day.date day.nodeDetails) } := by
    simp only [sent, sendDailySummary]
    generalize store.saveSnapshot text {} day.tempSuffix day.date day.nodeDetails files = after at done ⊢
    obtain ⟨files', ending⟩ := after
    obtain rfl : ending = .returned (.ok ()) := done
    rfl
  rw [works]
  exact ⟨readStore_of_written written, rfl⟩

/-- A save and the reading of its file keep two histories the same up to their reward values. -/
theorem outline_next (day : Day nodeId) (same : stored.mapRewards outline = history.mapRewards outline) :
    let saved := stored.saved day.date day.nodeDetails
    (if saved.isFinite then saved.mapRewards text.reread else {}).mapRewards outline =
      (nextHistory history day).mapRewards outline := by
  intro saved
  have recorded := mapRewards_saved day same
  have forgets : outline ∘ text.reread = outline := by
    funext x
    simp only [Function.comp, outline, text.isFinite_reread]
  simp only [nextHistory, saved, isFinite_congr recorded]
  split
  · rw [mapRewards_mapRewards, forgets, recorded]
  · rfl

/-- What the texts make of reward values does not show in the figures. -/
theorem reports_figures (days : List (Day nodeId)) (files : Files Text)
    (same : ((DailyNodeSnapshotStore.default stateDir).readStore text files).mapRewards outline =
      history.mapRewards outline) :
    (reports text (.default stateDir) days files).map (figures nodeId) =
      (reportsOf history days).map (figures nodeId) := by
  induction days generalizing files history with
  | nil => rfl
  | cons day rest ih =>
    obtain ⟨next, notification⟩ := @sendDailySummary_works nodeId _ text stateDir day files
    have following := @ih (nextHistory history day) (sendDailySummary text (.default stateDir) {}
      day.tempSuffix day.date day.nodeDetails files).files (by rw [next, outline_next day same])
    rw [reports, reportsOf, notification, Option.toList_some, List.singleton_append, List.map_cons,
      List.map_cons, following, figures_congr day same]

end Files

/-! ## The month -/

section Month

variable {history : StoredDailyNodeSnapshotStore} {first last : Day nodeId} {rest : List (Day nodeId)}

/-- A run over a month, on a history of older dates, in which the node loses no blocks. -/
structure MonthRun (history : StoredDailyNodeSnapshotStore) (first : Day nodeId)
    (rest : List (Day nodeId)) (last : Day nodeId) : Prop where
  covers : CoversMonth first.date (rest.map Day.date) last.date
  older : ∀ snapshot ∈ history.snapshots, ∃ date, date < first.date ∧ snapshot.date = date.toIso
  grows : (first :: rest ++ [last]).IsChain (·.detail.blockQty ≤ ·.detail.blockQty)

/-- Older snapshots whose text sorts after that of the first. -/
def sortedAfter (history : StoredDailyNodeSnapshotStore) (first : Day nodeId) : Nat :=
  (history.snapshots.filter (first.snapshot.date < ·.date)).length

namespace MonthRun

theorem consecutive (run : MonthRun history first rest last) :
    (first :: rest ++ [last]).IsChain (·.date ⋖ ·.date) := by
  have chain := run.covers.consecutive
  rw [← List.map_singleton (f := Day.date), ← List.map_cons, ← List.map_append] at chain
  exact (List.isChain_map Day.date).mp chain

theorem ascending (run : MonthRun history first rest last) :
    (first :: rest ++ [last]).Pairwise (·.date < ·.date) := by
  have chain := run.consecutive.imp fun _ _ cover => cover.lt
  exact chain.pairwise

theorem sameMonth (run : MonthRun history first rest last) {day : Day nodeId}
    (mem : day ∈ first :: rest) :
    day.date.year = first.date.year ∧ day.date.month = first.date.month := by
  obtain ⟨inside, -, before⟩ := List.pairwise_append.mp run.ascending
  have le : first.date ≤ day.date := by
    rcases List.mem_cons.mp mem with rfl | mem
    · exact le_refl _
    · exact ((List.pairwise_cons.mp inside).1 day mem).le
  have lt := before day mem last (by simp)
  have starts := run.covers.starts
  have ends := run.covers.ends
  have next := run.covers.next
  have months := day.date.monthRange
  have days := day.date.dayRange
  have firstMonths := first.date.monthRange
  have lastMonths := last.date.monthRange
  rw [NaiveDate.le_iff] at le
  rw [NaiveDate.lt_iff] at lt
  omega

/-- The texts of the month ascend with its days. -/
theorem texts_ascend (run : MonthRun history first rest last) :
    (first :: rest).Pairwise (·.snapshot.date < ·.snapshot.date) := by
  apply (List.pairwise_append.mp run.ascending).1.imp_of_mem
  intro a b ma mb lt
  obtain ⟨yearA, monthA⟩ := run.sameMonth ma
  obtain ⟨yearB, monthB⟩ := run.sameMonth mb
  exact NaiveDate.toIso_lt_of_same_month (yearA.trans yearB.symm) (monthA.trans monthB.symm) lt

theorem fresh (run : MonthRun history first rest last) {days : List (Day nodeId)}
    (sub : days.Sublist (first :: rest)) :
    History.Fresh (·.date) history.snapshots (days.map Day.snapshot) where
  new := by
    rw [List.forall_mem_map]
    intro day mem snapshot old same
    obtain ⟨date, before, text⟩ := run.older snapshot old
    obtain rfl : date = day.date := NaiveDate.toIso_injective (text.symm.trans same)
    have ascend := List.pairwise_cons.mp (List.pairwise_append.mp run.ascending).1
    rcases List.mem_cons.mp (sub.subset mem) with rfl | mem
    · exact before.false
    · exact (before.trans (ascend.1 day mem)).false
  distinct := by
    rw [List.pairwise_map]
    exact (run.texts_ascend.sublist sub).imp fun lt => lt.ne

/-- Of the texts after that of the first, all others of the month are. -/
theorem length_later (run : MonthRun history first rest last) :
    ((history.snapshots ++ (first :: rest).map Day.snapshot).filter
      (first.snapshot.date < ·.date)).length = sortedAfter history first + rest.length := by
  have later := (List.pairwise_cons.mp run.texts_ascend).1
  have all : (rest.map Day.snapshot).filter (first.snapshot.date < ·.date) = rest.map Day.snapshot := by
    rw [List.filter_eq_self, List.forall_mem_map]
    intro day mem
    exact decide_eq_true (later day mem)
  rw [List.filter_append, List.map_cons, List.filter_cons_of_neg (by simp), all, List.length_append,
    List.length_map, sortedAfter]

/-- A day of the month has no more texts after it than the first at the end. -/
theorem length_later_le (run : MonthRun history first rest last) {days : List (Day nodeId)}
    (sub : days.Sublist (first :: rest)) {day : Day nodeId} (mem : day ∈ days) :
    ((history.snapshots ++ days.map Day.snapshot).filter (day.snapshot.date < ·.date)).length ≤
      sortedAfter history first + rest.length := by
  have le : first.snapshot.date ≤ day.snapshot.date := by
    rcases List.mem_cons.mp (sub.subset mem) with rfl | mem
    · exact le_refl _
    · exact ((List.pairwise_cons.mp run.texts_ascend).1 day mem).le
  have kept : (history.snapshots ++ days.map Day.snapshot).Sublist
      (history.snapshots ++ (first :: rest).map Day.snapshot) := (sub.map Day.snapshot).append_left _
  rw [← run.length_later]
  generalize history.snapshots ++ days.map Day.snapshot = snapshots at kept ⊢
  calc (snapshots.filter (day.snapshot.date < ·.date)).length
      ≤ (snapshots.filter (first.snapshot.date < ·.date)).length := by
        apply List.Sublist.length_le
        apply List.monotone_filter_right
        intro snapshot later
        exact decide_eq_true (le.trans_lt (of_decide_eq_true later))
    _ ≤ _ := (kept.filter _).length_le

/-- With room for the month, every day of it is still found at the end of each day. -/
theorem snapshotFor_recorded (run : MonthRun history first rest last)
    (room : rest.length + 1 + sortedAfter history first ≤ 32) {days : List (Day nodeId)}
    (sub : days.Sublist (first :: rest)) {day : Day nodeId} (mem : day ∈ days) :
    (recorded history days).snapshotFor day.date = some day.snapshot := by
  have few := run.length_later_le sub mem
  refine History.find?_foldl_record (run.fresh sub) (List.mem_map_of_mem mem) ?_
  unfold dailyNodeSnapshotHistoryLimit
  omega

/-- With room for the month and numbers that can be read back, the history keeps it. -/
theorem kept (run : MonthRun history first rest last) (readable : history.isFinite = true)
    (room : rest.length + 1 + sortedAfter history first ≤ 32)
    (finite : ∀ day ∈ first :: rest, day.snapshot.isFinite = true) {days : List (Day nodeId)}
    (sub : days.Sublist (first :: rest)) {day : Day nodeId} (mem : day ∈ days) :
    (historyAfter history days).snapshotFor day.date = some day.snapshot := by
  rw [historyAfter_of_finite readable fun other mem => finite other (sub.subset mem)]
  exact run.snapshotFor_recorded room sub mem

theorem start (run : MonthRun history first rest last) :
    previousMonthStartSnapshotDate last.date = some first.date :=
  previousMonthStartSnapshotDate_eq_some_iff.mpr
    ⟨run.covers.ends, run.covers.starts, run.covers.next⟩

theorem getLast?_reportsOf (before : List (Day nodeId)) :
    (reportsOf history (before ++ [last])).getLast? = some (last.date.toIso,
      dailySummaryDetails (historyAfter history before) last.date last.nodeDetails) := by
  rw [reportsOf_append, reportsOf, reportsOf, List.getLast?_concat]

theorem agrees (some_ : nodeId ≠ "") (run : MonthRun history first rest last)
    (readable : history.isFinite = true) (room : rest.length + 1 + sortedAfter history first ≤ 32)
    (finite : ∀ day ∈ first :: rest, day.snapshot.isFinite = true) :
    MonthAgrees nodeId (reportsOf history (first :: rest ++ [last])) := by
  have found : ∀ before base after, first :: (rest ++ [last]) = before ++ base :: after → after ≠ [] →
      (historyAfter history (before ++ [base])).snapshotFor base.date = some base.snapshot := by
    intro before base after split more
    have inside : before ++ [base] <+: first :: rest := by
      have start : before ++ [base] <+: first :: rest ++ [last] :=
        ⟨after, by rw [List.cons_append, split]; simp⟩
      refine List.prefix_of_prefix_length_le start ⟨[last], rfl⟩ ?_
      have lengths := congrArg List.length split
      have := List.length_pos_of_ne_nil more
      simp only [List.length_cons, List.length_append, List.length_nil] at lengths ⊢
      omega
    exact run.kept readable room finite inside.sublist (by simp)
  have consecutive : (first :: (rest ++ [last])).IsChain (·.date ⋖ ·.date) := run.consecutive
  obtain ⟨gains, dailies, sum⟩ := sum_dailies some_ consecutive run.grows found
  have monthly := run.kept readable room finite (List.Sublist.refl _) List.mem_cons_self
  refine ⟨saturatingSub last.detail.blockQty first.detail.blockQty, ?_, gains, dailies, ?_⟩
  · rw [getLast?_reportsOf, Option.bind_some, reportedMonthly_of_kept some_ run.start monthly]
  · rw [List.getLastD_concat] at sum
    rw [toNat_saturatingSub]
    omega

/-- A monthly figure shows that the first snapshot is still there, so no save was lost. -/
theorem room_of_agrees (run : MonthRun history first rest last) (readable : history.isFinite = true)
    (agrees : MonthAgrees nodeId (reportsOf history (first :: rest ++ [last]))) :
    rest.length + 1 + sortedAfter history first ≤ 32 ∧
      ∀ day ∈ first :: rest, day.snapshot.isFinite = true := by
  obtain ⟨total, monthly, -⟩ := agrees
  rw [getLast?_reportsOf, Option.bind_some] at monthly
  obtain ⟨x, mem, date⟩ := mem_of_reportedMonthly run.start monthly
  have whole : (first :: rest).Sublist (first :: rest) := List.Sublist.refl _
  have recordedAll : historyAfter history (first :: rest) = recorded history (first :: rest) := by
    refine (historyAfter_cases ?_).resolve_right fun absent => absent x mem date
    intro day inside
    exact ((List.pairwise_cons.mp run.texts_ascend).1 day inside).ne'
  have fresh := run.fresh whole
  rw [recordedAll] at mem
  have firstMem : first.snapshot ∈ (first :: rest).map Day.snapshot := by simp
  obtain rfl : x = first.snapshot := History.eq_of_mem_foldl_record fresh firstMem mem date
  have room := (History.mem_foldl_record fresh firstMem).mp mem
  rw [run.length_later] at room
  unfold dailyNodeSnapshotHistoryLimit at room
  refine ⟨by omega, ?_⟩
  intro day inside
  have kept : day.snapshot ∈ (recorded history (first :: rest)).snapshots := by
    refine (History.mem_foldl_record fresh (List.mem_map_of_mem inside)).mpr ?_
    exact (run.length_later_le whole inside).trans_lt room
  have finite := isFinite_historyAfter (first :: rest) readable
  rw [recordedAll] at finite
  exact List.all_eq_true.mp finite _ kept

/-- In years of four digits no older date sorts after the month, and there is room. -/
theorem room_of_fourDigit (run : MonthRun history first rest last) (four : first.date.FourDigit)
    (older : ∀ snapshot ∈ history.snapshots, ∃ date : NaiveDate, date.FourDigit ∧ date < first.date ∧
      snapshot.date = date.toIso) : rest.length + 1 + sortedAfter history first ≤ 32 := by
  have none_ : sortedAfter history first = 0 := by
    rw [sortedAfter, List.length_eq_zero_iff, List.filter_eq_nil_iff]
    intro snapshot mem after
    obtain ⟨date, four', before, text⟩ := older snapshot mem
    have after := of_decide_eq_true after
    rw [text, Day.date_snapshot, NaiveDate.toIso_lt_toIso four four'] at after
    exact after.asymm before
  have ascend : ((first :: rest).map Day.date).Pairwise (· < ·) :=
    List.pairwise_map.mpr (List.pairwise_append.mp run.ascending).1
  have few := NaiveDate.length_le_of_same_month ascend
    (List.forall_mem_map.mpr fun _ mem => run.sameMonth mem)
  simp only [List.length_map, List.length_cons] at few
  omega

end MonthRun

/-- The daily gains of a month and its monthly gain agree exactly when every reward value
of the days of the month is finite, and at most 32 snapshots from the first on have to be
kept. -/
theorem month_agrees_iff {Text : Type} (text : SnapshotText Text) (stateDir : String)
    (files : Files Text) (some_ : nodeId ≠ "")
    (run : MonthRun ((DailyNodeSnapshotStore.default stateDir).readStore text files) first rest last) :
    MonthAgrees nodeId (reports text (.default stateDir) (first :: rest ++ [last]) files) ↔
      (∀ day ∈ first :: rest, ∀ detail ∈ day.nodeDetails, detail.rewardValue.isFinite = true) ∧
      rest.length + 1 + sortedAfter ((DailyNodeSnapshotStore.default stateDir).readStore text files)
        first ≤ 32 := by
  have readable := isFinite_readStore text (.default stateDir) files
  have finite : (∀ day ∈ first :: rest, ∀ detail ∈ day.nodeDetails,
      detail.rewardValue.isFinite = true) ↔ ∀ day ∈ first :: rest, day.snapshot.isFinite = true :=
    forall₂_congr fun _ _ => isFinite_fromNodeDetails.symm
  rw [monthAgrees_congr (reports_figures _ files rfl), finite]
  constructor
  · intro agrees
    obtain ⟨room, fine⟩ := run.room_of_agrees readable agrees
    exact ⟨fine, room⟩
  · rintro ⟨fine, room⟩
    exact run.agrees some_ readable room fine

/-- The first of February and the days after it, with node-a and another node, whose reward
may be `inf` on the fifth. -/
def februaryDay (infinite : Bool) (offset : Nat) (valid : offset < 28 := by decide) : Day "node-a" where
  tempSuffix := offset
  date := ⟨2026, 2, offset + 1, yearRange_2026, by decide, by exact ⟨by omega, by exact valid⟩⟩
  nodeDetails := [sampleNodeDetail (100 + 5 * offset.toUInt64),
    { nodeId := "node-b", rewardValue := if infinite && offset = 4 then .inf false else ten }]
  detail := sampleNodeDetail (100 + 5 * offset.toUInt64)
  once := by simp [sampleNodeDetail]

def firstOfMarch : Day "node-a" where
  tempSuffix := 28
  date := ⟨2026, 3, 1, yearRange_2026, monthRange_march, by decide⟩
  nodeDetails := [sampleNodeDetail 240]
  detail := sampleNodeDetail 240
  once := by simp [sampleNodeDetail]

def februaryRest (infinite : Bool) : List (Day "node-a") :=
  (List.range 27).attach.map fun offset =>
    februaryDay infinite (offset.1 + 1) (by have := List.mem_range.mp offset.2; omega)

theorem february_run (infinite : Bool) :
    MonthRun {} (februaryDay infinite 0) (februaryRest infinite) firstOfMarch where
  covers := by
    refine ⟨?_, rfl, rfl, rfl⟩
    have chain : ((februaryDay infinite 0).date :: (februaryRest infinite).map Day.date ++
        [firstOfMarch.date]).IsChain (fun a b => b.predOpt = some a) := by
      cases infinite <;> decide
    exact chain.imp fun _ _ => NaiveDate.predOpt_eq_some_iff.mp
  older _ mem := nomatch mem
  grows := by cases infinite <;> decide

theorem month_agrees_february : MonthAgrees "node-a" (reports documents (.default "state")
    (februaryDay false 0 :: februaryRest false ++ [firstOfMarch]) fun _ => none) :=
  (month_agrees_iff documents "state" (fun _ => none) (by decide) (february_run false)).mpr
    ⟨by decide +kernel, by decide⟩

/-- Another node with the reward `inf` on the fifth, and the month has no total. -/
theorem infinite_reward_loses_month :
    MonthRun {} (februaryDay true 0) (februaryRest true) firstOfMarch ∧
    ¬ MonthAgrees "node-a" (reports documents (.default "state")
      (februaryDay true 0 :: februaryRest true ++ [firstOfMarch]) fun _ => none) := by
  refine ⟨february_run true, ?_⟩
  rw [monthAgrees_congr (@reports_figures _ _ documents "state" {} _ (fun _ => none) rfl)]
  intro agrees
  have finite := ((february_run true).room_of_agrees rfl agrees).2
  exact absurd finite (by decide +kernel)

end Month

end ChainDash.Collect
