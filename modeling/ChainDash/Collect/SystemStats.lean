import Mathlib.Algebra.Order.BigOperators.Group.List
import ChainDash.Collect.BlockSubscription
import ChainDash.Collect.Mounts
import ChainDash.Lib.FloatOrder
import ChainDash.Lib.Mealy

/-!
# The collector of system statistics

`collect_system_stats` refreshes `sysinfo` on a timer, adds up what it reports of the
monitored disks and of all networks, and stores the figures in one operation. Between the
rounds the other tasks and the UI use the shared data. The figures stored are those of the
last round (`exact_run`), every usage is a percentage (`figures_wellFormed`), and the
user is told when the first disk rises over the threshold and when the last falls below it
(`disk_alerts_edge_triggered`).
-/

namespace ChainDash.Collect
set_option autoImplicit false

open Ieee

/-! ## One reading -/

/-- `u64::saturating_add`. -/
def saturatingAdd (a b : UInt64) : UInt64 := UInt64.ofNat (min (a.toNat + b.toNat) (2 ^ 64 - 1))

/-- What `sysinfo` reports of a disk; `readAt` is the instant its details are made. -/
structure DiskReading extends Disk where
  name : String
  totalSpace : UInt64
  availableSpace : UInt64
  readAt : Nat

/-- What `sysinfo` reports in one refresh; `networks` are the bytes received and transmitted. -/
structure SystemReading where
  cpuUsage : F32
  usedMemory : UInt64
  totalMemory : UInt64
  networks : List (UInt64 × UInt64)
  disks : List DiskReading
  collectedAt : Nat

structure NetworkSample where
  rxTotal : UInt64
  txTotal : UInt64
  collectedAt : Nat

/-- `is_network_filesystem`. -/
def isNetworkFilesystem (filesystem : String) : Bool :=
  let fsLower := Text.toLowercase filesystem
  Text.contains fsLower "nfs" || Text.contains fsLower "smb" || Text.contains fsLower "cifs"

/-- `(used as f32 / total as f32) * 100.0`, computed for the memory, each disk and all disks. -/
def usagePercent (used total : UInt64) : F32 :=
  if 0 < total then
    ((ofNat 8 23 used.toNat).div (ofNat 8 23 total.toNat)).mul (ofNat 8 23 100)
  else .zero

def diskDetail (diskAlertThreshold : F32) (disk : DiskReading) : DiskDetail :=
  let used := saturatingSub disk.totalSpace disk.availableSpace
  let usagePercent := usagePercent used disk.totalSpace
  { mountPoint := disk.mountPoint
    filesystem := disk.fileSystem
    total := disk.totalSpace
    used
    available := disk.availableSpace
    usagePercent
    device := disk.name
    isAlert := diskAlertThreshold.le usagePercent
    isNetwork := isNetworkFilesystem disk.fileSystem
    lastUpdated := disk.readAt }

/-- The variables of the loop over the disks. -/
structure DiskTotals where
  diskUsed : UInt64 := 0
  diskTotal : UInt64 := 0
  diskDetails : List DiskDetail := []
  hasDiskAlerts : Bool := false

/-- The body of that loop. -/
def DiskTotals.add (mountPoints : List String) (diskAlertThreshold : F32) (totals : DiskTotals)
    (disk : DiskReading) : DiskTotals :=
  if !mountPoints.contains disk.mountPoint then totals
  else
    let detail := diskDetail diskAlertThreshold disk
    { hasDiskAlerts := if detail.isAlert then true else totals.hasDiskAlerts
      diskDetails := totals.diskDetails ++ [detail]
      diskTotal := saturatingAdd totals.diskTotal detail.total
      diskUsed := saturatingAdd totals.diskUsed detail.used }

def diskTotals (mountPoints : List String) (diskAlertThreshold : F32) (disks : List DiskReading) :
    DiskTotals :=
  disks.foldl (DiskTotals.add mountPoints diskAlertThreshold) {}

/-- The totals over all networks. -/
def networkSample (reading : SystemReading) : NetworkSample where
  rxTotal := reading.networks.foldl (fun total network => saturatingAdd total network.1) 0
  txTotal := reading.networks.foldl (fun total network => saturatingAdd total network.2) 0
  collectedAt := reading.collectedAt

/-- `Duration::as_secs_f64` of a number of nanoseconds. -/
def asSecsF64 (nanos : Nat) : F64 :=
  (ofNat 11 52 (nanos / 10 ^ 9)).add ((ofNat 11 52 (nanos % 10 ^ 9)).div (ofNat 11 52 (10 ^ 9)))

/-- `f64::EPSILON`. -/
def epsilon : F64 := round 11 52 false (1 / 2 ^ 52)

/-- `x as u64`: the fraction cut off, then the nearest word; a NaN gives zero. -/
def truncToU64 : F64 → UInt64
  | .nan => 0
  | .inf negative => if negative then 0 else UInt64.ofNat (2 ^ 64 - 1)
  | .finite negative exponent fraction =>
    if negative then 0 else UInt64.ofNat (min ⌊magnitude exponent fraction⌋₊ (2 ^ 64 - 1))

/-- `(current.saturating_sub(previous) as f64 / elapsed_secs) as u64`. -/
def networkRate (previous current : UInt64) (elapsedSecs : F64) : UInt64 :=
  truncToU64 ((ofNat 11 52 (saturatingSub current previous).toNat).div elapsedSecs)

/-- `compute_network_rates`. -/
def computeNetworkRates (previous : Option NetworkSample) (rxTotal txTotal : UInt64)
    (collectedAt : Nat) : NetworkSample × UInt64 × UInt64 :=
  let current : NetworkSample := { rxTotal, txTotal, collectedAt }
  match previous with
  | none => (current, 0, 0)
  | some previous =>
    let elapsed := collectedAt - previous.collectedAt
    let elapsedSecs := asSecsF64 elapsed
    if elapsedSecs.le epsilon then (current, 0, 0)
    else (current, networkRate previous.rxTotal rxTotal elapsedSecs,
      networkRate previous.txTotal txTotal elapsedSecs)

/-- The parameters of the task. -/
structure SystemOptions where
  diskMountPoints : List String
  diskAutoDiscovery : Bool
  diskAlertThreshold : F32

/-- What a round stores, given the mount points discovered and the sample of the round before. -/
def systemStats (options : SystemOptions) (discovered : List String)
    (previous : Option NetworkSample) (reading : SystemReading) : SystemStats :=
  let totals := diskTotals
    (mountPointsToMonitor options.diskAutoDiscovery discovered options.diskMountPoints)
    options.diskAlertThreshold reading.disks
  let network := networkSample reading
  let rates := computeNetworkRates previous network.rxTotal network.txTotal network.collectedAt
  { cpuUsage := reading.cpuUsage
    memoryUsed := reading.usedMemory
    memoryTotal := reading.totalMemory
    memoryUsagePercent := usagePercent reading.usedMemory reading.totalMemory
    networkRx := rates.2.1
    networkTx := rates.2.2
    diskUsed := totals.diskUsed
    diskTotal := totals.diskTotal
    diskUsagePercent := usagePercent totals.diskUsed totals.diskTotal
    diskDetails := totals.diskDetails
    currentDiskIndex := 0
    alertThreshold := options.diskAlertThreshold
    hasDiskAlerts := totals.hasDiskAlerts
    autoDiscoveryEnabled := options.diskAutoDiscovery }

/-! ## The task -/

inductive SystemPhase where
  | checking
  | ticking
  | discovering
  | sampling
  /-- The figures are stored, and what the user is to be told is yet to be recorded. -/
  | reporting (announcement : StatusLevel × String)
  | failed (message : String)
  | returned
  deriving DecidableEq

/-- `announced` has what the task told the user about the disks. -/
structure SystemTask where
  phase : SystemPhase := .checking
  stopFlag : Bool := false
  data : Data := {}
  previousNetworkSample : Option NetworkSample := none
  lastDiscoveryTime : Nat
  discoveredMountPoints : List String := []
  announced : List (StatusLevel × String) := []

/-- A step of the task, or of anything else that uses the data. -/
inductive SystemStatsEvent where
  | check
  | tick (now : Nat)
  /-- `discover_mount_points` on a blocking thread: its answer, or that the thread failed. -/
  | discovered (answer : Except String (Except String (List MountPointInfo))) (now : Nat)
  | sampled (answer : Except String SystemReading) (now : Nat)
  | reported (now : Nat)
  | other (op : DataOp)
  | select (newIndex : Nat)
  | stop

/-- Only this task replaces the statistics. -/
def DataOp.isSystemStats : DataOp → Bool
  | .replaceSystemStats _ => true
  | _ => false

def discoveryInterval : Nat := 5 * 10 ^ 9

/-- What the user is told after a round. -/
def announcement (diskAlertThreshold : F32) (diskDetails : List DiskDetail)
    (hasDiskAlerts previousAlert : Bool) : Option (StatusLevel × String) :=
  let alertDiskCount := (diskDetails.filter (·.isAlert)).length
  if hasDiskAlerts && !previousAlert then
    some (.warn, toString alertDiskCount ++ " disk(s) exceed " ++
      diskAlertThreshold.formatFixed 0 ++ "% usage threshold")
  else if !hasDiskAlerts && previousAlert then
    some (.info, "Disk usage returned below alert threshold")
  else none

namespace SystemTask

def start (now : Nat) : SystemTask where
  lastDiscoveryTime := now

def step (options : SystemOptions) (s : SystemTask) (event : SystemStatsEvent) : Option SystemTask :=
  match event, s.phase with
  | .stop, _ => some { s with stopFlag := true }
  | .other op, _ => if op.isSystemStats then none else some { s with data := op.apply s.data }
  | .select newIndex, _ => some { s with data := s.data.updateDiskIndex newIndex }
  | .check, .checking => some { s with phase := if s.stopFlag then .returned else .ticking }
  | .tick now, .ticking => some { s with
      phase := if options.diskAutoDiscovery && decide (discoveryInterval ≤ now - s.lastDiscoveryTime)
        then .discovering else .sampling }
  | .discovered (.ok (.ok mountPoints)) now, .discovering => some { s with
      phase := .sampling
      discoveredMountPoints := mountPoints.map (·.mountPoint)
      lastDiscoveryTime := now }
  | .discovered (.ok (.error err)) now, .discovering => some { s with
      phase := .sampling
      data := s.data.setStatusMessage .warn ("自动发现挂载点失败: " ++ err) now }
  | .discovered (.error err) now, .discovering => some { s with
      phase := .sampling
      data := s.data.setStatusMessage .warn ("spawn_blocking 任务失败: " ++ err) now }
  | .sampled (.error err) now, .sampling =>
    let message := "system stats task join error: " ++ err
    some { s with
      phase := .failed message
      data := s.data.setStatusMessage .error message now }
  | .sampled (.ok reading) _, .sampling =>
    let stats := systemStats options s.discoveredMountPoints s.previousNetworkSample reading
    let (previousAlert, data) := s.data.replaceSystemStats stats
    some { s with
      phase := ((announcement options.diskAlertThreshold stats.diskDetails stats.hasDiskAlerts
        previousAlert).map .reporting).getD .checking
      data
      previousNetworkSample := some (networkSample reading) }
  | .reported now, .reporting announcement => some { s with
      phase := .checking
      data := s.data.setStatusMessage announcement.1 announcement.2 now
      announced := s.announced ++ [announcement] }
  | _, _ => none

def run (options : SystemOptions) (now : Nat) (events : List SystemStatsEvent) : Option SystemTask :=
  Lts.run (step options) (start now) events

end SystemTask

/-! ## Percentages -/

/-- Between 0 and 100, and so not a NaN. -/
def IsPercent (x : F32) : Prop :=
  Binary.le .zero x = true ∧ x.le (ofNat 8 23 100) = true

theorem word_fits_f32 (n : UInt64) : (n.toNat : Rat) < (2 : Rat) ^ bias 8 := by
  have word : (n.toNat : Rat) < (2 : Rat) ^ 64 := by exact_mod_cast n.toNat_lt
  apply word.trans
  norm_num [bias]

theorem isPercent_zero : IsPercent .zero :=
  ⟨ofNat_le 8 23 (Nat.le_refl 0), ofNat_le 8 23 (Nat.zero_le 100)⟩

/-- A part of a whole is at most 100 percent of it, whatever is rounded. -/
theorem usagePercent_isPercent {used total : UInt64} (part : used ≤ total) :
    IsPercent (usagePercent used total) := by
  unfold usagePercent
  split
  case isFalse => exact isPercent_zero
  case isTrue positive =>
    obtain ⟨e, f, ratio, share⟩ := ratio_le_one 8 23 (by omega)
      (UInt64.lt_iff_toNat_lt.mp positive) (UInt64.le_iff_toNat_le.mp part) (word_fits_f32 total)
    rw [ratio]
    refine share_le (by omega) (by omega) (by omega) ?_ share
    norm_num [bias]

/-! ## Totals -/

theorem toNat_saturatingAdd (a b : UInt64) :
    (saturatingAdd a b).toNat = min (a.toNat + b.toNat) (2 ^ 64 - 1) := by
  unfold saturatingAdd
  rw [UInt64.toNat_ofNat_of_lt']
  show _ < 2 ^ 64
  omega

/-- Adding up with saturation is the sum, or the largest word. -/
theorem toNat_foldl_saturatingAdd {α : Type} (f : α → UInt64) (l : List α) (a : UInt64) :
    (l.foldl (fun total x => saturatingAdd total (f x)) a).toNat =
      min (a.toNat + (l.map fun x => (f x).toNat).sum) (2 ^ 64 - 1) := by
  induction l generalizing a with
  | nil =>
    have := a.toNat_lt
    simp only [List.foldl_nil, List.map_nil, List.sum_nil]
    omega
  | cons x l ih =>
    rw [List.foldl_cons, ih, toNat_saturatingAdd, List.map_cons, List.sum_cons]
    omega

/-- The loop over the disks in closed form. -/
theorem foldl_add (mountPoints : List String) (diskAlertThreshold : F32) (disks : List DiskReading)
    (totals : DiskTotals) :
    disks.foldl (DiskTotals.add mountPoints diskAlertThreshold) totals =
      let details := (disks.filter fun disk => mountPoints.contains disk.mountPoint).map
        (diskDetail diskAlertThreshold)
      { diskUsed := details.foldl (fun total detail => saturatingAdd total detail.used) totals.diskUsed
        diskTotal := details.foldl (fun total detail => saturatingAdd total detail.total) totals.diskTotal
        diskDetails := totals.diskDetails ++ details
        hasDiskAlerts := totals.hasDiskAlerts || details.any (·.isAlert) } := by
  induction disks generalizing totals with
  | nil => simp
  | cons disk disks ih =>
    rw [List.foldl_cons, ih, DiskTotals.add]
    cases monitored : mountPoints.contains disk.mountPoint with
    | false => simp only [Bool.not_false, if_true, List.filter_cons, monitored]; rfl
    | true =>
      simp only [Bool.not_true, List.filter_cons, monitored, if_true, Bool.false_eq_true, if_false,
        List.map_cons, List.foldl_cons, List.append_assoc, List.singleton_append, List.any_cons]
      cases (diskDetail diskAlertThreshold disk).isAlert <;> simp

/-- What holds of all figures that are stored, whatever `sysinfo` reports. -/
structure FiguresWellFormed (options : SystemOptions) (stats : SystemStats) : Prop where
  details : ∀ disk ∈ stats.diskDetails, disk.used ≤ disk.total ∧ IsPercent disk.usagePercent ∧
    disk.isAlert = options.diskAlertThreshold.le disk.usagePercent
  configured : options.diskAutoDiscovery = false →
    ∀ disk ∈ stats.diskDetails, disk.mountPoint ∈ options.diskMountPoints
  diskUsed : stats.diskUsed.toNat = min ((stats.diskDetails.map (·.used.toNat)).sum) (2 ^ 64 - 1)
  diskTotal : stats.diskTotal.toNat = min ((stats.diskDetails.map (·.total.toNat)).sum) (2 ^ 64 - 1)
  whole : stats.diskUsed ≤ stats.diskTotal ∧ IsPercent stats.diskUsagePercent
  memory : stats.memoryUsed ≤ stats.memoryTotal → IsPercent stats.memoryUsagePercent
  alerts : stats.hasDiskAlerts = stats.diskDetails.any (·.isAlert)
  selected : stats.currentDiskIndex < max 1 stats.diskDetails.length

theorem diskDetail_used_le (diskAlertThreshold : F32) (disk : DiskReading) :
    (diskDetail diskAlertThreshold disk).used ≤ (diskDetail diskAlertThreshold disk).total := by
  rw [UInt64.le_iff_toNat_le]
  show (saturatingSub disk.totalSpace disk.availableSpace).toNat ≤ disk.totalSpace.toNat
  rw [toNat_saturatingSub]
  omega

theorem diskTotals_eq (mountPoints : List String) (diskAlertThreshold : F32)
    (disks : List DiskReading) :
    diskTotals mountPoints diskAlertThreshold disks =
      let details := (disks.filter fun disk => mountPoints.contains disk.mountPoint).map
        (diskDetail diskAlertThreshold)
      { diskUsed := details.foldl (fun total detail => saturatingAdd total detail.used) 0
        diskTotal := details.foldl (fun total detail => saturatingAdd total detail.total) 0
        diskDetails := details
        hasDiskAlerts := details.any (·.isAlert) } := by
  rw [diskTotals, foldl_add]
  simp

/-- Before the first round there are no figures. -/
theorem FiguresWellFormed.initial (options : SystemOptions) : FiguresWellFormed options {} := by
  constructor
  · simp
  · simp
  · rfl
  · rfl
  · dsimp only
    exact ⟨UInt64.le_refl 0, isPercent_zero⟩
  · dsimp only
    exact fun _ => isPercent_zero
  · rfl
  · exact Nat.one_pos

/-- What a round stores is well formed. -/
theorem figuresWellFormed_systemStats (options : SystemOptions) (discovered : List String)
    (previous : Option NetworkSample) (reading : SystemReading) :
    FiguresWellFormed options (systemStats options discovered previous reading) := by
  have totals := diskTotals_eq
    (mountPointsToMonitor options.diskAutoDiscovery discovered options.diskMountPoints)
    options.diskAlertThreshold reading.disks
  generalize monitored : mountPointsToMonitor options.diskAutoDiscovery discovered
    options.diskMountPoints = mountPoints at totals
  have usedSum := toNat_foldl_saturatingAdd (·.used) ((reading.disks.filter fun disk =>
    mountPoints.contains disk.mountPoint).map (diskDetail options.diskAlertThreshold)) 0
  have totalSum := toNat_foldl_saturatingAdd (·.total) ((reading.disks.filter fun disk =>
    mountPoints.contains disk.mountPoint).map (diskDetail options.diskAlertThreshold)) 0
  have part : (systemStats options discovered previous reading).diskUsed ≤
      (systemStats options discovered previous reading).diskTotal := by
    simp only [systemStats, monitored, totals, UInt64.le_iff_toNat_le]
    rw [usedSum, totalSum]
    have sums : ∀ l : List DiskReading,
        ((l.map (diskDetail options.diskAlertThreshold)).map (·.used.toNat)).sum ≤
          ((l.map (diskDetail options.diskAlertThreshold)).map (·.total.toNat)).sum := by
      intro l
      rw [List.map_map, List.map_map]
      apply List.sum_le_sum
      intro disk _
      exact UInt64.le_iff_toNat_le.mp (diskDetail_used_le options.diskAlertThreshold disk)
    have := sums (reading.disks.filter fun disk => mountPoints.contains disk.mountPoint)
    omega
  constructor
  · intro disk mem
    simp only [systemStats, monitored, totals] at mem
    obtain ⟨from_, -, rfl⟩ := List.mem_map.mp mem
    have order := diskDetail_used_le options.diskAlertThreshold from_
    exact ⟨order, usagePercent_isPercent order, rfl⟩
  · intro fixed disk mem
    simp only [systemStats, monitored, totals] at mem
    obtain ⟨from_, kept, rfl⟩ := List.mem_map.mp mem
    have listed := (List.mem_filter.mp kept).2
    rw [← monitored, mountPointsToMonitor, fixed] at listed
    show from_.mountPoint ∈ options.diskMountPoints
    simpa using listed
  · simp only [systemStats, monitored, totals]
    simpa using usedSum
  · simp only [systemStats, monitored, totals]
    simpa using totalSum
  · exact ⟨part, usagePercent_isPercent part⟩
  · exact usagePercent_isPercent
  · simp only [systemStats, monitored, totals]
  · show 0 < _
    omega

/-! ## One step -/

/-- What the task has read so far: the mount points it found last, the sample of its last round,
and what each round is to store. -/
structure SystemRounds where
  discovered : List String := []
  previous : Option NetworkSample := none
  stats : List SystemStats := []

/-- The answers in order, with nothing in between. -/
def SystemRounds.note (options : SystemOptions) (rounds : SystemRounds) : SystemStatsEvent → SystemRounds
  | .discovered (.ok (.ok mountPoints)) _ => { rounds with discovered := mountPoints.map (·.mountPoint) }
  | .sampled (.ok reading) _ => { rounds with
      previous := some (networkSample reading)
      stats := rounds.stats ++ [systemStats options rounds.discovered rounds.previous reading] }
  | _ => rounds

def systemRounds (options : SystemOptions) (events : List SystemStatsEvent) : SystemRounds :=
  events.foldl (SystemRounds.note options) {}

/-- What the user is told of a round after which the alert flag is another. -/
def alertMessage (stats : SystemStats) : StatusLevel × String :=
  if stats.hasDiskAlerts then
    (.warn, toString (stats.diskDetails.filter (·.isAlert)).length ++ " disk(s) exceed " ++
      stats.alertThreshold.formatFixed 0 ++ "% usage threshold")
  else (.info, "Disk usage returned below alert threshold")

/-- The rounds in which the first disk rises over the threshold or the last falls below it. -/
def alertChanges (rounds : List SystemStats) : List SystemStats :=
  (rounds.dropWhile (!·.hasDiskAlerts)).destutter (·.hasDiskAlerts ≠ ·.hasDiskAlerts)

def SystemPhase.unannounced : SystemPhase → Option (StatusLevel × String)
  | .reporting announcement => some announcement
  | _ => none

/-- What a run has stored and said: the figures of the last round but for the selected disk, which
is one of them, and a message for each change of the alert flag. -/
structure SystemExact (options : SystemOptions) (events : List SystemStatsEvent) (s : SystemTask) :
    Prop where
  stored : { s.data.system.stats with currentDiskIndex := 0 } =
    (systemRounds options events).stats.getLast?.getD {}
  selected : s.data.system.stats.currentDiskIndex < max 1 s.data.system.stats.diskDetails.length
  discovered : s.discoveredMountPoints = (systemRounds options events).discovered
  previous : s.previousNetworkSample = (systemRounds options events).previous
  announced : s.announced ++ s.phase.unannounced.toList =
    (Mealy.emitted (Mealy.edge (·.hasDiskAlerts)) false (systemRounds options events).stats).map
      alertMessage

theorem systemRounds_snoc (options : SystemOptions) (events : List SystemStatsEvent)
    (event : SystemStatsEvent) :
    systemRounds options (events ++ [event]) =
      (systemRounds options events).note options event := by
  rw [systemRounds, List.foldl_append]
  rfl

theorem announcement_eq (stats : SystemStats) (previousAlert : Bool) :
    announcement stats.alertThreshold stats.diskDetails stats.hasDiskAlerts previousAlert =
      ((Mealy.edge (·.hasDiskAlerts) previousAlert stats).1).map alertMessage := by
  cases flag : stats.hasDiskAlerts <;> cases previousAlert <;>
    simp [announcement, Mealy.edge, alertMessage, flag]

theorem clampIndex_lt_max (disks : List DiskDetail) (index : Nat) :
    SystemState.clampIndex disks index < max 1 disks.length := by
  cases disks with
  | nil => exact Nat.one_pos
  | cons disk disks =>
    simp only [SystemState.clampIndex, List.isEmpty_cons, Bool.false_eq_true, if_false, List.length_cons]
    omega

namespace SystemTask

variable {options : SystemOptions} {s s' : SystemTask} {event : SystemStatsEvent}
  {events : List SystemStatsEvent}

/-- Neither the other tasks nor a message change the figures. -/
theorem system_of_foreign (op : DataOp) (foreign : op.isSystemStats = false) (data : Data) :
    (op.apply data).system = data.system := by
  rw [DataOp.system_apply]
  cases op
  case replaceSystemStats => cases foreign
  all_goals rfl

theorem system_setStatusMessage (data : Data) (level : StatusLevel) (text : String) (now : Nat) :
    (data.setStatusMessage level text now).system = data.system :=
  system_of_foreign (.setStatusMessage level text now) rfl data

theorem stats_replaceSystemStats (data : Data) (stats : SystemStats) :
    (data.replaceSystemStats stats).2.system.stats = { stats with
      currentDiskIndex :=
        SystemState.clampIndex stats.diskDetails data.system.stats.currentDiskIndex } :=
  congrArg SystemState.stats (Data.markDirty_system _ _)

/-- A step that leaves the figures alone and says what was to be said. -/
theorem exact_of_quiet (exact_ : SystemExact options events s)
    (noted : (systemRounds options events).note options event = systemRounds options events)
    (system : s'.data.system = s.data.system)
    (discovered : s'.discoveredMountPoints = s.discoveredMountPoints)
    (previous : s'.previousNetworkSample = s.previousNetworkSample)
    (announced : s'.announced ++ s'.phase.unannounced.toList =
      s.announced ++ s.phase.unannounced.toList) :
    SystemExact options (events ++ [event]) s' := by
  obtain ⟨stored, selected, discovered_, previous_, announced_⟩ := exact_
  rw [← systemRounds_snoc] at noted
  constructor
  · rw [noted, system, stored]
  · rw [system]
    exact selected
  · rw [noted, discovered, discovered_]
  · rw [noted, previous, previous_]
  · rw [noted, announced, announced_]

/-- The alert flag that a round finds is that of the round before. -/
theorem previousAlert_eq (exact_ : SystemExact options events s) : s.data.system.stats.hasDiskAlerts =
    (((systemRounds options events).stats.getLast?.map (·.hasDiskAlerts)).getD false) := by
  have flag := congrArg (·.hasDiskAlerts) exact_.stored
  rw [flag]
  cases (systemRounds options events).stats.getLast? <;> rfl

/-- A round stores its figures, and goes on to announce a change of the alert flag. -/
theorem exact_of_round (exact_ : SystemExact options events s) (phase : s.phase = .sampling)
    (reading : SystemReading) (now : Nat) {stats : SystemStats} {index : Nat}
    (stored : s'.data.system.stats = { systemStats options s.discoveredMountPoints
      s.previousNetworkSample reading with
        currentDiskIndex := SystemState.clampIndex (systemStats options s.discoveredMountPoints
          s.previousNetworkSample reading).diskDetails index })
    (phase' : s'.phase = ((announcement options.diskAlertThreshold stats.diskDetails
      stats.hasDiskAlerts s.data.system.stats.hasDiskAlerts).map .reporting).getD .checking)
    (stats_ : stats = systemStats options s.discoveredMountPoints s.previousNetworkSample reading)
    (rest : s'.announced = s.announced ∧ s'.discoveredMountPoints = s.discoveredMountPoints)
    (previous' : s'.previousNetworkSample = some (networkSample reading)) :
    SystemExact options (events ++ [.sampled (.ok reading) now]) s' := by
  have noted := systemRounds_snoc options events (.sampled (.ok reading) now)
  have threshold : options.diskAlertThreshold = stats.alertThreshold := by rw [stats_]; rfl
  rw [previousAlert_eq exact_, threshold, announcement_eq] at phase'
  obtain ⟨-, -, discovered, previous, announced⟩ := exact_
  have rounds : (systemRounds options (events ++ [.sampled (.ok reading) now])).stats =
      (systemRounds options events).stats ++ [stats] := by
    rw [noted, stats_, discovered, previous]
    rfl
  rw [phase, show SystemPhase.unannounced .sampling = none from rfl, Option.toList_none,
    List.append_nil] at announced
  constructor
  · rw [rounds, List.getLast?_concat, Option.getD_some, stored, stats_]
    rfl
  · rw [stored]
    exact clampIndex_lt_max _ _
  · rw [noted, rest.2, discovered]
    rfl
  · rw [noted, previous']
    rfl
  · rw [rounds, Mealy.emitted_snoc, Mealy.cellAfter_edge, List.map_append, rest.1, announced, phase']
    congr 1
    cases (Mealy.edge _ _ _).1 <;> rfl

theorem exact_step (exact_ : SystemExact options events s) (stepped : step options s event = some s') :
    SystemExact options (events ++ [event]) s' := by
  unfold step at stepped
  split at stepped
  case h_1 =>
    cases stepped
    exact exact_of_quiet exact_ rfl rfl rfl rfl rfl
  case h_2 _ op =>
    split at stepped <;> cases stepped
    case isFalse foreign =>
      exact exact_of_quiet exact_ rfl (system_of_foreign op (by simpa using foreign) s.data) rfl rfl rfl
  case h_3 _ newIndex =>
    cases stepped
    obtain ⟨stored, selected, discovered, previous, announced⟩ := exact_
    have noted : systemRounds options (events ++ [.select newIndex]) = systemRounds options events :=
      systemRounds_snoc options events _
    rw [← noted] at stored discovered previous announced
    exact ⟨stored, clampIndex_lt_max _ _, discovered, previous, announced⟩
  case h_4 phase =>
    cases stepped
    refine exact_of_quiet exact_ rfl rfl rfl rfl ?_
    rw [phase]
    cases s.stopFlag <;> rfl
  case h_5 now phase =>
    cases stepped
    refine exact_of_quiet exact_ rfl rfl rfl rfl ?_
    rw [phase]
    show _ ++ (SystemPhase.unannounced (if _ then _ else _)).toList = _
    split <;> rfl
  case h_6 mountPoints now phase =>
    cases stepped
    obtain ⟨stored, selected, discovered, previous, announced⟩ := exact_
    rw [phase] at announced
    refine ⟨?_, selected, ?_, ?_, ?_⟩ <;> rw [systemRounds_snoc]
    · exact stored
    · rfl
    · exact previous
    · exact announced
  case h_7 | h_8 =>
    cases stepped
    refine exact_of_quiet exact_ rfl (system_setStatusMessage _ _ _ _) rfl rfl ?_
    rename_i phase
    rw [phase]
    rfl
  case h_9 err now phase =>
    cases stepped
    refine exact_of_quiet exact_ rfl (system_setStatusMessage _ _ _ _) rfl rfl ?_
    rw [phase]
    rfl
  case h_10 reading now phase =>
    have stored := stats_replaceSystemStats s.data
      (systemStats options s.discoveredMountPoints s.previousNetworkSample reading)
    cases stepped
    exact exact_of_round exact_ phase reading now stored rfl rfl ⟨rfl, rfl⟩ rfl
  case h_11 now announcement phase =>
    cases stepped
    refine exact_of_quiet exact_ rfl (system_setStatusMessage _ _ _ _) rfl rfl ?_
    rw [phase]
    exact List.append_nil _
  case h_12 => cases stepped

theorem exact_run {now : Nat} (ran : run options now events = some s) :
    SystemExact options events s := by
  refine Lts.run_invariant (I := SystemExact options) ?_ ?_ ran
  · constructor
    · dsimp only [start, systemRounds, List.foldl_nil, List.getLast?_nil, Option.getD_none]
    · exact Nat.one_pos
    · rfl
    · rfl
    · rfl
  · exact fun _ _ _ _ exact_ stepped => exact_step exact_ stepped

theorem figures_of_rounds (options : SystemOptions) (events : List SystemStatsEvent) :
    ∀ stats ∈ (systemRounds options events).stats, FiguresWellFormed options stats := by
  induction events using List.reverseRecOn with
  | nil => simp [systemRounds]
  | append_singleton events event ih =>
    rw [systemRounds_snoc]
    unfold SystemRounds.note
    split
    case h_2 reading now =>
      intro stats mem
      rcases List.mem_append.mp mem with old | new
      · exact ih stats old
      · rw [List.mem_singleton.mp new]
        exact figuresWellFormed_systemStats options _ _ reading
    all_goals exact ih

end SystemTask

open SystemTask in
/-- In any interleaving with the other tasks and the UI, the figures that are stored are well
formed: no usage is over 100 percent, the totals are those of the disks listed, and the disk
selected is one of them. -/
theorem figures_wellFormed (options : SystemOptions) (now : Nat) (events : List SystemStatsEvent)
    (s : SystemTask) (ran : run options now events = some s) :
    FiguresWellFormed options s.data.system.stats := by
  have exact_ := exact_run ran
  have known : FiguresWellFormed options { s.data.system.stats with currentDiskIndex := 0 } := by
    rw [exact_.stored]
    cases last : (systemRounds options events).stats.getLast? with
    | none => exact .initial options
    | some stats => exact figures_of_rounds options events stats (List.mem_of_getLast? last)
  obtain ⟨details, configured, diskUsed, diskTotal, whole, memory, alerts, -⟩ := known
  exact ⟨details, configured, diskUsed, diskTotal, whole, memory, alerts, exact_.selected⟩

/-- One disk of 100 bytes, and a network. -/
def oneDisk (available : UInt64) (collectedAt : Nat) : SystemReading where
  cpuUsage := .zero
  usedMemory := 1
  totalMemory := 2
  networks := [(1000, 500)]
  disks := [⟨⟨"/", "ext4"⟩, "/dev/sda1", 100, available, 0⟩]
  collectedAt

/-- A round with an alert, one without, and a message of another task between them. -/
def twoRounds : List SystemStatsEvent :=
  [.check, .tick 0, .sampled (.ok (oneDisk 5 0)) 0, .reported 0,
    .other (.setStatusMessage .info "Connected" 1), .check, .tick 2,
    .sampled (.ok (oneDisk 50 2)) 2, .select 3, .reported 2]

def rootDisk : SystemOptions := ⟨["/"], false, ofNat 8 23 90⟩

theorem figures_wellFormed_twoRounds : ∃ s, SystemTask.run rootDisk 0 twoRounds = some s ∧
    FiguresWellFormed rootDisk s.data.system.stats := by
  have runs : (SystemTask.run rootDisk 0 twoRounds).isSome = true := by decide +kernel
  obtain ⟨s, ran⟩ := Option.isSome_iff_exists.mp runs
  exact ⟨s, ran, figures_wellFormed rootDisk 0 twoRounds s ran⟩

open SystemTask in
/-- The user is told of the disks exactly when the alert flag of the rounds changes: of the first
round with an alert, then of the next without, and so on; what other tasks tell the user in
between makes no difference. -/
theorem disk_alerts_edge_triggered (options : SystemOptions) (now : Nat) (events : List SystemStatsEvent)
    (s : SystemTask) (ran : run options now events = some s) :
    s.announced ++ s.phase.unannounced.toList =
        (alertChanges (systemRounds options events).stats).map alertMessage ∧
      { s.data.system.stats with currentDiskIndex := 0 } =
        (systemRounds options events).stats.getLast?.getD {} := by
  have exact_ := exact_run ran
  refine ⟨?_, exact_.stored⟩
  rw [exact_.announced, Mealy.edges_eq_destutter, alertChanges]

theorem disk_alerts_edge_triggered_twoRounds : ∃ s, SystemTask.run rootDisk 0 twoRounds = some s ∧
    s.announced ++ s.phase.unannounced.toList =
      (alertChanges (systemRounds rootDisk twoRounds).stats).map alertMessage ∧
    s.announced = [(.warn, "1 disk(s) exceed 90% usage threshold"),
      (.info, "Disk usage returned below alert threshold")] := by
  have said : (SystemTask.run rootDisk 0 twoRounds).map (·.announced) =
      some [(.warn, "1 disk(s) exceed 90% usage threshold"),
        (.info, "Disk usage returned below alert threshold")] := by decide +kernel
  obtain ⟨s, ran, announced⟩ := Option.map_eq_some_iff.mp said
  exact ⟨s, ran, (disk_alerts_edge_triggered rootDisk 0 twoRounds s ran).1, announced⟩

end ChainDash.Collect
