import ChainDash.Collect.DailyHistory
import ChainDash.Collect.DailyStore

/-!
# Saving a daily snapshot

Every run of a save replaces the file, loses it or leaves it as it was (`Leaves`). From
this and the round trip of the document follows when a save is atomic on the history
(`save_atomic_iff`), and when it can be read back (`save_reads_back_iff`).
-/

namespace ChainDash.Collect
set_option autoImplicit false

open Calendar Ieee

/-! ## What a save leaves behind -/

namespace Faults

variable {Text : Type}

/-- The run gets past the existence check. -/
structure Reaches (faults : Faults Text) : Prop where
  read : faults.read ≠ .stops
  createDirAll : faults.createDirAll = .ok
  write : faults.write = .ok
  pathExists : faults.pathExists ≠ .stops

/-- The run gets to the end, and the file is replaced. -/
structure Replaces (faults : Faults Text) (present : Bool) : Prop extends Reaches faults where
  removeFile : faults.pathExists = .ok → present = true → faults.removeFile = .ok
  rename : faults.rename = .ok

/-- The old file is removed, and the new one does not get into its place. -/
structure LosesFile (faults : Faults Text) (present : Bool) : Prop extends Reaches faults where
  seen : faults.pathExists = .ok
  present : present = true
  removeFile : faults.removeFile = .ok
  rename : faults.rename ≠ .ok

end Faults

section Save

variable {Text : Type} {text : SnapshotText Text}

/-- What a save that writes `content` leaves at the path of the store. -/
inductive Leaves (faults : Faults Text) (path : Path) (content : Text) (files : Files Text)
    (after : Files Text × Ending) : Prop where
  | replaced (run : faults.Replaces (files path).isSome) (file : after.1 path = some content)
      (done : after.2 = .returned (.ok ()))
  | lost (run : faults.LosesFile (files path).isSome) (file : after.1 path = none)
      (failed : after.2 ≠ .returned (.ok ()))
  | untouched (kept : ¬ faults.Replaces (files path).isSome)
      (safe : ¬ faults.LosesFile (files path).isSome) (file : after.1 path = files path)
      (failed : after.2 ≠ .returned (.ok ()))

theorem attempt_cases (outcome : Outcome) (files : Files Text) (rest : Files Text × Ending) :
    (outcome = .ok ∧ attempt outcome files rest = rest) ∨
      (outcome ≠ .ok ∧ (attempt outcome files rest).1 = files ∧
        (attempt outcome files rest).2 ≠ .returned (.ok ())) := by
  cases outcome with
  | ok => exact .inl ⟨rfl, rfl⟩
  | fails err | stops => exact .inr ⟨by simp, rfl, by simp [attempt]⟩

theorem tempPath_ne (stateDir : String) (tempSuffix : Nat) :
    DailyNodeSnapshotStore.tempPath stateDir tempSuffix ≠ (DailyNodeSnapshotStore.default stateDir).path := by
  intro same
  have lengths := congrArg (·.fileName.length) same
  simp only [DailyNodeSnapshotStore.tempPath, DailyNodeSnapshotStore.default,
    String.length_append] at lengths
  have suffix : ".tmp".length = 4 := rfl
  omega

theorem renameTemp_cases {store : DailyNodeSnapshotStore} {tempPath : Path}
    (other : tempPath ≠ store.path) (faults : Faults Text) (files : Files Text) :
    (faults.rename = .ok ∧ (store.renameTemp faults tempPath files).1 store.path = files tempPath ∧
        (store.renameTemp faults tempPath files).2 = .returned (.ok ())) ∨
      (faults.rename ≠ .ok ∧ (store.renameTemp faults tempPath files).1 = files ∧
        (store.renameTemp faults tempPath files).2 ≠ .returned (.ok ())) := by
  unfold DailyNodeSnapshotStore.renameTemp
  rcases attempt_cases faults.rename files _ with ⟨renamed, rest⟩ | failed
  · refine .inl ⟨renamed, ?_, by rw [rest]⟩
    rw [rest]
    simp [Function.update_of_ne other.symm]
  · exact .inr failed

/-- Renaming onto a file that was not removed before. -/
theorem renameTemp_leaves {store : DailyNodeSnapshotStore} {tempPath : Path} {content : Text}
    {files written : Files Text} {faults : Faults Text} (other : tempPath ≠ store.path)
    (reached : faults.Reaches) (temp : written tempPath = some content)
    (kept : written store.path = files store.path)
    (unremoved : faults.pathExists = .ok → (files store.path).isSome = true → False) :
    Leaves faults store.path content files (store.renameTemp faults tempPath written) := by
  rcases renameTemp_cases other faults written with ⟨renamed, file, done⟩ | ⟨refused, file, failed⟩
  · refine .replaced ⟨reached, ?_, renamed⟩ (by rw [file, temp]) done
    exact fun seen present => (unremoved seen present).elim
  · refine .untouched (fun run => refused run.rename) ?_ (by rw [file, kept]) failed
    exact fun run => unremoved run.seen run.present

/-- Every run of a write ends in one of three ways. -/
theorem writeStore_cases {store : DailyNodeSnapshotStore} {parent : String} {faults : Faults Text}
    {tempSuffix : Nat} (inDir : store.path.parent = some parent)
    (other : DailyNodeSnapshotStore.tempPath parent tempSuffix ≠ store.path)
    (read : faults.read ≠ .stops) (history : StoredDailyNodeSnapshotStore) (files : Files Text) :
    Leaves faults store.path (text.toVecPretty history.toJson) files
      (store.writeStore text faults tempSuffix history files) := by
  simp only [DailyNodeSnapshotStore.writeStore, inDir]
  generalize DailyNodeSnapshotStore.tempPath parent tempSuffix = tempPath at other ⊢
  generalize text.toVecPretty history.toJson = content
  have temp : Function.update files tempPath (some content) tempPath = some content :=
    Function.update_self ..
  have kept (file : Option Text) : Function.update files tempPath file store.path = files store.path :=
    Function.update_of_ne other.symm ..
  rcases attempt_cases faults.createDirAll files _ with ⟨created, rest⟩ | ⟨refused, file, failed⟩
  case inr =>
    exact .untouched (fun run => refused run.createDirAll) (fun run => refused run.createDirAll)
      (congrFun file _) failed
  rw [rest]
  rcases attempt_cases faults.write (Function.update files tempPath faults.debris) _
    with ⟨wrote, rest⟩ | ⟨refused, file, failed⟩
  case inr =>
    exact .untouched (fun run => refused run.write) (fun run => refused run.write)
      (by rw [file, kept]) failed
  rw [rest]
  cases seen : faults.pathExists with
  | stops =>
    exact .untouched (fun run => run.pathExists seen) (fun run => run.pathExists seen) (kept _) (by simp)
  | fails err =>
    exact renameTemp_leaves other ⟨read, created, wrote, by simp [seen]⟩ temp (kept _) (by simp [seen])
  | ok =>
    have reached : faults.Reaches := ⟨read, created, wrote, by simp [seen]⟩
    simp only [kept]
    by_cases present : (files store.path).isSome = true
    case neg =>
      rw [if_neg present]
      exact renameTemp_leaves other reached temp (kept _) fun _ => present
    rw [if_pos present]
    rcases attempt_cases faults.removeFile (Function.update files tempPath (some content)) _
      with ⟨removed, rest⟩ | ⟨refused, file, failed⟩
    case inr =>
      exact .untouched (fun run => refused (run.removeFile seen present))
        (fun run => refused run.removeFile) (by rw [file, kept]) failed
    rw [rest]
    rcases renameTemp_cases other faults
      (Function.update (Function.update files tempPath (some content)) store.path none)
      with ⟨renamed, file, done⟩ | ⟨refused, file, failed⟩
    · refine .replaced ⟨reached, fun _ _ => removed, renamed⟩ ?_ done
      rw [file, Function.update_of_ne other, temp]
    · refine .lost ⟨reached, seen, present, removed, refused⟩ ?_ failed
      rw [file, Function.update_self]

/-- The history that a save starts from. -/
def seenHistory (text : SnapshotText Text) (store : DailyNodeSnapshotStore) (faults : Faults Text)
    (files : Files Text) : StoredDailyNodeSnapshotStore :=
  if faults.read = .ok then store.readStore text files else {}

theorem saveSnapshot_cases {store : DailyNodeSnapshotStore} {stateDir : String}
    (inDir : store = .default stateDir) (faults : Faults Text) (tempSuffix : Nat) (date : NaiveDate)
    {nodeDetails : List NodeDetail} (nonEmpty : nodeDetails ≠ []) (files : Files Text) :
    Leaves faults store.path
      (text.toVecPretty ((seenHistory text store faults files).saved date nodeDetails).toJson)
      files (store.saveSnapshot text faults tempSuffix date nodeDetails files) := by
  subst inDir
  have some_ : nodeDetails.isEmpty ≠ true := by simpa using nonEmpty
  simp only [DailyNodeSnapshotStore.saveSnapshot, StoredDailyNodeSnapshotStore.saved, seenHistory,
    if_neg some_]
  cases read : faults.read with
  | ok =>
    exact writeStore_cases rfl (tempPath_ne stateDir tempSuffix) (by simp [read]) _ files
  | fails err =>
    exact writeStore_cases rfl (tempPath_ne stateDir tempSuffix) (by simp [read]) _ files
  | stops =>
    exact .untouched (fun run => run.read read) (fun run => run.read read) rfl (by simp)

/-! ## Reading back -/

variable {store : DailyNodeSnapshotStore} {stateDir : String} {files : Files Text}

theorem readStore_congr {files' : Files Text} (same : files' store.path = files store.path) :
    store.readStore text files' = store.readStore text files := by
  rw [DailyNodeSnapshotStore.readStore, DailyNodeSnapshotStore.readStore, same]

theorem readStore_of_none (missing : files store.path = none) : store.readStore text files = {} := by
  rw [DailyNodeSnapshotStore.readStore, missing]

theorem decode_toVecPretty (history : StoredDailyNodeSnapshotStore) :
    text.decode (text.toVecPretty history.toJson) =
      if history.isFinite then some (history.mapRewards text.reread) else none := by
  rw [SnapshotText.decode, text.reads, Option.bind_some, StoredDailyNodeSnapshotStore.fromJson_toJson,
    StoredDailyNodeSnapshotStore.isFinite_mapRewards text.isFinite_reread]

theorem readable_written_iff {history : StoredDailyNodeSnapshotStore} :
    text.Readable (some (text.toVecPretty history.toJson)) ↔ history.isFinite = true := by
  have written (content : Text) : some (text.toVecPretty history.toJson) = some content ↔
      content = text.toVecPretty history.toJson := by rw [Option.some_inj, eq_comm]
  simp only [SnapshotText.Readable, written, forall_eq, text.notBlank, decode_toVecPretty]
  by_cases finite : history.isFinite = true
  · simp [finite]
  · simp [finite]

theorem readStore_of_written {history : StoredDailyNodeSnapshotStore}
    (written : files store.path = some (text.toVecPretty history.toJson)) :
    store.readStore text files =
      if history.isFinite then history.mapRewards text.reread else {} := by
  simp only [DailyNodeSnapshotStore.readStore, written, text.notBlank, decode_toVecPretty]
  by_cases finite : history.isFinite = true
  · simp [finite]
  · simp [finite]

/-- Whatever the file holds, the history read from it is finite. -/
theorem isFinite_readStore (text : SnapshotText Text) (store : DailyNodeSnapshotStore)
    (files : Files Text) : (store.readStore text files).isFinite = true := by
  unfold DailyNodeSnapshotStore.readStore
  split
  · rfl
  · split
    · rfl
    · split
      case h_1 history decoded =>
        obtain ⟨value, -, read⟩ := Option.bind_eq_some_iff.mp decoded
        exact StoredDailyNodeSnapshotStore.isFinite_of_fromJson read
      case h_2 => rfl

/-- The snapshot of a save is kept unless 32 dates are later. -/
theorem isFinite_record {old : StoredDailyNodeSnapshotStore} (finite : old.isFinite = true)
    (snapshot : StoredDailyNodeSnapshot) : (old.upsert snapshot).prune.isFinite = true ↔
      snapshot.isFinite = true ∨ 32 ≤ (old.snapshots.filter (snapshot.date < ·.date)).length := by
  have kept : snapshot ∈ (old.upsert snapshot).prune.snapshots ↔
      (old.snapshots.filter (snapshot.date < ·.date)).length < 32 := History.mem_record
  rw [← not_lt, ← kept]
  unfold StoredDailyNodeSnapshotStore.isFinite at *
  rw [List.all_eq_true] at finite ⊢
  constructor
  · intro all
    by_cases mem : snapshot ∈ (old.upsert snapshot).prune.snapshots
    · exact .inl (all snapshot mem)
    · exact .inr mem
  · intro fine other mem
    rcases History.mem_of_mem_record mem with before | rfl
    · exact finite other before
    · exact fine.resolve_right (not_not.mpr mem)

theorem isFinite_fromNodeDetails {date : NaiveDate} {nodeDetails : List NodeDetail} :
    (StoredDailyNodeSnapshot.fromNodeDetails date nodeDetails).isFinite = true ↔
      ∀ detail ∈ nodeDetails, detail.rewardValue.isFinite = true := by
  simp [StoredDailyNodeSnapshot.isFinite, StoredDailyNodeSnapshot.fromNodeDetails,
    StoredDailyNodeSnapshotDetail.isFinite]

/-- With working I/O a save succeeds, and the file holds what is to be saved. -/
theorem saveSnapshot_works (inDir : store = .default stateDir) (tempSuffix : Nat)
    (date : NaiveDate) {nodeDetails : List NodeDetail} (nonEmpty : nodeDetails ≠ [])
    (files : Files Text) :
    let after := store.saveSnapshot text {} tempSuffix date nodeDetails files
    after.1 store.path =
        some (text.toVecPretty ((store.readStore text files).saved date nodeDetails).toJson) ∧
      after.2 = .returned (.ok ()) := by
  intro after
  have leaves := @saveSnapshot_cases _ text _ _ inDir {} tempSuffix date _ nonEmpty files
  have seen : seenHistory text store {} files = store.readStore text files := if_pos rfl
  rw [seen] at leaves
  have replaces : ({} : Faults Text).Replaces (files store.path).isSome :=
    ⟨⟨by simp, rfl, rfl, by simp⟩, fun _ _ => rfl, rfl⟩
  cases leaves with
  | replaced run file done => exact ⟨file, done⟩
  | lost run file failed => exact absurd rfl run.rename
  | untouched kept safe file failed => exact absurd replaces kept

/-! ### The reward values -/

/-- The rewards of a snapshot come back. -/
def SnapshotText.KeepsAll (text : SnapshotText Text) (snapshot : StoredDailyNodeSnapshot) : Prop :=
  ∀ detail ∈ snapshot.nodeDetails, text.Keeps detail.rewardValue

theorem keepsAll_fromNodeDetails {date : NaiveDate} {nodeDetails : List NodeDetail} :
    text.KeepsAll (.fromNodeDetails date nodeDetails) ↔
      ∀ detail ∈ nodeDetails, text.Keeps detail.rewardValue := by
  simp [SnapshotText.KeepsAll, StoredDailyNodeSnapshot.fromNodeDetails]

theorem map_eq_self_iff {α : Type} {list : List α} {f : α → α} :
    list.map f = list ↔ ∀ x ∈ list, f x = x := by
  conv_lhs => rhs; rw [← List.map_id list]
  exact List.map_inj_left

theorem keepsAll_iff {history : StoredDailyNodeSnapshotStore} :
    (∀ snapshot ∈ history.snapshots, text.KeepsAll snapshot) ↔
      history.isFinite = true ∧ history.mapRewards text.reread = history := by
  have detail (detail : StoredDailyNodeSnapshotDetail) : detail.mapReward text.reread = detail ↔
      text.reread detail.rewardValue = detail.rewardValue := by
    cases detail
    simp [StoredDailyNodeSnapshotDetail.mapReward]
  have snapshot (snapshot : StoredDailyNodeSnapshot) : snapshot.mapRewards text.reread = snapshot ↔
      ∀ detail ∈ snapshot.nodeDetails, text.reread detail.rewardValue = detail.rewardValue := by
    cases snapshot
    simp [StoredDailyNodeSnapshot.mapRewards, map_eq_self_iff, detail]
  have store : history.mapRewards text.reread = history ↔
      ∀ snapshot ∈ history.snapshots, snapshot.mapRewards text.reread = snapshot := by
    rw [StoredDailyNodeSnapshotStore.ext_iff, StoredDailyNodeSnapshotStore.mapRewards,
      map_eq_self_iff]
  rw [store]
  simp only [snapshot, SnapshotText.KeepsAll, SnapshotText.Keeps, StoredDailyNodeSnapshotStore.isFinite,
    StoredDailyNodeSnapshot.isFinite, StoredDailyNodeSnapshotDetail.isFinite, List.all_eq_true]
  constructor
  · intro all
    exact ⟨fun s mem d inside => (all s mem d inside).1, fun s mem d inside => (all s mem d inside).2⟩
  · rintro ⟨finite, kept⟩ s mem d inside
    exact ⟨finite s mem d inside, kept s mem d inside⟩

theorem mapRewards_of_exact (exact_ : text.Exact) {history : StoredDailyNodeSnapshotStore}
    (finite : history.isFinite = true) : history.mapRewards text.reread = history := by
  refine (keepsAll_iff.mp fun snapshot mem detail inside => ?_).2
  have fine := List.all_eq_true.mp (List.all_eq_true.mp finite snapshot mem) detail inside
  exact ⟨fine, exact_ _ fine⟩

/-- Of a history with a new snapshot everything comes back that is not pruned. -/
theorem keepsAll_record_iff {old : StoredDailyNodeSnapshotStore} {snapshot : StoredDailyNodeSnapshot} :
    (∀ kept ∈ (old.upsert snapshot).prune.snapshots, text.KeepsAll kept) ↔
      (text.KeepsAll snapshot ∨ 32 ≤ (old.snapshots.filter (snapshot.date < ·.date)).length) ∧
        ∀ stored, History.Outlasts (·.date) 32 old.snapshots snapshot stored → text.KeepsAll stored := by
  have new : snapshot ∈ (old.upsert snapshot).prune.snapshots ↔
      (old.snapshots.filter (snapshot.date < ·.date)).length < 32 := History.mem_record
  have others {stored : StoredDailyNodeSnapshot} (other : stored.date ≠ snapshot.date) :
      stored ∈ (old.upsert snapshot).prune.snapshots ↔
        History.Outlasts (·.date) 32 old.snapshots snapshot stored := History.mem_record_iff other
  constructor
  · intro all
    refine ⟨?_, fun stored outlasts => ?_⟩
    · by_cases few : (old.snapshots.filter (snapshot.date < ·.date)).length < 32
      · exact .inl (all snapshot (new.mpr few))
      · exact .inr (not_lt.mp few)
    · obtain ⟨before, after, split, other, few⟩ := outlasts
      exact all stored ((others other).mpr ⟨before, after, split, other, few⟩)
  · rintro ⟨own, outlasting⟩ kept mem
    by_cases other : kept.date = snapshot.date
    · obtain rfl : kept = snapshot :=
        (History.mem_upsert.mp (History.mem_of_mem_prune mem)).resolve_left fun stored => stored.2 other
      exact own.resolve_right (not_le.mpr (new.mp mem))
    · exact outlasting kept ((others other).mp mem)

theorem readStore_saveSnapshot (exact_ : text.Exact) (inDir : store = .default stateDir)
    (tempSuffix : Nat) (date : NaiveDate) {nodeDetails : List NodeDetail}
    (finite : ∀ detail ∈ nodeDetails, detail.rewardValue.isFinite = true) (files : Files Text) :
    store.readStore text (store.saveSnapshot text {} tempSuffix date nodeDetails files).1 =
      (store.readStore text files).saved date nodeDetails := by
  by_cases empty : nodeDetails = []
  · subst empty
    rfl
  have some_ : nodeDetails.isEmpty ≠ true := by simpa using empty
  have saved : ((store.readStore text files).saved date nodeDetails).isFinite = true := by
    rw [StoredDailyNodeSnapshotStore.saved, if_neg some_]
    exact (isFinite_record (isFinite_readStore text store files) _).mpr
      (.inl (isFinite_fromNodeDetails.mpr finite))
  rw [readStore_of_written (saveSnapshot_works inDir tempSuffix date empty files).1, if_pos saved,
    mapRewards_of_exact exact_ saved]

/-- A sequence of saves with working I/O, each with the suffix of its temporary file. -/
def saveAll (text : SnapshotText Text) (store : DailyNodeSnapshotStore) (saves : List (Nat × Save))
    (files : Files Text) : Files Text :=
  saves.foldl (fun files save =>
    (store.saveSnapshot text {} save.1 save.2.1 save.2.2 files).1) files

/-- The file keeps the history in memory, as long as the reward values are finite and come back. -/
theorem readStore_saveAll (exact_ : text.Exact) (inDir : store = .default stateDir)
    (saves : List (Nat × Save))
    (finite : ∀ save ∈ saves, ∀ detail ∈ save.2.2, detail.rewardValue.isFinite = true)
    (missing : files store.path = none) :
    store.readStore text (saveAll text store saves files) = storeAfter (saves.map (·.2)) := by
  induction saves using List.reverseRecOn with
  | nil => exact readStore_of_none missing
  | append_singleton saves save ih =>
    have before := ih fun other mem => finite other (List.mem_append_left _ mem)
    simp only [saveAll, storeAfter, List.map_append, List.map_cons, List.map_nil, List.foldl_append,
      List.foldl_cons, List.foldl_nil] at before ⊢
    rw [readStore_saveSnapshot exact_ inDir _ _ (finite save (by simp)), before]

/-- The reports drawn from the file are those computed from all saves. -/
theorem reports_saveAll (exact_ : text.Exact) (inDir : store = .default stateDir)
    (saves : List (Nat × Save))
    (finite : ∀ save ∈ saves, ∀ detail ∈ save.2.2, detail.rewardValue.isFinite = true)
    (missing : files store.path = none) (sorted : (saves.map (·.2)).Pairwise (·.1 ≤ ·.1))
    (fourDigit : ∀ save ∈ saves.map (·.2), save.1.FourDigit) {date : NaiveDate}
    (later : ∀ save ∈ nonEmptySaves (saves.map (·.2)), save.1 < date) (nodeDetails : List NodeDetail) :
    List.Forall₂ (Reports (saves.map (·.2)) date) nodeDetails
      (store.dailySummaryDetails text (saveAll text store saves files) date nodeDetails) := by
  rw [DailyNodeSnapshotStore.dailySummaryDetails,
    readStore_saveAll exact_ inDir saves finite missing]
  exact reports_storeAfter sorted fourDigit later nodeDetails

/-! ## Atomicity -/

/-- A later read with working I/O gives the old history or the one with the snapshot, and
the latter when the save has succeeded. -/
def AtomicSave (text : SnapshotText Text) (store : DailyNodeSnapshotStore) (faults : Faults Text)
    (tempSuffix : Nat) (date : NaiveDate) (nodeDetails : List NodeDetail) (files : Files Text) : Prop :=
  let old := store.readStore text files
  let new := (old.upsert (.fromNodeDetails date nodeDetails)).prune
  let after := store.saveSnapshot text faults tempSuffix date nodeDetails files
  (store.readStore text after.1 = old ∨ store.readStore text after.1 = new) ∧
    (after.2 = .returned (.ok ()) → store.readStore text after.1 = new)

/-- A run that replaces the file has read it, unless there was nothing else in it, and the reward
values that it writes come back, those of the new snapshot and those of the stored ones that outlast
it. No run loses the file, unless there was nothing in it. -/
structure SafeSave (text : SnapshotText Text) (store : DailyNodeSnapshotStore) (faults : Faults Text)
    (date : NaiveDate) (nodeDetails : List NodeDetail) (files : Files Text) : Prop where
  keepsOthers : faults.Replaces (files store.path).isSome → ∀ err, faults.read = .fails err →
    ∀ snapshot ∈ (store.readStore text files).snapshots, snapshot.date = date.toIso
  newComesBack : faults.Replaces (files store.path).isSome →
    (∀ detail ∈ nodeDetails, text.Keeps detail.rewardValue) ∨
      32 ≤ ((store.readStore text files).snapshots.filter (date.toIso < ·.date)).length
  storedComesBack : faults.Replaces (files store.path).isSome → ∀ stored,
    History.Outlasts (·.date) 32 (store.readStore text files).snapshots
      (.fromNodeDetails date nodeDetails) stored →
    ∀ detail ∈ stored.nodeDetails, text.Keeps detail.rewardValue
  losesNothing : faults.LosesFile (files store.path).isSome →
    (store.readStore text files).snapshots = []

theorem saved_ne_empty (old : StoredDailyNodeSnapshotStore) (snapshot : StoredDailyNodeSnapshot) :
    (old.upsert snapshot).prune ≠ {} := by
  intro empty
  exact History.record_ne_nil (by decide) (congrArg (·.snapshots) empty)

theorem Faults.LosesFile.not_replaces {faults : Faults Text} {present : Bool}
    (lost : faults.LosesFile present) : ¬ faults.Replaces present :=
  fun run => lost.rename run.rename

/-- What replaces the file is read as the wanted history iff it is that one, and comes back. -/
theorem reread_eq_iff {faults : Faults Text} (read : faults.read ≠ .stops)
    (snapshot : StoredDailyNodeSnapshot) :
    let written := ((seenHistory text store faults files).upsert snapshot).prune
    let wanted := ((store.readStore text files).upsert snapshot).prune
    (if written.isFinite then written.mapRewards text.reread else {}) = wanted ↔
      (∀ err, faults.read = .fails err →
        ∀ other ∈ (store.readStore text files).snapshots, other.date = snapshot.date) ∧
      ∀ kept ∈ wanted.snapshots, text.KeepsAll kept := by
  intro written wanted
  have some_ : wanted ≠ {} := saved_ne_empty _ snapshot
  have limit : 2 ≤ dailyNodeSnapshotHistoryLimit := by decide
  -- as many snapshots are written as wanted iff nothing is missing
  have complete : written.snapshots.length = wanted.snapshots.length ↔
      ∀ err, faults.read = .fails err →
        ∀ other ∈ (store.readStore text files).snapshots, other.date = snapshot.date := by
    cases outcome : faults.read with
    | ok =>
      have same : written = wanted := by simp only [written, wanted, seenHistory, if_pos outcome]
      simp [same]
    | stops => exact absurd outcome read
    | fails err =>
      have nothing : seenHistory text store faults files = {} := by simp [seenHistory, outcome]
      simp only [written, wanted, nothing]
      exact (History.length_record_eq_iff limit).trans (by simp)
  have same_of_complete (all : ∀ err, faults.read = .fails err →
      ∀ other ∈ (store.readStore text files).snapshots, other.date = snapshot.date) :
      written = wanted := by
    cases outcome : faults.read with
    | ok => simp only [written, wanted, seenHistory, if_pos outcome]
    | stops => exact absurd outcome read
    | fails err =>
      have nothing : seenHistory text store faults files = {} := by simp [seenHistory, outcome]
      simp only [written, wanted, nothing]
      exact StoredDailyNodeSnapshotStore.ext ((History.record_eq_record_nil limit).mpr (all err outcome))
  rw [keepsAll_iff]
  constructor
  · intro same
    by_cases finite : written.isFinite = true
    · rw [if_pos finite] at same
      have length : written.snapshots.length = wanted.snapshots.length := by
        rw [← same, StoredDailyNodeSnapshotStore.mapRewards, List.length_map]
      have all := complete.mp length
      rw [same_of_complete all] at same finite
      exact ⟨all, finite, same⟩
    · rw [if_neg finite] at same
      exact absurd same.symm some_
  · rintro ⟨all, finite, same⟩
    rw [same_of_complete all, if_pos finite, same]

/-- A save is atomic on the history exactly when it is safe. -/
theorem save_atomic_iff (text : SnapshotText Text) (stateDir : String) (faults : Faults Text)
    (tempSuffix : Nat) (date : NaiveDate) {nodeDetails : List NodeDetail}
    (nonEmpty : nodeDetails ≠ []) (files : Files Text) :
    AtomicSave text (.default stateDir) faults tempSuffix date nodeDetails files ↔
      SafeSave text (.default stateDir) faults date nodeDetails files := by
  have some_ : nodeDetails.isEmpty ≠ true := by simpa using nonEmpty
  have leaves := @saveSnapshot_cases _ text _ stateDir rfl faults tempSuffix date _ nonEmpty files
  simp only [StoredDailyNodeSnapshotStore.saved, if_neg some_] at leaves
  have some_new := saved_ne_empty ((DailyNodeSnapshotStore.default stateDir).readStore text files)
    (.fromNodeDetails date nodeDetails)
  simp only [AtomicSave]
  cases leaves with
  | replaced run file done =>
    have reread := @reread_eq_iff _ text (.default stateDir) files faults run.read
      (.fromNodeDetails date nodeDetails)
    simp only [keepsAll_record_iff, keepsAll_fromNodeDetails] at reread
    rw [readStore_of_written file]
    constructor
    · rintro ⟨-, told⟩
      obtain ⟨others, new, stored⟩ := reread.mp (told done)
      exact ⟨fun _ => others, fun _ => new, fun _ => stored, fun lost => absurd run lost.not_replaces⟩
    · intro safe
      have same := reread.mpr
        ⟨safe.keepsOthers run, safe.newComesBack run, safe.storedComesBack run⟩
      exact ⟨.inr same, fun _ => same⟩
  | lost run file failed =>
    rw [readStore_of_none file]
    constructor
    · rintro ⟨told, -⟩
      refine ⟨?_, ?_, ?_, ?_⟩
      · exact fun replaced => absurd replaced run.not_replaces
      · exact fun replaced => absurd replaced run.not_replaces
      · exact fun replaced => absurd replaced run.not_replaces
      · intro _
        rw [← told.resolve_right some_new.symm]
    · intro safe
      constructor
      · left
        exact StoredDailyNodeSnapshotStore.ext (safe.losesNothing run).symm
      · intro done
        exact absurd done failed
  | untouched kept safe file failed =>
    rw [readStore_congr file]
    exact iff_of_true ⟨.inl rfl, fun done => absurd done failed⟩
      ⟨fun run => absurd run kept, fun run => absurd run kept, fun run => absurd run kept,
        fun lost => absurd lost safe⟩

def april (day : Nat) (valid : 1 ≤ day ∧ day ≤ 30 := by decide) : NaiveDate :=
  ⟨2026, 4, day, yearRange_2026, monthRange_april, valid⟩

/-- 10.0 -/
def ten : F64 := .finite false ⟨1026, by decide⟩ ⟨2 ^ 50, by decide⟩

def rewardedNodeDetail (rewardValue : F64) : NodeDetail :=
  { nodeId := "node-a", nodeName := "node-a", blockQty := 100, rewardValue }

/-- A state directory with the snapshot of the fourteenth. -/
def aprilFiles : Files Document :=
  Function.update (fun _ => none) (DailyNodeSnapshotStore.default "state").path
    (some (.json (StoredDailyNodeSnapshotStore.toJson
      { snapshots := [.fromNodeDetails (april 14) [rewardedNodeDetail ten]] })))

theorem readable_aprilFiles :
    documents.Readable (aprilFiles (DailyNodeSnapshotStore.default "state").path) :=
  readable_written_iff.mpr (by decide)

theorem keeps_ten : documents.Keeps ten := ⟨by decide, rfl⟩

/-- The disk is full, or the existence check fails and the old file is not removed. -/
theorem save_atomic_april :
    AtomicSave documents (.default "state")
      { write := .fails "No space left on device", debris := some .garbage } 0 (april 15)
      [rewardedNodeDetail ten] aprilFiles ∧
    AtomicSave documents (.default "state") { pathExists := .fails "Permission denied" } 0 (april 15)
      [rewardedNodeDetail ten] aprilFiles := by
  constructor
  · refine (save_atomic_iff documents "state" _ 0 (april 15) (by decide) aprilFiles).mpr ⟨?_, ?_, ?_, ?_⟩
    · exact fun run => absurd run.write (by decide)
    · exact fun run => absurd run.write (by decide)
    · exact fun run => absurd run.write (by decide)
    · exact fun lost => absurd lost.write (by decide)
  · have stored : (DailyNodeSnapshotStore.default "state").readStore documents aprilFiles =
        { snapshots := [.fromNodeDetails (april 14) [rewardedNodeDetail ten]] } := by decide
    refine (save_atomic_iff documents "state" _ 0 (april 15) (by decide) aprilFiles).mpr ⟨?_, ?_, ?_, ?_⟩
    · rintro - err ⟨⟩
    · intro _
      left
      rintro detail mem
      obtain rfl := List.mem_singleton.mp mem
      exact keeps_ten
    · rintro - snapshot ⟨before, after, split, -⟩ detail mem
      rw [stored] at split
      have inside : snapshot ∈ before ++ snapshot :: after := by simp
      rw [← split] at inside
      obtain rfl := List.mem_singleton.mp inside
      obtain rfl := List.mem_singleton.mp mem
      exact keeps_ten
    · exact fun lost => absurd lost.seen (by decide)

/-- The file cannot be read for a moment, and is replaced by the new snapshot alone. -/
theorem failed_read_loses_history :
    documents.Readable (aprilFiles (DailyNodeSnapshotStore.default "state").path) ∧
    ¬ AtomicSave documents (.default "state") { read := .fails "Too many open files" } 0 (april 15)
      [rewardedNodeDetail ten] aprilFiles := by
  constructor
  · exact readable_aprilFiles
  · simp only [AtomicSave]
    decide

/-- The process stops between the removal of the old file and the rename. -/
example : (DailyNodeSnapshotStore.default "state").readStore documents
    ((DailyNodeSnapshotStore.default "state").saveSnapshot documents { rename := .stops } 0 (april 15)
      [rewardedNodeDetail ten] aprilFiles).1 = {} := by decide

/-! ## Reading back what was written -/

/-- After a save with working I/O the file can be read, and holds what was saved. -/
def ReadsBack (text : SnapshotText Text) (store : DailyNodeSnapshotStore) (tempSuffix : Nat)
    (date : NaiveDate) (nodeDetails : List NodeDetail) (files : Files Text) : Prop :=
  let after := store.saveSnapshot text {} tempSuffix date nodeDetails files
  store.readStore text after.1 = (store.readStore text files).saved date nodeDetails ∧
    text.Readable (after.1 store.path)

/-- An answer of the Explorer for a node, and when it came. -/
structure Answer where
  nodeId : String
  nodeDetail : ExplorerNodeDetail
  now : Nat

def Answer.parsed (answer : Answer) : NodeDetail :=
  parseNodeDetail answer.nodeId answer.nodeDetail answer.now

/-- A text that is not a number counts as zero, so only a text that parses to something
else than a finite number does harm. -/
theorem isFinite_parsed {answer : Answer} : answer.parsed.rewardValue.isFinite = true ↔
    (parse 11 52 answer.nodeDetail.rewardValue).all (·.isFinite) = true := by
  have zero : (Binary.zero : F64).isFinite = true := isFinite_zero (by decide)
  change (parseOrZero answer.nodeDetail.rewardValue).isFinite = true ↔ _
  unfold parseOrZero
  cases parse 11 52 answer.nodeDetail.rewardValue with
  | none => simp [zero]
  | some value => simp

/-- What is saved of the answers of the Explorer is read back exactly when every reward
value is finite or not a number at all, or the snapshot is too old to be kept, provided that
finite numbers come back. -/
theorem save_reads_back_iff (text : SnapshotText Text) (exact_ : text.Exact) (stateDir : String)
    (tempSuffix : Nat) (date : NaiveDate) (answers : List Answer) (files : Files Text)
    (readable : text.Readable (files (DailyNodeSnapshotStore.default stateDir).path)) :
    ReadsBack text (.default stateDir) tempSuffix date (answers.map Answer.parsed) files ↔
      answers = [] ∨
      32 ≤ (((DailyNodeSnapshotStore.default stateDir).readStore text files).snapshots.filter
        (date.toIso < ·.date)).length ∨
      ∀ answer ∈ answers, (parse 11 52 answer.nodeDetail.rewardValue).all (·.isFinite) = true := by
  by_cases empty : answers = []
  · subst empty
    exact iff_of_true ⟨rfl, readable⟩ (.inl rfl)
  have nonEmpty : answers.map Answer.parsed ≠ [] := by simpa using empty
  have some_ : (answers.map Answer.parsed).isEmpty ≠ true := by simpa using nonEmpty
  have finite := isFinite_record (isFinite_readStore text (.default stateDir) files)
    (.fromNodeDetails date (answers.map Answer.parsed))
  rw [isFinite_fromNodeDetails] at finite
  simp only [List.forall_mem_map, isFinite_parsed] at finite
  have written := (@saveSnapshot_works _ text _ stateDir rfl tempSuffix date _ nonEmpty files).1
  simp only [ReadsBack]
  rw [readStore_of_written written, written, readable_written_iff]
  simp only [StoredDailyNodeSnapshotStore.saved, if_neg some_, empty, false_or]
  refine Iff.trans ?_ (finite.trans or_comm)
  constructor
  · exact fun back => back.2
  · intro fine
    rw [if_pos fine, mapRewards_of_exact exact_ fine]
    exact ⟨rfl, fine⟩

def answerOf (rewardValue : String) : Answer where
  nodeId := "node-a"
  nodeDetail :=
    { nodeName := "node-a", blockQty := 120, expectBlockQty := 125, genBlocksRate := "1/day"
      rewardPer := "10", rewardValue, benefitAddr := "addr", verifierTime := 0 }
  now := 0

theorem save_reads_back_april :
    ReadsBack documents (.default "state") 0 (april 15) ([answerOf "12.5"].map Answer.parsed)
      aprilFiles := by
  refine (save_reads_back_iff documents documents_exact "state" 0 (april 15) [answerOf "12.5"] aprilFiles
    readable_aprilFiles).mpr (.inr (.inr ?_))
  decide +kernel

/-- One reward value of `inf`, and the whole history is discarded. -/
theorem infinite_reward_discards_history :
    documents.Readable (aprilFiles (DailyNodeSnapshotStore.default "state").path) ∧
    ¬ ReadsBack documents (.default "state") 0 (april 15) ([answerOf "inf"].map Answer.parsed)
      aprilFiles := by
  constructor
  · exact readable_aprilFiles
  · simp only [ReadsBack]
    intro back
    exact absurd back.1 (by decide)

end Save

end ChainDash.Collect
