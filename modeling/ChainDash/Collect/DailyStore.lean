import ChainDash.Collect.DailySnapshot
import ChainDash.Lib.Json

/-!
# The file of the snapshot history

`DailyNodeSnapshotStore` keeps the history in a JSON file, which it replaces through a
temporary file. The file system is a map from paths to contents, and each step on it may
fail or be the one at which the process stops. The document of a history is read back as
that history unless a reward value is not finite.
-/

namespace ChainDash.Collect
set_option autoImplicit false

open Calendar Ieee

/-! ## The document -/

namespace StoredDailyNodeSnapshotDetail

def toJson (detail : StoredDailyNodeSnapshotDetail) : Json.Value :=
  .object [("node_id", .string detail.nodeId), ("node_name", .string detail.nodeName),
    ("block_qty", Json.ofUInt64 detail.blockQty), ("reward_value", Json.ofF64 detail.rewardValue)]

def fromJson (value : Json.Value) : Option StoredDailyNodeSnapshotDetail :=
  match Json.fields? ["node_id", "node_name", "block_qty", "reward_value"] value with
  | some [nodeId, nodeName, blockQty, rewardValue] => do
    let nodeId ← Json.toString? nodeId
    let nodeName ← Json.toString? nodeName
    let blockQty ← Json.toUInt64? blockQty
    let rewardValue ← Json.toF64? rewardValue
    return { nodeId, nodeName, blockQty, rewardValue }
  | _ => none

def isFinite (detail : StoredDailyNodeSnapshotDetail) : Bool := detail.rewardValue.isFinite

theorem fromJson_toJson (detail : StoredDailyNodeSnapshotDetail) :
    fromJson detail.toJson = if detail.isFinite then some detail else none := by
  have fields : Json.fields? ["node_id", "node_name", "block_qty", "reward_value"] detail.toJson =
      some [.string detail.nodeId, .string detail.nodeName, Json.ofUInt64 detail.blockQty,
        Json.ofF64 detail.rewardValue] := rfl
  have read : Json.toF64? (Json.ofF64 detail.rewardValue) =
      if detail.isFinite then some detail.rewardValue else none := Json.toF64?_ofF64 _
  rw [fromJson, fields]
  simp only [Json.toString?, Json.toUInt64?_ofUInt64, read]
  by_cases finite : detail.isFinite = true
  · rw [if_pos finite, if_pos finite]
    rfl
  · rw [if_neg finite, if_neg finite]
    rfl

theorem isFinite_of_fromJson {value : Json.Value} {detail : StoredDailyNodeSnapshotDetail}
    (h : fromJson value = some detail) : detail.isFinite = true := by
  unfold fromJson at h
  split at h
  case h_2 => cases h
  case h_1 nodeId nodeName blockQty rewardValue _ =>
    simp only [bind, Option.bind_eq_some_iff] at h
    obtain ⟨_, -, _, -, _, -, reward, read, last⟩ := h
    cases last
    exact Json.isFinite_of_toF64? read

end StoredDailyNodeSnapshotDetail

namespace StoredDailyNodeSnapshot

def toJson (snapshot : StoredDailyNodeSnapshot) : Json.Value :=
  .object [("date", .string snapshot.date),
    ("node_details", Json.ofList StoredDailyNodeSnapshotDetail.toJson snapshot.nodeDetails)]

def fromJson (value : Json.Value) : Option StoredDailyNodeSnapshot :=
  match Json.fields? ["date", "node_details"] value with
  | some [date, nodeDetails] => do
    let date ← Json.toString? date
    let nodeDetails ← Json.toList? StoredDailyNodeSnapshotDetail.fromJson nodeDetails
    return { date, nodeDetails }
  | _ => none

def isFinite (snapshot : StoredDailyNodeSnapshot) : Bool :=
  snapshot.nodeDetails.all StoredDailyNodeSnapshotDetail.isFinite

theorem fromJson_toJson (snapshot : StoredDailyNodeSnapshot) :
    fromJson snapshot.toJson = if snapshot.isFinite then some snapshot else none := by
  have fields : Json.fields? ["date", "node_details"] snapshot.toJson = some [.string snapshot.date,
      Json.ofList StoredDailyNodeSnapshotDetail.toJson snapshot.nodeDetails] := rfl
  have read : Json.toList? StoredDailyNodeSnapshotDetail.fromJson
      (Json.ofList StoredDailyNodeSnapshotDetail.toJson snapshot.nodeDetails) =
        if snapshot.isFinite then some snapshot.nodeDetails else none :=
    Json.toList?_ofList StoredDailyNodeSnapshotDetail.fromJson_toJson _
  rw [fromJson, fields]
  simp only [Json.toString?, read]
  by_cases finite : snapshot.isFinite = true
  · rw [if_pos finite, if_pos finite]
    rfl
  · rw [if_neg finite, if_neg finite]
    rfl

theorem isFinite_of_fromJson {value : Json.Value} {snapshot : StoredDailyNodeSnapshot}
    (h : fromJson value = some snapshot) : snapshot.isFinite = true := by
  unfold fromJson at h
  split at h
  case h_2 => cases h
  case h_1 date nodeDetails _ =>
    simp only [bind, Option.bind_eq_some_iff] at h
    obtain ⟨_, -, details, read, last⟩ := h
    cases last
    refine List.all_eq_true.mpr fun detail mem => ?_
    obtain ⟨item, decoded⟩ := Json.exists_item_of_toList? read detail mem
    exact StoredDailyNodeSnapshotDetail.isFinite_of_fromJson decoded

end StoredDailyNodeSnapshot

namespace StoredDailyNodeSnapshotStore

def toJson (store : StoredDailyNodeSnapshotStore) : Json.Value :=
  .object [("snapshots", Json.ofList StoredDailyNodeSnapshot.toJson store.snapshots)]

def fromJson (value : Json.Value) : Option StoredDailyNodeSnapshotStore :=
  match Json.fields? ["snapshots"] value with
  | some [snapshots] => do
    let snapshots ← Json.toList? StoredDailyNodeSnapshot.fromJson snapshots
    return { snapshots }
  | _ => none

def isFinite (store : StoredDailyNodeSnapshotStore) : Bool :=
  store.snapshots.all StoredDailyNodeSnapshot.isFinite

/-- The derived decoder reads back what the derived encoder writes, unless a reward value
is not finite. -/
theorem fromJson_toJson (store : StoredDailyNodeSnapshotStore) :
    fromJson store.toJson = if store.isFinite then some store else none := by
  have fields : Json.fields? ["snapshots"] store.toJson =
      some [Json.ofList StoredDailyNodeSnapshot.toJson store.snapshots] := rfl
  have read : Json.toList? StoredDailyNodeSnapshot.fromJson
      (Json.ofList StoredDailyNodeSnapshot.toJson store.snapshots) =
        if store.isFinite then some store.snapshots else none :=
    Json.toList?_ofList StoredDailyNodeSnapshot.fromJson_toJson _
  rw [fromJson, fields]
  simp only [read]
  by_cases finite : store.isFinite = true
  · rw [if_pos finite, if_pos finite]
    rfl
  · rw [if_neg finite, if_neg finite]
    rfl

theorem isFinite_of_fromJson {value : Json.Value} {store : StoredDailyNodeSnapshotStore}
    (h : fromJson value = some store) : store.isFinite = true := by
  unfold fromJson at h
  split at h
  case h_2 => cases h
  case h_1 snapshots _ =>
    simp only [bind, Option.bind_eq_some_iff] at h
    obtain ⟨list, read, last⟩ := h
    cases last
    refine List.all_eq_true.mpr fun snapshot mem => ?_
    obtain ⟨item, decoded⟩ := Json.exists_item_of_toList? read snapshot mem
    exact StoredDailyNodeSnapshot.isFinite_of_fromJson decoded

end StoredDailyNodeSnapshotStore

theorem StoredDailyNodeSnapshotStore.isFinite_mapRewards {f : F64 → F64}
    (kept : ∀ x, (f x).isFinite = x.isFinite) (store : StoredDailyNodeSnapshotStore) :
    (store.mapRewards f).isFinite = store.isFinite := by
  have detail : StoredDailyNodeSnapshotDetail.isFinite ∘ StoredDailyNodeSnapshotDetail.mapReward f =
      StoredDailyNodeSnapshotDetail.isFinite := funext fun detail => kept detail.rewardValue
  have snapshot : StoredDailyNodeSnapshot.isFinite ∘ StoredDailyNodeSnapshot.mapRewards f =
      StoredDailyNodeSnapshot.isFinite := by
    funext snapshot
    show (snapshot.nodeDetails.map _).all _ = snapshot.nodeDetails.all _
    rw [List.all_map, detail]
  rw [isFinite, mapRewards, List.all_map, snapshot, isFinite]

theorem StoredDailyNodeSnapshotStore.mapRewards_id (store : StoredDailyNodeSnapshotStore) :
    store.mapRewards id = store := by
  have detail : StoredDailyNodeSnapshotDetail.mapReward id = id := rfl
  have snapshot : StoredDailyNodeSnapshot.mapRewards id = id := by
    funext snapshot
    rw [StoredDailyNodeSnapshot.mapRewards, detail, List.map_id]
    rfl
  rw [mapRewards, snapshot, List.map_id]

/-- What is used of the texts that `serde_json` reads and writes: of a document written for a
history it reads the same tree again, up to the reward values. These come back as floats that need
not be the ones written, its reading of a decimal not being exact. -/
structure SnapshotText (Text : Type) where
  fromStr : Text → Option Json.Value
  toVecPretty : Json.Value → Text
  isBlank : Text → Bool
  /-- The float read of the decimal that a float is written as. -/
  reread : F64 → F64
  isFinite_reread : ∀ x, (reread x).isFinite = x.isFinite
  reads : ∀ store : StoredDailyNodeSnapshotStore,
    fromStr (toVecPretty store.toJson) = some (store.mapRewards reread).toJson
  notBlank : ∀ store : StoredDailyNodeSnapshotStore, isBlank (toVecPretty store.toJson) = false

/-- The float comes back. -/
def SnapshotText.Keeps {Text : Type} (text : SnapshotText Text) (x : F64) : Prop :=
  x.isFinite = true ∧ text.reread x = x

/-- Every finite float comes back. -/
def SnapshotText.Exact {Text : Type} (text : SnapshotText Text) : Prop :=
  ∀ x, x.isFinite = true → text.reread x = x

/-- `serde_json::from_str`. -/
def SnapshotText.decode {Text : Type} (text : SnapshotText Text) (content : Text) :
    Option StoredDailyNodeSnapshotStore :=
  (text.fromStr content).bind StoredDailyNodeSnapshotStore.fromJson

/-- A file is readable if it is missing or blank, or holds the document of a history. -/
def SnapshotText.Readable {Text : Type} (text : SnapshotText Text) (file : Option Text) : Prop :=
  ∀ content, file = some content → text.isBlank content = true ∨ (text.decode content).isSome = true

/-- Texts up to their layout: what `serde_json` and `trim` make of them. -/
inductive Document where
  | blank
  | garbage
  | json (value : Json.Value)

def documents : SnapshotText Document where
  fromStr
    | .json value => some value
    | _ => none
  toVecPretty := .json
  isBlank
    | .blank => true
    | _ => false
  reread := id
  isFinite_reread _ := rfl
  reads store := by rw [StoredDailyNodeSnapshotStore.mapRewards_id]
  notBlank _ := rfl

theorem documents_exact : documents.Exact := fun _ _ => rfl

/-! ## The file system -/

structure Path where
  parent : Option String
  fileName : String
  deriving DecidableEq

abbrev Files (Text : Type) := Path → Option Text

/-- A step succeeds, fails with an error, or is where the process stops. -/
inductive Outcome where
  | ok
  | fails (err : String)
  | stops
  deriving DecidableEq

/-- The outcomes of the steps of a save. A write that does not succeed leaves anything,
or nothing, at the temporary path. -/
structure Faults (Text : Type) where
  read : Outcome := .ok
  createDirAll : Outcome := .ok
  write : Outcome := .ok
  debris : Option Text := none
  pathExists : Outcome := .ok
  removeFile : Outcome := .ok
  rename : Outcome := .ok

/-- How a call ends. -/
inductive Ending where
  | returned (result : Except String Unit)
  | stopped
  deriving DecidableEq

/-- A step with `?`: the rest of the call follows only if it succeeds. -/
def attempt {Text : Type} (outcome : Outcome) (files : Files Text) (rest : Files Text × Ending) :
    Files Text × Ending :=
  match outcome with
  | .ok => rest
  | .fails err => (files, .returned (.error ("IO error: " ++ err)))
  | .stops => (files, .stopped)

def dailyNodeSnapshotFileName : String := "daily-node-snapshots.json"

structure DailyNodeSnapshotStore where
  path : Path

namespace DailyNodeSnapshotStore

/-- `default_daily_node_snapshot_path` puts the file into a state directory. -/
def default (stateDir : String) : DailyNodeSnapshotStore where
  path := ⟨some stateDir, dailyNodeSnapshotFileName⟩

variable {Text : Type} (text : SnapshotText Text) (store : DailyNodeSnapshotStore)

/-- With working I/O. A missing file is an error of its kind that is not logged. -/
def readStore (files : Files Text) : StoredDailyNodeSnapshotStore :=
  match files store.path with
  | none => {}
  | some content =>
    if text.isBlank content then {}
    else match text.decode content with
      | some history => history
      | none => {}

def dailySummaryDetails (files : Files Text) (date : NaiveDate) (nodeDetails : List NodeDetail) :
    List DailyNodeSummaryDetail :=
  Collect.dailySummaryDetails (store.readStore text files) date nodeDetails

def tempPath (parent : String) (tempSuffix : Nat) : Path :=
  ⟨some parent, dailyNodeSnapshotFileName ++ "." ++ toString tempSuffix ++ ".tmp"⟩

/-- `fs::rename` replaces what is at the target. -/
def renameTemp (faults : Faults Text) (tempPath : Path) (files : Files Text) : Files Text × Ending :=
  attempt faults.rename files
    (Function.update (Function.update files store.path (files tempPath)) tempPath none,
      .returned (.ok ()))

/-- `path.exists()` is false when the check fails. -/
def writeStore (faults : Faults Text) (tempSuffix : Nat) (history : StoredDailyNodeSnapshotStore)
    (files : Files Text) : Files Text × Ending :=
  match store.path.parent with
  | none => (files, .returned (.error "daily node snapshot path has no parent directory"))
  | some parent =>
    let tempPath := tempPath parent tempSuffix
    let content := text.toVecPretty history.toJson
    let written := Function.update files tempPath (some content)
    attempt faults.createDirAll files <|
    attempt faults.write (Function.update files tempPath faults.debris) <|
    match faults.pathExists with
    | .stops => (written, .stopped)
    | .fails _ => store.renameTemp faults tempPath written
    | .ok =>
      if (written store.path).isSome then
        attempt faults.removeFile written <|
        store.renameTemp faults tempPath (Function.update written store.path none)
      else store.renameTemp faults tempPath written

/-- A failed read is taken for an empty history. -/
def saveSnapshot (faults : Faults Text) (tempSuffix : Nat) (date : NaiveDate)
    (nodeDetails : List NodeDetail) (files : Files Text) : Files Text × Ending :=
  if nodeDetails.isEmpty then (files, .returned (.ok ()))
  else
    let save (history : StoredDailyNodeSnapshotStore) :=
      store.writeStore text faults tempSuffix
        (history.upsert (.fromNodeDetails date nodeDetails)).prune files
    match faults.read with
    | .ok => save (store.readStore text files)
    | .fails _ => save {}
    | .stops => (files, .stopped)

end DailyNodeSnapshotStore

end ChainDash.Collect
