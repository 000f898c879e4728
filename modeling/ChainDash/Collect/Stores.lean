import Mathlib.Data.List.Sort
import Mathlib.Data.Prod.Lex
import Mathlib.Data.String.Basic
import ChainDash.Collect.NodeDetail
import ChainDash.Lib.Dictionary

/-!
# The stores behind the shared data

The five parts of `collect::data::Data`: chain statistics, node states, node details,
the status message and the system state, each with its own operations.
-/

namespace ChainDash.Collect
set_option autoImplicit false

open Ieee

/-- `u64::saturating_mul`. -/
def saturatingMul (a b : UInt64) : UInt64 :=
  if a.toNat * b.toNat < UInt64.size then a * b else .ofNat (UInt64.size - 1)

/-! ## Chain statistics -/

structure ChainStats where
  curBlockNumber : UInt64 := 0
  curBlockTime : UInt64 := 0
  prevBlockTime : UInt64 := 0
  curTxs : UInt64 := 0
  maxTxs : UInt64 := 0
  maxTxsBlockNumber : UInt64 := 0
  txns : List UInt64 := [0]
  intervals : List UInt64 := [0]
  curInterval : UInt64 := 0
  maxInterval : UInt64 := 0

def ChainStats.recordBlockSample (chain : ChainStats) (blockNumber blockTimestamp txs : UInt64) :
    ChainStats :=
  let prevBlockTime := if 0 < chain.curBlockTime then chain.curBlockTime else chain.prevBlockTime
  let peak := chain.maxTxs < txs
  let chain := { chain with
    curBlockNumber := blockNumber
    prevBlockTime
    curBlockTime := blockTimestamp
    curTxs := txs
    maxTxs := if peak then txs else chain.maxTxs
    maxTxsBlockNumber := if peak then blockNumber else chain.maxTxsBlockNumber
    txns := chain.txns ++ [txs] }
  if 0 < prevBlockTime then
    let intervalMs := saturatingMul (saturatingSub blockTimestamp prevBlockTime) 1000
    { chain with
      curInterval := intervalMs
      maxInterval := if chain.maxInterval < intervalMs then intervalMs else chain.maxInterval
      intervals := chain.intervals ++ [intervalMs] }
  else chain

/-! ## Node states -/

structure ConsensusState where
  name : String
  host : String
  currentNumber : UInt64
  epoch : UInt64
  view : UInt64
  committed : UInt64
  locked : UInt64
  qc : UInt64
  validator : Bool
  deriving DecidableEq

structure NodeStateStore where
  states : Dictionary String ConsensusState := ∅

def ConsensusState.Le (left right : ConsensusState) : Prop :=
  toLex (left.name, toLex (left.host, left.currentNumber.toNat)) ≤
    toLex (right.name, toLex (right.host, right.currentNumber.toNat))

instance : DecidableRel ConsensusState.Le := fun _ _ => by unfold ConsensusState.Le; infer_instance

namespace NodeStateStore

def sorted (store : NodeStateStore) : List ConsensusState :=
  (Dictionary.values store.states).insertionSort ConsensusState.Le

def update (store : NodeStateStore) (name : String) (state : ConsensusState) : NodeStateStore :=
  { states := store.states.insert name state }

end NodeStateStore

/-! ## Node details -/

def defaultNodeDetailKey : String := "__default__"

structure NodeDetailStore where
  details : Dictionary String NodeDetail := ∅
  loaded : Bool := false

def NodeDetail.Le (left right : NodeDetail) : Prop :=
  toLex (left.nodeName, toLex (left.nodeId, left.ranking)) ≤
    toLex (right.nodeName, toLex (right.nodeId, right.ranking))

instance : DecidableRel NodeDetail.Le := fun _ _ => by unfold NodeDetail.Le; infer_instance

namespace NodeDetailStore

def sorted (store : NodeDetailStore) : List NodeDetail :=
  (Dictionary.values store.details).insertionSort NodeDetail.Le

def first (store : NodeDetailStore) : Option NodeDetail := store.sorted.head?

def nodeDetailKey (nodeId : String) : String :=
  if nodeId.isEmpty then defaultNodeDetailKey else nodeId

def get (store : NodeDetailStore) (nodeId : String) : Option NodeDetail :=
  store.details.lookup (nodeDetailKey nodeId)

/-- A detail without a name is shown under its id. -/
def nameById (detail : NodeDetail) : NodeDetail :=
  if detail.nodeName.isEmpty && !detail.nodeId.isEmpty then
    { detail with nodeName := detail.nodeId }
  else detail

def updateNodeDetail (store : NodeDetailStore) : Option NodeDetail → NodeDetailStore
  | none => { store with details := ∅ }
  | some detail =>
    let detail := nameById detail
    { details := (∅ : Dictionary String NodeDetail).insert (nodeDetailKey detail.nodeId) detail
      loaded := true }

def mergeNodeRankingFor (store : NodeDetailStore) (nodeId : String) :
    Option Int → NodeDetailStore
  | none => store
  | some ranking =>
    let key := nodeDetailKey nodeId
    match store.details.lookup key with
    | none => store
    | some detail =>
      let detail := { detail with
        ranking
        nodeId := if detail.nodeId.isEmpty && !nodeId.isEmpty then nodeId else detail.nodeId
        nodeName := if detail.nodeName.isEmpty && !nodeId.isEmpty then nodeId else detail.nodeName }
      { store with details := store.details.insert key detail }

def mergeNodeRanking (store : NodeDetailStore) : Option Int → NodeDetailStore
  | none => store
  | some ranking =>
    match store.details.entries with
    | [⟨key, detail⟩] => { store with details := store.details.insert key { detail with ranking } }
    | _ => store.mergeNodeRankingFor "" (some ranking)

def mergeNodeDetailFor (store : NodeDetailStore) (nodeId : String) :
    Option NodeDetail → NodeDetailStore
  | none => store
  | some detail =>
    let key := nodeDetailKey nodeId
    let detail := if detail.nodeId.isEmpty then { detail with nodeId } else detail
    let detail := match store.details.lookup key with
      | some existing => { detail with ranking := existing.ranking }
      | none => detail
    { details := store.details.insert key (nameById detail), loaded := true }

def mergeNodeDetail (store : NodeDetailStore) : Option NodeDetail → NodeDetailStore
  | none => store
  | some detail =>
    let nodeId :=
      if detail.nodeId.isEmpty then
        match store.details.entries with
        | [⟨key, _⟩] => key
        | _ => detail.nodeId
      else detail.nodeId
    let detail := if detail.nodeId.isEmpty && nodeId ≠ defaultNodeDetailKey then
      { detail with nodeId } else detail
    store.mergeNodeDetailFor nodeId (some detail)

def remove (store : NodeDetailStore) (nodeId : String) : NodeDetailStore :=
  { details := store.details.erase (nodeDetailKey nodeId), loaded := true }

def markLoaded (store : NodeDetailStore) : NodeDetailStore := { store with loaded := true }

end NodeDetailStore

/-! ## The status message -/

inductive StatusLevel where
  | info
  | warn
  | error
  deriving DecidableEq, Repr

structure StatusMessage where
  level : StatusLevel
  text : String
  expiresAt : Option Nat
  deriving DecidableEq

structure UiStatusStore where
  statusMessage : Option StatusMessage := none

def second : Nat := 10 ^ 9

/-- How long a message of each level is shown: `INFO_STATUS_TTL`, `WARN_STATUS_TTL`, and
no end for errors. -/
def StatusLevel.ttl : StatusLevel → Option Nat
  | .info => some (5 * second)
  | .warn => some (15 * second)
  | .error => none

namespace UiStatusStore

def expireIfNeeded (store : UiStatusStore) (now : Nat) : UiStatusStore :=
  if (store.statusMessage.bind (·.expiresAt)).any (· ≤ now) then { statusMessage := none } else store

/-- Whether the message changed: the same message is not set again before it expires. -/
def set (store : UiStatusStore) (level : StatusLevel) (text : String) (now : Nat) :
    Bool × UiStatusStore :=
  let shown := store.statusMessage.any fun message =>
    message.level = level && message.text = text && message.expiresAt.all (now < ·)
  if shown then (false, store)
  else (true, { statusMessage := some { level, text, expiresAt := level.ttl.map (now + ·) } })

def clear (store : UiStatusStore) : Bool × UiStatusStore :=
  (store.statusMessage.isSome, { statusMessage := none })

end UiStatusStore

/-! ## System statistics -/

structure DiskDetail where
  mountPoint : String
  filesystem : String
  total : UInt64
  used : UInt64
  available : UInt64
  usagePercent : F32
  device : String
  isAlert : Bool
  isNetwork : Bool
  lastUpdated : Nat
  deriving DecidableEq

structure SystemStats where
  cpuUsage : F32 := .zero
  memoryUsed : UInt64 := 0
  memoryTotal : UInt64 := 0
  memoryUsagePercent : F32 := .zero
  networkRx : UInt64 := 0
  networkTx : UInt64 := 0
  diskUsed : UInt64 := 0
  diskTotal : UInt64 := 0
  diskUsagePercent : F32 := .zero
  diskDetails : List DiskDetail := []
  currentDiskIndex : Nat := 0
  alertThreshold : F32 := ofNat 8 23 90
  hasDiskAlerts : Bool := false
  autoDiscoveryEnabled : Bool := true

structure SystemState where
  stats : SystemStats := {}

namespace SystemState

/-- The index kept in the range of a list of disks. -/
def clampIndex (disks : List DiskDetail) (index : Nat) : Nat :=
  if disks.isEmpty then 0 else min index (disks.length - 1)

/-- The previous alert flag, and the new statistics with the selected disk kept. -/
def replaceStats (system : SystemState) (stats : SystemStats) : Bool × SystemState :=
  (system.stats.hasDiskAlerts,
    { stats := { stats with
      currentDiskIndex := clampIndex stats.diskDetails system.stats.currentDiskIndex } })

def updateDiskIndex (system : SystemState) (newIndex : Nat) : SystemState :=
  { stats := { system.stats with currentDiskIndex := clampIndex system.stats.diskDetails newIndex } }

end SystemState

end ChainDash.Collect
