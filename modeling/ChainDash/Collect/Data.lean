import ChainDash.Collect.Stores

/-!
# The shared data

`collect::data::Data` under its mutex: five parts, a dirty flag for each, and the waker
of the UI, a sender into a channel with one slot. Every operation that changes a part
marks it and tries to wake the UI; `DataOp.apply_cases` says so once for all of them.
-/

namespace ChainDash.Collect
set_option autoImplicit false

structure UiDirtyState where
  chain : Bool := false
  nodeState : Bool := false
  nodeDetails : Bool := false
  status : Bool := false
  system : Bool := false
  deriving DecidableEq

/-- A part of the data with a dirty flag of its own. -/
inductive Part where
  | chain
  | nodeState
  | nodeDetails
  | status
  | system
  deriving DecidableEq

/-- The flag of a part. -/
def UiDirtyState.get (dirty : UiDirtyState) : Part → Bool
  | .chain => dirty.chain
  | .nodeState => dirty.nodeState
  | .nodeDetails => dirty.nodeDetails
  | .status => dirty.status
  | .system => dirty.system

def UiDirtyState.set (dirty : UiDirtyState) : Part → UiDirtyState
  | .chain => { dirty with chain := true }
  | .nodeState => { dirty with nodeState := true }
  | .nodeDetails => { dirty with nodeDetails := true }
  | .status => { dirty with status := true }
  | .system => { dirty with system := true }

def UiDirtyState.any (dirty : UiDirtyState) : Bool :=
  dirty.chain || dirty.nodeState || dirty.nodeDetails || dirty.status || dirty.system

/-- The waker is `none` until it is installed, then whether a token is in its channel. -/
structure Data where
  chain : ChainStats := {}
  nodeState : NodeStateStore := {}
  nodeDetails : NodeDetailStore := {}
  status : UiStatusStore := {}
  uiDirty : UiDirtyState := {}
  uiWaker : Option Bool := none
  system : SystemState := {}

namespace Data

/-- `try_send` into the one-slot channel: a full channel stays full. -/
def notifyUiIfNeeded (data : Data) : Data :=
  if data.uiDirty.any then { data with uiWaker := data.uiWaker.map fun _ => true } else data

/-- The common shape of the five methods below. -/
def markDirty (data : Data) (part : Part) : Data :=
  { data with uiDirty := data.uiDirty.set part }.notifyUiIfNeeded

def markChainDirty (data : Data) : Data := data.markDirty .chain

def markNodeStateDirty (data : Data) : Data := data.markDirty .nodeState

def markNodeDetailsDirty (data : Data) : Data := data.markDirty .nodeDetails

def markStatusDirty (data : Data) : Data := data.markDirty .status

def markSystemDirty (data : Data) : Data := data.markDirty .system

def setUiWaker (data : Data) : Data := { data with uiWaker := some false }

def takeUiDirty (data : Data) : UiDirtyState × Data := (data.uiDirty, { data with uiDirty := {} })

/-- The samples recorded since the last call, oldest first. -/
def txnsAndClear (data : Data) : List UInt64 × Data :=
  (data.chain.txns, { data with chain := { data.chain with txns := [] } })

def intervalsAndClear (data : Data) : List UInt64 × Data :=
  (data.chain.intervals, { data with chain := { data.chain with intervals := [] } })

def recordBlockSample (data : Data) (blockNumber blockTimestamp txs : UInt64) : Data :=
  { data with
    chain := data.chain.recordBlockSample blockNumber blockTimestamp txs }.markChainDirty

def updateConsensusState (data : Data) (name : String) (state : ConsensusState) : Data :=
  { data with nodeState := data.nodeState.update name state }.markNodeStateDirty

def updateNodeDetail (data : Data) (detail : Option NodeDetail) : Data :=
  { data with nodeDetails := data.nodeDetails.updateNodeDetail detail }.markNodeDetailsDirty

def mergeNodeRanking (data : Data) (ranking : Option Int) : Data :=
  { data with nodeDetails := data.nodeDetails.mergeNodeRanking ranking }.markNodeDetailsDirty

def mergeNodeRankingFor (data : Data) (nodeId : String) (ranking : Option Int) : Data :=
  { data with
    nodeDetails := data.nodeDetails.mergeNodeRankingFor nodeId ranking }.markNodeDetailsDirty

def mergeNodeDetail (data : Data) (detail : Option NodeDetail) : Data :=
  { data with nodeDetails := data.nodeDetails.mergeNodeDetail detail }.markNodeDetailsDirty

def mergeNodeDetailFor (data : Data) (nodeId : String) (detail : Option NodeDetail) : Data :=
  { data with
    nodeDetails := data.nodeDetails.mergeNodeDetailFor nodeId detail }.markNodeDetailsDirty

def removeNodeDetail (data : Data) (nodeId : String) : Data :=
  { data with nodeDetails := data.nodeDetails.remove nodeId }.markNodeDetailsDirty

def markNodeDetailsLoaded (data : Data) : Data :=
  { data with nodeDetails := data.nodeDetails.markLoaded }.markNodeDetailsDirty

def replaceSystemStats (data : Data) (systemStats : SystemStats) : Bool × Data :=
  let (previousAlert, system) := data.system.replaceStats systemStats
  (previousAlert, { data with system }.markSystemDirty)

/-- The selected disk changes without a mark. -/
def updateDiskIndex (data : Data) (newIndex : Nat) : Data :=
  { data with system := data.system.updateDiskIndex newIndex }

def setStatusMessage (data : Data) (level : StatusLevel) (text : String) (now : Nat) : Data :=
  let (changed, status) := data.status.set level text now
  if changed then { data with status }.markStatusDirty else { data with status }

def clearStatusMessage (data : Data) : Data :=
  let (changed, status) := data.status.clear
  if changed then { data with status }.markStatusDirty else { data with status }

def expireStatusMessageIfNeeded (data : Data) (now : Nat) : Data :=
  { data with status := data.status.expireIfNeeded now }

end Data

/-- The operations of the collectors. -/
inductive DataOp where
  | recordBlockSample (blockNumber blockTimestamp txs : UInt64)
  | updateConsensusState (name : String) (state : ConsensusState)
  | updateNodeDetail (detail : Option NodeDetail)
  | mergeNodeRanking (ranking : Option Int)
  | mergeNodeRankingFor (nodeId : String) (ranking : Option Int)
  | mergeNodeDetail (detail : Option NodeDetail)
  | mergeNodeDetailFor (nodeId : String) (detail : Option NodeDetail)
  | removeNodeDetail (nodeId : String)
  | markNodeDetailsLoaded
  | replaceSystemStats (systemStats : SystemStats)
  | setStatusMessage (level : StatusLevel) (text : String) (now : Nat)
  | clearStatusMessage

def DataOp.apply (data : Data) : DataOp → Data
  | .recordBlockSample blockNumber blockTimestamp txs =>
    data.recordBlockSample blockNumber blockTimestamp txs
  | .updateConsensusState name state => data.updateConsensusState name state
  | .updateNodeDetail detail => data.updateNodeDetail detail
  | .mergeNodeRanking ranking => data.mergeNodeRanking ranking
  | .mergeNodeRankingFor nodeId ranking => data.mergeNodeRankingFor nodeId ranking
  | .mergeNodeDetail detail => data.mergeNodeDetail detail
  | .mergeNodeDetailFor nodeId detail => data.mergeNodeDetailFor nodeId detail
  | .removeNodeDetail nodeId => data.removeNodeDetail nodeId
  | .markNodeDetailsLoaded => data.markNodeDetailsLoaded
  | .replaceSystemStats systemStats => (data.replaceSystemStats systemStats).2
  | .setStatusMessage level text now => data.setStatusMessage level text now
  | .clearStatusMessage => data.clearStatusMessage

/-! ## Parts and their marks -/

@[simp] theorem UiDirtyState.get_default (part : Part) : ({} : UiDirtyState).get part = false := by
  cases part <;> rfl

theorem UiDirtyState.any_iff (dirty : UiDirtyState) :
    dirty.any = true ↔ ∃ part, dirty.get part = true := by
  constructor
  · intro h
    simp only [any, Bool.or_eq_true] at h
    rcases h with (((h | h) | h) | h) | h
    · exact ⟨.chain, h⟩
    · exact ⟨.nodeState, h⟩
    · exact ⟨.nodeDetails, h⟩
    · exact ⟨.status, h⟩
    · exact ⟨.system, h⟩
  · rintro ⟨part, h⟩
    cases part <;> simp only [get] at h <;> simp [any, h]

/-- A mark, and the wake-up that follows it, change none of the parts. -/
@[simp] theorem Data.markDirty_chain (data : Data) (part : Part) :
    (data.markDirty part).chain = data.chain := by
  unfold markDirty notifyUiIfNeeded
  split <;> rfl

@[simp] theorem Data.markDirty_nodeState (data : Data) (part : Part) :
    (data.markDirty part).nodeState = data.nodeState := by
  unfold markDirty notifyUiIfNeeded
  split <;> rfl

@[simp] theorem Data.markDirty_nodeDetails (data : Data) (part : Part) :
    (data.markDirty part).nodeDetails = data.nodeDetails := by
  unfold markDirty notifyUiIfNeeded
  split <;> rfl

@[simp] theorem Data.markDirty_status (data : Data) (part : Part) :
    (data.markDirty part).status = data.status := by
  unfold markDirty notifyUiIfNeeded
  split <;> rfl

@[simp] theorem Data.markDirty_system (data : Data) (part : Part) :
    (data.markDirty part).system = data.system := by
  unfold markDirty notifyUiIfNeeded
  split <;> rfl

/-- The chain statistics after an operation. -/
theorem DataOp.chain_apply (op : DataOp) (data : Data) : (op.apply data).chain =
    match op with
    | .recordBlockSample blockNumber blockTimestamp txs =>
      data.chain.recordBlockSample blockNumber blockTimestamp txs
    | _ => data.chain := by
  cases op
  case setStatusMessage level text now =>
    simp only [DataOp.apply, Data.setStatusMessage]
    split <;> simp [Data.markStatusDirty]
  case clearStatusMessage =>
    simp only [DataOp.apply, Data.clearStatusMessage]
    split <;> simp [Data.markStatusDirty]
  all_goals exact Data.markDirty_chain _ _

/-- The system state after an operation. -/
theorem DataOp.system_apply (op : DataOp) (data : Data) : (op.apply data).system =
    match op with
    | .replaceSystemStats systemStats => (data.system.replaceStats systemStats).2
    | _ => data.system := by
  cases op
  case setStatusMessage level text now =>
    simp only [DataOp.apply, Data.setStatusMessage]
    split <;> simp [Data.markStatusDirty]
  case clearStatusMessage =>
    simp only [DataOp.apply, Data.clearStatusMessage]
    split <;> simp [Data.markStatusDirty]
  all_goals exact Data.markDirty_system _ _

/-- The status message after an operation. -/
theorem DataOp.status_apply (op : DataOp) (data : Data) : (op.apply data).status =
    match op with
    | .setStatusMessage level text now => (data.status.set level text now).2
    | .clearStatusMessage => data.status.clear.2
    | _ => data.status := by
  cases op
  case setStatusMessage level text now =>
    simp only [DataOp.apply, Data.setStatusMessage]
    split <;> simp [Data.markStatusDirty]
  case clearStatusMessage =>
    simp only [DataOp.apply, Data.clearStatusMessage]
    split <;> simp [Data.markStatusDirty]
  all_goals exact Data.markDirty_status _ _

/-- The store of the node states after an operation. -/
theorem DataOp.nodeState_apply (op : DataOp) (data : Data) : (op.apply data).nodeState =
    match op with
    | .updateConsensusState name state => data.nodeState.update name state
    | _ => data.nodeState := by
  cases op
  case setStatusMessage level text now =>
    simp only [DataOp.apply, Data.setStatusMessage]
    split <;> simp [Data.markStatusDirty]
  case clearStatusMessage =>
    simp only [DataOp.apply, Data.clearStatusMessage]
    split <;> simp [Data.markStatusDirty]
  all_goals exact Data.markDirty_nodeState _ _

/-- The store of the node details after an operation. -/
theorem DataOp.nodeDetails_apply (op : DataOp) (data : Data) : (op.apply data).nodeDetails =
    match op with
    | .updateNodeDetail detail => data.nodeDetails.updateNodeDetail detail
    | .mergeNodeRanking ranking => data.nodeDetails.mergeNodeRanking ranking
    | .mergeNodeRankingFor nodeId ranking => data.nodeDetails.mergeNodeRankingFor nodeId ranking
    | .mergeNodeDetail detail => data.nodeDetails.mergeNodeDetail detail
    | .mergeNodeDetailFor nodeId detail => data.nodeDetails.mergeNodeDetailFor nodeId detail
    | .removeNodeDetail nodeId => data.nodeDetails.remove nodeId
    | .markNodeDetailsLoaded => data.nodeDetails.markLoaded
    | _ => data.nodeDetails := by
  cases op
  case setStatusMessage level text now =>
    simp only [DataOp.apply, Data.setStatusMessage]
    split <;> simp [Data.markStatusDirty]
  case clearStatusMessage =>
    simp only [DataOp.apply, Data.clearStatusMessage]
    split <;> simp [Data.markStatusDirty]
  all_goals exact Data.markDirty_nodeDetails _ _

/-- The two states hold the same content in a part. -/
def Data.SameIn (data data' : Data) : Part → Prop
  | .chain => data'.chain = data.chain
  | .nodeState => data'.nodeState = data.nodeState
  | .nodeDetails => data'.nodeDetails = data.nodeDetails
  | .status => data'.status = data.status
  | .system => data'.system = data.system

/-- `data'` came from `data` by a change of one part that marked it and woke the UI. -/
structure Data.Marked (part : Part) (data data' : Data) : Prop where
  flag : ∀ part', data'.uiDirty.get part' = (data.uiDirty.get part' || decide (part' = part))
  waker : data'.uiWaker = data.uiWaker.map fun _ => true
  rest : ∀ part', part' ≠ part → data.SameIn data' part'

/-- Marking a part after a change of that part. -/
theorem Data.marked_markDirty {part : Part} {data changed : Data}
    (dirty : changed.uiDirty = data.uiDirty) (waker : changed.uiWaker = data.uiWaker)
    (rest : ∀ part', part' ≠ part → data.SameIn changed part') :
    data.Marked part (changed.markDirty part) := by
  have flag : ∀ part', (changed.uiDirty.set part).get part' =
      (data.uiDirty.get part' || decide (part' = part)) := by
    intro part'
    cases part <;> cases part' <;> simp [UiDirtyState.get, UiDirtyState.set, dirty]
  have marks : (changed.uiDirty.set part).any = true :=
    (UiDirtyState.any_iff _).mpr ⟨part, by rw [flag]; simp⟩
  unfold markDirty notifyUiIfNeeded
  rw [if_pos marks]
  constructor
  · exact flag
  · rw [waker]
  · intro part' other
    have same := rest part' other
    cases part' <;> exact same

/-- A message that is not set again leaves the store as it was. -/
theorem UiStatusStore.set_unchanged {store : UiStatusStore} {level : StatusLevel} {text : String}
    {now : Nat} (h : (store.set level text now).1 = false) : (store.set level text now).2 = store := by
  simp only [set] at h ⊢
  split at h
  case isTrue shown => rw [if_pos shown]
  case isFalse => cases h

theorem UiStatusStore.clear_unchanged {store : UiStatusStore} (h : store.clear.1 = false) :
    store.clear.2 = store := by
  obtain ⟨statusMessage⟩ := store
  cases statusMessage with
  | none => rfl
  | some message => cases h

/-- An operation changes nothing, or one part, which it marks. -/
theorem DataOp.apply_cases (op : DataOp) (data : Data) :
    op.apply data = data ∨ ∃ part, data.Marked part (op.apply data) := by
  cases op
  case setStatusMessage level text now =>
    simp only [apply, Data.setStatusMessage]
    cases changed : (data.status.set level text now).1 with
    | true =>
      refine .inr ⟨.status, Data.marked_markDirty rfl rfl fun part' other => ?_⟩
      cases part' <;> first | rfl | exact absurd rfl other
    | false => exact .inl (by simp [UiStatusStore.set_unchanged changed])
  case clearStatusMessage =>
    simp only [apply, Data.clearStatusMessage]
    cases changed : data.status.clear.1 with
    | true =>
      refine .inr ⟨.status, Data.marked_markDirty rfl rfl fun part' other => ?_⟩
      cases part' <;> first | rfl | exact absurd rfl other
    | false => exact .inl (by simp [UiStatusStore.clear_unchanged changed])
  all_goals
    simp only [apply, Data.recordBlockSample, Data.updateConsensusState, Data.updateNodeDetail,
      Data.mergeNodeRanking, Data.mergeNodeRankingFor, Data.mergeNodeDetail, Data.mergeNodeDetailFor,
      Data.removeNodeDetail, Data.markNodeDetailsLoaded, Data.replaceSystemStats,
      Data.markChainDirty, Data.markNodeStateDirty, Data.markNodeDetailsDirty, Data.markSystemDirty]
    refine .inr ⟨_, Data.marked_markDirty rfl rfl fun part' other => ?_⟩
    cases part' <;> first | rfl | exact absurd rfl other

end ChainDash.Collect
