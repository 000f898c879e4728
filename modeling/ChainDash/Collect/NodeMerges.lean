import Mathlib.Data.List.DropRight
import ChainDash.Collect.Data
import ChainDash.Lib.Keyed

/-!
# Merging node details

The requests for many nodes complete in any order, and each of them merges a detail,
merges a ranking or removes an entry. An entry depends on the operations of its own node
only, and what it holds can be read off them: the last detail since the last removal, with
the last ranking that found an entry (`details_confluent`).
-/

namespace ChainDash.Collect
set_option autoImplicit false

/-- The operations of the collectors on the details of one node. -/
inductive DetailOp where
  | mergeNodeDetailFor (nodeId : String) (detail : NodeDetail)
  | mergeNodeRankingFor (nodeId : String) (ranking : Option Int)
  | removeNodeDetail (nodeId : String)
  deriving DecidableEq

namespace DetailOp

def nodeId : DetailOp → String
  | .mergeNodeDetailFor nodeId _ => nodeId
  | .mergeNodeRankingFor nodeId _ => nodeId
  | .removeNodeDetail nodeId => nodeId

def apply (data : Data) : DetailOp → Data
  | .mergeNodeDetailFor nodeId detail => data.mergeNodeDetailFor nodeId (some detail)
  | .mergeNodeRankingFor nodeId ranking => data.mergeNodeRankingFor nodeId ranking
  | .removeNodeDetail nodeId => data.removeNodeDetail nodeId

def detail : DetailOp → Option NodeDetail
  | .mergeNodeDetailFor _ detail => some detail
  | _ => none

def ranking : DetailOp → Option Int
  | .mergeNodeRankingFor _ ranking => ranking
  | _ => none

def isRemoval : DetailOp → Bool
  | .removeNodeDetail _ => true
  | _ => false

/-- A merge of a detail or a removal: what decides whether there is an entry. -/
def isWrite (op : DetailOp) : Bool := op.detail.isSome || op.isRemoval

end DetailOp

def detailsAfter (ops : List DetailOp) : Dictionary String NodeDetail :=
  (ops.foldl DetailOp.apply {}).nodeDetails.details

/-! ## What the entry of a node should be -/

/-- A detail without an id gets the id it was merged for, and one without a name its id. -/
def defaulted (nodeId : String) (detail : NodeDetail) : NodeDetail :=
  let ownId := if detail.nodeId.isEmpty then nodeId else detail.nodeId
  { detail with
    nodeId := ownId
    nodeName := if detail.nodeName.isEmpty then ownId else detail.nodeName }

def sinceRemoval (ops : List DetailOp) : List DetailOp := ops.rtakeWhile (!·.isRemoval)

def mergedDetails (ops : List DetailOp) : List NodeDetail := ops.filterMap DetailOp.detail

/-- The rankings merged since the first detail. -/
def mergedRankings (ops : List DetailOp) : List Int :=
  (ops.dropWhile (!·.detail.isSome)).filterMap DetailOp.ranking

/-- The entry after operations of the one node that removed nothing: none before the first
detail, then the last detail, with the last ranking merged, or that of the first detail. -/
def entryOf (nodeId : String) (ops : List DetailOp) : Option NodeDetail :=
  match mergedDetails ops with
  | [] => none
  | first :: rest => some { defaulted nodeId (rest.getLast?.getD first) with
      ranking := (mergedRankings ops).getLast?.getD first.ranking }

/-- The entry after operations that were all for the one node. -/
def expectedDetail (nodeId : String) (ops : List DetailOp) : Option NodeDetail :=
  entryOf nodeId (sinceRemoval ops)

/-- The last operation that wrote or removed the entry. -/
def lastWrite (ops : List DetailOp) : Option DetailOp := (ops.filter DetailOp.isWrite).getLast?

/-! ## One operation -/

/-- What an operation makes of the entry of its node. -/
def updateEntry (entry : Option NodeDetail) : DetailOp → Option NodeDetail
  | .mergeNodeDetailFor nodeId detail =>
    some { defaulted nodeId detail with ranking := (entry.map (·.ranking)).getD detail.ranking }
  | .mergeNodeRankingFor nodeId ranking =>
    match ranking with
    | none => entry
    | some ranking => entry.map fun detail => { detail with
        ranking
        nodeId := if detail.nodeId.isEmpty then nodeId else detail.nodeId
        nodeName := if detail.nodeName.isEmpty then nodeId else detail.nodeName }
  | .removeNodeDetail _ => none

theorem nodeDetailKey_of_ne {nodeId : String} (nonempty : nodeId ≠ "") :
    NodeDetailStore.nodeDetailKey nodeId = nodeId := by
  simp [NodeDetailStore.nodeDetailKey, nonempty]

theorem nameById_withRanking (detail : NodeDetail) (ranking : Int) :
    NodeDetailStore.nameById { detail with ranking } =
      { NodeDetailStore.nameById detail with ranking } := by
  unfold NodeDetailStore.nameById
  split <;> rfl

/-- The two defaults of a merge, one after the other. -/
theorem nameById_withId {nodeId : String} (detail : NodeDetail) (nonempty : nodeId ≠ "") :
    NodeDetailStore.nameById (if detail.nodeId.isEmpty then { detail with nodeId } else detail) =
      defaulted nodeId detail := by
  unfold NodeDetailStore.nameById defaulted
  by_cases noId : detail.nodeId = ""
  · by_cases noName : detail.nodeName = ""
    · simp [noId, noName, nonempty]
    · simp [noId, noName]
  · by_cases noName : detail.nodeName = ""
    · simp [noId, noName]
    · simp [noId, noName]

theorem mergeNodeDetailFor_details (store : NodeDetailStore) {nodeId : String} (detail : NodeDetail)
    (nonempty : nodeId ≠ "") :
    (store.mergeNodeDetailFor nodeId (some detail)).details = store.details.insert nodeId
      { defaulted nodeId detail with
        ranking := ((store.details.lookup nodeId).map (·.ranking)).getD detail.ranking } := by
  unfold NodeDetailStore.mergeNodeDetailFor
  rw [nodeDetailKey_of_ne nonempty]
  dsimp only
  congr 1
  cases store.details.lookup nodeId with
  | none =>
    show NodeDetailStore.nameById _ = _
    rw [nameById_withId detail nonempty]
    rfl
  | some existing =>
    refine (nameById_withRanking _ _).trans ?_
    rw [nameById_withId detail nonempty]
    rfl

/-- An entry with its id and its name: what every merge of a detail leaves behind. -/
structure Named (detail : NodeDetail) : Prop where
  nodeId : detail.nodeId ≠ ""
  nodeName : detail.nodeName ≠ ""

theorem defaulted_named {nodeId : String} (detail : NodeDetail) (nonempty : nodeId ≠ "") :
    Named (defaulted nodeId detail) := by
  have ownId : (defaulted nodeId detail).nodeId ≠ "" := by
    unfold defaulted
    by_cases noId : detail.nodeId = ""
    · simp [noId, nonempty]
    · simp [noId]
  refine ⟨ownId, ?_⟩
  by_cases noName : detail.nodeName = ""
  · simpa [defaulted, noName] using ownId
  · simp [defaulted, noName]

theorem updateEntry_ranking_named {detail : NodeDetail} (named : Named detail) (nodeId : String)
    (ranking : Option Int) :
    updateEntry (some detail) (.mergeNodeRankingFor nodeId ranking) =
      some { detail with ranking := ranking.getD detail.ranking } := by
  cases ranking with
  | none => rfl
  | some ranking => simp [updateEntry, named.nodeId, named.nodeName]

/-- A ranking changes an entry that is there, and adds none. -/
theorem lookup_mergeNodeRankingFor (store : NodeDetailStore) {own : String} (ranking : Option Int)
    (nonempty : own ≠ "") (nodeId : String) :
    (store.mergeNodeRankingFor own ranking).details.lookup nodeId =
      if nodeId = own then
        updateEntry (store.details.lookup own) (.mergeNodeRankingFor own ranking)
      else store.details.lookup nodeId := by
  unfold NodeDetailStore.mergeNodeRankingFor
  cases ranking with
  | none =>
    by_cases same : nodeId = own
    · rw [if_pos same, same]; rfl
    · rw [if_neg same]
  | some ranking =>
    dsimp only
    rw [nodeDetailKey_of_ne nonempty]
    cases present : store.details.lookup own with
    | none =>
      by_cases same : nodeId = own
      · rw [if_pos same, same, present]; rfl
      · rw [if_neg same]
    | some detail => simp [Dictionary.lookup_insert_eq, updateEntry, nonempty]

/-- Each operation changes the entry of its own node, as `updateEntry` says. -/
theorem DetailOp.lookup_apply {op : DetailOp} (nonempty : op.nodeId ≠ "") (data : Data)
    (nodeId : String) :
    (op.apply data).nodeDetails.details.lookup nodeId =
      if nodeId = op.nodeId then updateEntry (data.nodeDetails.details.lookup op.nodeId) op
      else data.nodeDetails.details.lookup nodeId := by
  cases op with
  | mergeNodeDetailFor own detail =>
    change own ≠ "" at nonempty
    simp only [apply, Data.mergeNodeDetailFor, Data.markNodeDetailsDirty, Data.markDirty_nodeDetails]
    rw [mergeNodeDetailFor_details _ _ nonempty, Dictionary.lookup_insert_eq]
    rfl
  | mergeNodeRankingFor own ranking =>
    change own ≠ "" at nonempty
    simp only [apply, Data.mergeNodeRankingFor, Data.markNodeDetailsDirty, Data.markDirty_nodeDetails]
    exact lookup_mergeNodeRankingFor data.nodeDetails ranking nonempty nodeId
  | removeNodeDetail own =>
    change own ≠ "" at nonempty
    simp only [apply, Data.removeNodeDetail, Data.markNodeDetailsDirty, Data.markDirty_nodeDetails,
      NodeDetailStore.remove]
    rw [nodeDetailKey_of_ne nonempty]
    split
    case isTrue same => rw [same]; exact AList.lookup_erase _ _
    case isFalse other => exact AList.lookup_erase_ne other

theorem DetailOp.acts {op : DetailOp} (nonempty : op.nodeId ≠ "") :
    Keyed.Acts (fun (data : Data) nodeId => data.nodeDetails.details.lookup nodeId) DetailOp.nodeId
      updateEntry DetailOp.apply op := by
  constructor
  · intro data
    rw [lookup_apply nonempty, if_pos rfl]
  · intro data nodeId other
    rw [lookup_apply nonempty, if_neg other]

/-! ## The whole history of one node -/

@[simp] theorem mergedDetails_snoc (ops : List DetailOp) (op : DetailOp) :
    mergedDetails (ops ++ [op]) = mergedDetails ops ++ op.detail.toList := by
  cases detail : op.detail <;> simp [mergedDetails, detail]

theorem mergedDetails_eq_nil {ops : List DetailOp} :
    mergedDetails ops = [] ↔ ∀ op ∈ ops, op.detail = none := by
  simp [mergedDetails, List.filterMap_eq_nil_iff]

/-- Rankings count once there is a detail. -/
theorem mergedRankings_snoc (ops : List DetailOp) (op : DetailOp) :
    mergedRankings (ops ++ [op]) =
      mergedRankings ops ++ if mergedDetails ops = [] then [] else op.ranking.toList := by
  unfold mergedRankings
  rw [List.dropWhile_append]
  by_cases none : mergedDetails ops = []
  · have all : ops.dropWhile (!·.detail.isSome) = [] := by
      rw [List.dropWhile_eq_nil_iff]
      intro op mem
      simp [mergedDetails_eq_nil.mp none op mem]
    rw [if_pos none, all]
    cases op <;> rfl
  · have some : ops.dropWhile (!·.detail.isSome) ≠ [] := by
      intro all
      rw [List.dropWhile_eq_nil_iff] at all
      refine none (mergedDetails_eq_nil.mpr fun op mem => ?_)
      simpa using all op mem
    rw [if_neg none, if_neg (by simpa using some), List.filterMap_append]
    cases ranking : op.ranking <;> simp [ranking]

theorem sinceRemoval_removal (ops : List DetailOp) {op : DetailOp} (removal : op.isRemoval = true) :
    sinceRemoval (ops ++ [op]) = [] :=
  List.rtakeWhile_concat_neg _ _ _ (by simp [removal])

theorem sinceRemoval_snoc (ops : List DetailOp) {op : DetailOp} (kept : op.isRemoval = false) :
    sinceRemoval (ops ++ [op]) = sinceRemoval ops ++ [op] :=
  List.rtakeWhile_concat_pos _ _ _ (by simp [kept])

theorem mergedRankings_of_none {ops : List DetailOp} (none : mergedDetails ops = []) :
    mergedRankings ops = [] := by
  unfold mergedRankings
  rw [List.dropWhile_eq_nil_iff.mpr fun op mem => by simp [mergedDetails_eq_nil.mp none op mem]]
  rfl

theorem entryOf_named {nodeId : String} (nonempty : nodeId ≠ "") {ops : List DetailOp}
    {detail : NodeDetail} (expected : entryOf nodeId ops = some detail) : Named detail := by
  unfold entryOf at expected
  split at expected
  case h_1 => cases expected
  case h_2 first rest merged =>
    obtain rfl := Option.some.inj expected
    obtain ⟨ownId, ownName⟩ := defaulted_named (rest.getLast?.getD first) nonempty
    exact ⟨ownId, ownName⟩

theorem entryOf_snoc {nodeId : String} (nonempty : nodeId ≠ "") (ops : List DetailOp)
    {op : DetailOp} (own : op.nodeId = nodeId) (kept : op.isRemoval = false) :
    entryOf nodeId (ops ++ [op]) = updateEntry (entryOf nodeId ops) op := by
  subst own
  cases op with
  | removeNodeDetail id => cases kept
  | mergeNodeDetailFor id detail =>
    unfold entryOf
    simp only [mergedDetails_snoc, mergedRankings_snoc, DetailOp.detail, DetailOp.ranking,
      Option.toList_none, Option.toList_some]
    cases merged : mergedDetails ops with
    | nil => simp [updateEntry, mergedRankings_of_none merged, DetailOp.nodeId]
    | cons first rest => simp [updateEntry, DetailOp.nodeId]
  | mergeNodeRankingFor id ranking =>
    cases merged : mergedDetails ops with
    | nil =>
      have before : entryOf id ops = none := by simp [entryOf, merged]
      rw [show (DetailOp.mergeNodeRankingFor id ranking).nodeId = id from rfl, before]
      cases ranking <;> simp [entryOf, updateEntry, merged, DetailOp.detail]
    | cons first rest =>
      have before : entryOf id ops = some { defaulted id (rest.getLast?.getD first) with
        ranking := (mergedRankings ops).getLast?.getD first.ranking } := by simp [entryOf, merged]
      rw [show (DetailOp.mergeNodeRankingFor id ranking).nodeId = id from rfl, before,
        updateEntry_ranking_named (entryOf_named nonempty before)]
      cases ranking <;> simp [entryOf, merged, mergedRankings_snoc, DetailOp.detail, DetailOp.ranking]

/-- One more operation of the node. -/
theorem expectedDetail_snoc {nodeId : String} (nonempty : nodeId ≠ "") (ops : List DetailOp)
    {op : DetailOp} (own : op.nodeId = nodeId) :
    expectedDetail nodeId (ops ++ [op]) = updateEntry (expectedDetail nodeId ops) op := by
  unfold expectedDetail
  cases removal : op.isRemoval with
  | true =>
    rw [sinceRemoval_removal ops removal]
    cases op with
    | removeNodeDetail id => rfl
    | mergeNodeDetailFor id detail => cases removal
    | mergeNodeRankingFor id ranking => cases removal
  | false =>
    rw [sinceRemoval_snoc ops removal]
    exact entryOf_snoc nonempty _ own removal

theorem foldl_updateEntry {nodeId : String} (nonempty : nodeId ≠ "") {ops : List DetailOp}
    (own : ∀ op ∈ ops, op.nodeId = nodeId) :
    ops.foldl updateEntry none = expectedDetail nodeId ops := by
  induction ops using List.reverseRecOn with
  | nil => rfl
  | append_singleton ops op ih =>
    rw [List.foldl_append, List.foldl_cons, List.foldl_nil,
      ih fun op mem => own op (List.mem_append_left _ mem),
      expectedDetail_snoc nonempty ops (own op (by simp))]

theorem isSome_entryOf (nodeId : String) (ops : List DetailOp) :
    (entryOf nodeId ops).isSome ↔ mergedDetails ops ≠ [] := by
  unfold entryOf
  split
  case h_1 merged => simp [merged]
  case h_2 merged => simp [merged]

theorem lastWrite_snoc (ops : List DetailOp) (op : DetailOp) :
    lastWrite (ops ++ [op]) = if op.isWrite then some op else lastWrite ops := by
  unfold lastWrite
  rw [List.filter_append]
  cases write : op.isWrite <;> simp [write]

/-- There is an entry exactly when the last write was a merge. -/
theorem isSome_expectedDetail (nodeId : String) (ops : List DetailOp) :
    (expectedDetail nodeId ops).isSome ↔ ∃ op, lastWrite ops = some op ∧ op.detail.isSome := by
  unfold expectedDetail
  rw [isSome_entryOf]
  induction ops using List.reverseRecOn with
  | nil => simp [sinceRemoval, mergedDetails, lastWrite]
  | append_singleton ops op ih =>
    rw [lastWrite_snoc]
    cases op with
    | removeNodeDetail id =>
      rw [sinceRemoval_removal ops rfl]
      simp [mergedDetails, DetailOp.isWrite, DetailOp.isRemoval, DetailOp.detail]
    | mergeNodeDetailFor id detail =>
      rw [sinceRemoval_snoc ops rfl]
      simp [DetailOp.isWrite, DetailOp.detail]
    | mergeNodeRankingFor id ranking =>
      rw [sinceRemoval_snoc ops rfl, mergedDetails_snoc]
      simpa [DetailOp.isWrite, DetailOp.detail, DetailOp.isRemoval] using ih

/-! ## Any interleaving -/

theorem lookup_detailsAfter {ops : List DetailOp} (nonempty : ∀ op ∈ ops, op.nodeId ≠ "")
    (nodeId : String) :
    (detailsAfter ops).lookup nodeId = expectedDetail nodeId (ops.filter (·.nodeId = nodeId)) := by
  have acts : ∀ op ∈ ops, Keyed.Acts _ _ _ _ op := fun op mem => DetailOp.acts (nonempty op mem)
  refine (Keyed.view_foldl acts {} nodeId).trans ?_
  have own : ∀ op ∈ ops.filter (·.nodeId = nodeId), op.nodeId = nodeId := by
    intro op mem
    simpa using (List.mem_filter.mp mem).2
  by_cases asked : nodeId = ""
  · have nothing : ops.filter (·.nodeId = nodeId) = [] := by
      rw [List.filter_eq_nil_iff]
      intro op mem
      simpa [asked] using nonempty op mem
    rw [nothing]
    rfl
  · exact foldl_updateEntry asked own

/-- The details after any interleaving: the entry of each node is the one its own operations
say, and operations interleaved in another way leave the same map. -/
theorem details_confluent (ops : List DetailOp) (nonempty : ∀ op ∈ ops, op.nodeId ≠ "") :
    (∀ nodeId, (detailsAfter ops).lookup nodeId =
      expectedDetail nodeId (ops.filter (·.nodeId = nodeId))) ∧
    (∀ nodeId, nodeId ∈ detailsAfter ops ↔
      ∃ op, lastWrite (ops.filter (·.nodeId = nodeId)) = some op ∧ op.detail.isSome) ∧
    ∀ ops' : List DetailOp,
      (∀ nodeId, ops'.filter (·.nodeId = nodeId) = ops.filter (·.nodeId = nodeId)) →
        (detailsAfter ops').entries.Perm (detailsAfter ops).entries := by
  have lookup := lookup_detailsAfter nonempty
  refine ⟨lookup, ?_, ?_⟩
  · intro nodeId
    rw [← AList.lookup_isSome, lookup, isSome_expectedDetail]
  · intro ops' same
    have nonempty' : ∀ op ∈ ops', op.nodeId ≠ "" := by
      intro op mem
      have kept : op ∈ ops'.filter (·.nodeId = op.nodeId) := List.mem_filter.mpr ⟨mem, by simp⟩
      rw [same] at kept
      exact nonempty op (List.mem_filter.mp kept).1
    rw [Dictionary.perm_iff_lookup]
    intro nodeId
    rw [lookup_detailsAfter nonempty', lookup, same]

/-- A ranking between two details of one node, another node removed between them. -/
theorem details_confluent_twoNodes :
    ((detailsAfter [.mergeNodeDetailFor "a" { ranking := 1 }, .removeNodeDetail "b",
      .mergeNodeRankingFor "a" (some 7), .mergeNodeDetailFor "a" { blockQty := 5 }]).lookup "a") =
      some { nodeId := "a", nodeName := "a", ranking := 7, blockQty := 5 } := by
  rw [(details_confluent _ (by decide)).1 "a"]
  decide +kernel

end ChainDash.Collect
