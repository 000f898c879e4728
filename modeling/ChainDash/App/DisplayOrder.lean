import ChainDash.Collect.DailySnapshot
import ChainDash.Collect.NodeMerges
import ChainDash.Lib.Sorting
import ChainDash.Notify.Messages

/-!
# What is displayed does not depend on hash-map order

The node states and the node details are kept in hash maps, and a map may be enumerated in
another order before each operation. What the collectors store is under the key that it
carries, so the lists shown, sorted by a key that contains the carried one, are the same in
all these runs (`display_deterministic`).
-/

namespace ChainDash.App
set_option autoImplicit false

open Collect Notify

/-! ## Runs of the collectors -/

/-- The operations of the collectors, each with the name or the id that its value carries. -/
def FromCollectors : DataOp → Prop
  | .updateConsensusState name state => state.name = name
  | .mergeNodeDetailFor nodeId detail => nodeId ≠ "" ∧ ∀ detail' ∈ detail, detail'.nodeId = nodeId
  | .mergeNodeRankingFor nodeId _ => nodeId ≠ ""
  | .removeNodeDetail nodeId => nodeId ≠ ""
  | .updateNodeDetail _ | .mergeNodeRanking _ | .mergeNodeDetail _ => False
  | _ => True

/-- The same data, with the two maps in another order of enumeration. -/
def Reordered (data data' : Data) : Prop :=
  ∃ states details,
    data.nodeState.states.entries.Perm states.entries ∧
    data.nodeDetails.details.entries.Perm details.entries ∧
    data' = { data with
      nodeState := { states }
      nodeDetails := { data.nodeDetails with details } }

/-- A history, with the maps enumerated anew before each operation and at the end. -/
def Runs : Data → List DataOp → Data → Prop
  | data, [], data' => Reordered data data'
  | data, op :: ops, data' => ∃ between, Reordered data between ∧ Runs (op.apply between) ops data'

/-! ## One operation -/

/-- What an operation makes of the state stored for a node. -/
def stateAfter (op : DataOp) (name : String) (entry : Option ConsensusState) : Option ConsensusState :=
  match op with
  | .updateConsensusState own state => if name = own then some state else entry
  | _ => entry

/-- The operation on the details of one node, if it is one. -/
def detailOp : DataOp → Option DetailOp
  | .mergeNodeDetailFor nodeId (some detail) => some (.mergeNodeDetailFor nodeId detail)
  | .mergeNodeRankingFor nodeId ranking => some (.mergeNodeRankingFor nodeId ranking)
  | .removeNodeDetail nodeId => some (.removeNodeDetail nodeId)
  | _ => none

/-- What an operation makes of the detail stored for a node. -/
def detailAfter (op : DataOp) (nodeId : String) (entry : Option NodeDetail) : Option NodeDetail :=
  match detailOp op with
  | some own => if nodeId = own.nodeId then updateEntry entry own else entry
  | none => entry

/-- An operation on no one node leaves the map of the details as it is. -/
theorem details_apply_of_none {op : DataOp} (collected : FromCollectors op) (data : Data)
    (none : detailOp op = none) : (op.apply data).nodeDetails.details = data.nodeDetails.details := by
  rw [op.nodeDetails_apply]
  cases op
  case updateNodeDetail | mergeNodeRanking | mergeNodeDetail => exact collected.elim
  case mergeNodeRankingFor | removeNodeDetail => cases none
  case mergeNodeDetailFor nodeId detail =>
    cases detail with
    | none => rfl
    | some detail => cases none
  all_goals rfl

theorem detailOp_eq_some {op : DataOp} {own : DetailOp} (collected : FromCollectors op)
    (some : detailOp op = some own) :
    own.nodeId ≠ "" ∧ (∀ detail ∈ own.detail, detail.nodeId = own.nodeId) ∧
      ∀ data, op.apply data = own.apply data := by
  cases op
  case mergeNodeDetailFor nodeId detail =>
    cases detail with
    | none => cases some
    | some detail =>
      cases some
      exact ⟨collected.1, collected.2, fun data => rfl⟩
  case mergeNodeRankingFor nodeId ranking =>
    cases some
    exact ⟨collected, by simp [DetailOp.detail], fun data => rfl⟩
  case removeNodeDetail nodeId =>
    cases some
    exact ⟨collected, by simp [DetailOp.detail], fun data => rfl⟩
  all_goals cases some

theorem lookup_states_apply (op : DataOp) (data : Data) (name : String) :
    (op.apply data).nodeState.states.lookup name =
      stateAfter op name (data.nodeState.states.lookup name) := by
  rw [op.nodeState_apply]
  cases op
  case updateConsensusState own state => exact Dictionary.lookup_insert_eq _ _ _ _
  all_goals rfl

theorem lookup_details_apply {op : DataOp} (collected : FromCollectors op) (data : Data)
    (nodeId : String) :
    (op.apply data).nodeDetails.details.lookup nodeId =
      detailAfter op nodeId (data.nodeDetails.details.lookup nodeId) := by
  unfold detailAfter
  cases own : detailOp op with
  | none => rw [details_apply_of_none collected data own]
  | some own =>
    obtain ⟨nonempty, -, same⟩ := detailOp_eq_some collected own
    rw [same, DetailOp.lookup_apply nonempty]
    dsimp only
    split
    case isTrue here => rw [here]
    case isFalse => rfl

/-! ## Runs show the same maps -/

/-- The two maps hold the same entries. -/
structure SameMaps (data data' : Data) : Prop where
  states : ∀ name, data.nodeState.states.lookup name = data'.nodeState.states.lookup name
  details : ∀ nodeId, data.nodeDetails.details.lookup nodeId = data'.nodeDetails.details.lookup nodeId

/-- What is stored for a node carries its name or its id. -/
structure Identified (data : Data) : Prop where
  states : Dictionary.CarriesKeys ConsensusState.name data.nodeState.states
  details : Dictionary.CarriesKeys NodeDetail.nodeId data.nodeDetails.details

variable {data data' : Data} {op : DataOp} {ops : List DataOp}

theorem Reordered.sameMaps (reordered : Reordered data data') : SameMaps data data' := by
  obtain ⟨states, details, statesPerm, detailsPerm, rfl⟩ := reordered
  exact ⟨Dictionary.perm_iff_lookup.mp statesPerm, Dictionary.perm_iff_lookup.mp detailsPerm⟩

theorem SameMaps.apply (same : SameMaps data data') (collected : FromCollectors op) :
    SameMaps (op.apply data) (op.apply data') := by
  constructor
  · intro name
    rw [lookup_states_apply, lookup_states_apply, same.states]
  · intro nodeId
    rw [lookup_details_apply collected, lookup_details_apply collected, same.details]

/-- An entry keeps the id that it is stored under. -/
theorem nodeId_updateEntry {own : DetailOp} {entry : Option NodeDetail}
    (carried : ∀ detail ∈ own.detail, detail.nodeId = own.nodeId)
    (before : ∀ detail ∈ entry, detail.nodeId = own.nodeId) :
    ∀ detail ∈ updateEntry entry own, detail.nodeId = own.nodeId := by
  cases own with
  | mergeNodeDetailFor nodeId detail =>
    have same : detail.nodeId = nodeId := carried detail rfl
    rintro _ ⟨⟩
    show (defaulted nodeId detail).nodeId = nodeId
    simp [defaulted, same]
  | mergeNodeRankingFor nodeId ranking =>
    cases ranking with
    | none => exact before
    | some ranking =>
      intro detail found
      obtain ⟨stored, here, rfl⟩ := Option.map_eq_some_iff.mp found
      have same : stored.nodeId = nodeId := before stored here
      show (if stored.nodeId.isEmpty then nodeId else stored.nodeId) = nodeId
      rw [same, ite_self]
  | removeNodeDetail nodeId => rintro _ ⟨⟩

theorem SameMaps.identified (same : SameMaps data data') (identified : Identified data) :
    Identified data' :=
  ⟨identified.states.congr same.states, identified.details.congr same.details⟩

theorem Identified.apply (identified : Identified data) (collected : FromCollectors op) :
    Identified (op.apply data) := by
  constructor
  · intro name state found
    rw [lookup_states_apply] at found
    have before := identified.states name state
    cases op
    case updateConsensusState own written =>
      unfold stateAfter at found
      dsimp only at found
      split at found
      case isTrue same =>
        obtain rfl := Option.some.inj found
        exact collected.trans same.symm
      case isFalse => exact before found
    all_goals exact before found
  · intro nodeId detail found
    rw [lookup_details_apply collected] at found
    have before := identified.details nodeId
    unfold detailAfter at found
    cases own : detailOp op with
    | none =>
      rw [own] at found
      exact before detail found
    | some own =>
      obtain ⟨nonempty, carried, -⟩ := detailOp_eq_some collected own
      rw [own] at found
      dsimp only at found
      split at found
      case isFalse => exact before detail found
      case isTrue here =>
        subst here
        exact nodeId_updateEntry carried before detail found

/-! ## Whole runs -/

theorem Reordered.refl (data : Data) : Reordered data data :=
  ⟨data.nodeState.states, data.nodeDetails.details, .refl _, .refl _, rfl⟩

theorem Runs.foldl (start : Data) (ops : List DataOp) (last : Reordered (ops.foldl DataOp.apply start) data) :
    Runs start ops data := by
  induction ops generalizing start with
  | nil => exact last
  | cons op ops ih => exact ⟨start, .refl start, ih (op.apply start) last⟩

theorem Runs.identified (run : Runs data ops data') (collected : ∀ op ∈ ops, FromCollectors op)
    (identified : Identified data) : Identified data' := by
  induction ops generalizing data with
  | nil => exact (Reordered.sameMaps run).identified identified
  | cons op ops ih =>
    obtain ⟨between, reordered, rest⟩ := run
    have before := reordered.sameMaps.identified identified
    exact ih rest (fun op mem => collected op (List.mem_cons_of_mem _ mem))
      (before.apply (collected op (by simp)))

theorem SameMaps.symm (same : SameMaps data data') : SameMaps data' data :=
  ⟨fun name => (same.states name).symm, fun nodeId => (same.details nodeId).symm⟩

theorem SameMaps.trans {data'' : Data} (same : SameMaps data data') (same' : SameMaps data' data'') :
    SameMaps data data'' :=
  ⟨fun name => (same.states name).trans (same'.states name),
    fun nodeId => (same.details nodeId).trans (same'.details nodeId)⟩

/-- Two runs of one history, from the same maps, end with the same maps. -/
theorem Runs.sameMaps {start start' : Data} (run : Runs start ops data) (run' : Runs start' ops data')
    (collected : ∀ op ∈ ops, FromCollectors op) (same : SameMaps start start') :
    SameMaps data data' := by
  induction ops generalizing start start' with
  | nil => exact (Reordered.sameMaps run).symm.trans (same.trans (Reordered.sameMaps run'))
  | cons op ops ih =>
    obtain ⟨between, reordered, rest⟩ := run
    obtain ⟨between', reordered', rest'⟩ := run'
    have step := (reordered.sameMaps.symm.trans (same.trans reordered'.sameMaps)).apply
      (collected op (by simp))
    exact ih rest rest' (fun op mem => collected op (List.mem_cons_of_mem _ mem)) step

/-! ## The lists shown -/

def stateKey (state : ConsensusState) : String ×ₗ String ×ₗ ℕ :=
  toLex (state.name, toLex (state.host, state.currentNumber.toNat))

def detailKey (detail : NodeDetail) : String ×ₗ String ×ₗ ℤ :=
  toLex (detail.nodeName, toLex (detail.nodeId, detail.ranking))

theorem stateLe_iff (left right : ConsensusState) :
    ConsensusState.Le left right ↔ stateKey left ≤ stateKey right := Iff.rfl

theorem detailLe_iff (left right : NodeDetail) :
    NodeDetail.Le left right ↔ detailKey left ≤ detailKey right := Iff.rfl

/-- The order of the details shown: by name, then by id. -/
def DetailBefore (left right : NodeDetail) : Prop :=
  left.nodeName < right.nodeName ∨ left.nodeName = right.nodeName ∧ left.nodeId < right.nodeId

theorem nodup_detailKey {details : List NodeDetail} (distinct : (details.map (·.nodeId)).Nodup) :
    (details.map detailKey).Nodup := by
  refine List.Nodup.of_map (fun key => (ofLex (ofLex key).2).1) ?_
  rw [List.map_map]
  exact distinct

theorem perm_sorted_states (data : Data) :
    data.nodeState.sorted.Perm (Dictionary.values data.nodeState.states) := List.perm_insertionSort _ _

theorem perm_sorted_details (data : Data) :
    data.nodeDetails.sorted.Perm (Dictionary.values data.nodeDetails.details) :=
  List.perm_insertionSort _ _

theorem Identified.nodup_names (identified : Identified data) :
    (data.nodeState.sorted.map (·.name)).Nodup :=
  ((perm_sorted_states data).map _).nodup_iff.mpr identified.states.nodup_values

theorem Identified.nodup_ids (identified : Identified data) :
    (data.nodeDetails.sorted.map (·.nodeId)).Nodup :=
  ((perm_sorted_details data).map _).nodup_iff.mpr identified.details.nodup_values

theorem Identified.sorted_states (identified : Identified data) :
    data.nodeState.sorted.Pairwise (·.name < ·.name) := by
  have sorted := Sorting.pairwise_insertionSort_key stateLe_iff
    (Dictionary.values data.nodeState.states)
  have apart := identified.nodup_names
  rw [List.nodup_iff_pairwise_ne, List.pairwise_map] at apart
  refine (List.Pairwise.and sorted apart).imp fun {left right} ⟨le, ne⟩ => ?_
  exact ((Prod.Lex.toLex_le_toLex.mp le).resolve_right fun same => ne same.1)

theorem Identified.sorted_details (identified : Identified data) :
    data.nodeDetails.sorted.Pairwise DetailBefore := by
  have sorted := Sorting.pairwise_insertionSort_key detailLe_iff
    (Dictionary.values data.nodeDetails.details)
  have apart := identified.nodup_ids
  rw [List.nodup_iff_pairwise_ne, List.pairwise_map] at apart
  refine (List.Pairwise.and sorted apart).imp fun {left right} ⟨le, ne⟩ => ?_
  rcases Prod.Lex.toLex_le_toLex.mp le with name | ⟨name, rest⟩
  · exact .inl name
  · refine .inr ⟨name, ?_⟩
    exact ((Prod.Lex.toLex_le_toLex.mp rest).resolve_right fun same => ne same.1)

theorem Identified.sorted_congr (identified : Identified data) (same : SameMaps data data') :
    data.nodeState.sorted = data'.nodeState.sorted ∧
      data.nodeDetails.sorted = data'.nodeDetails.sorted := by
  constructor
  · refine Sorting.insertionSort_key_congr stateLe_iff ?_ (Dictionary.values_perm same.states)
    refine List.Nodup.of_map (fun key => (ofLex key).1) ?_
    rw [List.map_map]
    exact identified.states.nodup_values
  · exact Sorting.insertionSort_key_congr detailLe_iff
      (nodup_detailKey identified.details.nodup_values) (Dictionary.values_perm same.details)

/-! ## The daily summary -/

def summaryKey (detail : DailyNodeSummaryDetail) : String ×ₗ String ×ₗ ℤ :=
  toLex (detail.nodeName, toLex (detail.nodeId, detail.ranking))

theorem summaryLe_iff (left right : DailyNodeSummaryDetail) :
    SummaryLe left right ↔ summaryKey left ≤ summaryKey right := Iff.rfl

/-- A message on rows of distinct keys does not depend on their order. -/
theorem renderDailySummaryMessage_perm (templates : TelegramTemplates) (date : String)
    {rows rows' : List DailyNodeSummaryDetail} (distinct : (rows.map summaryKey).Nodup)
    (perm : rows.Perm rows') :
    templates.renderDailySummaryMessage date rows = templates.renderDailySummaryMessage date rows' := by
  have title : resolveDailySummaryTitle date rows = resolveDailySummaryTitle date rows' := by
    unfold resolveDailySummaryTitle
    rw [perm.any_eq]
  have details := Sorting.insertionSort_key_congr summaryLe_iff distinct perm
  unfold TelegramTemplates.renderDailySummaryMessage
  rw [title, details, perm.length_eq, perm.isEmpty_eq]

theorem map_summaryKey (details : List NodeDetail) (previous monthly : Option StoredDailyNodeSnapshot)
    (showMonthlyTotals : Bool) :
    (buildDailySummaryDetails details previous monthly showMonthlyTotals).map summaryKey =
      details.map detailKey := by
  unfold buildDailySummaryDetails
  rw [List.map_map]
  rfl

/-- Two runs of one history of the collectors, however their maps are enumerated, show the
same states and details, each once and in order; and the daily summary is the same for the
details in any order. -/
theorem display_deterministic (ops : List DataOp) (collected : ∀ op ∈ ops, FromCollectors op)
    (run : Runs {} ops data) (run' : Runs {} ops data') :
    data.nodeState.sorted = data'.nodeState.sorted ∧
    data.nodeDetails.sorted = data'.nodeDetails.sorted ∧
    data.nodeState.sorted.Pairwise (·.name < ·.name) ∧
    data.nodeState.sorted.Perm (Dictionary.values data.nodeState.states) ∧
    data.nodeDetails.sorted.Pairwise DetailBefore ∧
    data.nodeDetails.sorted.Perm (Dictionary.values data.nodeDetails.details) ∧
    (data.nodeDetails.sorted.map (·.nodeId)).Nodup ∧
    ∀ (templates : TelegramTemplates) (date : String) (previous monthly : Option StoredDailyNodeSnapshot)
      (showMonthlyTotals : Bool) (details : List NodeDetail), data.nodeDetails.sorted.Perm details →
      templates.renderDailySummaryMessage date
          (buildDailySummaryDetails details previous monthly showMonthlyTotals) =
        templates.renderDailySummaryMessage date
          (buildDailySummaryDetails data.nodeDetails.sorted previous monthly showMonthlyTotals) := by
  have start : Identified {} := by
    constructor
    · intro name state found
      cases found
    · intro nodeId detail found
      cases found
  have identified := run.identified collected start
  have same := run.sameMaps run' collected ⟨fun _ => rfl, fun _ => rfl⟩
  obtain ⟨states, details⟩ := identified.sorted_congr same
  refine ⟨states, details, identified.sorted_states, perm_sorted_states data,
    identified.sorted_details, perm_sorted_details data, identified.nodup_ids, ?_⟩
  intro templates date previous monthly showMonthlyTotals details perm
  apply Eq.symm
  apply renderDailySummaryMessage_perm
  · rw [map_summaryKey]
    exact nodup_detailKey identified.nodup_ids
  · exact perm.map _

/-- Two nodes, enumerated in the one order and in the other. -/
theorem display_deterministic_twoNodes :
    let x : NodeDetail := { nodeId := "0xa", nodeName := "x" }
    let y : NodeDetail := { nodeId := "0xb", nodeName := "x" }
    let details : Dictionary String NodeDetail := ∅
    NodeDetailStore.sorted { details := (details.insert "0xa" x).insert "0xb" y } =
      NodeDetailStore.sorted { details := (details.insert "0xb" y).insert "0xa" x } := by
  intro x y details
  have collected : ∀ op ∈ [DataOp.mergeNodeDetailFor "0xa" (some x), .mergeNodeDetailFor "0xb" (some y)],
      FromCollectors op := by simp [FromCollectors, x, y]
  have swap : ((details.insert "0xa" x).insert "0xb" y).entries.Perm
      ((details.insert "0xb" y).insert "0xa" x).entries := AList.insert_insert_of_ne _ (by decide)
  exact (display_deterministic _ collected (.foldl _ _ (.refl _))
    (.foldl _ _ ⟨_, _, .refl _, swap, rfl⟩)).2.1

end ChainDash.App
