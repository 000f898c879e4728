import ChainDash.Collect.Data
import ChainDash.Lib.Lts

/-!
# The reserved key of the node details

A detail without an id is stored under a reserved key. The key stays hidden as long as no
detail without an id is merged into a store whose only entry is under it: that merge takes the
key for the id of the detail (`reserved_key_hidden_iff`).
-/

namespace ChainDash.Collect
set_option autoImplicit false

/-- A detail that does not show the reserved key. -/
structure Hides (detail : NodeDetail) : Prop where
  nodeId : detail.nodeId ≠ defaultNodeDetailKey
  nodeName : detail.nodeName ≠ defaultNodeDetailKey

/-- What `node_details`, `node_detail` and `node_detail_for` return. -/
def Shown (store : NodeDetailStore) (detail : NodeDetail) : Prop :=
  detail ∈ store.sorted ∨ store.first = some detail ∨ ∃ nodeId, store.get nodeId = some detail

def Hidden (store : NodeDetailStore) : Prop := ∀ detail, Shown store detail → Hides detail

/-- The callers supply neither an id nor a name that is the reserved key. -/
def Supplied : DataOp → Prop
  | .updateNodeDetail detail => ∀ detail' ∈ detail, Hides detail'
  | .mergeNodeRankingFor nodeId _ => nodeId ≠ defaultNodeDetailKey
  | .mergeNodeDetail detail => ∀ detail' ∈ detail, Hides detail'
  | .mergeNodeDetailFor nodeId detail =>
    nodeId ≠ defaultNodeDetailKey ∧ ∀ detail' ∈ detail, Hides detail'
  | .removeNodeDetail nodeId => nodeId ≠ defaultNodeDetailKey
  | _ => True

/-- A detail without an id is merged while the only entry is under the reserved key. -/
def Reveals (store : NodeDetailStore) : DataOp → Prop
  | .mergeNodeDetail detail =>
    (∃ detail' ∈ detail, detail'.nodeId = "") ∧
      ∃ stored, store.details.entries = [⟨defaultNodeDetailKey, stored⟩]
  | _ => False

variable {store : NodeDetailStore}

theorem shown_iff {detail : NodeDetail} :
    Shown store detail ↔ ∃ key, store.details.lookup key = some detail := by
  have sorted : detail ∈ store.sorted ↔ ∃ key, store.details.lookup key = some detail := by
    unfold NodeDetailStore.sorted
    rw [List.mem_insertionSort, Dictionary.mem_values]
  constructor
  · rintro (listed | first | ⟨nodeId, found⟩)
    · exact sorted.mp listed
    · exact sorted.mp (List.mem_of_head? first)
    · exact ⟨_, found⟩
  · intro found
    exact .inl (sorted.mpr found)

theorem hidden_iff : Hidden store ↔ ∀ key detail, store.details.lookup key = some detail → Hides detail := by
  unfold Hidden
  simp only [shown_iff, forall_exists_index]
  exact forall_comm

/-! ## What each operation stores -/

section Hides

variable {detail : NodeDetail}

theorem Hides.withRanking (hides : Hides detail) (ranking : Int) : Hides { detail with ranking } :=
  ⟨hides.nodeId, hides.nodeName⟩

theorem Hides.withId (hides : Hides detail) {nodeId : String} (free : nodeId ≠ defaultNodeDetailKey) :
    Hides (if detail.nodeId.isEmpty then { detail with nodeId } else detail) := by
  split
  · exact ⟨free, hides.nodeName⟩
  · exact hides

theorem Hides.nameById (hides : Hides detail) : Hides (NodeDetailStore.nameById detail) := by
  unfold NodeDetailStore.nameById
  split
  · exact ⟨hides.nodeId, hides.nodeId⟩
  · exact hides

end Hides

theorem Hidden.lookup (hidden : Hidden store) {key : String} {detail : NodeDetail}
    (found : store.details.lookup key = some detail) : Hides detail := hidden_iff.mp hidden key detail found

theorem Hidden.insert (hidden : Hidden store) (key : String) {detail : NodeDetail} (hides : Hides detail)
    (loaded : Bool) : Hidden { details := store.details.insert key detail, loaded } := by
  rw [hidden_iff]
  intro key' detail' found
  rw [Dictionary.lookup_insert_eq] at found
  split at found
  · obtain rfl := Option.some.inj found
    exact hides
  · exact hidden.lookup found

theorem hidden_empty (loaded : Bool) : Hidden { details := ∅, loaded } := by
  rw [hidden_iff]
  intro key detail found
  cases found

theorem Hidden.updateNodeDetail {detail : Option NodeDetail} (hides : ∀ detail' ∈ detail, Hides detail') :
    Hidden (store.updateNodeDetail detail) := by
  cases detail with
  | none => exact hidden_empty _
  | some detail => exact (hidden_empty true).insert _ (hides detail rfl).nameById _

theorem Hidden.mergeNodeRankingFor (hidden : Hidden store) {nodeId : String}
    (free : nodeId ≠ defaultNodeDetailKey) (ranking : Option Int) :
    Hidden (store.mergeNodeRankingFor nodeId ranking) := by
  cases ranking with
  | none => exact hidden
  | some ranking =>
    unfold NodeDetailStore.mergeNodeRankingFor
    dsimp only
    split
    case h_1 => exact hidden
    case h_2 stored found =>
      have hides := hidden.lookup found
      apply hidden.insert
      constructor
      · show (if stored.nodeId.isEmpty && !nodeId.isEmpty then nodeId else stored.nodeId) ≠ _
        split
        · exact free
        · exact hides.nodeId
      · show (if stored.nodeName.isEmpty && !nodeId.isEmpty then nodeId else stored.nodeName) ≠ _
        split
        · exact free
        · exact hides.nodeName

/-- The only entry is found under its key. -/
theorem lookup_of_single {key : String} {stored : NodeDetail}
    (single : store.details.entries = [⟨key, stored⟩]) : store.details.lookup key = some stored :=
  AList.mem_lookup_iff.mpr (by rw [single]; simp)

theorem Hidden.mergeNodeRanking (hidden : Hidden store) (ranking : Option Int) :
    Hidden (store.mergeNodeRanking ranking) := by
  cases ranking with
  | none => exact hidden
  | some ranking =>
    unfold NodeDetailStore.mergeNodeRanking
    dsimp only
    split
    case h_1 key stored single =>
      exact hidden.insert _ ((hidden.lookup (lookup_of_single single)).withRanking ranking) _
    case h_2 => exact hidden.mergeNodeRankingFor (by decide) _

theorem Hidden.mergeNodeDetailFor (hidden : Hidden store) {nodeId : String}
    (free : nodeId ≠ defaultNodeDetailKey) {detail : Option NodeDetail}
    (hides : ∀ detail' ∈ detail, Hides detail') : Hidden (store.mergeNodeDetailFor nodeId detail) := by
  cases detail with
  | none => exact hidden
  | some detail =>
    have withId := (hides detail rfl).withId free
    unfold NodeDetailStore.mergeNodeDetailFor
    dsimp only
    apply hidden.insert
    apply Hides.nameById
    split
    case h_1 existing _ => exact withId.withRanking existing.ranking
    case h_2 => exact withId

theorem Hidden.remove (hidden : Hidden store) (nodeId : String) : Hidden (store.remove nodeId) := by
  rw [hidden_iff]
  intro key detail found
  unfold NodeDetailStore.remove at found
  dsimp only at found
  by_cases removed : key = NodeDetailStore.nodeDetailKey nodeId
  · rw [removed, AList.lookup_erase] at found
    cases found
  · rw [AList.lookup_erase_ne removed] at found
    exact hidden.lookup found

/-! ## The merge that takes a key for an id -/

/-- The id that `merge_node_detail` merges a detail for: the only key, if it has none itself. -/
def mergedFor (store : NodeDetailStore) (detail : NodeDetail) : String :=
  if detail.nodeId.isEmpty then
    match store.details.entries with
    | [⟨key, _⟩] => key
    | _ => detail.nodeId
  else detail.nodeId

theorem mergeNodeDetail_some (store : NodeDetailStore) (detail : NodeDetail) :
    store.mergeNodeDetail (some detail) = store.mergeNodeDetailFor (mergedFor store detail)
      (some (if detail.nodeId.isEmpty && mergedFor store detail ≠ defaultNodeDetailKey then
        { detail with nodeId := mergedFor store detail } else detail)) := rfl

theorem mergedFor_eq_iff {detail : NodeDetail} (hides : Hides detail) :
    mergedFor store detail = defaultNodeDetailKey ↔ Reveals store (.mergeNodeDetail (some detail)) := by
  have own := hides.nodeId
  unfold mergedFor Reveals
  simp only [String.isEmpty_iff, Option.mem_def, Option.some.injEq, exists_eq_left']
  split
  case isFalse some => simp [some, own]
  case isTrue none =>
    rw [none] at own ⊢
    split
    case h_1 key stored single => simp [single]
    case h_2 many =>
      simp only [own.symm.symm, false_iff, true_and]
      rintro ⟨stored, single⟩
      exact many _ _ single

theorem Hidden.mergeNodeDetail (hidden : Hidden store) {detail : Option NodeDetail}
    (hides : ∀ detail' ∈ detail, Hides detail') (kept : ¬ Reveals store (.mergeNodeDetail detail)) :
    Hidden (store.mergeNodeDetail detail) := by
  cases detail with
  | none => exact hidden
  | some detail =>
    have own := hides detail rfl
    have free : mergedFor store detail ≠ defaultNodeDetailKey := mt (mergedFor_eq_iff own).mp kept
    rw [mergeNodeDetail_some]
    apply hidden.mergeNodeDetailFor free
    rintro _ ⟨⟩
    split
    · exact ⟨free, own.nodeName⟩
    · exact own

theorem nodeId_nameById (detail : NodeDetail) :
    (NodeDetailStore.nameById detail).nodeId = detail.nodeId := by
  unfold NodeDetailStore.nameById
  split <;> rfl

/-- The reserved key becomes the id of the detail. -/
theorem not_hidden_mergeNodeDetail {detail : Option NodeDetail}
    (hides : ∀ detail' ∈ detail, Hides detail') (reveals : Reveals store (.mergeNodeDetail detail)) :
    ¬ Hidden (store.mergeNodeDetail detail) := by
  obtain ⟨⟨detail, rfl, noId⟩, stored, single⟩ := reveals
  have key : mergedFor store detail = defaultNodeDetailKey :=
    (mergedFor_eq_iff (hides detail rfl)).mpr ⟨⟨detail, rfl, noId⟩, stored, single⟩
  intro hidden
  have found : (store.mergeNodeDetail (some detail)).details.lookup defaultNodeDetailKey = some
      (NodeDetailStore.nameById { detail with
        nodeId := defaultNodeDetailKey, ranking := stored.ranking }) := by
    rw [mergeNodeDetail_some, key]
    unfold NodeDetailStore.mergeNodeDetailFor
    have same : NodeDetailStore.nodeDetailKey defaultNodeDetailKey = defaultNodeDetailKey := by decide
    dsimp only
    rw [same, lookup_of_single single, AList.lookup_insert]
    simp [noId]
  exact (hidden.lookup found).nodeId (nodeId_nameById _)

/-! ## Whole runs -/

def dataAfter (ops : List DataOp) : Data := ops.foldl DataOp.apply {}

/-- One step: the key stays hidden unless the step reveals it. -/
theorem hidden_apply_iff {data : Data} {op : DataOp} (supplied : Supplied op)
    (hidden : Hidden data.nodeDetails) :
    Hidden (op.apply data).nodeDetails ↔ ¬ Reveals data.nodeDetails op := by
  rw [op.nodeDetails_apply]
  cases op
  case mergeNodeDetail detail =>
    constructor
    · intro after reveals
      exact not_hidden_mergeNodeDetail supplied reveals after
    · exact hidden.mergeNodeDetail supplied
  case updateNodeDetail detail => simpa [Reveals] using Hidden.updateNodeDetail supplied
  case mergeNodeRanking ranking => simpa [Reveals] using hidden.mergeNodeRanking ranking
  case mergeNodeRankingFor nodeId ranking =>
    simpa [Reveals] using hidden.mergeNodeRankingFor supplied ranking
  case mergeNodeDetailFor nodeId detail =>
    simpa [Reveals] using hidden.mergeNodeDetailFor supplied.1 supplied.2
  case removeNodeDetail nodeId => simpa [Reveals] using hidden.remove nodeId
  case markNodeDetailsLoaded =>
    have loaded : Hidden data.nodeDetails.markLoaded :=
      hidden_iff.mpr fun key detail found => hidden.lookup found
    simpa [Reveals] using loaded
  all_goals simpa [Reveals] using hidden

/-- The reserved key stays hidden throughout a run exactly when no step of it reveals the key. -/
theorem reserved_key_hidden_iff (ops : List DataOp) (supplied : ∀ op ∈ ops, Supplied op) :
    (∀ done, done <+: ops → ∀ detail, Shown (dataAfter done).nodeDetails detail →
      detail.nodeId ≠ defaultNodeDetailKey ∧ detail.nodeName ≠ defaultNodeDetailKey) ↔
    ∀ done op, done ++ [op] <+: ops → ¬ Reveals (dataAfter done).nodeDetails op := by
  have hides : ∀ detail, Hides detail ↔
      detail.nodeId ≠ defaultNodeDetailKey ∧ detail.nodeName ≠ defaultNodeDetailKey :=
    fun detail => ⟨fun hides => ⟨hides.nodeId, hides.nodeName⟩, fun both => ⟨both.1, both.2⟩⟩
  simp only [← hides]
  exact Lts.foldl_invariant_iff (I := fun data : Data => Hidden data.nodeDetails) (hidden_empty false)
    fun data op inside hidden => hidden_apply_iff (supplied op inside) hidden

/-- A ranking for the entry under the reserved key. -/
theorem reserved_key_hidden_ranked :
    (dataAfter [.updateNodeDetail (some {}), .mergeNodeRanking (some 3)]).nodeDetails.first.map (·.nodeId)
      ≠ some defaultNodeDetailKey := by
  intro shown
  obtain ⟨detail, first, reserved⟩ := Option.map_eq_some_iff.mp shown
  have supplied : ∀ op ∈ [DataOp.updateNodeDetail (some {}), .mergeNodeRanking (some 3)],
      Supplied op := by
    simp only [List.mem_cons, List.not_mem_nil, or_false, forall_eq_or_imp, forall_eq]
    exact ⟨by rintro _ ⟨⟩; exact ⟨by decide, by decide⟩, trivial⟩
  refine ((reserved_key_hidden_iff _ supplied).mpr ?_ _ List.prefix_rfl detail (.inr (.inl first))).1
    reserved
  intro done op here reveals
  have taken : op = .updateNodeDetail (some {}) ∨ op = .mergeNodeRanking (some 3) := by
    simpa using here.subset (List.mem_append_right done (List.mem_singleton_self op))
  rcases taken with rfl | rfl
  · exact reveals
  · exact reveals

/-- Two merges of a detail without an id: the second is shown under the reserved key. -/
theorem reserved_key_revealed :
    ¬ ∀ ops : List DataOp, (∀ op ∈ ops, Supplied op) →
      ∀ detail, Shown (dataAfter ops).nodeDetails detail →
        detail.nodeId ≠ defaultNodeDetailKey ∧ detail.nodeName ≠ defaultNodeDetailKey := by
  intro always
  have supplied : ∀ op ∈ [DataOp.updateNodeDetail (some {}), .mergeNodeDetail (some {})],
      Supplied op := by
    have hides : Hides {} := ⟨by decide, by decide⟩
    simp only [List.mem_cons, List.not_mem_nil, or_false, forall_eq_or_imp, forall_eq]
    exact ⟨by rintro _ ⟨⟩; exact hides, by rintro _ ⟨⟩; exact hides⟩
  have shown : (dataAfter [.updateNodeDetail (some {}), .mergeNodeDetail (some {})]).nodeDetails.get ""
      = some { nodeId := defaultNodeDetailKey, nodeName := defaultNodeDetailKey } := by
    decide +kernel
  exact (always _ supplied _ (.inr (.inr ⟨_, shown⟩))).1 rfl

end ChainDash.Collect
