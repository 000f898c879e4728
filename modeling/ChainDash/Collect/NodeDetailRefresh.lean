import ChainDash.Collect.NodeMerges
import ChainDash.Lib.Lts
import ChainDash.Lib.Text

/-!
# The refresh of the node details

`run_node_detail_refresh_loop` against any answers of the Explorer. A round asks for all nodes
at once and stores or removes one row for each answer, says which nodes failed, and then ranks
all rows from one list, for which the notifier is called node by node. The rows are those of
the answers, however they interleave with the other tasks (`rows_follow_answers`).
-/

namespace ChainDash.Collect
set_option autoImplicit false

/-- What comes back for a request: nothing, an error status, a body that cannot be read or
parsed, or a response. -/
inductive ExplorerAnswer (α : Type) where
  | unsent (err : String)
  | refused (status : String)
  | unread (err : String)
  | unparsed (err : String)
  | response (code : Int) (errMsg : String) (data : Option α)

/-- `collect::types::NodeInfo`. -/
structure NodeInfo where
  nodeId : String
  ranking : Int64

structure RankingObservation where
  nodeId : String
  nodeName : String
  ranking : Int
  deriving DecidableEq

def fetchNodeDetail (nodeId : String) (now : Nat) :
    ExplorerAnswer ExplorerNodeDetail → Except String NodeDetail
  | .refused status =>
    .error ("Node detail API returned error status for " ++ nodeId ++ ": " ++ status)
  | .unread err => .error ("Failed to read node detail response body for " ++ nodeId ++ ": " ++ err)
  | .unparsed err => .error ("Failed to parse node detail JSON for " ++ nodeId ++ ": " ++ err)
  | .response code errMsg data =>
    if code = 0 then
      match data with
      | some detail => .ok (parseNodeDetail nodeId detail now)
      | none => .error ("Node detail response missing data field for " ++ nodeId)
    else
      .error ("Node detail API returned error code for " ++ nodeId ++ ": " ++ toString code ++
        ", err_msg: " ++ errMsg)
  | .unsent err => .error ("Failed to fetch node detail for " ++ nodeId ++ ": " ++ err)

/-- The request under its timeout, which is `none`. -/
def requestNodeDetail (nodeId : String) (now : Nat) :
    Option (ExplorerAnswer ExplorerNodeDetail) → Except String NodeDetail
  | some answer => fetchNodeDetail nodeId now answer
  | none => .error ("Node detail request timed out after 30s for " ++ nodeId ++
      ": deadline has elapsed")

/-- The list of `fetch_node_rankings_once`, or its warning. -/
def fetchNodeRankings : ExplorerAnswer (List NodeInfo) → Except String (List NodeInfo)
  | .refused status => .error ("Node ranking API returned error status: " ++ status)
  | .unread err => .error ("Failed to read response body: " ++ err)
  | .unparsed err => .error ("Failed to parse response JSON: " ++ err)
  | .response code errMsg data =>
    if code = 0 then
      match data with
      | some nodes => .ok nodes
      | none => .error "Node ranking response missing data field"
    else
      .error ("Node ranking API returned error code: " ++ toString code ++ ", err_msg: " ++ errMsg)
  | .unsent err => .error ("Failed to fetch node ranking: " ++ err)

def rankingTimeout : String := "Node ranking request timed out after 30s: deadline has elapsed"

/-- A ranking out of the range of `i32` is none. -/
def parseNodeRanking (nodes : List NodeInfo) (nodeId : String) : Option Int :=
  (nodes.find? (·.nodeId = nodeId)).bind fun node =>
    if -2 ^ 31 ≤ node.ranking.toInt ∧ node.ranking.toInt < 2 ^ 31 then some node.ranking.toInt
    else none

/-- The locked section of `fetch_node_rankings_once`. -/
def observeRankings (nodes : List NodeInfo) (nodeIds : List String) (data : Data) :
    Data × List RankingObservation :=
  nodeIds.foldl (fun (data, observations) nodeId =>
    let ranking := parseNodeRanking nodes nodeId
    let data := data.mergeNodeRankingFor nodeId ranking
    match ranking.filter (0 < ·) with
    | none => (data, observations)
    | some ranking =>
      let nodeName := ((data.nodeDetails.get nodeId).map (·.nodeName)).getD ""
      (data, observations ++ [⟨nodeId, nodeName, ranking⟩])) (data, [])

def nodeDetailStatusPreviewCount : Nat := 3

def summarizeNodeDetailFailures (nodeIds : List String) : String :=
  match nodeIds with
  | [] => "Node details unavailable"
  | [nodeId] => "Node detail unavailable for " ++ nodeId
  | _ =>
    let preview := ", ".intercalate (nodeIds.take nodeDetailStatusPreviewCount)
    let remaining := nodeIds.length - nodeDetailStatusPreviewCount
    if remaining = 0 then
      "Node details unavailable for " ++ toString nodeIds.length ++ " node(s): " ++ preview
    else
      "Node details unavailable for " ++ toString nodeIds.length ++ " node(s): " ++ preview ++
        ", +" ++ toString remaining ++ " more"

/-- The node ids that `Collector::new` keeps. -/
def normalizeNodeIds (nodeIds : List String) : List String :=
  nodeIds.foldl (fun kept nodeId =>
    let nodeId := Text.trim nodeId
    if nodeId.isEmpty || kept.any (· = nodeId) then kept else kept ++ [nodeId]) []

/-- Where the loop stands. The outcome of a request is the node that failed, if it did. -/
inductive RefreshPhase where
  | fetching (outcomes : List (Option (Option String)))
  | loading (failures : List String)
  | summarizing (failures : List String)
  | ranking
  /-- In the `for` loop over the observations. -/
  | notifying (rest : List RankingObservation)
  /-- In a call of the notifier. -/
  | awaiting (rest : List RankingObservation)
  | firstTick
  | checking
  | ticking
  | rechecking
  | returned

/-- `notified` has the calls of the notifier that were begun, `log` the lines of `warn!`. -/
structure NodeDetailRefresh where
  phase : RefreshPhase
  stopFlag : Bool := false
  ticked : Bool := false
  data : Data := {}
  notified : List RankingObservation := []
  log : List String := []

inductive RefreshEvent where
  /-- The stop flag is set. -/
  | stop
  /-- Another task changes the shared data. -/
  | other (op : DataOp)
  | answered (i : Nat) (answer : Option (ExplorerAnswer ExplorerNodeDetail)) (now : Nat)
  | joined
  | loaded
  | summarized (now : Nat)
  | ranked (answer : ExplorerAnswer (List NodeInfo)) (now : Nat)
  | rankingTimedOut (now : Nat)
  | notify
  | told
  | check
  | tick

/-- The rows are written by this loop only. -/
def DataOp.isNodeDetail : DataOp → Bool
  | .updateNodeDetail _ => true
  | .mergeNodeRanking _ => true
  | .mergeNodeRankingFor .. => true
  | .mergeNodeDetail _ => true
  | .mergeNodeDetailFor .. => true
  | .removeNodeDetail _ => true
  | .markNodeDetailsLoaded => true
  | _ => false

namespace NodeDetailRefresh

def unanswered (nodeIds : List String) : RefreshPhase := .fetching (nodeIds.map fun _ => none)

def start (nodeIds : List String) : NodeDetailRefresh where
  phase := unanswered nodeIds

/-- The first tick of the interval follows the first round. -/
def afterRound (s : NodeDetailRefresh) : RefreshPhase := if s.ticked then .checking else .firstTick

/-- `warn_with_status`. -/
def warnWithStatus (s : NodeDetailRefresh) (message : String) (now : Nat) : NodeDetailRefresh :=
  { s with data := s.data.setStatusMessage .warn message now, log := s.log ++ [message] }

/-- The answer to request `i`, for a node. -/
def answer (s : NodeDetailRefresh) (i : Nat) (nodeId : String)
    (outcomes : List (Option (Option String))) : Except String NodeDetail → NodeDetailRefresh
  | .ok detail => { s with
      phase := .fetching (outcomes.set i (some none))
      data := s.data.mergeNodeDetailFor nodeId (some detail) }
  | .error message => { s with
      phase := .fetching (outcomes.set i (some (some nodeId)))
      data := s.data.removeNodeDetail nodeId
      log := s.log ++ [message] }

def rank (nodeIds : List String) (notifier : Bool) (s : NodeDetailRefresh) (now : Nat) :
    Except String (List NodeInfo) → NodeDetailRefresh
  | .ok nodes =>
    let (data, observations) := observeRankings nodes nodeIds s.data
    { s with data, phase := if notifier then .notifying observations else s.afterRound }
  | .error message => { s.warnWithStatus message now with phase := s.afterRound }

def step (nodeIds : List String) (notifier : Bool) (s : NodeDetailRefresh) (event : RefreshEvent) :
    Option NodeDetailRefresh :=
  match event, s.phase with
  | .stop, _ => some { s with stopFlag := true }
  | .other op, _ => if op.isNodeDetail then none else some { s with data := op.apply s.data }
  | .answered i answer now, .fetching outcomes =>
    match nodeIds[i]?, outcomes[i]? with
    | some nodeId, some none => some (s.answer i nodeId outcomes (requestNodeDetail nodeId now answer))
    | _, _ => none
  | .joined, .fetching outcomes =>
    if outcomes.all Option.isSome then
      some { s with phase := .loading (outcomes.filterMap Option.join) }
    else none
  | .loaded, .loading failures =>
    some { s with
      data := s.data.markNodeDetailsLoaded
      phase := if failures.isEmpty then .ranking else .summarizing failures }
  | .summarized now, .summarizing failures =>
    some { s with
      data := s.data.setStatusMessage .warn (summarizeNodeDetailFailures failures) now
      phase := .ranking }
  | .ranked answer now, .ranking => some (s.rank nodeIds notifier now (fetchNodeRankings answer))
  | .notify, .notifying [] => some { s with phase := s.afterRound }
  | .notify, .notifying (observation :: rest) =>
    some { s with phase := .awaiting rest, notified := s.notified ++ [observation] }
  | .told, .awaiting rest => some { s with phase := .notifying rest }
  | .rankingTimedOut now, .ranking =>
    some { s.warnWithStatus rankingTimeout now with phase := s.afterRound }
  | .rankingTimedOut now, .awaiting _ =>
    some { s.warnWithStatus rankingTimeout now with phase := s.afterRound }
  | .tick, .firstTick => some { s with phase := .checking, ticked := true }
  | .check, .checking => some { s with phase := if s.stopFlag then .returned else .ticking }
  | .tick, .ticking => some { s with phase := .rechecking }
  | .check, .rechecking =>
    some { s with phase := if s.stopFlag then .returned else unanswered nodeIds }
  | _, _ => none

def run (nodeIds : List String) (notifier : Bool) (events : List RefreshEvent) :
    Option NodeDetailRefresh :=
  Lts.run (step nodeIds notifier) (start nodeIds) events

/-! ## One step -/

/-- Every way the loop can step. -/
inductive Stepped (nodeIds : List String) (notifier : Bool) (s : NodeDetailRefresh) :
    RefreshEvent → NodeDetailRefresh → Prop
  | stop : Stepped nodeIds notifier s .stop { s with stopFlag := true }
  | other {op : DataOp} (foreign : op.isNodeDetail = false) :
      Stepped nodeIds notifier s (.other op) { s with data := op.apply s.data }
  | answered {i now : Nat} {answer : Option (ExplorerAnswer ExplorerNodeDetail)} {nodeId : String}
      {outcomes : List (Option (Option String))} (phase : s.phase = .fetching outcomes)
      (own : nodeIds[i]? = some nodeId) (pending : outcomes[i]? = some none) :
      Stepped nodeIds notifier s (.answered i answer now)
        (s.answer i nodeId outcomes (requestNodeDetail nodeId now answer))
  | joined {outcomes : List (Option (Option String))} (phase : s.phase = .fetching outcomes)
      (all : outcomes.all Option.isSome = true) :
      Stepped nodeIds notifier s .joined
        { s with phase := .loading (outcomes.filterMap Option.join) }
  | loaded {failures : List String} (phase : s.phase = .loading failures) :
      Stepped nodeIds notifier s .loaded { s with
        data := s.data.markNodeDetailsLoaded
        phase := if failures.isEmpty then .ranking else .summarizing failures }
  | summarized {failures : List String} {now : Nat} (phase : s.phase = .summarizing failures) :
      Stepped nodeIds notifier s (.summarized now) { s with
        data := s.data.setStatusMessage .warn (summarizeNodeDetailFailures failures) now
        phase := .ranking }
  | ranked {answer : ExplorerAnswer (List NodeInfo)} {now : Nat} (phase : s.phase = .ranking) :
      Stepped nodeIds notifier s (.ranked answer now)
        (s.rank nodeIds notifier now (fetchNodeRankings answer))
  | finished (phase : s.phase = .notifying []) :
      Stepped nodeIds notifier s .notify { s with phase := s.afterRound }
  | notified {observation : RankingObservation} {rest : List RankingObservation}
      (phase : s.phase = .notifying (observation :: rest)) :
      Stepped nodeIds notifier s .notify
        { s with phase := .awaiting rest, notified := s.notified ++ [observation] }
  | told {rest : List RankingObservation} (phase : s.phase = .awaiting rest) :
      Stepped nodeIds notifier s .told { s with phase := .notifying rest }
  | timedOut {now : Nat} (phase : s.phase = .ranking ∨ ∃ rest, s.phase = .awaiting rest) :
      Stepped nodeIds notifier s (.rankingTimedOut now)
        { s.warnWithStatus rankingTimeout now with phase := s.afterRound }
  | firstTick (phase : s.phase = .firstTick) :
      Stepped nodeIds notifier s .tick { s with phase := .checking, ticked := true }
  | checked (phase : s.phase = .checking) :
      Stepped nodeIds notifier s .check
        { s with phase := if s.stopFlag then .returned else .ticking }
  | ticked (phase : s.phase = .ticking) :
      Stepped nodeIds notifier s .tick { s with phase := .rechecking }
  | rechecked (phase : s.phase = .rechecking) :
      Stepped nodeIds notifier s .check
        { s with phase := if s.stopFlag then .returned else unanswered nodeIds }

variable {nodeIds : List String} {notifier : Bool} {s s' : NodeDetailRefresh} {event : RefreshEvent}
  {events : List RefreshEvent}

theorem step_cases (stepped : step nodeIds notifier s event = some s') :
    Stepped nodeIds notifier s event s' := by
  unfold step at stepped
  split at stepped
  case h_1 =>
    cases stepped
    exact .stop
  case h_2 op _ =>
    split at stepped <;> cases stepped
    case isFalse foreign => exact .other (by simpa using foreign)
  case h_3 i answer now outcomes phase =>
    split at stepped <;> cases stepped
    case h_1 nodeId own pending => exact .answered phase own pending
  case h_4 outcomes phase =>
    split at stepped <;> cases stepped
    case isTrue all => exact .joined phase all
  case h_5 failures phase =>
    cases stepped
    exact .loaded phase
  case h_6 now failures phase =>
    cases stepped
    exact .summarized phase
  case h_7 answer now phase =>
    cases stepped
    exact .ranked phase
  case h_8 phase =>
    cases stepped
    exact .finished phase
  case h_9 observation rest phase =>
    cases stepped
    exact .notified phase
  case h_10 rest phase =>
    cases stepped
    exact .told phase
  case h_11 now phase =>
    cases stepped
    exact .timedOut (.inl phase)
  case h_12 now rest phase =>
    cases stepped
    exact .timedOut (.inr ⟨rest, phase⟩)
  case h_13 phase =>
    cases stepped
    exact .firstTick phase
  case h_14 phase =>
    cases stepped
    exact .checked phase
  case h_15 phase =>
    cases stepped
    exact .ticked phase
  case h_16 phase =>
    cases stepped
    exact .rechecked phase
  case h_17 => cases stepped

end NodeDetailRefresh

/-! ## The configured nodes -/

/-- Node ids that are told apart and that the store does not take for its default key. -/
structure Configured (nodeIds : List String) : Prop where
  distinct : nodeIds.Nodup
  nonempty : ∀ nodeId ∈ nodeIds, nodeId ≠ ""

theorem configured_normalizeNodeIds (nodeIds : List String) :
    Configured (normalizeNodeIds nodeIds) := by
  unfold normalizeNodeIds
  induction nodeIds using List.reverseRecOn with
  | nil => exact ⟨List.nodup_nil, by simp⟩
  | append_singleton nodeIds nodeId ih =>
    rw [List.foldl_append, List.foldl_cons, List.foldl_nil]
    generalize List.foldl _ _ nodeIds = kept at ih
    dsimp only
    split
    case isTrue => exact ih
    case isFalse fresh =>
      simp only [Bool.or_eq_true, List.any_eq_true, decide_eq_true_eq, not_or, not_exists, not_and,
        String.isEmpty_iff] at fresh
      refine ⟨?_, ?_⟩
      · rw [List.nodup_append]
        refine ⟨ih.distinct, List.nodup_singleton _, ?_⟩
        intro id mem id' last same
        rw [List.mem_singleton] at last
        exact fresh.2 id mem (same.trans last)
      · intro id mem
        rw [List.mem_append, List.mem_singleton] at mem
        rcases mem with before | rfl
        · exact ih.nonempty id before
        · exact fresh.1

/-! ## The rows -/

/-- The operation with which a request ends. -/
def replyOp (nodeId : String) : Except String NodeDetail → DetailOp
  | .ok detail => .mergeNodeDetailFor nodeId detail
  | .error _ => .removeNodeDetail nodeId

def rankingOps (nodeIds : List String) (nodes : List NodeInfo) : List DetailOp :=
  nodeIds.map fun nodeId => .mergeNodeRankingFor nodeId (parseNodeRanking nodes nodeId)

/-- What an event says of the rows: an answer of its node, a list of rankings of all nodes. -/
def RefreshEvent.detailOps (nodeIds : List String) : RefreshEvent → List DetailOp
  | .answered i answer now => 
    (nodeIds[i]?.map fun nodeId => replyOp nodeId (requestNodeDetail nodeId now answer)).toList
  | .ranked answer _ =>
    match fetchNodeRankings answer with
    | .ok nodes => rankingOps nodeIds nodes
    | .error _ => []
  | _ => []

def detailOps (nodeIds : List String) (events : List RefreshEvent) : List DetailOp :=
  events.flatMap (·.detailOps nodeIds)

/-- The row that the answers so far say a node has. -/
def expectedNode (nodeIds : List String) (events : List RefreshEvent) (nodeId : String) :
    Option NodeDetail :=
  expectedDetail nodeId ((detailOps nodeIds events).filter (·.nodeId = nodeId))

theorem detailOps_snoc (nodeIds : List String) (events : List RefreshEvent) (event : RefreshEvent) :
    detailOps nodeIds (events ++ [event]) = detailOps nodeIds events ++ event.detailOps nodeIds := by
  unfold detailOps
  rw [List.flatMap_append, List.flatMap_singleton]

theorem nodeId_replyOp (nodeId : String) (reply : Except String NodeDetail) :
    (replyOp nodeId reply).nodeId = nodeId := by
  cases reply <;> rfl

theorem configured_of_mem_detailOps {nodeIds : List String} {event : RefreshEvent} {op : DetailOp}
    (mem : op ∈ event.detailOps nodeIds) : op.nodeId ∈ nodeIds := by
  unfold RefreshEvent.detailOps at mem
  split at mem
  case h_1 i answer now =>
    rw [Option.mem_toList, Option.map_eq_some_iff] at mem
    obtain ⟨nodeId, at_, rfl⟩ := mem
    rw [nodeId_replyOp]
    exact List.mem_of_getElem? at_
  case h_2 answer now =>
    split at mem
    case h_1 nodes =>
      obtain ⟨nodeId, inside, rfl⟩ := List.mem_map.mp mem
      exact inside
    case h_2 => cases mem
  case h_3 => cases mem

/-- What a node shows after more operations of its own. -/
theorem foldl_expectedDetail {nodeId : String} (nonempty : nodeId ≠ "") (ops : List DetailOp)
    {ops' : List DetailOp} (own : ∀ op ∈ ops', op.nodeId = nodeId) :
    ops'.foldl updateEntry (expectedDetail nodeId ops) = expectedDetail nodeId (ops ++ ops') := by
  induction ops' generalizing ops with
  | nil => rw [List.append_nil, List.foldl_nil]
  | cons op ops' ih =>
    rw [List.foldl_cons, ← expectedDetail_snoc nonempty ops (own op (by simp)),
      ih _ fun op mem => own op (List.mem_cons_of_mem _ mem), List.append_assoc]
    rfl

theorem lookup_foldl_detailOps {ops : List DetailOp} (nonempty : ∀ op ∈ ops, op.nodeId ≠ "")
    (data : Data) (nodeId : String) : (ops.foldl DetailOp.apply data).nodeDetails.details.lookup nodeId =
      (ops.filter (·.nodeId = nodeId)).foldl updateEntry (data.nodeDetails.details.lookup nodeId) :=
  Keyed.view_foldl (fun op mem => DetailOp.acts (nonempty op mem)) data nodeId

theorem nodeDetails_setStatusMessage (data : Data) (level : StatusLevel) (text : String) (now : Nat) :
    (data.setStatusMessage level text now).nodeDetails = data.nodeDetails :=
  DataOp.nodeDetails_apply (.setStatusMessage level text now) data

theorem nodeDetails_of_foreign {op : DataOp} (foreign : op.isNodeDetail = false) (data : Data) :
    (op.apply data).nodeDetails = data.nodeDetails := by
  rw [DataOp.nodeDetails_apply]
  cases op <;> first | rfl | cases foreign

/-- What the notifier is told of a node whose row is given. -/
def observed (nodes : List NodeInfo) (row : Option NodeDetail) (nodeId : String) :
    Option RankingObservation :=
  ((parseNodeRanking nodes nodeId).filter (0 < ·)).map fun ranking =>
    ⟨nodeId, (row.map (·.nodeName)).getD "", ranking⟩

/-- The locked section ranks all rows; the names it reads are those that the rows have after it. -/
theorem observeRankings_eq {nodeIds : List String} (configured : Configured nodeIds)
    (nodes : List NodeInfo) (data : Data) : observeRankings nodes nodeIds data =
      ((rankingOps nodeIds nodes).foldl DetailOp.apply data, nodeIds.filterMap fun nodeId =>
        observed nodes (((rankingOps nodeIds nodes).foldl DetailOp.apply data).nodeDetails.details.lookup
          nodeId) nodeId) := by
  unfold observeRankings rankingOps
  induction nodeIds using List.reverseRecOn with
  | nil => rfl
  | append_singleton nodeIds own ih =>
    obtain ⟨distinct, nonempty⟩ := configured
    have fresh : own ∉ nodeIds := by
      intro mem
      exact (List.nodup_append.mp distinct).2.2 own mem own (List.mem_singleton_self own) rfl
    have ownId : own ≠ "" := nonempty own (by simp)
    rw [List.foldl_append, List.map_append, List.foldl_append,
      ih ⟨(List.nodup_append.mp distinct).1, fun id mem => nonempty id (List.mem_append_left _ mem)⟩]
    generalize List.foldl DetailOp.apply data _ = ranked
    simp only [List.foldl_cons, List.foldl_nil, List.map_cons, List.map_nil, List.filterMap_append,
      DetailOp.apply]
    -- the rows of the nodes before are not touched again
    have before : nodeIds.filterMap (fun nodeId => observed nodes
          ((ranked.mergeNodeRankingFor own
            (parseNodeRanking nodes own)).nodeDetails.details.lookup nodeId) nodeId) =
        nodeIds.filterMap fun nodeId =>
          observed nodes (ranked.nodeDetails.details.lookup nodeId) nodeId := by
      apply List.filterMap_congr
      intro nodeId mem
      have other : nodeId ≠ own := fun same => fresh (same ▸ mem)
      have untouched := @DetailOp.lookup_apply
        (.mergeNodeRankingFor own (parseNodeRanking nodes own)) ownId ranked nodeId
      rw [DetailOp.nodeId, if_neg other] at untouched
      rw [← untouched, DetailOp.apply]
    rw [before, List.filterMap_cons, List.filterMap_nil]
    unfold observed NodeDetailStore.get
    rw [nodeDetailKey_of_ne ownId]
    generalize Option.filter _ (parseNodeRanking nodes own) = ranking
    cases ranking with
    | none => simp
    | some ranking => simp

namespace NodeDetailRefresh

variable {nodeIds : List String} {notifier : Bool} {s s' : NodeDetailRefresh} {event : RefreshEvent}
  {events : List RefreshEvent}

theorem data_answer (s : NodeDetailRefresh) (i : Nat) (nodeId : String)
    (outcomes : List (Option (Option String))) (reply : Except String NodeDetail) :
    (s.answer i nodeId outcomes reply).data = (replyOp nodeId reply).apply s.data := by
  cases reply <;> rfl

/-- A step does to the rows what its event says. -/
theorem details_step (configured : Configured nodeIds)
    (stepped : step nodeIds notifier s event = some s') : s'.data.nodeDetails.details =
      ((event.detailOps nodeIds).foldl DetailOp.apply s.data).nodeDetails.details := by
  cases step_cases stepped with
  | other foreign => exact congrArg NodeDetailStore.details (nodeDetails_of_foreign foreign s.data)
  | answered phase own pending =>
    rename_i i now reply nodeId outcomes
    rw [RefreshEvent.detailOps, own, Option.map_some, Option.toList_some, List.foldl_cons,
      List.foldl_nil, data_answer]
  | loaded phase =>
    simp only [Data.markNodeDetailsLoaded, Data.markNodeDetailsDirty, Data.markDirty_nodeDetails]
    rfl
  | summarized phase => exact congrArg NodeDetailStore.details (nodeDetails_setStatusMessage _ _ _ _)
  | ranked phase =>
    rename_i reply now
    rw [RefreshEvent.detailOps]
    cases fetchNodeRankings reply with
    | ok nodes =>
      show (observeRankings nodes nodeIds s.data).1.nodeDetails.details = _
      rw [observeRankings_eq configured]
    | error message => exact congrArg NodeDetailStore.details (nodeDetails_setStatusMessage _ _ _ _)
  | timedOut phase => exact congrArg NodeDetailStore.details (nodeDetails_setStatusMessage _ _ _ _)
  | stop | joined _ _ | finished _ | notified _ | told _ | firstTick _ | checked _ | ticked _
  | rechecked _ => rfl

theorem expectedNode_snoc (configured : Configured nodeIds) (nodeId : String) :
    expectedNode nodeIds (events ++ [event]) nodeId =
      ((event.detailOps nodeIds).filter (·.nodeId = nodeId)).foldl updateEntry
        (expectedNode nodeIds events nodeId) := by
  unfold expectedNode
  rw [detailOps_snoc, List.filter_append]
  by_cases asked : nodeId = ""
  · have nothing : (event.detailOps nodeIds).filter (·.nodeId = nodeId) = [] := by
      rw [List.filter_eq_nil_iff]
      intro op mem same
      have inside := configured_of_mem_detailOps mem
      exact configured.nonempty _ inside ((by simpa using same : op.nodeId = nodeId).trans asked)
    rw [nothing, List.append_nil, List.foldl_nil]
  · rw [foldl_expectedDetail asked]
    intro op mem
    simpa using (List.mem_filter.mp mem).2

/-- In every state the row of a node is what the answers so far say: the detail of its last
answer since one that failed, with the last ranking since then. -/
theorem rows_of_run (configured : Configured nodeIds) (ran : run nodeIds notifier events = some s)
    (nodeId : String) :
    s.data.nodeDetails.details.lookup nodeId = expectedNode nodeIds events nodeId := by
  refine Lts.run_invariant (I := fun events s => ∀ nodeId,
    s.data.nodeDetails.details.lookup nodeId = expectedNode nodeIds events nodeId) ?_ ?_ ran nodeId
  · exact fun _ => rfl
  · intro events s event s' rows stepped nodeId
    rw [details_step configured stepped, lookup_foldl_detailOps, rows, expectedNode_snoc configured]
    exact fun op mem => configured.nonempty _ (configured_of_mem_detailOps mem)

end NodeDetailRefresh

/-- How the last request for a node ended. -/
def lastAnswer (nodeIds : List String) (events : List RefreshEvent) (nodeId : String) :
    Option (Except String NodeDetail) :=
  (events.filterMap fun event => match event with
    | .answered i answer now =>
      if nodeIds[i]? = some nodeId then some (requestNodeDetail nodeId now answer) else none
    | _ => none).getLast?

/-- The row of a detail, with a ranking of its own. -/
def RowOf (nodeId : String) (row : Option NodeDetail) : Option (Except String NodeDetail) → Prop
  | some (.ok detail) => ∃ ranking, row = some { defaulted nodeId detail with ranking }
  | _ => row = none

theorem lastAnswer_snoc (nodeIds : List String) (events : List RefreshEvent) (event : RefreshEvent)
    (nodeId : String) : lastAnswer nodeIds (events ++ [event]) nodeId =
      match event with
      | .answered i answer now =>
        if nodeIds[i]? = some nodeId then some (requestNodeDetail nodeId now answer)
        else lastAnswer nodeIds events nodeId
      | _ => lastAnswer nodeIds events nodeId := by
  unfold lastAnswer
  cases event with
  | answered i answer now =>
    by_cases own : nodeIds[i]? = some nodeId
    · simp [own]
    · simp [own]
  | _ => simp

/-- A ranking is all that a list of rankings changes of a row. -/
theorem rowOf_foldl_rankings {nodeId : String} (nonempty : nodeId ≠ "") {ops : List DetailOp}
    (rankings : ∀ op ∈ ops, ∃ own ranking, op = .mergeNodeRankingFor own ranking)
    {row : Option NodeDetail} {answer : Option (Except String NodeDetail)}
    (rowOf : RowOf nodeId row answer) : RowOf nodeId (ops.foldl updateEntry row) answer := by
  induction ops generalizing row with
  | nil => exact rowOf
  | cons op ops ih =>
    apply ih fun op mem => rankings op (List.mem_cons_of_mem _ mem)
    obtain ⟨own, ranking, rfl⟩ := rankings _ (List.mem_cons_self ..)
    unfold RowOf at rowOf ⊢
    split at rowOf
    case h_1 detail =>
      obtain ⟨before, rfl⟩ := rowOf
      obtain ⟨ownId, ownName⟩ := defaulted_named detail nonempty
      have named : Named { defaulted nodeId detail with ranking := before } := ⟨ownId, ownName⟩
      exact ⟨_, updateEntry_ranking_named named own ranking⟩
    case h_2 =>
      subst rowOf
      cases ranking <;> rfl

theorem rowOf_replyOp (nodeId : String) (row : Option NodeDetail) (reply : Except String NodeDetail) :
    RowOf nodeId (updateEntry row (replyOp nodeId reply)) (some reply) := by
  cases reply with
  | ok detail => exact ⟨_, rfl⟩
  | error message => rfl

theorem rowOf_expectedNode {nodeIds : List String} (configured : Configured nodeIds)
    {nodeId : String} (inside : nodeId ∈ nodeIds) (events : List RefreshEvent) :
    RowOf nodeId (expectedNode nodeIds events nodeId) (lastAnswer nodeIds events nodeId) := by
  induction events using List.reverseRecOn with
  | nil => rfl
  | append_singleton events event ih =>
    rw [NodeDetailRefresh.expectedNode_snoc configured, lastAnswer_snoc]
    cases event with
    | answered i answer now =>
      dsimp only [RefreshEvent.detailOps]
      cases at_ : nodeIds[i]? with
      | none => simpa using ih
      | some other =>
        by_cases own : other = nodeId
        · subst own
          simpa [nodeId_replyOp] using rowOf_replyOp other _ _
        · simpa [nodeId_replyOp, own] using ih
    | ranked answer now =>
      apply rowOf_foldl_rankings (configured.nonempty nodeId inside) _ ih
      intro op mem
      have ranking := (List.mem_filter.mp mem).1
      dsimp only [RefreshEvent.detailOps] at ranking
      split at ranking
      case h_1 nodes =>
        obtain ⟨own, -, rfl⟩ := List.mem_map.mp ranking
        exact ⟨own, _, rfl⟩
      case h_2 => cases ranking
    | _ => exact ih

open NodeDetailRefresh

theorem get_of_run {nodeIds : List String} {notifier : Bool} {events : List RefreshEvent}
    {s : NodeDetailRefresh} (ran : run (normalizeNodeIds nodeIds) notifier events = some s)
    {nodeId : String} (inside : nodeId ∈ normalizeNodeIds nodeIds) :
    s.data.nodeDetails.get nodeId = expectedNode (normalizeNodeIds nodeIds) events nodeId := by
  have configured := configured_normalizeNodeIds nodeIds
  rw [NodeDetailStore.get, nodeDetailKey_of_ne (configured.nonempty nodeId inside)]
  exact rows_of_run configured ran nodeId

/-- Whatever the Explorer answers and whatever the other tasks do, the row of a configured node is
what its answers and the rankings say: the detail of its last answer, named by its id if it has no
name, and no row if that request failed. -/
theorem rows_follow_answers {nodeIds : List String} {notifier : Bool} {events : List RefreshEvent}
    {s : NodeDetailRefresh} (ran : run (normalizeNodeIds nodeIds) notifier events = some s)
    {nodeId : String} (inside : nodeId ∈ normalizeNodeIds nodeIds) :
    s.data.nodeDetails.get nodeId = expectedNode (normalizeNodeIds nodeIds) events nodeId ∧
      RowOf nodeId (s.data.nodeDetails.get nodeId)
        (lastAnswer (normalizeNodeIds nodeIds) events nodeId) := by
  have row := get_of_run ran inside
  refine ⟨row, ?_⟩
  rw [row]
  exact rowOf_expectedNode (configured_normalizeNodeIds nodeIds) inside events

/-- Two requests in flight: one node answers without a name and is then ranked, the other fails. -/
def twoNodes : List RefreshEvent :=
  [.answered 1 none 3,
    .answered 0 (some (.response 0 "" (some ⟨"", 7, 10, "1/day", "10", "20", "addr", 5⟩))) 4,
    .joined, .loaded, .summarized 5, .ranked (.response 0 "" (some [⟨"a", 12⟩])) 6, .notify]

theorem rows_follow_answers_twoNodes : ∃ s,
    run (normalizeNodeIds [" a", "b", "a "]) true twoNodes = some s ∧
    (s.data.nodeDetails.get "a").map (·.nodeName) = some "a" ∧ s.data.nodeDetails.get "b" = none := by
  obtain ⟨s, ran⟩ : ∃ s, run (normalizeNodeIds [" a", "b", "a "]) true twoNodes = some s := ⟨_, rfl⟩
  obtain ⟨-, ranking, rowA⟩ := rows_follow_answers ran (show "a" ∈ normalizeNodeIds _ by decide)
  obtain ⟨-, rowB⟩ := rows_follow_answers ran (show "b" ∈ normalizeNodeIds _ by decide)
  refine ⟨s, ran, ?_, rowB⟩
  rw [rowA]
  rfl

end ChainDash.Collect
