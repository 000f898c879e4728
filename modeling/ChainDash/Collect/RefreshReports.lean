import ChainDash.Collect.NodeDetailRefresh

/-!
# What a round of the refresh reports

A round of `run_node_detail_refresh_loop` reports twice: the status names the nodes that failed,
which are those without a row (`unavailable_nodes_named`), and the notifier hears of the rankings,
in order and each round up to a timeout (`rankings_told`).
-/

namespace ChainDash.Collect
set_option autoImplicit false

open NodeDetailRefresh

/-! ## The nodes said to be unavailable -/

/-- The configured nodes without a row. -/
def unavailable (nodeIds : List String) (data : Data) : List String :=
  nodeIds.filter fun nodeId => (data.nodeDetails.get nodeId).isNone

/-- The outcome of a request that left these data. -/
def outcomeOf (data : Data) (nodeId : String) : Option String :=
  if (data.nodeDetails.get nodeId).isSome then none else some nodeId

theorem filterMap_outcomeOf (nodeIds : List String) (data : Data) :
    nodeIds.filterMap (outcomeOf data) = unavailable nodeIds data := by
  unfold unavailable
  rw [← List.filterMap_eq_filter]
  apply List.filterMap_congr
  intro nodeId _
  unfold outcomeOf
  cases row : data.nodeDetails.get nodeId <;> simp [Option.guard, row]

theorem get_apply {op : DetailOp} (nonempty : op.nodeId ≠ "") (data : Data) {nodeId : String}
    (asked : nodeId ≠ "") : (op.apply data).nodeDetails.get nodeId =
      if nodeId = op.nodeId then updateEntry (data.nodeDetails.get op.nodeId) op
      else data.nodeDetails.get nodeId := by
  unfold NodeDetailStore.get
  rw [nodeDetailKey_of_ne asked, nodeDetailKey_of_ne nonempty]
  exact DetailOp.lookup_apply nonempty data nodeId

theorem outcomeOf_reply {nodeId : String} (nonempty : nodeId ≠ "") (reply : Except String NodeDetail)
    (data : Data) : outcomeOf ((replyOp nodeId reply).apply data) nodeId =
      match reply with
      | .ok _ => none
      | .error _ => some nodeId := by
  unfold outcomeOf
  rw [get_apply (by rwa [nodeId_replyOp]) data nonempty, nodeId_replyOp, if_pos rfl]
  cases reply <;> rfl

theorem outcomeOf_other {nodeId other : String} (nonempty : nodeId ≠ "") (asked : other ≠ "")
    (apart : other ≠ nodeId) (reply : Except String NodeDetail) (data : Data) :
    outcomeOf ((replyOp nodeId reply).apply data) other = outcomeOf data other := by
  unfold outcomeOf
  rw [get_apply (by rwa [nodeId_replyOp]) data asked, nodeId_replyOp, if_neg apart]

theorem outcomeOf_congr {data data' : Data}
    (rows : data'.nodeDetails.details = data.nodeDetails.details) :
    outcomeOf data' = outcomeOf data := by
  funext nodeId
  unfold outcomeOf NodeDetailStore.get
  rw [rows]

theorem unavailable_congr {nodeIds : List String} {data data' : Data}
    (rows : data'.nodeDetails.details = data.nodeDetails.details) :
    unavailable nodeIds data' = unavailable nodeIds data := by
  rw [← filterMap_outcomeOf, ← filterMap_outcomeOf, outcomeOf_congr rows]

/-- The outcomes of the requests that came back, and the failures they add up to, are those of
the rows. -/
def OutcomesExact (nodeIds : List String) (s : NodeDetailRefresh) : Prop :=
  match s.phase with
  | .fetching outcomes => outcomes.length = nodeIds.length ∧
      ∀ (i : Nat) (nodeId : String) (outcome : Option String), nodeIds[i]? = some nodeId →
        outcomes[i]? = some (some outcome) → outcome = outcomeOf s.data nodeId
  | .loading failures => failures = unavailable nodeIds s.data
  | .summarizing failures => failures = unavailable nodeIds s.data ∧ failures ≠ []
  | _ => True

namespace NodeDetailRefresh

variable {nodeIds : List String} {notifier : Bool} {s s' : NodeDetailRefresh} {event : RefreshEvent}
  {events : List RefreshEvent}

/-- When every request has come back, the outcomes name the nodes without a row, in order. -/
theorem failures_of_outcomes {data : Data} {outcomes : List (Option (Option String))}
    (length : outcomes.length = nodeIds.length) (all : outcomes.all Option.isSome = true)
    (known : ∀ (i : Nat) (nodeId : String) (outcome : Option String), nodeIds[i]? = some nodeId →
      outcomes[i]? = some (some outcome) → outcome = outcomeOf data nodeId) :
    outcomes.filterMap Option.join = unavailable nodeIds data := by
  have eq : outcomes = nodeIds.map fun nodeId => some (outcomeOf data nodeId) := by
    apply List.ext_getElem
    · rw [List.length_map, length]
    · intro i inOutcomes inMap
      rw [List.getElem_map]
      have answered := List.all_eq_true.mp all _ (List.getElem_mem inOutcomes)
      obtain ⟨outcome, at_⟩ := Option.isSome_iff_exists.mp answered
      have own : nodeIds[i]? = some nodeIds[i] := List.getElem?_eq_getElem (by omega)
      rw [at_, known i _ outcome own (by rw [List.getElem?_eq_getElem inOutcomes, at_])]
  rw [eq, List.filterMap_map, ← filterMap_outcomeOf]
  rfl

theorem outcomesExact_of_frame (exact_ : OutcomesExact nodeIds s)
    (rows : s'.data.nodeDetails.details = s.data.nodeDetails.details) (phase : s'.phase = s.phase) :
    OutcomesExact nodeIds s' := by
  unfold OutcomesExact at exact_ ⊢
  simpa only [phase, unavailable_congr rows, outcomeOf_congr rows] using exact_

theorem outcomesExact_unanswered (phase : s.phase = unanswered nodeIds) :
    OutcomesExact nodeIds s := by
  unfold OutcomesExact
  rw [phase]
  refine ⟨List.length_map _, fun i nodeId outcome _ pending => ?_⟩
  rw [List.getElem?_map] at pending
  cases at_ : nodeIds[i]? <;> simp [at_] at pending

/-- Outside the requests there is nothing to know of their outcomes. -/
theorem outcomesExact_afterRound (ended : s'.phase = s.afterRound) : OutcomesExact nodeIds s' := by
  unfold OutcomesExact
  rw [ended, afterRound]
  cases s.ticked <;> trivial

theorem outcomesExact_step (configured : Configured nodeIds) (exact_ : OutcomesExact nodeIds s)
    (stepped : step nodeIds notifier s event = some s') : OutcomesExact nodeIds s' := by
  cases step_cases stepped with
  | stop => exact outcomesExact_of_frame exact_ rfl rfl
  | other foreign =>
    exact outcomesExact_of_frame exact_
      (congrArg NodeDetailStore.details (nodeDetails_of_foreign foreign s.data)) rfl
  | answered phase own pending =>
    rename_i i now reply nodeId outcomes
    generalize requestNodeDetail nodeId now reply = answer
    unfold OutcomesExact at exact_ ⊢
    rw [phase] at exact_
    obtain ⟨length, known⟩ := exact_
    have nonempty := configured.nonempty nodeId (List.mem_of_getElem? own)
    have phase' : (s.answer i nodeId outcomes answer).phase = .fetching (outcomes.set i
        (some (match answer with | .ok _ => none | .error _ => some nodeId))) := by
      cases answer <;> rfl
    rw [phase', data_answer]
    refine ⟨by rw [List.length_set, length], fun j other outcome at_ outcomeAt => ?_⟩
    rw [List.getElem?_set] at outcomeAt
    split at outcomeAt
    case isTrue same =>
      subst same
      obtain rfl := Option.some.inj (own.symm.trans at_)
      split at outcomeAt <;> cases outcomeAt
      exact (outcomeOf_reply nonempty answer s.data).symm
    case isFalse different =>
      have inside := (List.getElem?_eq_some_iff.mp own).1
      have apart : other ≠ nodeId := by
        rintro rfl
        exact different ((List.getElem?_inj inside configured.distinct).mp (own.trans at_.symm))
      rw [outcomeOf_other nonempty (configured.nonempty other (List.mem_of_getElem? at_)) apart]
      exact known j other outcome at_ outcomeAt
  | joined phase all =>
    unfold OutcomesExact at exact_
    rw [phase] at exact_
    exact failures_of_outcomes exact_.1 all exact_.2
  | loaded phase =>
    rename_i failures
    unfold OutcomesExact at exact_
    rw [phase] at exact_
    have rows : s.data.markNodeDetailsLoaded.nodeDetails.details = s.data.nodeDetails.details :=
      details_step configured stepped
    cases failures with
    | nil => trivial
    | cons failure rest =>
      refine ⟨?_, List.cons_ne_nil _ _⟩
      rw [exact_, unavailable_congr rows]
  | ranked phase =>
    rename_i reply now
    cases fetchNodeRankings reply with
    | ok nodes =>
      cases notifier with
      | true => trivial
      | false => exact outcomesExact_afterRound rfl
    | error message => exact outcomesExact_afterRound rfl
  | finished phase => exact outcomesExact_afterRound rfl
  | timedOut phase => exact outcomesExact_afterRound rfl
  | checked phase =>
    unfold OutcomesExact
    cases s.stopFlag <;> trivial
  | rechecked phase =>
    cases flag : s.stopFlag with
    | true => exact trivial
    | false => exact outcomesExact_unanswered rfl
  | summarized phase | notified phase | told phase | firstTick phase | ticked phase => trivial

theorem outcomesExact_run (configured : Configured nodeIds)
    (ran : run nodeIds notifier events = some s) : OutcomesExact nodeIds s :=
  Lts.run_invariant (I := fun _ s => OutcomesExact nodeIds s) (outcomesExact_unanswered rfl)
    (fun _ _ _ _ exact_ stepped => outcomesExact_step configured exact_ stepped) ran

end NodeDetailRefresh

/-- A message that is set is the one that is shown, whether it was new or not. -/
theorem UiStatusStore.set_shows (store : UiStatusStore) (level : StatusLevel) (text : String)
    (now : Nat) : (store.set level text now).2.statusMessage.map (fun message =>
      (message.level, message.text)) = some (level, text) := by
  obtain ⟨statusMessage⟩ := store
  unfold set
  cases statusMessage with
  | none => rfl
  | some message =>
    dsimp only [Option.any_some]
    split
    case isTrue shown =>
      simp only [Bool.and_eq_true, decide_eq_true_eq] at shown
      obtain ⟨⟨rfl, rfl⟩, -⟩ := shown
      rfl
    case isFalse => rfl

/-- A text that names the nodes in order: a single one, or their number and the first three, and how
many are left. -/
inductive NamesNodes : List String → String → Prop
  | one (a : String) : NamesNodes [a] ("Node detail unavailable for " ++ a)
  | two (a b : String) :
    NamesNodes [a, b] ("Node details unavailable for 2 node(s): " ++ a ++ ", " ++ b)
  | three (a b c : String) :
    NamesNodes [a, b, c] ("Node details unavailable for 3 node(s): " ++ a ++ ", " ++ b ++ ", " ++ c)
  | more (a b c : String) {rest : List String} (left : 0 < rest.length) :
    NamesNodes (a :: b :: c :: rest)
      ("Node details unavailable for " ++ toString (rest.length + 3) ++ " node(s): " ++ a ++ ", " ++
        b ++ ", " ++ c ++ ", +" ++ toString rest.length ++ " more")

theorem namesNodes_summarize {nodeIds : List String} (some_ : nodeIds ≠ []) :
    NamesNodes nodeIds (summarizeNodeDetailFailures nodeIds) := by
  match nodeIds with
  | [] => exact absurd rfl some_
  | [a] => exact .one a
  | [a, b] =>
    have told := NamesNodes.two a b
    have head : "Node details unavailable for 2 node(s): " =
        "Node details unavailable for " ++ toString 2 ++ " node(s): " := by decide
    have text : summarizeNodeDetailFailures [a, b] = "Node details unavailable for " ++ toString 2 ++
        " node(s): " ++ (a ++ ", " ++ b) := rfl
    rw [text, ← head]
    simpa only [String.append_assoc] using told
  | [a, b, c] =>
    have told := NamesNodes.three a b c
    have head : "Node details unavailable for 3 node(s): " =
        "Node details unavailable for " ++ toString 3 ++ " node(s): " := by decide
    have text : summarizeNodeDetailFailures [a, b, c] = "Node details unavailable for " ++ toString 3 ++
        " node(s): " ++ (a ++ ", " ++ b ++ ", " ++ c) := rfl
    rw [text, ← head]
    simpa only [String.append_assoc] using told
  | a :: b :: c :: d :: rest =>
    have told := @NamesNodes.more a b c (d :: rest) (Nat.succ_pos _)
    have preview : ", ".intercalate [a, b, c] = a ++ ", " ++ b ++ ", " ++ c := rfl
    have text : summarizeNodeDetailFailures (a :: b :: c :: d :: rest) =
        "Node details unavailable for " ++ toString ((d :: rest).length + 3) ++ " node(s): " ++
          ", ".intercalate [a, b, c] ++ ", +" ++ toString (d :: rest).length ++ " more" := rfl
    rw [text, preview]
    simpa only [String.append_assoc] using told

/-- When all requests of a round have come back, the nodes without a row are known, and if there
are any the status names them, in the order of the configuration. -/
theorem unavailable_nodes_named {configured : List String} {notifier : Bool}
    {events : List RefreshEvent} {event : RefreshEvent} {s s' : NodeDetailRefresh}
    (ran : run (normalizeNodeIds configured) notifier events = some s)
    (stepped : step (normalizeNodeIds configured) notifier s event = some s') :
    (event = .loaded → s'.data.nodeDetails.loaded = true ∧
      s'.phase = if unavailable (normalizeNodeIds configured) s'.data = [] then .ranking
        else .summarizing (unavailable (normalizeNodeIds configured) s'.data)) ∧
    ∀ now, event = .summarized now →
      s'.phase = .ranking ∧ unavailable (normalizeNodeIds configured) s'.data ≠ [] ∧
      ∃ text, NamesNodes (unavailable (normalizeNodeIds configured) s'.data) text ∧
        s'.data.status.statusMessage.map (fun message => (message.level, message.text)) =
          some (.warn, text) := by
  have exact_ := outcomesExact_run (configured_normalizeNodeIds configured) ran
  have rows := details_step (configured_normalizeNodeIds configured) stepped
  generalize normalizeNodeIds configured = nodeIds at exact_ rows stepped
  unfold OutcomesExact at exact_
  constructor
  · rintro rfl
    rw [unavailable_congr rows]
    cases step_cases stepped with
    | loaded phase =>
      rw [phase] at exact_
      obtain rfl := exact_
      refine ⟨?_, ?_⟩
      · simp [Data.markNodeDetailsLoaded, Data.markNodeDetailsDirty, NodeDetailStore.markLoaded]
      · show (if (unavailable nodeIds s.data).isEmpty then _ else _) = _
        simp only [List.isEmpty_iff]
        rfl
  · rintro now rfl
    rw [unavailable_congr rows]
    cases step_cases stepped with
    | summarized phase =>
      rw [phase] at exact_
      obtain ⟨rfl, nonempty⟩ := exact_
      refine ⟨rfl, nonempty, _, namesNodes_summarize nonempty, ?_⟩
      have status := DataOp.status_apply
        (.setStatusMessage .warn (summarizeNodeDetailFailures (unavailable nodeIds s.data)) now) s.data
      exact (congrArg (fun store : UiStatusStore => store.statusMessage.map fun message =>
        (message.level, message.text)) status).trans (UiStatusStore.set_shows ..)

theorem unavailable_nodes_named_twoNodes : ∃ s s' text,
    run (normalizeNodeIds [" a", "b", "a "]) true (twoNodes.take 4) = some s ∧
    step (normalizeNodeIds [" a", "b", "a "]) true s (.summarized 5) = some s' ∧
    NamesNodes ["b"] text ∧ s'.data.status.statusMessage.map (fun message =>
      (message.level, message.text)) = some (.warn, text) := by
  obtain ⟨s, ran⟩ : ∃ s, run (normalizeNodeIds [" a", "b", "a "]) true (twoNodes.take 4) = some s :=
    ⟨_, rfl⟩
  obtain ⟨s', stepped, missing⟩ : ∃ s',
      step (normalizeNodeIds [" a", "b", "a "]) true s (.summarized 5) = some s' ∧
      unavailable (normalizeNodeIds [" a", "b", "a "]) s'.data = ["b"] := by
    obtain rfl := Option.some.inj ran
    exact ⟨_, rfl, rfl⟩
  obtain ⟨-, -, text, names, shown⟩ := (unavailable_nodes_named ran stepped).2 5 rfl
  rw [missing] at names
  exact ⟨s, s', text, ran, stepped, names, shown⟩

/-! ## What the notifier is told -/

/-- The observations of a round whose list came: the nodes with a positive ranking, in the order of
the configuration, each under the name that its row has then. -/
def roundOf (nodeIds : List String) (events : List RefreshEvent) :
    RefreshEvent → Option (List RankingObservation)
  | .ranked answer now =>
    match fetchNodeRankings answer with
    | .ok nodes => some (nodeIds.filterMap fun nodeId => observed nodes
        (expectedNode nodeIds (events ++ [.ranked answer now]) nodeId) nodeId)
    | .error _ => none
  | _ => none

def roundsFrom (nodeIds : List String) :
    List RefreshEvent → List RefreshEvent → List (List RankingObservation)
  | _, [] => []
  | past, event :: events =>
    (roundOf nodeIds past event).toList ++ roundsFrom nodeIds (past ++ [event]) events

/-- The observations of all rounds of a run. -/
def rankingRounds (nodeIds : List String) (events : List RefreshEvent) :
    List (List RankingObservation) := roundsFrom nodeIds [] events

theorem rankingRounds_snoc (nodeIds : List String) (events : List RefreshEvent)
    (event : RefreshEvent) : rankingRounds nodeIds (events ++ [event]) =
      rankingRounds nodeIds events ++ (roundOf nodeIds events event).toList := by
  have general : ∀ past, roundsFrom nodeIds past (events ++ [event]) =
      roundsFrom nodeIds past events ++ (roundOf nodeIds (past ++ events) event).toList := by
    induction events with
    | nil => simp [roundsFrom]
    | cons first rest ih => simp [roundsFrom, ih]
  exact general []

def RefreshEvent.isTimeout : RefreshEvent → Bool
  | .rankingTimedOut _ => true
  | _ => false

/-- What is left of a round that is being told. -/
def RefreshPhase.untold : RefreshPhase → Option (List RankingObservation)
  | .notifying rest => some rest
  | .awaiting rest => some rest
  | _ => none

/-- Of every round so far a first part was told, and all of it if nothing timed out; of the round
that is being told, all up to the rest. -/
structure Telling (nodeIds : List String) (events : List RefreshEvent) (s : NodeDetailRefresh)
    (ended current : List (List RankingObservation)) (told : List (List RankingObservation))
    (part : List RankingObservation) : Prop where
  rounds : rankingRounds nodeIds events = ended ++ current
  current : current = match s.phase.untold with
    | some rest => [part ++ rest]
    | none => []
  idle : s.phase.untold = none → part = []
  prefixes : List.Forall₂ (· <+: ·) told ended
  notified : s.notified = told.flatten ++ part
  full : (∀ event ∈ events, event.isTimeout = false) → told = ended

section

variable {nodeIds : List String} {s s' : NodeDetailRefresh} {event : RefreshEvent}
  {events : List RefreshEvent} {ended current told : List (List RankingObservation)}
  {part : List RankingObservation}

theorem NodeDetailRefresh.untold_afterRound (s : NodeDetailRefresh) : s.afterRound.untold = none := by
  unfold afterRound
  split <;> rfl

/-- A step that neither begins a round, nor tells of one, nor ends one. -/
theorem Telling.of_quiet (telling : Telling nodeIds events s ended current told part)
    (round : roundOf nodeIds events event = none) (untold : s'.phase.untold = s.phase.untold)
    (notified : s'.notified = s.notified) :
    Telling nodeIds (events ++ [event]) s' ended current told part := by
  refine ⟨?_, ?_, ?_, telling.prefixes, by rw [notified, telling.notified], ?_⟩
  · rw [rankingRounds_snoc, round, telling.rounds, Option.toList_none, List.append_nil]
  · rw [untold, telling.current]
  · rw [untold]
    exact telling.idle
  · exact fun inTime => telling.full fun event mem => inTime event (List.mem_append_left _ mem)

/-- The round that is being told ends, after its last observation or with a timeout. -/
theorem Telling.of_end (telling : Telling nodeIds events s ended current told part)
    (round : roundOf nodeIds events event = none) {rest : List RankingObservation}
    (before : s.phase.untold = some rest) (after : s'.phase.untold = none)
    (notified : s'.notified = s.notified) (complete : event.isTimeout = false → rest = []) :
    Telling nodeIds (events ++ [event]) s' (ended ++ [part ++ rest]) [] (told ++ [part]) [] := by
  obtain ⟨rounds, now, -, prefixes, notified_, full⟩ := telling
  rw [before] at now
  dsimp only at now
  refine ⟨?_, by rw [after], fun _ => rfl, ?_, ?_, fun inTime => ?_⟩
  · rw [rankingRounds_snoc, round, rounds, now, Option.toList_none, List.append_nil]
  · exact List.rel_append prefixes (.cons (List.prefix_append part rest) .nil)
  · rw [notified, notified_, List.flatten_append, List.flatten_singleton, List.append_nil]
  · have all := complete (inTime event (by simp))
    rw [full fun event mem => inTime event (List.mem_append_left _ mem), all, List.append_nil]

/-- A round begins. -/
theorem Telling.of_begin (telling : Telling nodeIds events s ended current told part)
    {observations : List RankingObservation} (round : roundOf nodeIds events event = some observations)
    (before : s.phase.untold = none) (after : s'.phase.untold = some observations)
    (notified : s'.notified = s.notified) :
    Telling nodeIds (events ++ [event]) s' ended [observations] told [] := by
  obtain ⟨rounds, now, idle, prefixes, notified_, full⟩ := telling
  rw [before] at now
  refine ⟨?_, by rw [after]; rfl, fun _ => rfl, prefixes, ?_, ?_⟩
  · rw [rankingRounds_snoc, round, rounds, now, List.append_nil, Option.toList_some]
  · rw [notified, notified_, idle before]
  · exact fun inTime => full fun event mem => inTime event (List.mem_append_left _ mem)

/-- One more observation is told. -/
theorem Telling.of_notify (telling : Telling nodeIds events s ended current told part)
    (round : roundOf nodeIds events event = none) {observation : RankingObservation}
    {rest : List RankingObservation} (before : s.phase.untold = some (observation :: rest))
    (after : s'.phase.untold = some rest) (notified : s'.notified = s.notified ++ [observation]) :
    Telling nodeIds (events ++ [event]) s' ended current told (part ++ [observation]) := by
  obtain ⟨rounds, now, -, prefixes, notified_, full⟩ := telling
  rw [before] at now
  refine ⟨?_, ?_, ?_, prefixes, ?_, ?_⟩
  · rw [rankingRounds_snoc, round, rounds, Option.toList_none, List.append_nil]
  · rw [after, now]
    simp
  · intro none
    rw [after] at none
    cases none
  · rw [notified, notified_, List.append_assoc]
  · exact fun inTime => full fun event mem => inTime event (List.mem_append_left _ mem)

theorem NodeDetailRefresh.telling_step (configured : Configured nodeIds)
    (rows : ∀ nodeId, s'.data.nodeDetails.details.lookup nodeId =
      expectedNode nodeIds (events ++ [event]) nodeId)
    (telling : Telling nodeIds events s ended current told part)
    (stepped : step nodeIds true s event = some s') : ∃ ended current told part,
      Telling nodeIds (events ++ [event]) s' ended current told part := by
  cases step_cases stepped with
  | stop => exact ⟨_, _, _, _, telling.of_quiet rfl rfl rfl⟩
  | other foreign => exact ⟨_, _, _, _, telling.of_quiet rfl rfl rfl⟩
  | answered phase own pending =>
    rename_i i now reply nodeId outcomes
    refine ⟨_, _, _, _, telling.of_quiet rfl ?_ ?_⟩
    · rw [phase]
      cases requestNodeDetail nodeId now reply <;> rfl
    · cases requestNodeDetail nodeId now reply <;> rfl
  | joined phase all => exact ⟨_, _, _, _, telling.of_quiet rfl (by rw [phase]; rfl) rfl⟩
  | loaded phase =>
    rename_i failures
    refine ⟨_, _, _, _, telling.of_quiet rfl ?_ rfl⟩
    rw [phase]
    cases failures <;> rfl
  | summarized phase => exact ⟨_, _, _, _, telling.of_quiet rfl (by rw [phase]; rfl) rfl⟩
  | ranked phase =>
    rename_i reply now
    cases answer : fetchNodeRankings reply with
    | error message =>
      refine ⟨_, _, _, _, telling.of_quiet ?_ ?_ rfl⟩
      · rw [roundOf, answer]
      · rw [phase]
        exact untold_afterRound s
    | ok nodes =>
      have after := observeRankings_eq configured nodes s.data
      have round : roundOf nodeIds events (.ranked reply now) =
          some (observeRankings nodes nodeIds s.data).2 := by
        rw [roundOf, answer, after]
        dsimp only
        congr 1
        apply List.filterMap_congr
        intro nodeId _
        rw [← rows, answer]
        show observed nodes
          ((observeRankings nodes nodeIds s.data).1.nodeDetails.details.lookup nodeId) nodeId = _
        rw [after]
      exact ⟨_, _, _, _, telling.of_begin round (by rw [phase]; rfl) rfl rfl⟩
  | finished phase =>
    exact ⟨_, _, _, _, telling.of_end rfl (by rw [phase]; rfl) (untold_afterRound s) rfl fun _ => rfl⟩
  | notified phase => exact ⟨_, _, _, _, telling.of_notify rfl (by rw [phase]; rfl) rfl rfl⟩
  | told phase => exact ⟨_, _, _, _, telling.of_quiet rfl (by rw [phase]; rfl) rfl⟩
  | timedOut phase =>
    rcases phase with phase | ⟨rest, phase⟩
    · refine ⟨_, _, _, _, telling.of_quiet rfl ?_ rfl⟩
      rw [phase]
      exact untold_afterRound s
    · exact ⟨_, _, _, _, telling.of_end rfl (by rw [phase]; rfl) (untold_afterRound s) rfl
        fun inTime => by cases inTime⟩
  | firstTick phase => exact ⟨_, _, _, _, telling.of_quiet rfl (by rw [phase]; rfl) rfl⟩
  | checked phase =>
    refine ⟨_, _, _, _, telling.of_quiet rfl ?_ rfl⟩
    rw [phase]
    cases s.stopFlag <;> rfl
  | ticked phase => exact ⟨_, _, _, _, telling.of_quiet rfl (by rw [phase]; rfl) rfl⟩
  | rechecked phase =>
    refine ⟨_, _, _, _, telling.of_quiet rfl ?_ rfl⟩
    rw [phase]
    cases s.stopFlag <;> rfl

theorem NodeDetailRefresh.telling_run (configured : Configured nodeIds)
    (ran : run nodeIds true events = some s) :
    ∃ ended current told part, Telling nodeIds events s ended current told part := by
  induction events using List.reverseRecOn generalizing s with
  | nil =>
    cases ran
    exact ⟨[], [], [], [], rfl, rfl, fun _ => rfl, .nil, rfl, fun _ => rfl⟩
  | append_singleton events event ih =>
    obtain ⟨mid, before, stepped⟩ := Lts.run_snoc_split ran
    obtain ⟨_, _, _, _, telling⟩ := ih before
    exact telling_step configured (rows_of_run configured ran) telling stepped

end

/-- The notifier is called for the rankings of each round in order, each node under the name that
its row has then. A timeout can cut a round short; without one, nothing is left out but what is
still to be told. -/
theorem rankings_told {configured : List String} {events : List RefreshEvent} {s : NodeDetailRefresh}
    (ran : run (normalizeNodeIds configured) true events = some s) : (∃ told,
      List.Forall₂ (· <+: ·) told (rankingRounds (normalizeNodeIds configured) events) ∧
      s.notified = told.flatten) ∧
    ((∀ event ∈ events, event.isTimeout = false) → s.notified ++ s.phase.untold.getD [] =
      (rankingRounds (normalizeNodeIds configured) events).flatten) := by
  obtain ⟨ended, current, told, part, rounds, now, idle, prefixes, notified, full⟩ :=
    telling_run (configured_normalizeNodeIds configured) ran
  rw [rounds, notified]
  cases untold : s.phase.untold with
  | none =>
    rw [untold] at now
    obtain rfl := now
    rw [idle untold, List.append_nil, List.append_nil]
    refine ⟨⟨told, prefixes, rfl⟩, fun inTime => ?_⟩
    rw [full inTime, Option.getD_none, List.append_nil]
  | some rest =>
    rw [untold] at now
    obtain rfl := now
    refine ⟨⟨told ++ [part], ?_, ?_⟩, fun inTime => ?_⟩
    · exact List.rel_append prefixes (.cons (List.prefix_append part rest) .nil)
    · rw [List.flatten_append, List.flatten_singleton]
    · rw [full inTime, Option.getD_some, List.flatten_append, List.flatten_singleton,
        List.append_assoc]

/-- Both nodes are ranked. One call of the notifier is over, or does not end before the timeout. -/
def twoRankings (last : List RefreshEvent) : List RefreshEvent :=
  [.answered 0 (some (.response 0 "" (some ⟨"A", 7, 10, "1/day", "10", "20", "addr", 5⟩))) 3,
    .answered 1 (some (.response 0 "" (some ⟨"", 8, 10, "1/day", "10", "20", "addr", 5⟩))) 4,
    .joined, .loaded, .ranked (.response 0 "" (some [⟨"b", 7⟩, ⟨"a", 12⟩])) 6, .notify] ++ last

theorem rankings_told_twoNodes :
    (∃ s, run (normalizeNodeIds [" a", "b", "a "]) true (twoRankings [.told, .notify, .told, .notify]) =
        some s ∧ s.notified = [⟨"a", "A", 12⟩, ⟨"b", "b", 7⟩] ∧
      s.notified ++ s.phase.untold.getD [] = (rankingRounds (normalizeNodeIds [" a", "b", "a "])
        (twoRankings [.told, .notify, .told, .notify])).flatten) ∧
    ∃ s, run (normalizeNodeIds [" a", "b", "a "]) true (twoRankings [.rankingTimedOut 7]) = some s ∧
      s.notified = [⟨"a", "A", 12⟩] ∧ ∃ told, List.Forall₂ (· <+: ·) told
        (rankingRounds (normalizeNodeIds [" a", "b", "a "]) (twoRankings [.rankingTimedOut 7])) ∧
        s.notified = told.flatten := by
  constructor
  · obtain ⟨s, ran, notified⟩ : ∃ s, run (normalizeNodeIds [" a", "b", "a "]) true
        (twoRankings [.told, .notify, .told, .notify]) = some s ∧
        s.notified = [⟨"a", "A", 12⟩, ⟨"b", "b", 7⟩] := ⟨_, rfl, rfl⟩
    refine ⟨s, ran, notified, (rankings_told ran).2 ?_⟩
    simp [twoRankings, RefreshEvent.isTimeout]
  · obtain ⟨s, ran, notified⟩ : ∃ s, run (normalizeNodeIds [" a", "b", "a "]) true
        (twoRankings [.rankingTimedOut 7]) = some s ∧ s.notified = [⟨"a", "A", 12⟩] := ⟨_, rfl, rfl⟩
    exact ⟨s, ran, notified, (rankings_told ran).1⟩

end ChainDash.Collect
