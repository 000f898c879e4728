import ChainDash.Collect.Endpoints
import ChainDash.Notify.Transitions

/-!
# The tasks of the endpoints

One `collect_node_state` for each endpoint, all of them interleaved with each other, with the
notifier's other calls and with the other tasks. A round of a task ends with one call of the
notifier, which the task awaits; so the notifier hears of every round once and in order
(`rounds_reported`), and the messages of an endpoint are posted one call after the other
(`connection_messages_in_order`).
-/

namespace ChainDash.Collect
set_option autoImplicit false

open Notify

/-- Where a task stands. A call of the notifier that is awaited goes on with a warning after
a failure, and with the next poll after a recovery. -/
inductive NodeStatePhase where
  | checking
  | connecting
  /-- At the top of the inner loop. -/
  | polling
  | ticking
  | asking
  | numbering (status : ConsensusStatus)
  | storing (status : ConsensusStatus) (curNumber : UInt64)
  | failing (reason warning : String)
  | recovering
  | awaiting (call : Nat) (warning : Option String)
  | warning (message : String)
  | sleeping
  | returned

/-- `owners` has for each call of the notifier the task that awaits it, and `notified` the
steps of the notifier so far. -/
structure NodeStateTasks where
  phases : List NodeStatePhase
  stopFlag : Bool := false
  data : Data := {}
  world : World := {}
  owners : List (Option Nat) := []
  notified : List Notify.Event := []

inductive NodeStateEvent where
  | check
  | connected (answer : Except String Unit)
  | tick
  | status (answer : Except String ConsensusStatus)
  | number (answer : Except String UInt64)
  | store
  | notify
  | resume
  | warn (now : Nat)
  | slept

/-- A step of a task, of the notifier, or of anything else. -/
inductive NodeStatesEvent where
  | task (i : Nat) (event : NodeStateEvent)
  | notifier (event : Notify.Event)
  | other (op : DataOp)
  | stop

/-- `update_consensus_state` is called by these tasks only. -/
def DataOp.isConsensusState : DataOp → Bool
  | .updateConsensusState .. => true
  | _ => false

/-- A call has made its decision and posted everything. -/
def isDone (world : World) (index : Nat) : Bool :=
  match world.calls[index]? with
  | some (.posting _ []) => true
  | _ => false

namespace NodeStateTasks

def start (urls : List (String × String)) : NodeStateTasks where
  phases := urls.map fun _ => .checking

def setPhase (s : NodeStateTasks) (i : Nat) (phase : NodeStatePhase) : NodeStateTasks :=
  { s with phases := s.phases.set i phase }

def afterCall : Option String → NodeStatePhase
  | some message => .warning message
  | none => .polling

/-- A task on its own: the stop flag and the answers of its endpoint. -/
def advance (stopFlag : Bool) (endpoint : String × String) :
    NodeStateEvent → NodeStatePhase → Option NodeStatePhase
  | .check, .checking => some (if stopFlag then .returned else .connecting)
  | .connected (.ok ()), .connecting => some .polling
  | .connected (.error err), .connecting =>
    some (.failing ("建立 WebSocket 连接失败: " ++ err) ("Failed to connect node state collector for " ++
      endpoint.1 ++ " at " ++ endpoint.2 ++ ": " ++ err))
  | .check, .polling => some (if stopFlag then .returned else .ticking)
  | .tick, .ticking => some .asking
  | .status (.ok status), .asking => some (.numbering status)
  | .status (.error err), .asking =>
    some (.failing ("debug_consensus_status 调用失败: " ++ err) ("Node state RPC failed for " ++
      endpoint.1 ++ ": " ++ err ++ ". Reconnecting soon"))
  | .number (.ok curNumber), .numbering status => some (.storing status curNumber)
  | .number (.error err), .numbering _ =>
    some (.failing ("eth_blockNumber 调用失败: " ++ err) ("Node block number RPC failed for " ++
      endpoint.1 ++ ": " ++ err ++ ". Reconnecting soon"))
  | .slept, .sleeping => some .checking
  | _, _ => none

/-- The call of the notifier that a task is about to make, and the warning after it. -/
def nextCall (endpoint : String × String) : NodeStatePhase → Option (NotifierCall × Option String)
  | .failing reason warning =>
    some (.nodeConnectionFailed endpoint.1 endpoint.2 reason, some warning)
  | .recovering => some (.nodeConnectionRecovered endpoint.1 endpoint.2, none)
  | _ => none

/-- A call that reports something is awaited; without a notifier there is no call. -/
def call (notifier : Option TelegramConfig) (s : NodeStateTasks) (i : Nat) (call : NotifierCall)
    (warning : Option String) : Option NodeStateTasks :=
  match notifier with
  | none => some (s.setPhase i (afterCall warning))
  | some config =>
    (World.step config s.world (.observe call)).map fun world =>
      let reports := s.world.calls.length < world.calls.length
      { s with
        phases := s.phases.set i
          (if reports then .awaiting s.world.calls.length warning else afterCall warning)
        world
        owners := if reports then s.owners ++ [some i] else s.owners
        notified := s.notified ++ [.observe call] }

def taskStep (notifier : Option TelegramConfig) (s : NodeStateTasks) (i : Nat)
    (endpoint : String × String) (event : NodeStateEvent) (phase : NodeStatePhase) :
    Option NodeStateTasks :=
  match event, phase with
  | .store, .storing status curNumber =>
    some { s.setPhase i .recovering with
      data := s.data.updateConsensusState endpoint.1
        (consensusState endpoint.1 endpoint.2 status curNumber) }
  | .notify, phase => (nextCall endpoint phase).bind fun next => s.call notifier i next.1 next.2
  | .resume, .awaiting call warning =>
    if isDone s.world call then some (s.setPhase i (afterCall warning)) else none
  | .warn now, .warning message =>
    some { s.setPhase i .sleeping with data := s.data.setStatusMessage .warn message now }
  | event, phase => (advance s.stopFlag endpoint event phase).map (s.setPhase i)

/-- Other calls of the notifier are not about connections. -/
def step (urls : List (String × String)) (notifier : Option TelegramConfig) (s : NodeStateTasks)
    (event : NodeStatesEvent) : Option NodeStateTasks :=
  match event with
  | .task i event =>
    match urls[i]?, s.phases[i]? with
    | some endpoint, some phase => s.taskStep notifier i endpoint event phase
    | _, _ => none
  | .notifier event =>
    match notifier with
    | none => none
    | some config =>
      if event.connection.isSome then none
      else (World.step config s.world event).map fun world =>
        { s with
          world
          owners := s.owners ++ List.replicate (world.calls.length - s.world.calls.length) none
          notified := s.notified ++ [event] }
  | .other op => if op.isConsensusState then none else some { s with data := op.apply s.data }
  | .stop => some { s with stopFlag := true }

def run (urls : List (String × String)) (notifier : Option TelegramConfig)
    (events : List NodeStatesEvent) : Option NodeStateTasks :=
  Lts.run (step urls notifier) (start urls) events

/-! ## One step -/

/-- Every way the tasks can step. -/
inductive Stepped (urls : List (String × String)) (notifier : Option TelegramConfig)
    (s : NodeStateTasks) : NodeStatesEvent → NodeStateTasks → Prop
  | advanced {i : Nat} {endpoint : String × String} {event : NodeStateEvent}
      {phase phase' : NodeStatePhase} (url : urls[i]? = some endpoint) (stands : s.phases[i]? = some phase)
      (moved : advance s.stopFlag endpoint event phase = some phase') :
      Stepped urls notifier s (.task i event) (s.setPhase i phase')
  | stored {i : Nat} {endpoint : String × String} {status : ConsensusStatus} {curNumber : UInt64}
      (url : urls[i]? = some endpoint) (stands : s.phases[i]? = some (.storing status curNumber)) :
      Stepped urls notifier s (.task i .store) { s.setPhase i .recovering with
        data := s.data.updateConsensusState endpoint.1
          (consensusState endpoint.1 endpoint.2 status curNumber) }
  | called {i : Nat} {endpoint : String × String} {phase : NodeStatePhase} {call : NotifierCall}
      {warning : Option String} {s' : NodeStateTasks} (url : urls[i]? = some endpoint)
      (stands : s.phases[i]? = some phase) (next : nextCall endpoint phase = some (call, warning))
      (made : s.call notifier i call warning = some s') : Stepped urls notifier s (.task i .notify) s'
  | resumed {i index : Nat} {endpoint : String × String} {warning : Option String}
      (url : urls[i]? = some endpoint) (stands : s.phases[i]? = some (.awaiting index warning))
      (done : isDone s.world index = true) :
      Stepped urls notifier s (.task i .resume) (s.setPhase i (afterCall warning))
  | warned {i now : Nat} {endpoint : String × String} {message : String}
      (url : urls[i]? = some endpoint) (stands : s.phases[i]? = some (.warning message)) :
      Stepped urls notifier s (.task i (.warn now))
        { s.setPhase i .sleeping with data := s.data.setStatusMessage .warn message now }
  | notifier {config : TelegramConfig} {event : Notify.Event} {world : World}
      (present : notifier = some config) (foreign : event.connection = none)
      (moved : World.step config s.world event = some world) :
      Stepped urls notifier s (.notifier event) { s with
        world
        owners := s.owners ++ List.replicate (world.calls.length - s.world.calls.length) none
        notified := s.notified ++ [event] }
  | other {op : DataOp} (foreign : op.isConsensusState = false) :
      Stepped urls notifier s (.other op) { s with data := op.apply s.data }
  | stop : Stepped urls notifier s .stop { s with stopFlag := true }

variable {urls : List (String × String)} {notifier : Option TelegramConfig} {s s' : NodeStateTasks}
  {event : NodeStatesEvent}

theorem taskStep_cases {i : Nat} {endpoint : String × String} {event : NodeStateEvent}
    {phase : NodeStatePhase} (url : urls[i]? = some endpoint) (stands : s.phases[i]? = some phase)
    (stepped : s.taskStep notifier i endpoint event phase = some s') :
    Stepped urls notifier s (.task i event) s' := by
  unfold taskStep at stepped
  split at stepped
  case h_1 status curNumber =>
    cases stepped
    exact .stored url stands
  case h_2 phase =>
    obtain ⟨⟨call, warning⟩, next, made⟩ := Option.bind_eq_some_iff.mp stepped
    exact .called url stands next made
  case h_3 index warning =>
    split at stepped <;> cases stepped
    case isTrue done => exact .resumed url stands done
  case h_4 now message =>
    cases stepped
    exact .warned url stands
  case h_5 =>
    obtain ⟨phase', moved, rfl⟩ := Option.map_eq_some_iff.mp stepped
    exact .advanced url stands moved

theorem step_cases (stepped : step urls notifier s event = some s') :
    Stepped urls notifier s event s' := by
  cases event with
  | task i event =>
    simp only [step] at stepped
    split at stepped
    case h_1 endpoint phase url stands => exact taskStep_cases url stands stepped
    case h_2 => cases stepped
  | notifier event =>
    simp only [step] at stepped
    split at stepped
    case h_1 => cases stepped
    case h_2 config =>
      split at stepped
      case isTrue => cases stepped
      case isFalse foreign =>
        obtain ⟨world, moved, rfl⟩ := Option.map_eq_some_iff.mp stepped
        exact .notifier rfl (by simpa using foreign) moved
  | other op =>
    simp only [step] at stepped
    split at stepped
    case isTrue => cases stepped
    case isFalse foreign =>
      cases stepped
      exact .other (by simpa using foreign)
  | stop =>
    cases stepped
    exact .stop

end NodeStateTasks

/-! ## Every round once -/

/-- What an answer says of the connection: an error that it failed, the block number, the
last answer of a round, that it is there. -/
def NodeStateEvent.report (endpoint : String × String) : NodeStateEvent → Option NotifierCall
  | .connected (.error err) =>
    some (.nodeConnectionFailed endpoint.1 endpoint.2 ("建立 WebSocket 连接失败: " ++ err))
  | .status (.error err) =>
    some (.nodeConnectionFailed endpoint.1 endpoint.2 ("debug_consensus_status 调用失败: " ++ err))
  | .number (.error err) =>
    some (.nodeConnectionFailed endpoint.1 endpoint.2 ("eth_blockNumber 调用失败: " ++ err))
  | .number (.ok _) => some (.nodeConnectionRecovered endpoint.1 endpoint.2)
  | _ => none

def NodeStatesEvent.ofTask (i : Nat) : NodeStatesEvent → Option NodeStateEvent
  | .task j event => if j = i then some event else none
  | _ => none

/-- How the rounds of a task ended. -/
def roundReports (i : Nat) (endpoint : String × String) (events : List NodeStatesEvent) :
    List NotifierCall :=
  (events.filterMap (·.ofTask i)).filterMap (·.report endpoint)

/-- What a task has yet to tell the notifier. -/
def NodeStatePhase.unreported (endpoint : String × String) : NodeStatePhase → Option NotifierCall
  | .storing _ _ => some (.nodeConnectionRecovered endpoint.1 endpoint.2)
  | phase => (NodeStateTasks.nextCall endpoint phase).map Prod.fst

/-- What the notifier hears of a task in a run: every finished round, once and in order, but
for one that is still to be told; of these it hands on the transitions. -/
structure ReportedExactly (config : TelegramConfig) (events : List NodeStatesEvent)
    (s : NodeStateTasks) (i : Nat) (endpoint : String × String) (phase : NodeStatePhase) : Prop where
  heard : connectionObservations (connectionKey endpoint.1 endpoint.2) s.notified ++
    (phase.unreported endpoint).toList = roundReports i endpoint events
  handedOn : (connectionTransitions config (connectionKey endpoint.1 endpoint.2) s.notified).map Prod.fst =
    collapsed (connectionObservations (connectionKey endpoint.1 endpoint.2) s.notified)

namespace NodeStateTasks

variable {urls : List (String × String)} {config : TelegramConfig} {s s' : NodeStateTasks}
  {event : NodeStatesEvent} {events : List NodeStatesEvent}

theorem unreported_afterCall (endpoint : String × String) (warning : Option String) :
    (afterCall warning).unreported endpoint = none := by
  cases warning <;> rfl

/-- A task learns of the end of a round in the step after which it is to be told. -/
theorem unreported_advance {stopFlag : Bool} {endpoint : String × String} {event : NodeStateEvent}
    {phase phase' : NodeStatePhase} (moved : advance stopFlag endpoint event phase = some phase') :
    phase.unreported endpoint = none ∧ phase'.unreported endpoint = event.report endpoint := by
  unfold advance at moved
  split at moved
  case h_1 | h_4 =>
    obtain rfl := Option.some.inj moved
    cases stopFlag <;> exact ⟨rfl, rfl⟩
  case h_11 => cases moved
  all_goals
    obtain rfl := Option.some.inj moved
    exact ⟨rfl, rfl⟩

theorem afterCall_free (warning : Option String) (index : Nat) (warning' : Option String) :
    afterCall warning ≠ .awaiting index warning' := by
  cases warning <;> simp [afterCall]

/-- A task does not get into or out of awaiting a call on its own. -/
theorem advance_free {stopFlag : Bool} {endpoint : String × String} {event : NodeStateEvent}
    {phase phase' : NodeStatePhase} (moved : advance stopFlag endpoint event phase = some phase') :
    (∀ index warning, phase ≠ .awaiting index warning) ∧
      ∀ index warning, phase' ≠ .awaiting index warning := by
  unfold advance at moved
  split at moved
  case h_1 | h_4 =>
    obtain rfl := Option.some.inj moved
    cases stopFlag <;> simp
  case h_11 => cases moved
  all_goals
    obtain rfl := Option.some.inj moved
    simp

theorem unreported_of_nextCall {endpoint : String × String} {phase : NodeStatePhase}
    {call : NotifierCall} {warning : Option String}
    (next : nextCall endpoint phase = some (call, warning)) :
    phase.unreported endpoint = some call ∧
      call.connection = some (connectionKey endpoint.1 endpoint.2) := by
  unfold nextCall at next
  split at next <;> cases next <;> exact ⟨rfl, rfl⟩

theorem roundReports_snoc (i : Nat) (endpoint : String × String) (events : List NodeStatesEvent)
    (event : NodeStatesEvent) : roundReports i endpoint (events ++ [event]) =
      roundReports i endpoint events ++ ((event.ofTask i).bind (·.report endpoint)).toList := by
  unfold roundReports
  rw [List.filterMap_append, List.filterMap_append]
  congr 1
  cases own : event.ofTask i with
  | none => simp [own]
  | some step => cases told : step.report endpoint <;> simp [own, told]

end NodeStateTasks

/-! ## What the notifier is told -/

theorem connectionObservations_snoc (key : String) (events : List Notify.Event)
    (event : Notify.Event) : connectionObservations key (events ++ [event]) =
      connectionObservations key events ++
        ((event.connection.filter (·.1 = key)).map Prod.snd).toList := by
  unfold connectionObservations Mealy.inputsFor
  rw [List.filterMap_append, List.filter_append, List.map_append]
  congr 1
  cases about : event.connection with
  | none => simp [about]
  | some observed => by_cases own : observed.1 = key <;> simp [about, own, Option.filter]

namespace NodeStateTasks

variable {urls : List (String × String)} {config : TelegramConfig} {s s' : NodeStateTasks}
  {event : NodeStatesEvent} {events : List NodeStatesEvent}

/-- Where the phase of a task comes from in a step of task `i`. -/
theorem getElem?_set_phase {i j : Nat} {phase phase' : NodeStatePhase} {phases : List NodeStatePhase}
    (at_ : (phases.set i phase)[j]? = some phase') :
    j = i ∧ phase' = phase ∨ j ≠ i ∧ phases[j]? = some phase' := by
  rw [List.getElem?_set] at at_
  split at at_
  case isTrue same =>
    subst same
    split at at_ <;> cases at_
    exact .inl ⟨rfl, rfl⟩
  case isFalse other => exact .inr ⟨Ne.symm other, at_⟩

/-- The notifier's part of the run is a run of its own, and it has heard of every round. -/
structure Heard (urls : List (String × String)) (config : TelegramConfig)
    (events : List NodeStatesEvent) (s : NodeStateTasks) : Prop where
  replays : World.run config s.notified = some s.world
  heard : ∀ i endpoint phase, urls[i]? = some endpoint → s.phases[i]? = some phase →
    connectionObservations (connectionKey endpoint.1 endpoint.2) s.notified ++
      (phase.unreported endpoint).toList = roundReports i endpoint events

/-- A step of one task: `now` is what it tells the notifier in it. -/
theorem Heard.of_set {i : Nat} {endpoint : String × String} {phase phase' : NodeStatePhase}
    {event : NodeStateEvent} (now : Option NotifierCall) (heard : Heard urls config events s)
    (url : urls[i]? = some endpoint) (stands : s.phases[i]? = some phase)
    (replays : World.run config s'.notified = some s'.world)
    (phases : s'.phases = s.phases.set i phase')
    (observed : ∀ j other, urls[j]? = some other →
      connectionObservations (connectionKey other.1 other.2) s'.notified =
        connectionObservations (connectionKey other.1 other.2) s.notified ++
          if j = i then now.toList else [])
    (told : now.toList ++ (phase'.unreported endpoint).toList =
      (phase.unreported endpoint).toList ++ (event.report endpoint).toList) :
    Heard urls config (events ++ [.task i event]) s' := by
  refine ⟨replays, fun j other next url' stands' => ?_⟩
  rw [observed j other url', roundReports_snoc]
  rw [phases] at stands'
  rcases getElem?_set_phase stands' with ⟨rfl, rfl⟩ | ⟨apart, before⟩
  · obtain rfl := Option.some.inj (url.symm.trans url')
    rw [if_pos rfl, List.append_assoc, told, ← List.append_assoc, heard.heard j _ _ url stands]
    simp [NodeStatesEvent.ofTask]
  · rw [if_neg apart, List.append_nil, heard.heard j _ _ url' before]
    simp [NodeStatesEvent.ofTask, Ne.symm apart]

/-- A step of a task that does not call the notifier. -/
theorem Heard.of_quiet {i : Nat} {endpoint : String × String} {phase phase' : NodeStatePhase}
    {event : NodeStateEvent} (heard : Heard urls config events s)
    (url : urls[i]? = some endpoint) (stands : s.phases[i]? = some phase)
    (notified : s'.notified = s.notified) (world : s'.world = s.world)
    (phases : s'.phases = s.phases.set i phase')
    (told : (phase'.unreported endpoint).toList =
      (phase.unreported endpoint).toList ++ (event.report endpoint).toList) :
    Heard urls config (events ++ [.task i event]) s' := by
  apply heard.of_set none url stands ?_ phases ?_ told
  · rw [notified, world]
    exact heard.replays
  · intro j other _
    rw [notified]
    split <;> simp

/-- A step of no task: the notifier hears of no connection in it. -/
theorem Heard.of_foreign (heard : Heard urls config events s) (foreign : ∀ i, event.ofTask i = none)
    (replays : World.run config s'.notified = some s'.world) (phases : s'.phases = s.phases)
    (observed : ∀ key, connectionObservations key s'.notified = connectionObservations key s.notified) :
    Heard urls config (events ++ [event]) s' := by
  refine ⟨replays, fun i endpoint phase url stands => ?_⟩
  rw [observed, roundReports_snoc, foreign, Option.bind_none, Option.toList_none, List.append_nil]
  rw [phases] at stands
  exact heard.heard i endpoint phase url stands

/-- No two tasks report under one connection key. -/
def OwnKeys (urls : List (String × String)) : Prop :=
  ∀ (i j : Nat) (a b : String × String), urls[i]? = some a → urls[j]? = some b →
    connectionKey a.1 a.2 = connectionKey b.1 b.2 → i = j

theorem ownKeys_of_accepted {value : String} (accepted : parseUrls value = .ok urls)
    (distinct : urls.Nodup) : OwnKeys urls := by
  intro i j a b atI atJ same
  obtain rfl : a = b := connectionKey_inj accepted (List.mem_of_getElem? atI)
    (List.mem_of_getElem? atJ) same
  obtain ⟨inside, _⟩ := List.getElem?_eq_some_iff.mp atI
  exact (List.getElem?_inj inside distinct).mp (atI.trans atJ.symm)

/-- A call changes the notifier and the phase of its task. -/
theorem call_eq {i : Nat} {call : NotifierCall} {warning : Option String}
    (made : s.call (some config) i call warning = some s') :
    ∃ world, World.step config s.world (.observe call) = some world ∧
      s' = { s with
        phases := s.phases.set i (if s.world.calls.length < world.calls.length then
          .awaiting s.world.calls.length warning else afterCall warning)
        world
        owners := if s.world.calls.length < world.calls.length then s.owners ++ [some i]
          else s.owners
        notified := s.notified ++ [.observe call] } := by
  obtain ⟨world, moved, rfl⟩ := Option.map_eq_some_iff.mp made
  exact ⟨world, moved, rfl⟩

theorem heard_step (keys : OwnKeys urls) (heard : Heard urls config events s) (stepped : step urls (some config) s event = some s') :
    Heard urls config (events ++ [event]) s' := by
  cases step_cases stepped with
  | advanced url stands moved =>
    obtain ⟨before, after⟩ := unreported_advance moved
    exact heard.of_quiet url stands rfl rfl rfl (by rw [before, after]; rfl)
  | stored url stands => exact heard.of_quiet url stands rfl rfl rfl rfl
  | @called i endpoint phase call warning _ url stands next made =>
    obtain ⟨world, moved, rfl⟩ := call_eq made
    obtain ⟨unreported, about⟩ := unreported_of_nextCall next
    refine heard.of_set (some call) url stands ?_ rfl ?_ ?_
    · show Lts.run _ _ _ = _
      rw [Lts.run_append, show Lts.run _ _ s.notified = _ from heard.replays]
      simp [Lts.run_cons, moved]
    · intro j other url'
      have key : connectionKey endpoint.1 endpoint.2 = connectionKey other.1 other.2 ↔ j = i := by
        constructor
        · exact fun same => keys j i other endpoint url' url same.symm
        · rintro rfl
          rw [Option.some.inj (url.symm.trans url')]
      show connectionObservations _ (s.notified ++ [.observe call]) = _
      rw [connectionObservations_snoc, Event.connection_eq_some.mpr ⟨rfl, about⟩]
      simp only [Option.filter, key]
      split <;> simp_all
    · rw [unreported]
      show _ ++ (NodeStatePhase.unreported endpoint (if _ then _ else _)).toList = [call] ++ []
      split
      · rfl
      · rw [unreported_afterCall]
        rfl
  | resumed url stands done =>
    refine heard.of_quiet url stands rfl rfl rfl ?_
    rw [unreported_afterCall]
    rfl
  | warned url stands => exact heard.of_quiet url stands rfl rfl rfl rfl
  | notifier present foreign moved =>
    obtain rfl := Option.some.inj present
    refine heard.of_foreign (fun _ => rfl) ?_ rfl fun key => ?_
    · show Lts.run _ _ _ = _
      rw [Lts.run_append, show Lts.run _ _ s.notified = _ from heard.replays]
      simp [Lts.run_cons, moved]
    · show connectionObservations key (s.notified ++ _) = _
      rw [connectionObservations_snoc, foreign]
      exact List.append_nil _
  | other => exact heard.of_foreign (fun _ => rfl) heard.replays rfl fun _ => rfl
  | stop => exact heard.of_foreign (fun _ => rfl) heard.replays rfl fun _ => rfl

theorem phase_of_start {i : Nat} {phase : NodeStatePhase}
    (stands : (start urls).phases[i]? = some phase) : phase = .checking := by
  have mem := List.mem_of_getElem? stands
  rw [start, List.map_const'] at mem
  exact List.eq_of_mem_replicate mem

theorem heard_run (keys : OwnKeys urls) (ran : run urls (some config) events = some s) : Heard urls config events s := by
  refine Lts.run_invariant (I := Heard urls config) ⟨rfl, ?_⟩ ?_ ran
  · intro i endpoint phase _ stands
    obtain rfl := phase_of_start stands
    rfl
  · exact fun events s event s' heard stepped => heard_step keys heard stepped

theorem phases_length_step {notifier : Option TelegramConfig}
    (stepped : step urls notifier s event = some s') : s'.phases.length = s.phases.length := by
  cases step_cases stepped with
  | @called i endpoint phase call warning _ url stands next made =>
    cases notifier with
    | none =>
      obtain rfl := Option.some.inj made
      exact List.length_set
    | some config =>
      obtain ⟨world, -, rfl⟩ := call_eq made
      exact List.length_set
  | notifier | other | stop => rfl
  | _ => exact List.length_set

theorem phases_length {notifier : Option TelegramConfig} (ran : run urls notifier events = some s) :
    s.phases.length = urls.length := by
  refine Lts.run_invariant (I := fun _ s => s.phases.length = urls.length) ?_ ?_ ran
  · exact List.length_map _
  · intro _ s _ s' same stepped
    rw [phases_length_step stepped, same]

end NodeStateTasks

open NodeStateTasks in
/-- However the tasks of distinct endpoints and the other calls interleave, the notifier hears
of an endpoint exactly how its rounds ended, and hands on the transitions among them. -/
theorem rounds_reported {value : String} {urls : List (String × String)} {config : TelegramConfig}
    {events : List NodeStatesEvent} {s : NodeStateTasks} (accepted : parseUrls value = .ok urls)
    (distinct : urls.Nodup) (ran : run urls (some config) events = some s) :
    World.run config s.notified = some s.world ∧ s.phases.length = urls.length ∧
      ∀ i endpoint phase, urls[i]? = some endpoint → s.phases[i]? = some phase →
        ReportedExactly config events s i endpoint phase := by
  have heard := heard_run (ownKeys_of_accepted accepted distinct) ran
  refine ⟨heard.replays, phases_length ran, fun i endpoint phase url stands => ?_⟩
  refine ⟨heard.heard i endpoint phase url stands, ?_⟩
  rw [transitions_eq_edges heard.replays, Mealy.edges_eq_destutter, collapsed]

/-- Two endpoints; the second fails and comes back while the call of the first is in flight. -/
def twoTasks : List NodeStatesEvent :=
  [.task 0 .check, .task 1 .check, .task 0 (.connected (.error "refused")), .task 0 .notify,
    .task 1 (.connected (.ok ())), .notifier (.decide 0 600 0), .task 1 .check, .task 1 .tick,
    .task 1 (.status (.error "timeout")), .task 1 .notify, .notifier (.decide 1 600 0),
    .notifier (.post 1 600), .task 1 .resume, .task 1 (.warn 0), .notifier (.post 0 600),
    .task 1 .slept, .task 1 .check, .task 1 (.connected (.ok ())), .task 1 .check, .task 1 .tick,
    .task 1 (.status (.ok ⟨none, none, none, none, false⟩)), .task 1 (.number (.ok 7)),
    .task 1 .store]

/-- What the notifier hears of the second in the end. -/
def backupReports : List NotifierCall :=
  [.nodeConnectionFailed "backup" "ws://b" "debug_consensus_status 调用失败: timeout",
    .nodeConnectionRecovered "backup" "ws://b"]

theorem rounds_reported_twoTasks : ∃ s,
    NodeStateTasks.run [("main", "ws://a"), ("backup", "ws://b")] (some nightConfig)
      (twoTasks ++ [.task 1 .notify]) = some s ∧
    World.run nightConfig s.notified = some s.world ∧ s.phases.length = 2 ∧
    connectionObservations (connectionKey "backup" "ws://b") s.notified = backupReports ∧
    (connectionTransitions nightConfig (connectionKey "backup" "ws://b") s.notified).map Prod.fst =
      backupReports := by
  have parsed : parseUrls "main@ws://a,backup@ws://b" =
      .ok [("main", "ws://a"), ("backup", "ws://b")] := by decide +kernel
  have runs : (NodeStateTasks.run [("main", "ws://a"), ("backup", "ws://b")] (some nightConfig)
      (twoTasks ++ [.task 1 .notify])).map (fun s => (s.phases[1]?).map fun phase =>
        (phase.unreported ("backup", "ws://b")).isNone) = some (some true) := by decide +kernel
  obtain ⟨s, ran, stands⟩ := Option.map_eq_some_iff.mp runs
  obtain ⟨phase, stands, told⟩ := Option.map_eq_some_iff.mp stands
  obtain ⟨replays, two, each⟩ := rounds_reported parsed (by decide) ran
  obtain ⟨heard, handedOn⟩ := each 1 _ phase rfl stands
  rw [Option.isNone_iff_eq_none.mp told, Option.toList_none, List.append_nil] at heard
  have reports : roundReports 1 ("backup", "ws://b") (twoTasks ++ [.task 1 .notify]) = backupReports :=
    rfl
  rw [heard, reports] at handedOn
  exact ⟨s, ran, replays, two, heard.trans reports, handedOn⟩

/-! ## The messages of one endpoint -/

/-- No call of a task is in flight but the one it awaits, which is its latest, and what its calls
have posted is in the order of the calls. -/
structure MessagesInOrder (s : NodeStateTasks) : Prop where
  owned : s.owners.length = s.world.calls.length
  settled : ∀ index i, s.owners[index]? = some (some i) →
    isDone s.world index = true ∨
      ∃ warning, s.phases[i]? = some (NodeStatePhase.awaiting index warning)
  latest : ∀ i index warning, s.phases[i]? = some (NodeStatePhase.awaiting index warning) →
    ∀ index', s.owners[index']? = some (some i) → index' ≤ index
  known : ∀ p ∈ s.world.posts, p.call < s.world.calls.length
  ordered : s.world.posts.Pairwise fun p q => ∀ i, s.owners[p.call]? = some (some i) →
    s.owners[q.call]? = some (some i) → p.call ≤ q.call

theorem isDone_iff {world : World} {index : Nat} :
    isDone world index = true ↔ ∃ decidedAt, world.calls[index]? = some (.posting decidedAt []) := by
  unfold isDone
  split
  case h_1 decidedAt at_ => exact ⟨fun _ => ⟨decidedAt, at_⟩, fun _ => rfl⟩
  case h_2 other =>
    constructor
    · intro h
      cases h
    · rintro ⟨decidedAt, at_⟩
      exact absurd at_ (other decidedAt)

/-- What a step does to the calls: nothing, one more, or one that was not done changes and may
have posted. -/
theorem World.step_calls {config : TelegramConfig} {world world' : World} {event : Notify.Event}
    (moved : World.step config world event = some world') :
    (world'.calls = world.calls ∧ world'.posts = world.posts) ∨
    (∃ call, world'.calls = world.calls ++ [call] ∧ world'.posts = world.posts) ∨
    (∃ index call, isDone world index = false ∧ index < world.calls.length ∧
      world'.calls = world.calls.set index call ∧
      (world'.posts = world.posts ∨ ∃ p, p.call = index ∧ world'.posts = world.posts ++ [p])) := by
  rcases World.step_cases moved with ⟨call, state, rfl, seen, rfl⟩ |
    ⟨call, request, state, rfl, seen, rfl⟩ | ⟨index, minute, now, request, rfl, at_, filtered, rfl⟩ |
    ⟨index, minute, now, request, decision, state, rfl, at_, allowed, decided, rfl⟩ |
    ⟨index, minute, decidedAt, out, queue, rfl, at_, rfl⟩
  · exact .inl ⟨rfl, rfl⟩
  · exact .inr (.inl ⟨_, rfl, rfl⟩)
  · have inside := (List.getElem?_eq_some_iff.mp at_).1
    exact .inr (.inr ⟨index, _, by simp [isDone, at_], inside, rfl, .inl rfl⟩)
  · have inside := (List.getElem?_eq_some_iff.mp at_).1
    exact .inr (.inr ⟨index, _, by simp [isDone, at_], inside, rfl, .inl rfl⟩)
  · have inside := (List.getElem?_eq_some_iff.mp at_).1
    exact .inr (.inr ⟨index, _, by simp [isDone, at_], inside, rfl, .inr ⟨_, rfl, rfl⟩⟩)

theorem World.observe_calls {config : TelegramConfig} {world world' : World} {call : NotifierCall}
    (moved : World.step config world (.observe call) = some world') :
    world'.posts = world.posts ∧ (world'.calls = world.calls ∨
      ∃ request, world'.calls = world.calls ++ [.deciding request]) := by
  simp only [World.step] at moved
  split at moved <;> cases moved
  · exact ⟨rfl, .inl rfl⟩
  · exact ⟨rfl, .inr ⟨_, rfl⟩⟩

/-- What is done stays done. -/
theorem isDone_step {config : TelegramConfig} {world world' : World} {event : Notify.Event}
    (moved : World.step config world event = some world') {index : Nat}
    (done : isDone world index = true) : isDone world' index = true := by
  obtain ⟨decidedAt, at_⟩ := isDone_iff.mp done
  have inside := (List.getElem?_eq_some_iff.mp at_).1
  apply isDone_iff.mpr
  refine ⟨decidedAt, ?_⟩
  rcases World.step_calls moved with ⟨calls, -⟩ | ⟨call, calls, -⟩ | ⟨other, call, busy, -, calls, -⟩
  · rw [calls, at_]
  · rw [calls, List.getElem?_append_left inside, at_]
  · have apart : other ≠ index := by
      rintro rfl
      rw [done] at busy
      cases busy
    rw [calls, List.getElem?_set_ne apart, at_]

namespace MessagesInOrder

variable {urls : List (String × String)} {config : TelegramConfig} {s s' : NodeStateTasks}
  {event : NodeStatesEvent}

/-- A task that awaits nothing has no call in flight. -/
theorem idle (inOrder : MessagesInOrder s) {i : Nat} {phase : NodeStatePhase}
    (stands : s.phases[i]? = some phase) (free : ∀ index warning, phase ≠ .awaiting index warning)
    {index : Nat} (own : s.owners[index]? = some (some i)) : isDone s.world index = true := by
  rcases inOrder.settled index i own with done | ⟨warning, awaits⟩
  · exact done
  · exact absurd (Option.some.inj (stands.symm.trans awaits)) (free index warning)

/-- A task whose calls are done goes on, to a phase in which it awaits nothing. -/
theorem of_set (inOrder : MessagesInOrder s) {i : Nat} {phase' : NodeStatePhase}
    (done : ∀ index, s.owners[index]? = some (some i) → isDone s.world index = true)
    (free : ∀ index warning, phase' ≠ .awaiting index warning)
    (phases : s'.phases = s.phases.set i phase') (owners : s'.owners = s.owners)
    (calls : s'.world.calls = s.world.calls) (posts : s'.world.posts = s.world.posts) :
    MessagesInOrder s' := by
  have same : ∀ index, isDone s'.world index = isDone s.world index := by
    intro index
    rw [isDone, calls, isDone]
  constructor
  · rw [owners, calls]
    exact inOrder.owned
  · intro index j own
    rw [owners] at own
    rw [same]
    rcases inOrder.settled index j own with finished | ⟨warning, awaits⟩
    · exact .inl finished
    · by_cases mine : j = i
      · subst mine
        exact .inl (done index own)
      · exact .inr ⟨warning, by rw [phases, List.getElem?_set_ne (Ne.symm mine), awaits]⟩
  · intro j index warning awaits
    rw [phases] at awaits
    rw [owners]
    rcases NodeStateTasks.getElem?_set_phase awaits with ⟨-, rfl⟩ | ⟨-, before⟩
    · exact absurd rfl (free index warning)
    · exact inOrder.latest j index warning before
  · rw [posts, calls]
    exact inOrder.known
  · rw [posts, owners]
    exact inOrder.ordered

/-- An entry of the owners was there before, or is one of those added. -/
theorem getElem?_owners {owners added : List (Option Nat)} {index : Nat} {owner : Option Nat}
    (at_ : (owners ++ added)[index]? = some owner) : owners[index]? = some owner ∨
      owners.length ≤ index ∧ owner ∈ added := by
  rw [List.getElem?_append] at at_
  split at at_
  case isTrue => exact .inl at_
  case isFalse beyond => exact .inr ⟨by omega, List.mem_of_getElem? at_⟩

/-- The posts so far keep their order when calls are added to the end. -/
theorem ordered_append (inOrder : MessagesInOrder s) (added : List (Option Nat)) :
    s.world.posts.Pairwise fun p q => ∀ i, (s.owners ++ added)[p.call]? = some (some i) →
      (s.owners ++ added)[q.call]? = some (some i) → p.call ≤ q.call := by
  have inside : ∀ p ∈ s.world.posts, p.call < s.owners.length := fun p mem => by
    rw [inOrder.owned]
    exact inOrder.known p mem
  refine inOrder.ordered.imp_of_mem ?_
  intro p q memP memQ ordered i ownP ownQ
  rw [List.getElem?_append_left (inside p memP)] at ownP
  rw [List.getElem?_append_left (inside q memQ)] at ownQ
  exact ordered i ownP ownQ

/-- A step of the notifier that no task makes. -/
theorem of_notifier (inOrder : MessagesInOrder s) {event : Notify.Event} {world : World}
    (moved : World.step config s.world event = some world) :
    MessagesInOrder { s with
      world
      owners := s.owners ++ List.replicate (world.calls.length - s.world.calls.length) none
      notified := s.notified ++ [event] } := by
  have before : ∀ (index i : Nat), (s.owners ++ List.replicate (world.calls.length - s.world.calls.length)
      none)[index]? = some (some i) → s.owners[index]? = some (some i) := by
    intro index i own
    rcases getElem?_owners own with old | ⟨-, new⟩
    · exact old
    · cases List.eq_of_mem_replicate new
  constructor
  · show (s.owners ++ _).length = world.calls.length
    rw [List.length_append, List.length_replicate, inOrder.owned]
    rcases World.step_calls moved with ⟨calls, -⟩ | ⟨call, calls, -⟩ | ⟨index, call, -, -, calls, -⟩ <;>
      simp [calls]
  · intro index i own
    rcases inOrder.settled index i (before index i own) with done | awaits
    · exact .inl (isDone_step moved done)
    · exact .inr awaits
  · intro i index warning awaits index' own
    exact inOrder.latest i index warning awaits index' (before index' i own)
  · intro p mem
    rcases World.step_calls moved with ⟨calls, posts⟩ | ⟨call, calls, posts⟩ |
      ⟨index, call, -, inside, calls, posts | ⟨q, at_, posts⟩⟩ <;> rw [posts] at mem <;> rw [calls]
    · exact inOrder.known p mem
    · have := inOrder.known p mem
      simp only [List.length_append, List.length_singleton]
      omega
    · rw [List.length_set]
      exact inOrder.known p mem
    · rw [List.length_set]
      rcases List.mem_append.mp mem with old | last
      · exact inOrder.known p old
      · rw [List.mem_singleton.mp last, at_]
        exact inside
  · have old := inOrder.ordered_append
      (List.replicate (world.calls.length - s.world.calls.length) none)
    rcases World.step_calls moved with ⟨calls, posts⟩ | ⟨call, calls, posts⟩ |
      ⟨index, call, busy, inside, calls, posts | ⟨q, at_, posts⟩⟩ <;>
      show List.Pairwise _ world.posts <;> rw [posts]
    · exact old
    · exact old
    · exact old
    · -- a post is made by the call that its task awaits, the latest of the task
      refine List.pairwise_append.mpr ⟨old, List.pairwise_singleton _ _, ?_⟩
      intro p memP q' memQ i ownP ownQ
      obtain rfl := List.mem_singleton.mp memQ
      rcases inOrder.settled _ i (before _ i ownQ) with done | ⟨warning, awaits⟩
      · rw [at_, busy] at done
        cases done
      · exact inOrder.latest i _ warning awaits _ (before _ i ownP)

/-- A task whose calls are done makes a call that reports, and awaits it. -/
theorem of_report (inOrder : MessagesInOrder s) {i : Nat} {call : Call} {warning : Option String}
    (done : ∀ index, s.owners[index]? = some (some i) → isDone s.world index = true)
    (phases : s'.phases = s.phases.set i (.awaiting s.world.calls.length warning))
    (owners : s'.owners = s.owners ++ [some i]) (calls : s'.world.calls = s.world.calls ++ [call])
    (posts : s'.world.posts = s.world.posts) (stands : i < s.phases.length) : MessagesInOrder s' := by
  have kept : ∀ index, isDone s.world index = true → isDone s'.world index = true := by
    intro index finished
    obtain ⟨decidedAt, at_⟩ := isDone_iff.mp finished
    refine isDone_iff.mpr ⟨decidedAt, ?_⟩
    rw [calls, List.getElem?_append_left (List.getElem?_eq_some_iff.mp at_).1, at_]
  have ends : ∀ (index j : Nat), s'.owners[index]? = some (some j) →
      s.owners[index]? = some (some j) ∨ index = s.owners.length ∧ j = i := by
    intro index j own
    have inside := (List.getElem?_eq_some_iff.mp own).1
    rw [owners] at own inside
    rcases getElem?_owners own with old | ⟨beyond, new⟩
    · exact .inl old
    · rw [List.length_append, List.length_singleton] at inside
      exact .inr ⟨by omega, Option.some.inj (List.mem_singleton.mp new)⟩
  constructor
  · rw [owners, calls, List.length_append, List.length_append, inOrder.owned]
    rfl
  · intro index j own
    rcases ends index j own with old | ⟨rfl, rfl⟩
    · rcases inOrder.settled index j old with finished | ⟨warning', awaits⟩
      · exact .inl (kept index finished)
      · by_cases mine : j = i
        · subst mine
          exact .inl (kept index (done index old))
        · exact .inr ⟨warning', by rw [phases, List.getElem?_set_ne (Ne.symm mine), awaits]⟩
    · exact .inr ⟨warning, by rw [phases, List.getElem?_set_self stands, inOrder.owned]⟩
  · intro j index warning' awaits index' own
    have bound : index' ≤ s.owners.length := by
      have inside := (List.getElem?_eq_some_iff.mp own).1
      rw [owners, List.length_append, List.length_singleton] at inside
      omega
    rw [phases] at awaits
    rcases NodeStateTasks.getElem?_set_phase awaits with ⟨-, same⟩ | ⟨apart, before⟩
    · cases same
      rw [← inOrder.owned]
      exact bound
    · rcases ends index' j own with old | ⟨-, rfl⟩
      · exact inOrder.latest j index warning' before index' old
      · exact absurd rfl apart
  · intro p mem
    rw [posts] at mem
    rw [calls, List.length_append]
    have := inOrder.known p mem
    omega
  · rw [posts, owners]
    exact inOrder.ordered_append [some i]

theorem start : MessagesInOrder (NodeStateTasks.start urls) := by
  constructor
  · rfl
  · intro index i own
    cases own
  · intro i index warning awaits
    cases NodeStateTasks.phase_of_start awaits
  · intro p mem
    cases mem
  · exact .nil

theorem step (inOrder : MessagesInOrder s)
    (stepped : NodeStateTasks.step urls (some config) s event = some s') : MessagesInOrder s' := by
  cases NodeStateTasks.step_cases stepped with
  | advanced url stands moved =>
    obtain ⟨before, after⟩ := NodeStateTasks.advance_free moved
    exact inOrder.of_set (fun index own => inOrder.idle stands before own) after rfl rfl rfl rfl
  | stored url stands =>
    exact inOrder.of_set (fun index own => inOrder.idle stands (by simp) own) (by simp) rfl rfl rfl rfl
  | @called i endpoint phase call warning _ url stands next made =>
    have idle : ∀ index, s.owners[index]? = some (some i) → isDone s.world index = true := by
      refine fun index own => inOrder.idle stands ?_ own
      rintro index' warning' rfl
      cases next
    obtain ⟨world, moved, rfl⟩ := NodeStateTasks.call_eq made
    obtain ⟨posts, calls | ⟨request, calls⟩⟩ := World.observe_calls moved
    · have silent : ¬ s.world.calls.length < world.calls.length := by
        rw [calls]
        exact Nat.lt_irrefl _
      rw [if_neg silent, if_neg silent]
      exact inOrder.of_set idle (NodeStateTasks.afterCall_free warning) rfl rfl calls posts
    · have reports : s.world.calls.length < world.calls.length := by
        rw [calls, List.length_append, List.length_singleton]
        omega
      rw [if_pos reports, if_pos reports]
      exact inOrder.of_report idle rfl rfl calls posts (List.getElem?_eq_some_iff.mp stands).1
  | @resumed i index endpoint warning url stands done =>
    refine inOrder.of_set ?_ (NodeStateTasks.afterCall_free warning) rfl rfl rfl rfl
    intro index' own
    rcases inOrder.settled index' i own with finished | ⟨warning', awaits⟩
    · exact finished
    · cases stands.symm.trans awaits
      exact done
  | warned url stands =>
    exact inOrder.of_set (fun index own => inOrder.idle stands (by simp) own) (by simp) rfl rfl rfl rfl
  | notifier present foreign moved =>
    obtain rfl := Option.some.inj present
    exact inOrder.of_notifier moved
  | other => exact ⟨inOrder.owned, inOrder.settled, inOrder.latest, inOrder.known, inOrder.ordered⟩
  | stop => exact ⟨inOrder.owned, inOrder.settled, inOrder.latest, inOrder.known, inOrder.ordered⟩

end MessagesInOrder

open NodeStateTasks in
/-- In every run a task has one call in flight at most, and goes on with its next round when all
messages of the last are posted: those of an endpoint are posted in the order of its calls,
whatever the other tasks and calls do in between. -/
theorem connection_messages_in_order {urls : List (String × String)} {config : TelegramConfig}
    {events : List NodeStatesEvent} {s : NodeStateTasks}
    (ran : run urls (some config) events = some s) : MessagesInOrder s :=
  Lts.run_invariant (I := fun _ => MessagesInOrder) .start
    (fun _ _ _ _ inOrder stepped => inOrder.step stepped) ran

/-- The failure of the second endpoint is posted while that of the first waits, which is posted
later although its call is older. -/
theorem connection_messages_in_order_twoTasks : ∃ s,
    NodeStateTasks.run [("main", "ws://a"), ("backup", "ws://b")] (some nightConfig) twoTasks = some s ∧
      s.world.posts.map (·.call) = [1, 0] ∧ MessagesInOrder s := by
  have posts : (NodeStateTasks.run [("main", "ws://a"), ("backup", "ws://b")] (some nightConfig)
      twoTasks).map (·.world.posts.map (·.call)) = some [1, 0] := by decide +kernel
  obtain ⟨s, ran, order⟩ := Option.map_eq_some_iff.mp posts
  exact ⟨s, ran, order, connection_messages_in_order ran⟩

/-! ## After the stop flag -/

/-- What a task can still do once the flag is set. -/
def NodeStatePhase.stepsLeft : NodeStatePhase → Nat
  | .returned => 0
  | .checking | .polling => 1
  | .sleeping | .awaiting _ none => 2
  | .warning _ | .recovering => 3
  | .awaiting _ (some _) | .storing _ _ => 4
  | .failing _ _ => 5
  | .numbering _ | .connecting => 6
  | .asking => 7
  | .ticking => 8

namespace NodeStateTasks

variable {urls : List (String × String)} {notifier : Option TelegramConfig} {s s' : NodeStateTasks}
  {event : NodeStatesEvent} {events : List NodeStatesEvent}

def stepsLeft (i : Nat) (s : NodeStateTasks) : Nat :=
  (s.phases[i]?.map (·.stepsLeft)).getD 0

theorem stepsLeft_le (i : Nat) (s : NodeStateTasks) : s.stepsLeft i ≤ 8 := by
  unfold stepsLeft
  cases s.phases[i]? with
  | none => exact Nat.zero_le 8
  | some phase =>
    show phase.stepsLeft ≤ 8
    unfold NodeStatePhase.stepsLeft
    split <;> omega

theorem stepsLeft_advance {endpoint : String × String} {event : NodeStateEvent}
    {phase phase' : NodeStatePhase} (moved : advance true endpoint event phase = some phase') :
    phase'.stepsLeft < phase.stepsLeft := by
  unfold advance at moved
  split at moved
  case h_11 => cases moved
  all_goals
    obtain rfl := Option.some.inj moved
    simp [NodeStatePhase.stepsLeft]

theorem stepsLeft_afterCall (warning : Option String) (index : Nat) :
    (afterCall warning).stepsLeft < (NodeStatePhase.awaiting index warning).stepsLeft := by
  cases warning <;> simp [afterCall, NodeStatePhase.stepsLeft]

theorem stepsLeft_nextCall {endpoint : String × String} {phase : NodeStatePhase}
    {call : NotifierCall} {warning : Option String}
    (next : nextCall endpoint phase = some (call, warning)) (index : Nat) :
    (NodeStatePhase.awaiting index warning).stepsLeft < phase.stepsLeft := by
  unfold nextCall at next
  split at next <;> cases next <;> simp [NodeStatePhase.stepsLeft]

/-- A step of task `i` to a phase with less left. -/
theorem spend_of_set {i j : Nat} {event : NodeStateEvent} {phase phase' : NodeStatePhase}
    (stands : s.phases[i]? = some phase) (phases : s'.phases = s.phases.set i phase')
    (less : phase'.stepsLeft < phase.stepsLeft) :
    s'.stepsLeft j + ((NodeStatesEvent.task i event).ofTask j).isSome.toNat ≤ s.stepsLeft j := by
  have ofTask : (NodeStatesEvent.task i event).ofTask j = if i = j then some event else none := rfl
  unfold stepsLeft
  rw [phases, ofTask]
  by_cases own : i = j
  · subst own
    rw [List.getElem?_set_self (List.getElem?_eq_some_iff.mp stands).1, stands, if_pos rfl]
    exact less
  · rw [List.getElem?_set_ne own, if_neg own]
    exact Nat.le_refl _

theorem spend_step {i : Nat} (stopped : s.stopFlag = true)
    (stepped : step urls notifier s event = some s') :
    s'.stopFlag = true ∧ s'.stepsLeft i + (event.ofTask i).isSome.toNat ≤ s.stepsLeft i := by
  cases step_cases stepped with
  | advanced url stands moved =>
    rw [stopped] at moved
    exact ⟨stopped, spend_of_set stands rfl (stepsLeft_advance moved)⟩
  | stored url stands => exact ⟨stopped, spend_of_set stands rfl (by simp [NodeStatePhase.stepsLeft])⟩
  | @called i endpoint phase call warning _ url stands next made =>
    cases notifier with
    | none =>
      obtain rfl := Option.some.inj made
      refine ⟨stopped, spend_of_set stands rfl ?_⟩
      exact (stepsLeft_afterCall warning 0).trans (stepsLeft_nextCall next 0)
    | some config =>
      obtain ⟨world, -, rfl⟩ := call_eq made
      refine ⟨stopped, spend_of_set stands rfl ?_⟩
      split
      · exact stepsLeft_nextCall next _
      · exact (stepsLeft_afterCall warning 0).trans (stepsLeft_nextCall next 0)
  | resumed url stands done => exact ⟨stopped, spend_of_set stands rfl (stepsLeft_afterCall _ _)⟩
  | warned url stands => exact ⟨stopped, spend_of_set stands rfl (by simp [NodeStatePhase.stepsLeft])⟩
  | notifier | other => exact ⟨stopped, Nat.le_refl _⟩
  | stop => exact ⟨rfl, Nat.le_refl _⟩

/-- A call that is awaited was made. -/
def AwaitsMade (notifier : Option TelegramConfig) (s : NodeStateTasks) : Prop :=
  ∀ (i index : Nat) (warning : Option String), s.phases[i]? = some (.awaiting index warning) →
    notifier.isSome = true ∧ index < s.world.calls.length

theorem AwaitsMade.of_set {i : Nat} {phase : NodeStatePhase} (made : AwaitsMade notifier s)
    (free : ∀ index warning, phase = .awaiting index warning →
      notifier.isSome = true ∧ index < s'.world.calls.length)
    (phases : s'.phases = s.phases.set i phase)
    (calls : s.world.calls.length ≤ s'.world.calls.length) : AwaitsMade notifier s' := by
  intro j index warning awaits
  rw [phases] at awaits
  rcases getElem?_set_phase awaits with ⟨-, same⟩ | ⟨-, before⟩
  · exact free index warning same.symm
  · obtain ⟨present, inside⟩ := made j index warning before
    exact ⟨present, Nat.lt_of_lt_of_le inside calls⟩

theorem calls_length_le {config : TelegramConfig} {world world' : World} {event : Notify.Event}
    (moved : World.step config world event = some world') :
    world.calls.length ≤ world'.calls.length := by
  rcases World.step_calls moved with ⟨calls, -⟩ | ⟨call, calls, -⟩ | ⟨index, call, -, -, calls, -⟩ <;>
    simp [calls]

theorem AwaitsMade.step (made : AwaitsMade notifier s)
    (stepped : NodeStateTasks.step urls notifier s event = some s') : AwaitsMade notifier s' := by
  cases step_cases stepped with
  | advanced url stands moved =>
    refine made.of_set ?_ rfl (Nat.le_refl _)
    exact fun index warning awaits => absurd awaits ((advance_free moved).2 index warning)
  | stored url stands => exact made.of_set (by simp) rfl (Nat.le_refl _)
  | @called i endpoint phase call warning _ url stands next done =>
    cases notifier with
    | none =>
      obtain rfl := Option.some.inj done
      refine made.of_set ?_ rfl (Nat.le_refl _)
      exact fun index warning' awaits => absurd awaits (afterCall_free warning index warning')
    | some config =>
      obtain ⟨world, moved, rfl⟩ := call_eq done
      refine made.of_set ?_ rfl (calls_length_le moved)
      intro index warning' awaits
      split at awaits
      case isTrue reports =>
        cases awaits
        exact ⟨rfl, reports⟩
      case isFalse => exact absurd awaits (afterCall_free warning index warning')
  | resumed url stands done =>
    refine made.of_set ?_ rfl (Nat.le_refl _)
    exact fun index warning awaits => absurd awaits (afterCall_free _ index warning)
  | warned url stands => exact made.of_set (by simp) rfl (Nat.le_refl _)
  | notifier present foreign moved =>
    intro i index warning awaits
    obtain ⟨present, inside⟩ := made i index warning awaits
    exact ⟨present, Nat.lt_of_lt_of_le inside (calls_length_le moved)⟩
  | other | stop => exact made

/-- A task that has not returned can step, or waits for a call that can. -/
theorem exists_step (made : AwaitsMade notifier s) {i : Nat} {endpoint : String × String}
    {phase : NodeStatePhase} (url : urls[i]? = some endpoint) (stands : s.phases[i]? = some phase)
    (running : phase ≠ .returned) :
    (∃ event, (step urls notifier s (.task i event)).isSome) ∨
      ∃ index warning event, phase = .awaiting index warning ∧
        (event = .decide index 0 0 ∨ event = .post index 0) ∧
        (step urls notifier s (.notifier event)).isSome := by
  have onItsOwn (event : NodeStateEvent)
      (enabled : (s.taskStep notifier i endpoint event phase).isSome) :
      ∃ event, (step urls notifier s (.task i event)).isSome :=
    ⟨event, by simpa only [step, url, stands] using enabled⟩
  have calling {call : NotifierCall} {warning : Option String} :
      (s.call notifier i call warning).isSome := by
    cases notifier with
    | none => rfl
    | some config =>
      show (Option.map _ (World.step config s.world (.observe call))).isSome
      simp only [World.step, Option.isSome_map]
      split <;> rfl
  cases phase with
  | checking | polling => exact .inl (onItsOwn .check rfl)
  | connecting => exact .inl (onItsOwn (.connected (.ok ())) rfl)
  | ticking => exact .inl (onItsOwn .tick rfl)
  | asking => exact .inl (onItsOwn (.status (.error "")) rfl)
  | numbering status => exact .inl (onItsOwn (.number (.ok 0)) rfl)
  | storing status curNumber => exact .inl (onItsOwn .store rfl)
  | failing reason warning => exact .inl (onItsOwn .notify calling)
  | recovering => exact .inl (onItsOwn .notify calling)
  | warning message => exact .inl (onItsOwn (.warn 0) rfl)
  | sleeping => exact .inl (onItsOwn .slept rfl)
  | returned => exact absurd rfl running
  | awaiting index warning =>
    obtain ⟨present, inside⟩ := made i index warning stands
    obtain ⟨config, rfl⟩ := Option.isSome_iff_exists.mp present
    cases at_ : s.world.calls[index] with
    | deciding request =>
      refine .inr ⟨index, warning, _, rfl, .inl rfl, ?_⟩
      simp only [step, Event.connection, Event.call, World.step, List.getElem?_eq_getElem inside, at_,
        sendIfEnabled]
      by_cases allowed : config.enabledEvents.allows request.event = true <;> simp [allowed]
    | posting decidedAt queue =>
      cases queue with
      | nil =>
        refine .inl (onItsOwn .resume ?_)
        have done : isDone s.world index = true :=
          isDone_iff.mpr ⟨decidedAt, by rw [List.getElem?_eq_getElem inside, at_]⟩
        simp [taskStep, done]
      | cons out queue =>
        refine .inr ⟨index, warning, _, rfl, .inr rfl, ?_⟩
        simp [step, Event.connection, Event.call, World.step, List.getElem?_eq_getElem inside, at_]

/-- From the moment the flag is set, in any state of any run, a task takes at most eight more
steps; until it returns it can step, or waits for a call of the notifier that can. -/
theorem node_state_tasks_stop (urls : List (String × String)) (notifier : Option TelegramConfig)
    (before after : List NodeStatesEvent) (s s' : NodeStateTasks)
    (ran : run urls notifier before = some s) (stopped : s.stopFlag = true)
    (rest : Lts.run (step urls notifier) s after = some s') :
    ∀ i endpoint, urls[i]? = some endpoint →
      (after.filter (·.ofTask i |>.isSome)).length ≤ 8 ∧
      (s'.phases[i]? = some .returned ∨
        (∃ event, (step urls notifier s' (.task i event)).isSome) ∨
        ∃ index warning event, s'.phases[i]? = some (.awaiting index warning) ∧
          (event = .decide index 0 0 ∨ event = .post index 0) ∧
          (step urls notifier s' (.notifier event)).isSome) := by
  intro i endpoint url
  have whole : run urls notifier (before ++ after) = some s' := by
    rw [run, Lts.run_append, show Lts.run _ _ before = _ from ran, Option.bind_some, rest]
  constructor
  · have spent := (Lts.length_filter_le_of_rank (stepsLeft i) (·.ofTask i |>.isSome) (I := (·.stopFlag = true))
      (fun _ _ _ set_ stepped => (spend_step (i := i) set_ stepped).1)
      (fun _ _ _ set_ stepped => (spend_step set_ stepped).2) stopped rest).2
    have bound := stepsLeft_le i s
    omega
  · have made : AwaitsMade notifier s' := by
      refine Lts.run_invariant (I := fun _ => AwaitsMade notifier) ?_ ?_ whole
      · intro i index warning awaits
        cases phase_of_start awaits
      · exact fun _ _ _ _ made stepped => made.step stepped
    have inside : i < s'.phases.length := by
      rw [phases_length whole]
      exact (List.getElem?_eq_some_iff.mp url).1
    have stands := List.getElem?_eq_getElem inside
    by_cases running : s'.phases[i] = .returned
    · exact .inl (by rw [stands, running])
    · rcases exists_step made url stands running with own | ⟨index, warning, event, awaits, which, enabled⟩
      · exact .inr (.inl own)
      · exact .inr (.inr ⟨index, warning, event, by rw [stands, awaits], which, enabled⟩)

/-- The flag is set while the second task waits for its interval; it still reports the failure
it then finds. -/
def stoppedTicking : List NodeStatesEvent := (twoTasks.drop 7).take 9 ++ [.task 1 .check]

theorem node_state_tasks_stop_ticking : ∃ s s',
    run [("main", "ws://a"), ("backup", "ws://b")] (some nightConfig)
      (twoTasks.take 7 ++ [.stop]) = some s ∧
    Lts.run (step [("main", "ws://a"), ("backup", "ws://b")] (some nightConfig)) s
      stoppedTicking = some s' ∧
    (stoppedTicking.filter (·.ofTask 1 |>.isSome)).length ≤ 8 := by
  let urls := [("main", "ws://a"), ("backup", "ws://b")]
  have begins : (run urls (some nightConfig) (twoTasks.take 7 ++ [.stop])).map (·.stopFlag) = some true := by
    decide +kernel
  obtain ⟨s, ran, stopped⟩ := Option.map_eq_some_iff.mp begins
  have ends : ((run urls (some nightConfig) (twoTasks.take 7 ++ [.stop])).bind fun s =>
      Lts.run (step urls (some nightConfig)) s stoppedTicking).isSome = true := by decide +kernel
  rw [ran, Option.bind_some, Option.isSome_iff_exists] at ends
  obtain ⟨s', rest⟩ := ends
  exact ⟨s, s', ran, rest,
    (node_state_tasks_stop urls _ _ _ s s' ran stopped rest 1 ("backup", "ws://b") rfl).1⟩

end NodeStateTasks

end ChainDash.Collect
