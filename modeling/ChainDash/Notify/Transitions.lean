import ChainDash.Lib.Mealy
import ChainDash.Notify.Notifier

/-!
# Connection transitions

The connection failures and recoveries of any number of nodes, observed in any order among
all other calls in flight. For each connection key the calls that go on to
`send_if_enabled` are the observations of the key without the recoveries before its first
failure, every run of equal ones collapsed to its first (`connections_edge_triggered`).
-/

namespace ChainDash.Notify
set_option autoImplicit false

namespace NotifierCall

def isFailure : NotifierCall → Bool
  | .nodeConnectionFailed _ _ _ => true
  | _ => false

/-- The key of a connection observation. -/
def connection : NotifierCall → Option String
  | .nodeConnectionFailed nodeName nodeUrl _ => some (connectionKey nodeName nodeUrl)
  | .nodeConnectionRecovered nodeName nodeUrl => some (connectionKey nodeName nodeUrl)
  | _ => none

end NotifierCall

def Event.call : Event → Option NotifierCall
  | .observe call => some call
  | _ => none

/-- An observation of a connection, with the key it is about. -/
def Event.connection (event : Event) : Option (String × NotifierCall) :=
  event.call.bind fun call => call.connection.map (·, call)

theorem Event.connection_eq_some {event : Event} {key : String} {call : NotifierCall} :
    event.connection = some (key, call) ↔ event.call = some call ∧ call.connection = some key := by
  simp only [Event.connection, Option.bind_eq_some_iff, Option.map_eq_some_iff, Prod.mk.injEq]
  constructor
  · rintro ⟨observed, seen, own, about, rfl, rfl⟩
    exact ⟨seen, about⟩
  · rintro ⟨seen, about⟩
    exact ⟨call, seen, key, about, rfl, rfl⟩

/-- The failures and recoveries of a connection key, in the order they were observed. -/
def connectionObservations (key : String) (events : List Event) : List NotifierCall :=
  Mealy.inputsFor Event.connection key events

/-- The call of a step that goes on to `send_if_enabled`, and with what. -/
def handOn (config : TelegramConfig) (world : World) (event : Event) :
    Option (NotifierCall × SendRequest) :=
  event.call.bind fun call => (call.observe config.templates world.state).1.map (call, ·)

/-- The transitions of a connection key that are handed on to `send_if_enabled`. -/
def connectionTransitions (config : TelegramConfig) (key : String) (events : List Event) :
    List (NotifierCall × SendRequest) :=
  Mealy.outputsFor (World.step config) (handOn config) Event.connection key {} events

/-- Without what comes before the first failure, and runs collapsed to their first. -/
def collapsed (observations : List NotifierCall) : List NotifierCall :=
  (observations.dropWhile (!·.isFailure)).destutter (·.isFailure ≠ ·.isFailure)

/-- The request of a transition names its kind and its key. -/
def Announces (key : String) (transition : NotifierCall × SendRequest) : Prop :=
  if transition.1.isFailure then
    transition.2.event = .connectionFailed ∧
      transition.2.rateLimitKey = "connection-failed:" ++ key
  else
    transition.2.event = .connectionRecovered ∧
      transition.2.rateLimitKey = "connection-recovered:" ++ key

/-- What is to be handed on for a connection key in a run. -/
structure EdgeTriggered (config : TelegramConfig) (key : String) (events : List Event) : Prop where
  trace : (connectionTransitions config key events).map Prod.fst =
    collapsed (connectionObservations key events)
  announced : ∀ transition ∈ connectionTransitions config key events, Announces key transition
  startsFailed : ∀ first ∈ (connectionTransitions config key events).head?, first.1.isFailure = true
  alternates : (connectionTransitions config key events).IsChain fun a b =>
    a.1.isFailure ≠ b.1.isFailure
  agrees : (connectionObservations key events).any (·.isFailure) = true →
    (connectionTransitions config key events).getLast?.map (·.1.isFailure) =
      (connectionObservations key events).getLast?.map (·.isFailure)

/-! ## One step -/

namespace NotificationState

variable (state : NotificationState) (key : String)

/-- Whether a connection is known to be down. -/
def isDown : Bool := state.connectionStates.lookup key = some .unhealthy

theorem isDown_congr {state state' : NotificationState}
    (same : state'.connectionStates = state.connectionStates) : state'.isDown = state.isDown := by
  funext key
  rw [isDown, isDown, same]

theorem isDown_failed (key' : String) :
    (state.markConnectionFailed key).2.isDown key' = if key = key' then true else state.isDown key' := by
  simp only [isDown, markConnectionFailed, Dictionary.lookup_insert_eq, @eq_comm _ key' key]
  split <;> simp

theorem isDown_recovered (key' : String) :
    (state.markConnectionRecovered key).2.isDown key' =
      if key = key' then false else state.isDown key' := by
  simp only [isDown, markConnectionRecovered, Dictionary.lookup_insert_eq, @eq_comm _ key' key]
  split <;> simp

end NotificationState

/-- After a call a connection is known as the call observed it. -/
theorem NotifierCall.observe_isDown (templates : TelegramTemplates) (state : NotificationState)
    (call : NotifierCall) (key : String) :
    (call.observe templates state).2.isDown key =
      if call.connection = some key then call.isFailure else state.isDown key := by
  cases call with
  | nodeConnectionFailed nodeName nodeUrl reason =>
    simp [observe, connection, isFailure, NotificationState.isDown_failed]
  | nodeConnectionRecovered nodeName nodeUrl =>
    simp [observe, connection, isFailure, NotificationState.isDown_recovered]
  | nodeRankingChange nodeId nodeName ranking =>
    simp only [observe, connection, reduceCtorEq, if_false]
    apply congrFun
    apply NotificationState.isDown_congr
    unfold NotificationState.planRankingChange
    split <;> rfl
  | dailyNodeSnapshot date nodeDetails => rfl

/-- A connection observation goes on when it differs from what is known, under its own key. -/
theorem NotifierCall.observe_connection (templates : TelegramTemplates) (state : NotificationState)
    {call : NotifierCall} {key : String} (about : call.connection = some key) :
    ∃ request, Announces key (call, request) ∧ (call.observe templates state).1 =
      if call.isFailure = state.isDown key then none else some request := by
  cases call with
  | nodeConnectionFailed nodeName nodeUrl reason =>
    obtain rfl := Option.some.inj about
    refine ⟨⟨.connectionFailed, "connection-failed:" ++ connectionKey nodeName nodeUrl,
      displayNodeName nodeName, templates.renderConnectionFailedMessage nodeName reason⟩, ⟨rfl, rfl⟩, ?_⟩
    by_cases down : state.connectionStates.lookup (connectionKey nodeName nodeUrl) = some .unhealthy <;>
      simp [observe, NotificationState.markConnectionFailed, isFailure, NotificationState.isDown, down]
  | nodeConnectionRecovered nodeName nodeUrl =>
    obtain rfl := Option.some.inj about
    refine ⟨⟨.connectionRecovered, "connection-recovered:" ++ connectionKey nodeName nodeUrl,
      displayNodeName nodeName, templates.renderConnectionRecoveredMessage nodeName⟩, ⟨rfl, rfl⟩, ?_⟩
    by_cases down : state.connectionStates.lookup (connectionKey nodeName nodeUrl) = some .unhealthy <;>
      simp [observe, NotificationState.markConnectionRecovered, isFailure, NotificationState.isDown, down]
  | nodeRankingChange nodeId nodeName ranking => cases about
  | dailyNodeSnapshot date nodeDetails => cases about

/-- A step that observes nothing leaves what is known of the connections alone. -/
theorem World.step_isDown {config : TelegramConfig} {world world' : World} {event : Event}
    (stepped : world.step config event = some world') (key : String) :
    world'.state.isDown key = match event.call with
      | some call => (call.observe config.templates world.state).2.isDown key
      | none => world.state.isDown key := by
  rcases World.step_cases stepped with ⟨call, state, rfl, seen, rfl⟩ |
    ⟨call, request, state, rfl, seen, rfl⟩ | ⟨index, minute, now, request, rfl, at_, filtered, rfl⟩ |
    ⟨index, minute, now, request, decision, state, rfl, at_, allowed, decided, rfl⟩ |
    ⟨index, minute, decidedAt, out, queue, rfl, at_, rfl⟩
  · simp [Event.call, seen]
  · simp [Event.call, seen]
  · rfl
  · obtain ⟨lastSentAt, quietSummary, after⟩ := world.state.decideSend_frame config.rateLimit now
      request (config.isQuietTimeAt minute)
    rw [decided] at after
    exact congrFun (NotificationState.isDown_congr (congrArg (·.connectionStates) after)) key
  · rfl

/-- For each connection key the notifier is an edge detector. -/
theorem connections_perKey (config : TelegramConfig) :
    Mealy.PerKey (World.step config) (fun world event => (handOn config world event).map Prod.fst)
      Event.connection (fun world key => world.state.isDown key)
      (Mealy.edge NotifierCall.isFailure) where
  own world event world' key call stepped carries := by
    obtain ⟨seen, about⟩ := Event.connection_eq_some.mp carries
    obtain ⟨request, -, goesOn⟩ := call.observe_connection config.templates world.state about
    simp only [World.step_isDown stepped, handOn, seen, call.observe_isDown, if_pos about, Mealy.edge,
      Option.bind_some, goesOn]
    split <;> rfl
  others world event world' key stepped other := by
    simp only [World.step_isDown stepped]
    cases seen : event.call with
    | none => rfl
    | some call =>
      simp only [call.observe_isDown]
      rw [if_neg]
      intro about
      exact other (by rw [Event.connection_eq_some.mpr ⟨seen, about⟩, Option.map_some])

/-! ## The whole run -/

theorem announced_of_mem {config : TelegramConfig} {key : String} {events : List Event}
    {transition : NotifierCall × SendRequest}
    (mem : transition ∈ connectionTransitions config key events) : Announces key transition := by
  obtain ⟨⟨world, event⟩, -, put⟩ := List.mem_filterMap.mp mem
  split at put
  case isFalse => cases put
  case isTrue own =>
    obtain ⟨⟨_, call⟩, carries, rfl⟩ := Option.map_eq_some_iff.mp own
    obtain ⟨seen, about⟩ := Event.connection_eq_some.mp carries
    obtain ⟨request, announces, goesOn⟩ :=
      call.observe_connection config.templates world.state about
    rw [handOn, seen, Option.bind_some, goesOn] at put
    split at put
    · cases put
    · obtain rfl := Option.some.inj put
      exact announces

theorem transitions_eq_edges {config : TelegramConfig} {events : List Event} {world : World}
    (run : World.run config events = some world) (key : String) :
    (connectionTransitions config key events).map Prod.fst =
      Mealy.emitted (Mealy.edge NotifierCall.isFailure) false (connectionObservations key events) := by
  rw [connectionTransitions, Mealy.map_outputsFor, (connections_perKey config).outputs key run]
  rfl

/-- In every run, with any other calls in flight, the transitions of a connection key are
edge-triggered; and two runs with the same observations of the key have the same ones. -/
theorem connections_edge_triggered {config : TelegramConfig} {events : List Event} {world : World}
    (run : World.run config events = some world) (key : String) :
    EdgeTriggered config key events ∧
      ∀ events' world', World.run config events' = some world' →
        connectionObservations key events' = connectionObservations key events →
        (connectionTransitions config key events').map Prod.fst =
          (connectionTransitions config key events).map Prod.fst := by
  have edges := transitions_eq_edges run key
  have trace := edges.trans (Mealy.edges_eq_destutter NotifierCall.isFailure _)
  refine ⟨⟨trace, fun _ => announced_of_mem, ?_, ?_, ?_⟩, ?_⟩
  · intro first head
    apply Mealy.head?_edges NotifierCall.isFailure (connectionObservations key events)
    rw [← edges, List.head?_map, head]
    rfl
  · have chain := List.isChain_destutter (fun a b : NotifierCall => a.isFailure ≠ b.isFailure)
      ((connectionObservations key events).dropWhile (!·.isFailure))
    rw [← trace] at chain
    exact (List.isChain_map Prod.fst).mp chain
  · intro failed
    rw [← Mealy.getLast?_edges NotifierCall.isFailure failed, ← edges, List.getLast?_map,
      Option.map_map]
    rfl
  · intro events' world' run' same
    rw [transitions_eq_edges run', same, edges]

/-- Two connections, one of which fails twice and recovers between two failures of the
other. -/
def twoConnections : List Event :=
  [.observe (.nodeConnectionRecovered "main" "wss://rpc-a"),
    .observe (.nodeConnectionFailed "main" "wss://rpc-a" "timeout"),
    .observe (.nodeConnectionFailed "backup" "wss://rpc-b" "refused"), .decide 0 600 0,
    .observe (.nodeConnectionFailed "main" "wss://rpc-a" "timeout"),
    .observe (.nodeConnectionRecovered "main" "wss://rpc-a"),
    .observe (.nodeConnectionFailed "backup" "wss://rpc-b" "refused")]

theorem connections_edge_triggered_two : ∃ world, World.run nightConfig twoConnections = some world ∧
    EdgeTriggered nightConfig "main@wss://rpc-a" twoConnections := by
  have runs : (World.run nightConfig twoConnections).isSome := by decide
  obtain ⟨world, run⟩ := Option.isSome_iff_exists.mp runs
  exact ⟨world, run, (connections_edge_triggered run "main@wss://rpc-a").1⟩

example : (connectionTransitions nightConfig "main@wss://rpc-a" twoConnections).map (·.1.isFailure) =
    [true, false] := by decide

end ChainDash.Notify
