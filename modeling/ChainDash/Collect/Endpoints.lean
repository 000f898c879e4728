import ChainDash.Collect.Data
import ChainDash.Lib.Keyed
import ChainDash.Notify.Outages

/-!
# The configured endpoints

`Collector::new` splits the `--url` value into names and endpoints, and a task for each
pair reports its status. The table of node states knows an endpoint by its name, the
notifier by name and endpoint: only the notifier keeps any two endpoints apart
(`endpoints_tracked_iff`).
-/

namespace ChainDash.Collect
set_option autoImplicit false

open Notify

def isWebsocketEndpoint (url : String) : Bool :=
  "ws://".toList.isPrefixOf url.toList || "wss://".toList.isPrefixOf url.toList

def websocketHost (url : String) : String :=
  Text.trimStartMatches (Text.trimStartMatches url "ws://") "wss://"

/-- One `NAME@WS_URL` of the `--url` value. -/
def parseUrl (url : String) : Except String (String × String) :=
  match Text.splitOnce '@' url with
  | none => .error ("invalid url format: " ++ url)
  | some (name, endpoint) =>
    if isWebsocketEndpoint endpoint then .ok (name, endpoint)
    else .error ("invalid websocket url for " ++ name ++ ": " ++ endpoint)

/-- The url parsing of `Collector::new`. -/
def parseUrls (urls : String) : Except String (List (String × String)) :=
  (Text.split ',' urls).mapM parseUrl

/-- The `view` of a consensus status. -/
structure ConsensusView where
  epoch : UInt64
  viewNumber : Option UInt64

/-- The answer to `debug_consensusStatus`, the fields that are read. -/
structure ConsensusStatus where
  view : Option ConsensusView
  highestCommitBlock : Option UInt64
  highestLockBlock : Option UInt64
  highestQcBlock : Option UInt64
  validator : Bool

/-- The row `collect_node_state` makes of a status and a block number. -/
def consensusState (name url : String) (status : ConsensusStatus) (curNumber : UInt64) :
    ConsensusState where
  name
  host := websocketHost url
  currentNumber := curNumber
  epoch := (status.view.map (·.epoch)).getD 0
  view := (status.view.bind (·.viewNumber)).getD 0
  committed := status.highestCommitBlock.getD 0
  locked := status.highestLockBlock.getD 0
  qc := status.highestQcBlock.getD 0
  validator := status.validator

/-! ## The tasks of all endpoints, interleaved -/

/-- What the task of an endpoint does to the shared state: it stores the row of a status,
or tells the notifier of a failure or a recovery. -/
inductive EndpointEvent where
  | reported (endpoint : String × String) (status : ConsensusStatus) (curNumber : UInt64)
  | failed (endpoint : String × String) (reason : String)
  | recovered (endpoint : String × String)

namespace EndpointEvent

def endpoint : EndpointEvent → String × String
  | .reported endpoint _ _ => endpoint
  | .failed endpoint _ => endpoint
  | .recovered endpoint => endpoint

def row : EndpointEvent → Option ConsensusState
  | .reported endpoint status curNumber =>
    some (consensusState endpoint.1 endpoint.2 status curNumber)
  | _ => none

/-- The connection state a failure or a recovery leads to. -/
def outcome : EndpointEvent → Option ConnectionState
  | .failed _ _ => some .unhealthy
  | .recovered _ => some .healthy
  | _ => none

end EndpointEvent

/-- The state the tasks share. -/
structure Tracking where
  data : Data := {}
  notification : NotificationState := {}

def Tracking.step (templates : TelegramTemplates) (tracking : Tracking) : EndpointEvent → Tracking
  | .reported (name, url) status curNumber =>
    { tracking with
      data := tracking.data.updateConsensusState name (consensusState name url status curNumber) }
  | .failed (name, url) reason =>
    let call := NotifierCall.nodeConnectionFailed name url reason
    { tracking with notification := (call.observe templates tracking.notification).2 }
  | .recovered (name, url) =>
    let call := NotifierCall.nodeConnectionRecovered name url
    { tracking with notification := (call.observe templates tracking.notification).2 }

def Tracking.run (templates : TelegramTemplates) (events : List EndpointEvent) : Tracking :=
  events.foldl (Tracking.step templates) {}

/-- `Data::states`. -/
def Tracking.states (tracking : Tracking) : List ConsensusState := tracking.data.nodeState.sorted

/-- The row of an endpoint's latest report. -/
def latestRow (endpoint : String × String) (events : List EndpointEvent) : Option ConsensusState :=
  ((events.filter (·.endpoint = endpoint)).filterMap EndpointEvent.row).getLast?

/-- The connection state after an endpoint's own failures and recoveries. -/
def latestOutcome (endpoint : String × String) (events : List EndpointEvent) :
    Option ConnectionState :=
  ((events.filter (·.endpoint = endpoint)).filterMap EndpointEvent.outcome).getLast?

/-! ## What is accepted -/

theorem mem_of_mapM_ok {α β ε : Type} {f : α → Except ε β} {l : List α} {r : List β}
    (done : l.mapM f = .ok r) {b : β} (mem : b ∈ r) : ∃ a ∈ l, f a = .ok b := by
  induction l generalizing r with
  | nil =>
    cases done
    cases mem
  | cons a l ih =>
    rw [List.mapM_cons] at done
    cases first : f a with
    | error e => rw [first] at done; cases done
    | ok b' =>
      cases rest : l.mapM f with
      | error e => rw [first, rest] at done; cases done
      | ok r' =>
        rw [first, rest] at done
        cases done
        rcases List.mem_cons.mp mem with rfl | later
        · exact ⟨a, by simp, first⟩
        · obtain ⟨a', inside, found⟩ := ih rest later
          exact ⟨a', List.mem_cons_of_mem _ inside, found⟩

/-- An accepted name ends before the first `@`. -/
theorem nameEnds_of_parseUrls {value : String} {urls : List (String × String)}
    (accepted : parseUrls value = .ok urls) {endpoint : String × String} (mem : endpoint ∈ urls) :
    '@' ∉ endpoint.1.toList := by
  obtain ⟨url, -, parsed⟩ := mem_of_mapM_ok accepted mem
  unfold parseUrl at parsed
  split at parsed
  case h_1 => cases parsed
  case h_2 name rest found =>
    split at parsed
    · cases parsed
      exact Text.notMem_of_splitOnce found
    · cases parsed

/-- Different accepted endpoints have different connection keys. -/
theorem connectionKey_inj {value : String} {urls : List (String × String)}
    (accepted : parseUrls value = .ok urls) {a b : String × String} (memA : a ∈ urls) (memB : b ∈ urls)
    (same : connectionKey a.1 a.2 = connectionKey b.1 b.2) : a = b := by
  have nodes : (⟨a.1, a.2, nameEnds_of_parseUrls accepted memA⟩ : MonitoredNode) =
      ⟨b.1, b.2, nameEnds_of_parseUrls accepted memB⟩ := MonitoredNode.key_injective same
  obtain ⟨name, url⟩ := MonitoredNode.mk.inj nodes
  exact Prod.ext name url

/-! ## One event -/

/-- The table of node states changes at the name of the endpoint. -/
theorem acts_on_states (templates : TelegramTemplates) (event : EndpointEvent) :
    Keyed.Acts (fun (tracking : Tracking) name => tracking.data.nodeState.states.lookup name)
      (·.endpoint.1) (fun row event => event.row.or row) (Tracking.step templates) event := by
  cases event with
  | reported endpoint status curNumber =>
    have states (tracking : Tracking) :
        (tracking.step templates (.reported endpoint status curNumber)).data.nodeState.states =
          tracking.data.nodeState.states.insert endpoint.1
            (consensusState endpoint.1 endpoint.2 status curNumber) := by
      simp [Tracking.step, Data.updateConsensusState, Data.markNodeStateDirty, NodeStateStore.update]
    constructor
    · intro tracking
      rw [states]
      exact AList.lookup_insert _
    · intro tracking name other
      rw [states]
      exact AList.lookup_insert_ne other
  | failed endpoint reason => exact ⟨fun _ => rfl, fun _ _ _ => rfl⟩
  | recovered endpoint => exact ⟨fun _ => rfl, fun _ _ _ => rfl⟩

/-- The connection states change at the connection key of the endpoint. -/
theorem acts_on_connections (templates : TelegramTemplates) (event : EndpointEvent) :
    Keyed.Acts (fun (tracking : Tracking) key => tracking.notification.connectionStates.lookup key)
      (fun event => connectionKey event.endpoint.1 event.endpoint.2)
      (fun state event => event.outcome.or state) (Tracking.step templates) event := by
  cases event with
  | reported endpoint status curNumber => exact ⟨fun _ => rfl, fun _ _ _ => rfl⟩
  | failed endpoint reason =>
    constructor
    · intro tracking
      exact AList.lookup_insert _
    · intro tracking name other
      exact AList.lookup_insert_ne other
  | recovered endpoint =>
    constructor
    · intro tracking
      exact AList.lookup_insert _
    · intro tracking name other
      exact AList.lookup_insert_ne other

/-- Keeping the latest value is reading off the last one. -/
theorem foldl_or_eq_getLast? {α β : Type} (f : α → Option β) (l : List α) (b : Option β) :
    l.foldl (fun latest a => (f a).or latest) b = (l.filterMap f).getLast?.or b := by
  induction l generalizing b with
  | nil => rfl
  | cons a l ih =>
    rw [List.foldl_cons, ih]
    cases made : f a with
    | none => simp [made]
    | some value =>
      rw [List.filterMap_cons_some made, List.getLast?_cons]
      cases (l.filterMap f).getLast? <;> rfl

theorem lookup_states (templates : TelegramTemplates) (events : List EndpointEvent) (name : String) :
    (Tracking.run templates events).data.nodeState.states.lookup name =
      ((events.filter (·.endpoint.1 = name)).filterMap EndpointEvent.row).getLast? := by
  refine (Keyed.view_foldl (fun event _ => acts_on_states templates event) {} name).trans ?_
  rw [foldl_or_eq_getLast?]
  exact Option.or_none

theorem lookup_connections (templates : TelegramTemplates) (events : List EndpointEvent)
    (key : String) :
    (Tracking.run templates events).notification.connectionStates.lookup key =
      ((events.filter fun event => connectionKey event.endpoint.1 event.endpoint.2 = key).filterMap
        EndpointEvent.outcome).getLast? := by
  refine (Keyed.view_foldl (fun event _ => acts_on_connections templates event) {} key).trans ?_
  rw [foldl_or_eq_getLast?]
  exact Option.or_none

/-! ## Any interleaving -/

/-- Every endpoint is tracked on its own, whatever the order of the tasks: the table has one
row for each endpoint that reported, its latest, and the notifier's connection state of an
endpoint follows its own failures and recoveries. -/
structure EndpointsTracked (urls : List (String × String)) : Prop where
  rows : ∀ templates events, (∀ event ∈ events, event.endpoint ∈ urls) →
    (Tracking.run templates events).states.Perm (urls.filterMap (latestRow · events))
  keys : ∀ a ∈ urls, ∀ b ∈ urls, connectionKey a.1 a.2 = connectionKey b.1 b.2 → a = b
  connections : ∀ templates events, (∀ event ∈ events, event.endpoint ∈ urls) →
    ∀ endpoint ∈ urls, (Tracking.run templates events).notification.connectionStates.lookup
      (connectionKey endpoint.1 endpoint.2) = latestOutcome endpoint events

theorem mem_entries_iff {templates : TelegramTemplates} {events : List EndpointEvent}
    {entry : Sigma fun _ : String => ConsensusState} :
    entry ∈ (Tracking.run templates events).data.nodeState.states.entries ↔
      ((events.filter (·.endpoint.1 = entry.1)).filterMap EndpointEvent.row).getLast? =
        some entry.2 := by
  rw [← lookup_states templates]
  exact AList.mem_lookup_iff.symm

/-- With distinct names the endpoint of an event is decided by its name. -/
theorem states_perm {templates : TelegramTemplates} {urls : List (String × String)}
    {events : List EndpointEvent} (names : (urls.map Prod.fst).Nodup)
    (own : ∀ event ∈ events, event.endpoint ∈ urls) :
    (Tracking.run templates events).states.Perm (urls.filterMap (latestRow · events)) := by
  let entryOf : String × String → Option (Sigma fun _ : String => ConsensusState) :=
    fun endpoint => (latestRow endpoint events).map (⟨endpoint.1, ·⟩)
  have sameName : ∀ endpoint ∈ urls, latestRow endpoint events =
      ((events.filter (·.endpoint.1 = endpoint.1)).filterMap EndpointEvent.row).getLast? := by
    intro endpoint mem
    unfold latestRow
    congr 2
    refine List.filter_congr fun event inside => ?_
    rw [decide_eq_decide]
    constructor
    · rintro rfl
      rfl
    · exact fun same => List.inj_on_of_nodup_map names (own event inside) mem same
  have entries : (Tracking.run templates events).data.nodeState.states.entries.Perm
      (urls.filterMap entryOf) := by
    have apart : (urls.filterMap entryOf).Nodup := by
      refine List.Pairwise.filterMap entryOf ?_ (List.pairwise_map.mp names)
      rintro a b different _ madeA _ madeB rfl
      obtain ⟨_, -, same⟩ := Option.map_eq_some_iff.mp madeA
      obtain ⟨_, -, same'⟩ := Option.map_eq_some_iff.mp madeB
      exact different (congrArg Sigma.fst (same.trans same'.symm))
    have once := (Tracking.run templates events).data.nodeState.states.nodupKeys.nodup
    refine (List.perm_ext_iff_of_nodup once apart).mpr fun entry => ?_
    rw [mem_entries_iff, List.mem_filterMap]
    constructor
    · intro latest
      obtain ⟨event, inside, made⟩ := List.mem_filterMap.mp (List.mem_of_getLast? latest)
      obtain ⟨memEvent, sameEntry⟩ := List.mem_filter.mp inside
      have mem := own event memEvent
      have name : event.endpoint.1 = entry.1 := by simpa using sameEntry
      refine ⟨event.endpoint, mem, ?_⟩
      rw [Option.map_eq_some_iff]
      refine ⟨entry.2, ?_, by rw [name]⟩
      rw [sameName _ mem, name, latest]
    · rintro ⟨endpoint, mem, made⟩
      obtain ⟨row, latest, rfl⟩ := Option.map_eq_some_iff.mp made
      rw [← latest, sameName _ mem]
  have values := entries.map Sigma.snd
  rw [List.map_filterMap] at values
  refine (List.perm_insertionSort _ _).trans (values.trans (List.Perm.of_eq ?_))
  congr 1
  funext endpoint
  show ((latestRow endpoint events).map _).map _ = _
  rw [Option.map_map]
  exact Option.map_id'

/-- Two endpoints of one name share a row, and the later report takes it. -/
theorem names_nodup_of_tracked {urls : List (String × String)} (distinct : urls.Nodup)
    (tracked : EndpointsTracked urls) : (urls.map Prod.fst).Nodup := by
  refine distinct.map_on fun a memA b memB sameName => ?_
  by_contra different
  let status : ConsensusStatus := ⟨none, none, none, none, false⟩
  let events : List EndpointEvent := [.reported a status 0, .reported b status 1]
  have rows := tracked.rows defaultTemplates events (by
    intro event mem
    rcases List.mem_pair.mp mem with rfl | rfl
    · exact memA
    · exact memB)
  have lost : consensusState a.1 a.2 status 0 ∈ (Tracking.run defaultTemplates events).states := by
    refine rows.mem_iff.mpr (List.mem_filterMap.mpr ⟨a, memA, ?_⟩)
    simp [latestRow, events, EndpointEvent.endpoint, EndpointEvent.row, Ne.symm different]
  obtain ⟨entry, inside, same⟩ :=
    List.mem_map.mp ((List.perm_insertionSort _ _).mem_iff.mp lost)
  rw [mem_entries_iff] at inside
  by_cases name : a.1 = entry.1
  · have latest : consensusState b.1 b.2 status 1 = entry.2 := by
      simpa [events, EndpointEvent.endpoint, EndpointEvent.row, name, ← sameName] using inside
    have numbers := congrArg ConsensusState.currentNumber (latest.trans same)
    simp [consensusState] at numbers
  · simp [events, EndpointEvent.endpoint, name, ← sameName] at inside

/-- For every accepted `--url` value with distinct pairs, the endpoints are all tracked on
their own if and only if their names are distinct. -/
theorem endpoints_tracked_iff {value : String} {urls : List (String × String)}
    (accepted : parseUrls value = .ok urls) (distinct : urls.Nodup) :
    EndpointsTracked urls ↔ (urls.map Prod.fst).Nodup := by
  have keys : ∀ a ∈ urls, ∀ b ∈ urls, connectionKey a.1 a.2 = connectionKey b.1 b.2 → a = b :=
    fun a memA b memB same => connectionKey_inj accepted memA memB same
  constructor
  · exact names_nodup_of_tracked distinct
  · intro names
    refine ⟨fun templates events own => states_perm names own, keys, ?_⟩
    intro templates events own endpoint mem
    rw [lookup_connections, latestOutcome]
    congr 2
    refine List.filter_congr fun event inside => ?_
    rw [decide_eq_decide]
    constructor
    · exact keys _ (own event inside) _ mem
    · rintro rfl
      rfl

/-- Two endpoints, as in the documentation of `--url`. -/
theorem endpoints_tracked_iff_twoNames : ∃ urls,
    parseUrls "main@wss://openapi2.platon.network/rpc,backup@ws://127.0.0.1:6789" = .ok urls ∧
    EndpointsTracked urls := by
  have parsed : parseUrls "main@wss://openapi2.platon.network/rpc,backup@ws://127.0.0.1:6789" =
      .ok [("main", "wss://openapi2.platon.network/rpc"), ("backup", "ws://127.0.0.1:6789")] := by
    decide +kernel
  exact ⟨_, parsed, (endpoints_tracked_iff parsed (by decide)).mpr (by decide)⟩

/-- Two endpoints of one name are accepted, and only one of them has a row. -/
theorem same_name_shares_row : ∃ urls, parseUrls "main@ws://a:6789,main@ws://b:6789" = .ok urls ∧
    urls.Nodup ∧ ¬ EndpointsTracked urls := by
  have parsed : parseUrls "main@ws://a:6789,main@ws://b:6789" =
      .ok [("main", "ws://a:6789"), ("main", "ws://b:6789")] := by decide +kernel
  refine ⟨_, parsed, by decide, ?_⟩
  intro tracked
  have names := names_nodup_of_tracked (by decide) tracked
  exact absurd names (by decide)

end ChainDash.Collect
