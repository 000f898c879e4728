import ChainDash.Notify.Notifier

/-!
# Outages and the rate limiter

The connection messages of a sequence of observations, one notifier call after the
other. The edge detector commits a failure before the rate limiter decides on it, so a
failure that opens an outage less than the rate limit after the last message about one
is never reported; every other outage is (`outage_remembered`).
-/

namespace ChainDash.Notify
set_option autoImplicit false

/-- A monitored endpoint as `Collector::new` splits it off: the name ends at the first
`@`. -/
structure MonitoredNode where
  name : String
  url : String
  nameEnds : '@' ∉ name.toList
  deriving DecidableEq

def MonitoredNode.key (node : MonitoredNode) : String := connectionKey node.name node.url

/-- Different endpoints have different connection keys. -/
theorem MonitoredNode.key_injective : Function.Injective MonitoredNode.key := by
  intro a b same
  have lists := congrArg String.toList same
  simp only [key, connectionKey, String.toList_append, List.append_assoc] at lists
  obtain ⟨name, url⟩ := Text.cut_at_first a.nameEnds b.nameEnds lists
  obtain ⟨nameA, urlA, _⟩ := a
  obtain ⟨nameB, urlB, _⟩ := b
  obtain rfl : nameA = nameB := String.toList_inj.mp name
  obtain rfl : urlA = urlB := String.toList_inj.mp url
  rfl

inductive Outcome where
  | failed (reason : String)
  | recovered

/-- A connection failure or recovery of a node, seen at the instant `at` and at `minute`
of the local day. -/
structure Observation where
  node : MonitoredNode
  outcome : Outcome
  at_ : Nat
  minute : Nat

def Observation.isFailure (observation : Observation) : Bool :=
  match observation.outcome with
  | .failed _ => true
  | .recovered => false

def Observation.call (observation : Observation) : NotifierCall :=
  match observation.outcome with
  | .failed reason => .nodeConnectionFailed observation.node.name observation.node.url reason
  | .recovered => .nodeConnectionRecovered observation.node.name observation.node.url

/-- A notifier call executed to its end. -/
def notify (config : TelegramConfig) (state : NotificationState) (call : NotifierCall)
    (minute now : Nat) : Option SendDecision × NotificationState :=
  match call.observe config.templates state with
  | (none, state) => (none, state)
  | (some request, state) => sendIfEnabled config state request minute now

/-- A connection message that was sent. -/
structure Sent where
  node : MonitoredNode
  failure : Bool
  at_ : Nat
  deriving DecidableEq

/-- The notifier's state and the messages sent so far, after one more observation. -/
def observeNext (config : TelegramConfig) (before : NotificationState × List Sent)
    (observation : Observation) : NotificationState × List Sent :=
  let (decision, state) :=
    notify config before.1 observation.call observation.minute observation.at_
  match decision with
  | some (.send _) =>
    (state, before.2 ++ [⟨observation.node, observation.isFailure, observation.at_⟩])
  | _ => (state, before.2)

def observeAll (config : TelegramConfig) (observations : List Observation) :
    NotificationState × List Sent :=
  observations.foldl (observeNext config) ({}, [])

/-- The messages sent for a sequence of observations. -/
def sentLog (config : TelegramConfig) (observations : List Observation) : List Sent :=
  (observeAll config observations).2

/-- The most recent message for a node. -/
def lastSent (node : MonitoredNode) (log : List Sent) : Option Sent :=
  (log.filter (·.node = node)).getLast?

/-- The most recent connection-failed message for a node. -/
def lastFailed (node : MonitoredNode) (log : List Sent) : Option Sent :=
  (log.filter fun sent => sent.node = node ∧ sent.failure).getLast?

/-- The most recent observation of a node. -/
def lastSeen (node : MonitoredNode) (observations : List Observation) : Option Observation :=
  (observations.filter (·.node = node)).getLast?

theorem lastSent_snoc (node : MonitoredNode) (log : List Sent) (sent : Sent) :
    lastSent node (log ++ [sent]) = if sent.node = node then some sent else lastSent node log := by
  by_cases same : sent.node = node <;> simp [lastSent, List.filter_append, same]

theorem lastFailed_snoc (node : MonitoredNode) (log : List Sent) (sent : Sent) :
    lastFailed node (log ++ [sent]) =
      if sent.node = node ∧ sent.failure then some sent else lastFailed node log := by
  by_cases same : sent.node = node <;> by_cases failure : sent.failure <;>
    simp [lastFailed, List.filter_append, same, failure]

theorem lastSeen_snoc (node : MonitoredNode) (observations : List Observation) (last : Observation) :
    lastSeen node (observations ++ [last]) =
      if last.node = node then some last else lastSeen node observations := by
  by_cases same : last.node = node <;> simp [lastSeen, List.filter_append, same]

theorem observeAll_snoc (config : TelegramConfig) (observations : List Observation)
    (last : Observation) : observeAll config (observations ++ [last]) =
      observeNext config (observeAll config observations) last := by
  simp [observeAll]

/-- The rate-limit keys of the two connection events. -/
def limitKey (failure : Bool) (node : MonitoredNode) : String :=
  (if failure then "connection-failed:" else "connection-recovered:") ++ node.key

theorem limitKey_inj {failure failure' : Bool} {node node' : MonitoredNode} :
    limitKey failure node = limitKey failure' node' ↔ failure = failure' ∧ node = node' := by
  constructor
  · intro same
    have lists := congrArg String.toList same
    cases failure <;> cases failure' <;>
      simp [limitKey, String.toList_append] at lists
    all_goals exact ⟨rfl, MonitoredNode.key_injective (String.toList_inj.mp lists)⟩
  · rintro ⟨rfl, rfl⟩
    rfl

/-- Whether an observation changes the connection state of its node. -/
def changesState (state : NotificationState) (observation : Observation) : Bool :=
  decide (state.connectionStates.lookup observation.node.key = some .unhealthy) !=
    observation.isFailure

/-- Whether an observation is reported: it changes the state and the limiter allows it. -/
def reported (config : TelegramConfig) (state : NotificationState) (observation : Observation) : Bool :=
  changesState state observation &&
    (state.allowDelivery (limitKey observation.isFailure observation.node) observation.at_
      config.rateLimit).1

/-- Without quiet hours, an allowed event is sent unless the limiter refuses it. -/
theorem sendIfEnabled_loud {config : TelegramConfig} (noQuiet : config.quietHours = none)
    (state : NotificationState) (request : SendRequest)
    (allowed : config.enabledEvents.allows request.event = true) (minute now : Nat) :
    let limiter := state.allowDelivery request.rateLimitKey now config.rateLimit
    sendIfEnabled config state request minute now =
      if limiter.1 then
        (some (.send limiter.2.takeQuietSummarySnapshot.1), limiter.2.takeQuietSummarySnapshot.2)
      else (some .suppressedByRateLimit, limiter.2) := by
  have loud : config.isQuietTimeAt minute = false := by simp [TelegramConfig.isQuietTimeAt, noQuiet]
  unfold sendIfEnabled NotificationState.decideSend
  rw [if_pos allowed, loud]
  cases limiter : state.allowDelivery request.rateLimitKey now config.rateLimit with
  | mk answer after => cases answer <;> simp

/-- The state after an observation took its mark. -/
def marked (state : NotificationState) (observation : Observation) : NotificationState :=
  let connectionState := if observation.isFailure then .unhealthy else .healthy
  { state with
    connectionStates := state.connectionStates.insert observation.node.key connectionState }

/-- The two connection events differ in their key, their event kind and the mark. -/
theorem observe_call (templates : TelegramTemplates) (state : NotificationState)
    (observation : Observation) :
    ∃ request : SendRequest,
      request.event = (if observation.isFailure then .connectionFailed else .connectionRecovered) ∧
      request.rateLimitKey = limitKey observation.isFailure observation.node ∧
      observation.call.observe templates state =
        (if changesState state observation then some request else none, marked state observation) := by
  obtain ⟨node, outcome, now, minute⟩ := observation
  cases outcome with
  | failed reason =>
    refine ⟨⟨.connectionFailed, limitKey true node, displayNodeName node.name,
      templates.renderConnectionFailedMessage node.name reason⟩, rfl, rfl, ?_⟩
    by_cases unhealthy : state.connectionStates.lookup (connectionKey node.name node.url) = some .unhealthy <;>
      simp [Observation.call, NotifierCall.observe, NotificationState.markConnectionFailed,
        changesState, marked, Observation.isFailure, limitKey, MonitoredNode.key, unhealthy]
  | recovered =>
    refine ⟨⟨.connectionRecovered, limitKey false node, displayNodeName node.name,
      templates.renderConnectionRecoveredMessage node.name⟩, rfl, rfl, ?_⟩
    by_cases unhealthy : state.connectionStates.lookup (connectionKey node.name node.url) = some .unhealthy <;>
      simp [Observation.call, NotifierCall.observe, NotificationState.markConnectionRecovered,
        changesState, marked, Observation.isFailure, limitKey, MonitoredNode.key, unhealthy]

section Loud

variable {config : TelegramConfig} (noQuiet : config.quietHours = none)
  (failedOn : config.enabledEvents.allows .connectionFailed = true)
  (recoveredOn : config.enabledEvents.allows .connectionRecovered = true)

include noQuiet failedOn recoveredOn

/-- What one observation does to the connection states, the log and the limiter. -/
theorem observeNext_spec (state : NotificationState) (log : List Sent) (observation : Observation) :
    let after := observeNext config (state, log) observation
    after.1.connectionStates = (marked state observation).connectionStates ∧
    after.2 = (if reported config state observation then
      log ++ [⟨observation.node, observation.isFailure, observation.at_⟩] else log) ∧
    ∀ key, after.1.lastSentAt.lookup key =
      if key = limitKey observation.isFailure observation.node ∧ config.rateLimit ≠ 0 ∧
          reported config state observation then some observation.at_
      else state.lastSentAt.lookup key := by
  obtain ⟨request, event, limit, observed⟩ := observe_call config.templates state observation
  have allowed : config.enabledEvents.allows request.event = true := by
    rw [event]
    split
    · exact failedOn
    · exact recoveredOn
  have answer := NotificationState.allowDelivery_congr
    (limitKey observation.isFailure observation.node) observation.at_ config.rateLimit
    (show (marked state observation).lastSentAt = state.lastSentAt from rfl)
  have times := (marked state observation).allowDelivery_lastSentAt
    (limitKey observation.isFailure observation.node) observation.at_ config.rateLimit
  have states := (marked state observation).allowDelivery_connectionStates
    (limitKey observation.isFailure observation.node) observation.at_ config.rateLimit
  unfold observeNext notify reported
  rw [observed]
  cases changes : changesState state observation with
  | false => simp [marked]
  | true =>
    simp only [if_true, Bool.true_and]
    rw [sendIfEnabled_loud noQuiet _ _ allowed, limit]
    simp only [← answer]
    cases delivered : ((marked state observation).allowDelivery
        (limitKey observation.isFailure observation.node) observation.at_ config.rateLimit).1 with
    | false =>
      rw [delivered] at times
      exact ⟨states, rfl, times⟩
    | true =>
      rw [delivered] at times
      exact ⟨states, rfl, times⟩

omit noQuiet failedOn recoveredOn

/-- The outage that the node is in was opened by a failure less than the rate limit after
the last connection-failed message sent for the node. -/
def OpenedSuppressed (config : TelegramConfig) (node : MonitoredNode)
    (observations : List Observation) : Prop :=
  ∃ before opening after, observations = before ++ opening :: after ∧
    opening.node = node ∧ opening.isFailure = true ∧
    (lastSeen node before).any (·.isFailure) = false ∧
    (∀ later ∈ after, later.node = node → later.isFailure = true) ∧
    ∃ sent, lastFailed node (sentLog config before) = some sent ∧
      opening.at_ < sent.at_ + config.rateLimit

theorem OpenedSuppressed.snoc {node : MonitoredNode} {observations : List Observation}
    {last : Observation} (opened : OpenedSuppressed config node observations)
    (goesOn : last.node = node → last.isFailure = true) :
    OpenedSuppressed config node (observations ++ [last]) := by
  obtain ⟨before, opening, after, rfl, same, failure, opens, rest, soon⟩ := opened
  refine ⟨before, opening, after ++ [last], by simp, same, failure, opens, ?_, soon⟩
  intro later mem
  rcases List.mem_append.mp mem with old | new
  · exact rest later old
  · obtain rfl := List.mem_singleton.mp new
    exact goesOn

/-- The notifier's knowledge of one node after the given observations. -/
structure OutageInv (config : TelegramConfig) (node : MonitoredNode)
    (observations : List Observation) : Prop where
  mark : (observeAll config observations).1.connectionStates.lookup node.key = some .unhealthy ↔
    (lastSeen node observations).any (·.isFailure) = true
  limiter : config.rateLimit ≠ 0 →
    (observeAll config observations).1.lastSentAt.lookup (limitKey true node) =
      (lastFailed node (sentLog config observations)).map (·.at_)
  outage : (lastSeen node observations).any (·.isFailure) = true →
    (lastSent node (sentLog config observations)).any (·.failure) = true ∨
      OpenedSuppressed config node observations

/-- A failure that begins an outage and is not reported was refused by the limiter, which
holds the time of the last message about a failure. -/
theorem OutageInv.opens {observations : List Observation} {last : Observation}
    (inv : OutageInv config last.node observations) (failure : last.isFailure = true)
    (fresh : (lastSeen last.node observations).any (·.isFailure) ≠ true)
    (untold : reported config (observeAll config observations).1 last ≠ true) :
    OpenedSuppressed config last.node (observations ++ [last]) := by
  have edge : changesState (observeAll config observations).1 last = true := by
    simp [changesState, failure, inv.mark, fresh]
  have refused : ((observeAll config observations).1.allowDelivery
      (limitKey true last.node) last.at_ config.rateLimit).1 = false := by
    simpa [reported, edge, failure] using untold
  obtain ⟨at_, known, soon, limited⟩ :=
    (NotificationState.allowDelivery_refuses_iff _ _ _ _).mp refused
  rw [inv.limiter (by omega)] at known
  obtain ⟨sent, found, rfl⟩ := Option.map_eq_some_iff.mp known
  exact ⟨observations, last, [], rfl, rfl, failure, by simpa using fresh, by simp, sent, found, soon⟩

include noQuiet failedOn recoveredOn

theorem sentLog_snoc (observations : List Observation) (last : Observation) :
    sentLog config (observations ++ [last]) =
      if reported config (observeAll config observations).1 last then
        sentLog config observations ++ [⟨last.node, last.isFailure, last.at_⟩]
      else sentLog config observations := by
  unfold sentLog
  rw [observeAll_snoc]
  exact (observeNext_spec noQuiet failedOn recoveredOn _ _ last).2.1

/-- Only the mark of the observed node moves. -/
theorem marks_snoc (node : MonitoredNode) (observations : List Observation) (last : Observation) :
    (observeAll config (observations ++ [last])).1.connectionStates.lookup node.key =
      if last.node = node then some (if last.isFailure then .unhealthy else .healthy)
      else (observeAll config observations).1.connectionStates.lookup node.key := by
  obtain ⟨states, -, -⟩ := observeNext_spec noQuiet failedOn recoveredOn
    (observeAll config observations).1 (observeAll config observations).2 last
  rw [observeAll_snoc]
  show (observeNext config ((observeAll config observations).1, (observeAll config observations).2)
    last).1.connectionStates.lookup node.key = _
  rw [states, marked]
  dsimp only
  rw [Dictionary.lookup_insert_eq]
  by_cases same : last.node = node
  · rw [if_pos same, if_pos (by rw [same])]
  · rw [if_neg same, if_neg]
    intro sameKey
    exact same (MonitoredNode.key_injective sameKey).symm

/-- The limiter key of a node's failures moves with the failures reported of the node. -/
theorem limits_snoc (node : MonitoredNode) (observations : List Observation) (last : Observation) :
    (observeAll config (observations ++ [last])).1.lastSentAt.lookup (limitKey true node) =
      if (last.node = node ∧ last.isFailure) ∧ config.rateLimit ≠ 0 ∧
          reported config (observeAll config observations).1 last then some last.at_
      else (observeAll config observations).1.lastSentAt.lookup (limitKey true node) := by
  obtain ⟨-, -, times⟩ := observeNext_spec noQuiet failedOn recoveredOn
    (observeAll config observations).1 (observeAll config observations).2 last
  have sameKey : limitKey true node = limitKey last.isFailure last.node ↔
      last.node = node ∧ last.isFailure = true := by
    rw [limitKey_inj]
    constructor
    · rintro ⟨failure, rfl⟩
      exact ⟨rfl, failure.symm⟩
    · rintro ⟨rfl, failure⟩
      exact ⟨failure.symm, rfl⟩
  rw [observeAll_snoc]
  show (observeNext config ((observeAll config observations).1, (observeAll config observations).2)
    last).1.lastSentAt.lookup (limitKey true node) = _
  rw [times]
  simp only [sameKey]

theorem OutageInv.mark_snoc {node : MonitoredNode} {observations : List Observation}
    (inv : OutageInv config node observations) (last : Observation) :
    (observeAll config (observations ++ [last])).1.connectionStates.lookup node.key = some .unhealthy ↔
      (lastSeen node (observations ++ [last])).any (·.isFailure) = true := by
  rw [marks_snoc noQuiet failedOn recoveredOn, lastSeen_snoc]
  split
  · cases failure : last.isFailure <;> simp [failure]
  · exact inv.mark

theorem OutageInv.limiter_snoc {node : MonitoredNode} {observations : List Observation}
    (inv : OutageInv config node observations) (last : Observation) (limited : config.rateLimit ≠ 0) :
    (observeAll config (observations ++ [last])).1.lastSentAt.lookup (limitKey true node) =
      (lastFailed node (sentLog config (observations ++ [last]))).map (·.at_) := by
  rw [limits_snoc noQuiet failedOn recoveredOn, sentLog_snoc noQuiet failedOn recoveredOn]
  by_cases told : reported config (observeAll config observations).1 last = true
  · rw [if_pos told, lastFailed_snoc]
    by_cases own : last.node = node ∧ last.isFailure = true
    · rw [if_pos ⟨own, limited, told⟩, if_pos own]
      rfl
    · rw [if_neg (fun moved => own moved.1), if_neg own]
      exact inv.limiter limited
  · rw [if_neg (fun moved => told moved.2.2), if_neg told]
    exact inv.limiter limited

theorem OutageInv.outage_snoc {node : MonitoredNode} {observations : List Observation}
    (inv : OutageInv config node observations) (last : Observation)
    (failing : (lastSeen node (observations ++ [last])).any (·.isFailure) = true) :
    (lastSent node (sentLog config (observations ++ [last]))).any (·.failure) = true ∨
      OpenedSuppressed config node (observations ++ [last]) := by
  rw [lastSeen_snoc] at failing
  rw [sentLog_snoc noQuiet failedOn recoveredOn]
  by_cases same : last.node = node
  · subst same
    have failure : last.isFailure = true := by simpa using failing
    by_cases told : reported config (observeAll config observations).1 last = true
    · left
      simp [told, lastSent_snoc, failure]
    · rw [if_neg told]
      by_cases was : (lastSeen last.node observations).any (·.isFailure) = true
      · -- the outage goes on
        rcases inv.outage was with old | opened
        · exact .inl old
        · exact .inr (opened.snoc fun _ => failure)
      · exact .inr (inv.opens failure was told)
  · -- another node's observation
    rw [if_neg same] at failing
    rcases inv.outage failing with told | opened
    · left
      split
      · rwa [lastSent_snoc, if_neg same]
      · exact told
    · right
      apply opened.snoc
      intro eq
      exact absurd eq same

theorem OutageInv.snoc {node : MonitoredNode} {observations : List Observation}
    (inv : OutageInv config node observations) (last : Observation) :
    OutageInv config node (observations ++ [last]) where
  mark := inv.mark_snoc noQuiet failedOn recoveredOn last
  limiter := inv.limiter_snoc noQuiet failedOn recoveredOn last
  outage := inv.outage_snoc noQuiet failedOn recoveredOn last

theorem outageInv (node : MonitoredNode) (observations : List Observation) :
    OutageInv config node observations := by
  induction observations using List.reverseRecOn with
  | nil => exact ⟨by simp [observeAll, lastSeen], by simp [observeAll, sentLog, lastFailed], by simp [lastSeen]⟩
  | append_singleton observations last ih => exact ih.snoc noQuiet failedOn recoveredOn last

/-- A failure that is due, at least the rate limit after the last message about one,
leaves the node's last message a failure message, unless the outage was opened by an
earlier failure that was not due. -/
theorem outage_remembered (observations : List Observation) (last : Observation)
    (failure : last.isFailure = true)
    (due : ∀ sent, lastFailed last.node (sentLog config observations) = some sent →
      sent.at_ + config.rateLimit ≤ last.at_) :
    (lastSent last.node (sentLog config (observations ++ [last]))).any (·.failure) = true ∨
      OpenedSuppressed config last.node observations := by
  have inv := outageInv noQuiet failedOn recoveredOn last.node (observations ++ [last])
  rcases inv.outage (by simp [lastSeen_snoc, failure]) with told | opened
  · exact .inl told
  · obtain ⟨before, opening, after, split, same, opens, edge, rest, sent, found, soon⟩ := opened
    rcases Lts.snoc_eq_append_cons split with ⟨rfl, rfl, rfl⟩ | ⟨after', rfl, split'⟩
    · exact absurd (due sent found) (by omega)
    · exact .inr ⟨before, opening, after', split', same, opens, edge,
        fun later mem => rest later (List.mem_append_left _ mem), sent, found, soon⟩

end Loud

/-- Every due failure leaves the node's last message a failure message. -/
def OutageRemembered (config : TelegramConfig) : Prop :=
  ∀ (observations : List Observation) (last : Observation),
    (observations ++ [last]).Pairwise (·.at_ ≤ ·.at_) → last.isFailure = true →
    (∀ sent, lastFailed last.node (sentLog config observations) = some sent →
      sent.at_ + config.rateLimit ≤ last.at_) →
    (lastSent last.node (sentLog config (observations ++ [last]))).any (·.failure) = true

/-- A rate limit of ten seconds, no quiet hours. -/
def limitedConfig : TelegramConfig := { nightConfig with quietHours := none, rateLimit := 10 * 10 ^ 9 }

def mainNode : MonitoredNode := ⟨"main", "wss://rpc-a", by decide⟩

/-- The failure at one second's distance from the recovery is refused by the limiter, and
the failure still seen ten seconds later no longer changes the state. -/
theorem flap_forgets_outage : ¬ OutageRemembered limitedConfig := by
  intro remembered
  have told := remembered [⟨mainNode, .failed "timeout", 0, 600⟩, ⟨mainNode, .recovered, 1 * 10 ^ 9, 600⟩,
    ⟨mainNode, .failed "timeout", 2 * 10 ^ 9, 600⟩] ⟨mainNode, .failed "timeout", 12 * 10 ^ 9, 600⟩
    (by decide) rfl (by decide)
  revert told
  decide

theorem outage_remembered_again :
    (lastSent mainNode (sentLog limitedConfig [⟨mainNode, .failed "timeout", 0, 600⟩,
      ⟨mainNode, .recovered, 1 * 10 ^ 9, 600⟩, ⟨mainNode, .failed "timeout", 11 * 10 ^ 9, 600⟩])).any
        (·.failure) = true ∨
      OpenedSuppressed limitedConfig mainNode [⟨mainNode, .failed "timeout", 0, 600⟩,
        ⟨mainNode, .recovered, 1 * 10 ^ 9, 600⟩] :=
  @outage_remembered limitedConfig rfl rfl rfl [⟨mainNode, .failed "timeout", 0, 600⟩,
    ⟨mainNode, .recovered, 1 * 10 ^ 9, 600⟩] ⟨mainNode, .failed "timeout", 11 * 10 ^ 9, 600⟩ rfl
    (by decide)

end ChainDash.Notify
