import ChainDash.Lib.Lts
import ChainDash.Notify.Messages

/-!
# The Telegram notifier

A notifier call observes its event under the state lock (`NotifierCall.observe`), and
if there is something to report, decides under the lock whether to send it
(`sendIfEnabled`) and then posts to every chat. `World` is any number of calls in
flight, interleaved at these points; it logs the decisions and the posts.
-/

namespace ChainDash.Notify
set_option autoImplicit false

open Collect

structure TelegramConfig where
  botToken : String
  chatIds : List String
  enabledEvents : TelegramNotificationFilter
  quietHours : Option TelegramQuietHours
  rateLimit : Nat
  templates : TelegramTemplates
  apiUrl : String

namespace TelegramConfig

def sendMessageUrl (config : TelegramConfig) : String :=
  config.apiUrl ++ "/bot" ++ config.botToken ++ "/sendMessage"

/-- Whether the local time of day given lies in quiet hours (`is_quiet_time_now`). -/
def isQuietTimeAt (config : TelegramConfig) (minutesSinceMidnight : Nat) : Bool :=
  config.quietHours.any (·.containsMinutesSinceMidnight minutesSinceMidnight)

end TelegramConfig

/-- The calls the collectors make. -/
inductive NotifierCall where
  | nodeConnectionFailed (nodeName nodeUrl reason : String)
  | nodeConnectionRecovered (nodeName nodeUrl : String)
  | nodeRankingChange (nodeId nodeName : String) (ranking : Int)
  | dailyNodeSnapshot (date : String) (nodeDetails : List DailyNodeSummaryDetail)

/-- The arguments of `send_if_enabled`. -/
structure SendRequest where
  event : NotificationEventKind
  rateLimitKey : String
  summarySubject : String
  message : String

def connectionKey (nodeName nodeUrl : String) : String := nodeName ++ "@" ++ nodeUrl

/-- The first half of each `notify_*` method, up to its call of `send_if_enabled`. -/
def NotifierCall.observe (templates : TelegramTemplates) (state : NotificationState) :
    NotifierCall → Option SendRequest × NotificationState
  | .nodeConnectionFailed nodeName nodeUrl reason =>
    let key := connectionKey nodeName nodeUrl
    let (shouldNotify, state) := state.markConnectionFailed key
    (if shouldNotify then some {
      event := .connectionFailed
      rateLimitKey := "connection-failed:" ++ key
      summarySubject := displayNodeName nodeName
      message := templates.renderConnectionFailedMessage nodeName reason } else none, state)
  | .nodeConnectionRecovered nodeName nodeUrl =>
    let key := connectionKey nodeName nodeUrl
    let (shouldNotify, state) := state.markConnectionRecovered key
    (if shouldNotify then some {
      event := .connectionRecovered
      rateLimitKey := "connection-recovered:" ++ key
      summarySubject := displayNodeName nodeName
      message := templates.renderConnectionRecoveredMessage nodeName } else none, state)
  | .nodeRankingChange nodeId nodeName ranking =>
    let (change, state) := state.planRankingChange nodeId ranking
    (change.map fun change => {
      event := .rankingChanged
      rateLimitKey := "ranking-changed:" ++ nodeId
      summarySubject := displayNodeName nodeName
      message := templates.renderRankingChangedMessage nodeName change }, state)
  | .dailyNodeSnapshot date nodeDetails =>
    (some {
      event := .dailySummary
      rateLimitKey := "daily-summary:" ++ date
      summarySubject := date
      message := templates.renderDailySummaryMessage date nodeDetails }, state)

inductive SendDecision where
  | suppressedByRateLimit
  | suppressedByQuietHours
  | send (quietSummary : Option QuietSummarySnapshot)
  deriving DecidableEq

/-- The section of `send_if_enabled` under the state lock. -/
def NotificationState.decideSend (state : NotificationState) (rateLimit : Nat)
    (request : SendRequest) (quietTimeNow : Bool) (now : Nat) : SendDecision × NotificationState :=
  let quietHoursEnabled := request.event ≠ .dailySummary
  let (allowed, state) := state.allowDelivery request.rateLimitKey now rateLimit
  if !allowed then
    (.suppressedByRateLimit, state)
  else if quietHoursEnabled && quietTimeNow then
    (.suppressedByQuietHours, state.recordQuietSummary request.event request.summarySubject)
  else
    let (quietSummary, state) := state.takeQuietSummarySnapshot
    (.send quietSummary, state)

/-- `send_if_enabled` up to the decision; no decision is made about a filtered event.
The clocks show `minute` of the local day and the instant `now`. -/
def sendIfEnabled (config : TelegramConfig) (state : NotificationState) (request : SendRequest)
    (minute now : Nat) : Option SendDecision × NotificationState :=
  if config.enabledEvents.allows request.event then
    let (decision, state) :=
      state.decideSend config.rateLimit request (config.isQuietTimeAt minute) now
    (some decision, state)
  else
    (none, state)

/-- What a posted message is: the buffered summary, or the call's own message. -/
inductive Content where
  | quietSummary
  | own (event : NotificationEventKind)
  deriving DecidableEq

/-- A `sendMessage` request to the Telegram API. -/
structure Outgoing where
  content : Content
  url : String
  chatId : String
  text : String

/-- `send_message`: one request for each chat. -/
def sendMessage (config : TelegramConfig) (content : Content) (text : String) : List Outgoing :=
  config.chatIds.map fun chatId => { content, url := config.sendMessageUrl, chatId, text }

/-- The requests that follow a decision, in order. -/
def outgoing (config : TelegramConfig) (request : SendRequest) : SendDecision → List Outgoing
  | .suppressedByRateLimit => []
  | .suppressedByQuietHours => []
  | .send quietSummary =>
    (match quietSummary with
      | some summary =>
        sendMessage config .quietSummary (config.templates.renderQuietSummaryMessage summary)
      | none => []) ++ sendMessage config (.own request.event) request.message

/-! ## Calls in flight -/

/-- A call past its observation: about to decide, or with requests still to post, decided
at the time of day `decidedAt`. -/
inductive Call where
  | deciding (request : SendRequest)
  | posting (decidedAt : Nat) (queue : List Outgoing)

/-- A request that was posted, by which call and at what time of day. -/
structure Posted where
  call : Nat
  decidedAt : Nat
  minute : Nat
  outgoing : Outgoing

/-- A decision and the request it was made on. -/
structure Decided where
  request : SendRequest
  decision : SendDecision

structure World where
  state : NotificationState := {}
  calls : List Call := []
  decisions : List Decided := []
  posts : List Posted := []

inductive Event where
  | observe (call : NotifierCall)
  | decide (index minute now : Nat)
  | post (index minute : Nat)

/-- One atomic step of one call. -/
def World.step (config : TelegramConfig) (world : World) : Event → Option World
  | .observe call =>
    let (request, state) := call.observe config.templates world.state
    match request with
    | none => some { world with state }
    | some request => some { world with state, calls := world.calls ++ [.deciding request] }
  | .decide index minute now =>
    match world.calls[index]? with
    | some (.deciding request) =>
      match sendIfEnabled config world.state request minute now with
      | (some decision, state) => some { world with
          state
          calls := world.calls.set index (.posting minute (outgoing config request decision))
          decisions := world.decisions ++ [⟨request, decision⟩] }
      | (none, state) => some { world with
          state
          calls := world.calls.set index (.posting minute []) }
    | _ => none
  | .post index minute =>
    match world.calls[index]? with
    | some (.posting decidedAt (outgoing :: queue)) => some { world with
        calls := world.calls.set index (.posting decidedAt queue)
        posts := world.posts ++ [⟨index, decidedAt, minute, outgoing⟩] }
    | _ => none

/-- Every run starts from the notifier as `from_opts` makes it. -/
def World.run (config : TelegramConfig) (events : List Event) : Option World :=
  Lts.run (World.step config) {} events

/-- Quiet hours from 23:00 to 07:00 and no rate limit. -/
def nightConfig : TelegramConfig where
  botToken := "bot-token"
  chatIds := ["10001"]
  enabledEvents := .all
  quietHours := some ⟨23 * 60, 7 * 60, by decide, by decide, by decide⟩
  rateLimit := 0
  templates := defaultTemplates
  apiUrl := "https://api.telegram.org"

/-! ## What one step does -/

/-- Every way a world can step: an observation that reports nothing, one that reports, a
filtered call, a decision, and a post. -/
theorem World.step_cases {config : TelegramConfig} {world world' : World} {event : Event}
    (h : world.step config event = some world') :
    (∃ call state, event = .observe call ∧
        call.observe config.templates world.state = (none, state) ∧ world' = { world with state }) ∨
    (∃ call request state, event = .observe call ∧
        call.observe config.templates world.state = (some request, state) ∧
        world' = { world with state, calls := world.calls ++ [.deciding request] }) ∨
    (∃ index minute now request, event = .decide index minute now ∧
        world.calls[index]? = some (.deciding request) ∧
        config.enabledEvents.allows request.event = false ∧
        world' = { world with calls := world.calls.set index (.posting minute []) }) ∨
    (∃ index minute now request decision state, event = .decide index minute now ∧
        world.calls[index]? = some (.deciding request) ∧
        config.enabledEvents.allows request.event = true ∧
        world.state.decideSend config.rateLimit request (config.isQuietTimeAt minute) now =
          (decision, state) ∧
        world' = { world with
          state
          calls := world.calls.set index (.posting minute (outgoing config request decision))
          decisions := world.decisions ++ [⟨request, decision⟩] }) ∨
    (∃ index minute decidedAt out queue, event = .post index minute ∧
        world.calls[index]? = some (.posting decidedAt (out :: queue)) ∧
        world' = { world with
          calls := world.calls.set index (.posting decidedAt queue)
          posts := world.posts ++ [⟨index, decidedAt, minute, out⟩] }) := by
  cases event with
  | observe call =>
    cases seen : call.observe config.templates world.state with
    | mk request state =>
      cases request with
      | none => exact .inl ⟨call, state, rfl, seen, by simpa [step, seen] using h.symm⟩
      | some request =>
        exact .inr (.inl ⟨call, request, state, rfl, seen, by simpa [step, seen] using h.symm⟩)
  | decide index minute now =>
    refine .inr (.inr ?_)
    simp only [step] at h
    split at h
    case h_2 => cases h
    case h_1 request at_ =>
    cases allowed : config.enabledEvents.allows request.event with
    | false =>
      refine .inl ⟨index, minute, now, request, rfl, at_, allowed, ?_⟩
      simpa [sendIfEnabled, allowed] using h.symm
    | true =>
      cases decided : world.state.decideSend config.rateLimit request
          (config.isQuietTimeAt minute) now with
      | mk decision state =>
        refine .inr (.inl ⟨index, minute, now, request, decision, state, rfl, at_, allowed,
          decided, ?_⟩)
        simpa [sendIfEnabled, allowed, decided] using h.symm
  | post index minute =>
    refine .inr (.inr (.inr (.inr ?_)))
    simp only [step] at h
    split at h
    case h_2 => cases h
    case h_1 decidedAt out queue at_ =>
    exact ⟨index, minute, decidedAt, out, queue, rfl, at_, by simpa using h.symm⟩

/-- What a decision can be, and the quiet-hours buffer after it. -/
theorem NotificationState.decideSend_cases {state state' : NotificationState} {rateLimit now : Nat}
    {request : SendRequest} {quietTimeNow : Bool} {decision : SendDecision}
    (h : state.decideSend rateLimit request quietTimeNow now = (decision, state')) :
    (decision = .suppressedByRateLimit ∧ state'.quietSummary = state.quietSummary) ∨
    (decision = .suppressedByQuietHours ∧ request.event ≠ .dailySummary ∧ quietTimeNow = true ∧
      state'.quietSummary = state.quietSummary.record request.event request.summarySubject) ∨
    (decision = .send state.quietSummary.takeSnapshot.1 ∧
      (request.event = .dailySummary ∨ quietTimeNow = false) ∧
      (state.allowDelivery request.rateLimitKey now rateLimit).1 = true ∧
      state'.quietSummary = state.quietSummary.takeSnapshot.2) := by
  have buffer := state.allowDelivery_quietSummary request.rateLimitKey now rateLimit
  unfold decideSend at h
  cases allowed : state.allowDelivery request.rateLimitKey now rateLimit with
  | mk answer limited =>
    have kept : limited.quietSummary = state.quietSummary := by
      rw [← buffer, allowed]
    simp only [allowed] at h
    cases answer with
    | false =>
      obtain ⟨rfl, rfl⟩ := Prod.mk.inj h
      exact .inl ⟨rfl, kept⟩
    | true =>
      simp only [Bool.not_true, Bool.false_eq_true, if_false] at h
      split at h
      case isTrue quiet =>
        obtain ⟨rfl, rfl⟩ := Prod.mk.inj h
        simp only [ne_eq, Bool.and_eq_true, decide_eq_true_eq] at quiet
        exact .inr (.inl ⟨rfl, quiet.1, quiet.2, by rw [← kept]; rfl⟩)
      case isFalse loud =>
        obtain ⟨rfl, rfl⟩ := Prod.mk.inj h
        simp only [ne_eq, Bool.and_eq_true, decide_eq_true_eq, not_and] at loud
        refine .inr (.inr ⟨by rw [← kept]; rfl, ?_, rfl, by rw [← kept]; rfl⟩)
        by_cases daily : request.event = .dailySummary
        · exact .inl daily
        · exact .inr (by simpa using loud daily)

/-- A decision changes the send times and the quiet-hours buffer only. -/
theorem NotificationState.decideSend_frame (state : NotificationState) (rateLimit now : Nat)
    (request : SendRequest) (quietTimeNow : Bool) :
    ∃ lastSentAt quietSummary, (state.decideSend rateLimit request quietTimeNow now).2 =
      { state with lastSentAt, quietSummary } := by
  have limiter : ∃ lastSentAt, (state.allowDelivery request.rateLimitKey now rateLimit).2 =
      { state with lastSentAt } := by
    unfold allowDelivery
    split
    · exact ⟨_, rfl⟩
    · split <;> exact ⟨_, rfl⟩
  obtain ⟨lastSentAt, after⟩ := limiter
  unfold decideSend
  cases answer : state.allowDelivery request.rateLimitKey now rateLimit with
  | mk allowed limited =>
    obtain rfl : limited = { state with lastSentAt } := by rw [← after, answer]
    dsimp only
    split
    · exact ⟨_, _, rfl⟩
    · split <;> exact ⟨_, _, rfl⟩

end ChainDash.Notify
