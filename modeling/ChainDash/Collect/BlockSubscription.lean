import ChainDash.Collect.ChainStatistics
import ChainDash.Lib.Lts

/-!
# The block subscription

`run_block_subscription_loop` against any answers of the endpoints, with the stop flag, the
other tasks and the UI in between. It tries the endpoints in order until one connects and
subscribes, records a sample for each block whose body it gets, and starts over from the
first endpoint when a stream or a fetch fails (`block_samples_exact`,
`endpoints_tried_in_order`); a set stop flag ends it (`block_subscription_stops`).
-/

namespace ChainDash.Collect
set_option autoImplicit false

structure BlockHeader where
  number : UInt64
  timestamp : UInt64
  deriving DecidableEq

/-- Where the loop stands. An endpoint is its name and its url. -/
inductive SubscriptionPhase where
  /-- At the top of the outer loop. -/
  | starting
  /-- In the `for` loop, with the endpoints after this one. -/
  | connecting (endpoint : String × String) (rest : List (String × String))
  | subscribing (endpoint : String × String) (rest : List (String × String))
  | sleeping
  /-- At the top of the inner loop. -/
  | streaming (endpoint : String × String)
  /-- In the `select!`. -/
  | selecting (endpoint : String × String)
  | fetching (endpoint : String × String) (head : BlockHeader)
  /-- Behind the inner loop. -/
  | leaving (reconnectRequired : Bool)
  | returned

/-- `log` holds the lines of `warn!`. -/
structure BlockSubscription where
  phase : SubscriptionPhase := .starting
  stopFlag : Bool := false
  chain : ChainRun := {}
  log : List String := []

inductive SubscriptionEvent where
  /-- The stop flag is set. -/
  | stop
  /-- Another task changes the shared data. -/
  | other (op : DataOp)
  /-- A chart drains its buffer. -/
  | drain (op : ChainOp)
  /-- The loop reads the stop flag. -/
  | check
  | connected (endpoint : String × String) (answer : Except String Unit) (now : Nat)
  | subscribed (endpoint : String × String) (answer : Except String Unit) (now : Nat)
  /-- `sub.next()` yields a head, or the end of the stream. -/
  | next (endpoint : String × String) (head : Option BlockHeader) (now : Nat)
  /-- The block of a head, as the number of its transactions. -/
  | fetched (endpoint : String × String) (head : BlockHeader)
      (answer : Except String (Option UInt64)) (now : Nat)
  | slept

/-- `record_block_sample` is called by this loop only. -/
def DataOp.isBlockSample : DataOp → Bool
  | .recordBlockSample .. => true
  | _ => false

def ChainOp.isDrain : ChainOp → Bool
  | .recordBlockSample _ => false
  | _ => true

namespace BlockSubscription

/-- The `for` loop over what is left of the endpoints. -/
def nextEndpoint : List (String × String) → SubscriptionPhase
  | [] => .sleeping
  | endpoint :: rest => .connecting endpoint rest

def setData (s : BlockSubscription) (data : Data) : BlockSubscription :=
  { s with chain := { s.chain with data } }

/-- `warn_with_status`. -/
def warnWithStatus (s : BlockSubscription) (message : String) (now : Nat) : BlockSubscription :=
  { s.setData (s.chain.data.setStatusMessage .warn message now) with log := s.log ++ [message] }

def connectFailed (endpoint : String × String) (err : String) : String :=
  "Failed to connect block subscription for " ++ endpoint.1 ++ " at " ++ endpoint.2 ++ ": " ++ err

def subscribeFailed (endpoint : String × String) (err : String) : String :=
  "Failed to subscribe to blocks for " ++ endpoint.1 ++ " at " ++ endpoint.2 ++ ": " ++ err

def streamEnded (endpoint : String × String) : String :=
  "Block subscription stream ended for " ++ endpoint.1 ++ ". Reconnecting soon"

def fetchFailed (endpoint : String × String) (head : BlockHeader) (err : String) : String :=
  "Failed to fetch block " ++ toString head.number ++ " via " ++ endpoint.1 ++ ": " ++ err ++
    ". Reconnecting soon"

def bodyUnavailable (endpoint : String × String) (head : BlockHeader) : String :=
  "Block body unavailable for " ++ toString head.number ++ " via " ++ endpoint.1 ++
    "; skipping sample"

def step (urls : List (String × String)) (s : BlockSubscription) (event : SubscriptionEvent) :
    Option BlockSubscription :=
  match event, s.phase with
  | .stop, _ => some { s with stopFlag := true }
  | .other op, _ => if op.isBlockSample then none else some (s.setData (op.apply s.chain.data))
  | .drain op, _ => if op.isDrain then some { s with chain := s.chain.step op } else none
  | .check, .starting =>
    some { s with phase := if s.stopFlag then .returned else nextEndpoint urls }
  | .check, .streaming endpoint =>
    some { s with phase := if s.stopFlag then .leaving false else .selecting endpoint }
  | .check, .leaving reconnectRequired =>
    some { s with
      phase := if s.stopFlag then .returned else if reconnectRequired then .sleeping else .starting }
  | .connected endpoint answer now, .connecting current rest =>
    if endpoint = current then
      match answer with
      | .ok () => some { s with phase := .subscribing endpoint rest }
      | .error err =>
        some { s.warnWithStatus (connectFailed endpoint err) now with phase := nextEndpoint rest }
    else none
  | .subscribed endpoint answer now, .subscribing current rest =>
    if endpoint = current then
      match answer with
      | .ok () =>
        let message := "Block subscription connected via " ++ endpoint.1
        some { s.setData (s.chain.data.setStatusMessage .info message now) with
          phase := .streaming endpoint }
      | .error err =>
        some { s.warnWithStatus (subscribeFailed endpoint err) now with phase := nextEndpoint rest }
    else none
  | .next endpoint head now, .selecting current =>
    if endpoint = current then
      match head with
      | some head => some { s with phase := .fetching endpoint head }
      | none => some { s.warnWithStatus (streamEnded endpoint) now with phase := .leaving true }
    else none
  | .fetched endpoint head answer now, .fetching current received =>
    if endpoint = current ∧ head = received then
      match answer with
      | .error err =>
        some { s.warnWithStatus (fetchFailed endpoint head err) now with phase := .leaving true }
      | .ok none =>
        some { s with phase := .streaming endpoint, log := s.log ++ [bodyUnavailable endpoint head] }
      | .ok (some txs) =>
        some { s with
          phase := .streaming endpoint
          chain := s.chain.step (.recordBlockSample ⟨head.number, head.timestamp, txs⟩) }
    else none
  | .slept, .sleeping => some { s with phase := .starting }
  | .slept, .selecting endpoint =>
    some { s with phase := if s.stopFlag then .leaving false else .streaming endpoint }
  | _, _ => none

def run (urls : List (String × String)) (events : List SubscriptionEvent) :
    Option BlockSubscription :=
  Lts.run (step urls) {} events

/-! ## What a step can do -/

inductive Stepped (urls : List (String × String)) (s : BlockSubscription) :
    SubscriptionEvent → BlockSubscription → Prop where
  | stop : Stepped urls s .stop { s with stopFlag := true }
  | other {op : DataOp} (foreign : op.isBlockSample = false) :
      Stepped urls s (.other op) (s.setData (op.apply s.chain.data))
  | drain {op : ChainOp} (drains : op.isDrain = true) :
      Stepped urls s (.drain op) { s with chain := s.chain.step op }
  | start (phase : s.phase = .starting) : Stepped urls s .check
      { s with phase := if s.stopFlag then .returned else nextEndpoint urls }
  | watch {endpoint : String × String} (phase : s.phase = .streaming endpoint) :
      Stepped urls s .check
        { s with phase := if s.stopFlag then .leaving false else .selecting endpoint }
  | leave {reconnectRequired : Bool} (phase : s.phase = .leaving reconnectRequired) :
      Stepped urls s .check { s with
        phase := if s.stopFlag then .returned else if reconnectRequired then .sleeping else .starting }
  | connected {endpoint : String × String} {rest : List (String × String)} {now : Nat}
      (phase : s.phase = .connecting endpoint rest) :
      Stepped urls s (.connected endpoint (.ok ()) now) { s with phase := .subscribing endpoint rest }
  | unconnected {endpoint : String × String} {rest : List (String × String)} {err : String} {now : Nat}
      (phase : s.phase = .connecting endpoint rest) :
      Stepped urls s (.connected endpoint (.error err) now)
        { s.warnWithStatus (connectFailed endpoint err) now with phase := nextEndpoint rest }
  | subscribed {endpoint : String × String} {rest : List (String × String)} {now : Nat}
      (phase : s.phase = .subscribing endpoint rest) :
      Stepped urls s (.subscribed endpoint (.ok ()) now)
        { s.setData (s.chain.data.setStatusMessage .info
            ("Block subscription connected via " ++ endpoint.1) now) with phase := .streaming endpoint }
  | unsubscribed {endpoint : String × String} {rest : List (String × String)} {err : String}
      {now : Nat} (phase : s.phase = .subscribing endpoint rest) :
      Stepped urls s (.subscribed endpoint (.error err) now)
        { s.warnWithStatus (subscribeFailed endpoint err) now with phase := nextEndpoint rest }
  | head {endpoint : String × String} {head : BlockHeader} {now : Nat}
      (phase : s.phase = .selecting endpoint) :
      Stepped urls s (.next endpoint (some head) now) { s with phase := .fetching endpoint head }
  | ended {endpoint : String × String} {now : Nat} (phase : s.phase = .selecting endpoint) :
      Stepped urls s (.next endpoint none now)
        { s.warnWithStatus (streamEnded endpoint) now with phase := .leaving true }
  | unfetched {endpoint : String × String} {head : BlockHeader} {err : String} {now : Nat}
      (phase : s.phase = .fetching endpoint head) :
      Stepped urls s (.fetched endpoint head (.error err) now)
        { s.warnWithStatus (fetchFailed endpoint head err) now with phase := .leaving true }
  | bodyless {endpoint : String × String} {head : BlockHeader} {now : Nat}
      (phase : s.phase = .fetching endpoint head) :
      Stepped urls s (.fetched endpoint head (.ok none) now)
        { s with phase := .streaming endpoint, log := s.log ++ [bodyUnavailable endpoint head] }
  | sample {endpoint : String × String} {head : BlockHeader} {txs : UInt64} {now : Nat}
      (phase : s.phase = .fetching endpoint head) :
      Stepped urls s (.fetched endpoint head (.ok (some txs)) now) { s with
        phase := .streaming endpoint
        chain := s.chain.step (.recordBlockSample ⟨head.number, head.timestamp, txs⟩) }
  | slept (phase : s.phase = .sleeping) : Stepped urls s .slept { s with phase := .starting }
  | idle {endpoint : String × String} (phase : s.phase = .selecting endpoint) :
      Stepped urls s .slept
        { s with phase := if s.stopFlag then .leaving false else .streaming endpoint }

variable {urls : List (String × String)} {s s' : BlockSubscription} {event : SubscriptionEvent}

theorem step_cases (stepped : step urls s event = some s') : Stepped urls s event s' := by
  unfold step at stepped
  split at stepped
  case h_1 =>
    cases stepped
    exact .stop
  case h_2 op _ =>
    split at stepped <;> cases stepped
    case isFalse foreign => exact .other (by simpa using foreign)
  case h_3 op _ =>
    split at stepped <;> cases stepped
    case isTrue drains => exact .drain drains
  case h_4 phase =>
    cases stepped
    exact .start phase
  case h_5 endpoint phase =>
    cases stepped
    exact .watch phase
  case h_6 reconnectRequired phase =>
    cases stepped
    exact .leave phase
  case h_7 endpoint answer now current rest phase =>
    split at stepped
    case isFalse => cases stepped
    case isTrue same =>
      subst same
      split at stepped <;> cases stepped
      case h_1 => exact .connected phase
      case h_2 err => exact .unconnected phase
  case h_8 endpoint answer now current rest phase =>
    split at stepped
    case isFalse => cases stepped
    case isTrue same =>
      subst same
      split at stepped <;> cases stepped
      case h_1 => exact .subscribed phase
      case h_2 err => exact .unsubscribed phase
  case h_9 endpoint head now current phase =>
    split at stepped
    case isFalse => cases stepped
    case isTrue same =>
      subst same
      split at stepped <;> cases stepped
      case h_1 head => exact .head phase
      case h_2 => exact .ended phase
  case h_10 endpoint head answer now current received phase =>
    split at stepped
    case isFalse => cases stepped
    case isTrue same =>
      obtain ⟨rfl, rfl⟩ := same
      split at stepped <;> cases stepped
      case h_1 err => exact .unfetched phase
      case h_2 => exact .bodyless phase
      case h_3 txs => exact .sample phase
  case h_11 phase =>
    cases stepped
    exact .slept phase
  case h_12 endpoint phase =>
    cases stepped
    exact .idle phase
  case h_13 => cases stepped

end BlockSubscription

/-! ## Every block once -/

namespace SubscriptionEvent

def received : SubscriptionEvent → Option BlockHeader
  | .next _ head _ => head
  | _ => none

/-- The head whose block the loop has asked for. -/
def asked : SubscriptionEvent → Option BlockHeader
  | .fetched _ head _ _ => some head
  | _ => none

def delivered : SubscriptionEvent → Option BlockSample
  | .fetched _ head (.ok (some txs)) _ => some ⟨head.number, head.timestamp, txs⟩
  | _ => none

open BlockSubscription in
/-- The line that an answer leaves in the log. -/
def complaint : SubscriptionEvent → Option String
  | .connected endpoint (.error err) _ => some (connectFailed endpoint err)
  | .subscribed endpoint (.error err) _ => some (subscribeFailed endpoint err)
  | .next endpoint none _ => some (streamEnded endpoint)
  | .fetched endpoint head (.error err) _ => some (fetchFailed endpoint head err)
  | .fetched endpoint head (.ok none) _ => some (bodyUnavailable endpoint head)
  | _ => none

end SubscriptionEvent

def SubscriptionPhase.pending : SubscriptionPhase → Option BlockHeader
  | .fetching _ head => some head
  | _ => none

/-- What a run has recorded: each head is asked for once, in order, each body that came is
one sample, and nothing else is; the statistics are those of the samples, and the log has
one line for each answer that failed. -/
structure SamplesExact (events : List SubscriptionEvent) (s : BlockSubscription) : Prop where
  heads : events.filterMap (·.received) = events.filterMap (·.asked) ++ s.phase.pending.toList
  samples : ChainExact (events.filterMap (·.delivered)) s.chain
  log : s.log = events.filterMap (·.complaint)

/-- The statistics do not depend on the other parts of the data. -/
theorem ChainInv.congr {samples : List BlockSample} {chain : ChainRun} {data : Data}
    (inv : ChainInv samples chain) (same : data.chain = chain.data.chain) :
    ChainInv samples { chain with data } := by
  obtain ⟨⟨txns, intervals, maxTxs, maxTxsBlockNumber, maxInterval, curInterval⟩, clock⟩ := inv
  rw [← same] at txns intervals maxTxs maxTxsBlockNumber maxInterval curInterval clock
  exact ⟨⟨txns, intervals, maxTxs, maxTxsBlockNumber, maxInterval, curInterval⟩, clock⟩

namespace BlockSubscription

variable {urls : List (String × String)} {s s' : BlockSubscription}
  {events : List SubscriptionEvent}

theorem chain_setStatusMessage (data : Data) (level : StatusLevel) (text : String) (now : Nat) :
    (data.setStatusMessage level text now).chain = data.chain :=
  DataOp.chain_apply (.setStatusMessage level text now) data

theorem chain_of_foreign {op : DataOp} (foreign : op.isBlockSample = false) (data : Data) :
    (op.apply data).chain = data.chain := by
  rw [DataOp.chain_apply]
  cases op
  case recordBlockSample => cases foreign
  all_goals rfl

theorem pending_nextEndpoint (rest : List (String × String)) : (nextEndpoint rest).pending = none := by
  cases rest <;> rfl

/-- The samples of a run, with the clock of the statistics. -/
structure Recorded (events : List SubscriptionEvent) (s : BlockSubscription) : Prop where
  heads : events.filterMap (·.received) = events.filterMap (·.asked) ++ s.phase.pending.toList
  samples : ChainInv (events.filterMap (·.delivered)) s.chain
  log : s.log = events.filterMap (·.complaint)

theorem filterMap_snoc {α β : Type} (f : α → Option β) (l : List α) (a : α) :
    (l ++ [a]).filterMap f = l.filterMap f ++ (f a).toList := by
  rw [List.filterMap_append]
  cases made : f a <;> simp [made]

/-- A step moves heads from the wire to the loop to the log of questions. -/
theorem Recorded.advance {event : SubscriptionEvent} (inv : Recorded events s)
    (heads : s.phase.pending.toList ++ event.received.toList =
      event.asked.toList ++ s'.phase.pending.toList)
    (samples : ChainInv (events.filterMap (·.delivered) ++ event.delivered.toList) s'.chain)
    (log : s'.log = s.log ++ event.complaint.toList) : Recorded (events ++ [event]) s' := by
  constructor
  · rw [filterMap_snoc, filterMap_snoc, inv.heads, List.append_assoc, heads, List.append_assoc]
  · rw [filterMap_snoc]
    exact samples
  · rw [filterMap_snoc, log, inv.log]

theorem Recorded.without_sample {event : SubscriptionEvent} (inv : Recorded events s)
    (heads : s.phase.pending.toList ++ event.received.toList =
      event.asked.toList ++ s'.phase.pending.toList) (delivered : event.delivered = none)
    (samples : ChainInv (events.filterMap (·.delivered)) s'.chain)
    (log : s'.log = s.log ++ event.complaint.toList) : Recorded (events ++ [event]) s' := by
  refine inv.advance heads ?_ log
  rw [delivered, Option.toList_none, List.append_nil]
  exact samples

/-- A step that neither receives nor asks. -/
theorem Recorded.quiet {event : SubscriptionEvent} (inv : Recorded events s)
    (silent : event.received = none ∧ event.asked = none ∧ event.delivered = none)
    (pending : s'.phase.pending = s.phase.pending)
    (samples : ChainInv (events.filterMap (·.delivered)) s'.chain)
    (log : s'.log = s.log ++ event.complaint.toList) : Recorded (events ++ [event]) s' := by
  obtain ⟨received, asked, delivered⟩ := silent
  refine inv.without_sample ?_ delivered samples log
  rw [received, asked, pending]
  exact List.append_nil _

theorem Recorded.step {event : SubscriptionEvent} (inv : Recorded events s)
    (stepped : step urls s event = some s') : Recorded (events ++ [event]) s' := by
  -- a status message touches no statistics
  have posted (level : StatusLevel) (text : String) (now : Nat) :=
    inv.samples.congr (chain_setStatusMessage s.chain.data level text now)
  have silent : s.log = s.log ++ [] := (List.append_nil _).symm
  cases step_cases stepped with
  | stop => exact inv.quiet ⟨rfl, rfl, rfl⟩ rfl inv.samples silent
  | other foreign =>
    have same := chain_of_foreign foreign s.chain.data
    exact inv.quiet ⟨rfl, rfl, rfl⟩ rfl (inv.samples.congr same) silent
  | @drain op drains =>
    refine inv.quiet ⟨rfl, rfl, rfl⟩ rfl ?_ silent
    cases op with
    | recordBlockSample sample => cases drains
    | txnsAndClear => exact inv.samples.drain.1
    | intervalsAndClear => exact inv.samples.drain.2
  | start phase =>
    refine inv.quiet ⟨rfl, rfl, rfl⟩ ?_ inv.samples silent
    rw [phase]
    cases s.stopFlag
    · exact pending_nextEndpoint urls
    · rfl
  | watch phase | idle phase =>
    refine inv.quiet ⟨rfl, rfl, rfl⟩ ?_ inv.samples silent
    rw [phase]
    cases s.stopFlag <;> rfl
  | @leave reconnectRequired phase =>
    refine inv.quiet ⟨rfl, rfl, rfl⟩ ?_ inv.samples silent
    rw [phase]
    cases s.stopFlag <;> cases reconnectRequired <;> rfl
  | connected phase | slept phase =>
    exact inv.quiet ⟨rfl, rfl, rfl⟩ (by rw [phase]; rfl) inv.samples silent
  | unconnected phase | unsubscribed phase =>
    refine inv.quiet ⟨rfl, rfl, rfl⟩ ?_ (posted _ _ _) rfl
    rw [phase]
    exact pending_nextEndpoint _
  | subscribed phase => exact inv.quiet ⟨rfl, rfl, rfl⟩ (by rw [phase]; rfl) (posted _ _ _) silent
  | ended phase => exact inv.quiet ⟨rfl, rfl, rfl⟩ (by rw [phase]; rfl) (posted _ _ _) rfl
  | head phase => exact inv.without_sample (by rw [phase]; rfl) rfl inv.samples silent
  | unfetched phase => exact inv.without_sample (by rw [phase]; rfl) rfl (posted _ _ _) rfl
  | bodyless phase => exact inv.without_sample (by rw [phase]; rfl) rfl inv.samples rfl
  | sample phase => exact inv.advance (by rw [phase]; rfl) (inv.samples.record _) silent

theorem recorded_start : Recorded [] {} := by
  have none_ : Peak [] 0 := ⟨by simp, .inl rfl⟩
  exact ⟨rfl, ⟨⟨rfl, rfl, none_, rfl, none_, rfl⟩, rfl⟩, rfl⟩

/-- Whatever fails in between and however often the loop reconnects: a head that was received
is asked for exactly once, its block is recorded exactly once if it came, and nothing else is
recorded. -/
theorem block_samples_exact (urls : List (String × String)) (events : List SubscriptionEvent)
    (s : BlockSubscription) (ran : run urls events = some s) : SamplesExact events s := by
  have inv : Recorded events s := by
    refine Lts.run_invariant (I := Recorded) recorded_start ?_ ran
    exact fun _ _ _ _ before stepped => before.step stepped
  exact ⟨inv.heads, inv.samples.toChainExact, inv.log⟩

/-- A stream fails, the first endpoint is gone, and the second one delivers a block. -/
def failover : List SubscriptionEvent :=
  [.check, .connected ("a", "ws://a") (.ok ()) 0, .subscribed ("a", "ws://a") (.ok ()) 0, .check,
    .next ("a", "ws://a") (some ⟨7, 100⟩) 1, .fetched ("a", "ws://a") ⟨7, 100⟩ (.error "gone") 2,
    .check, .slept, .check, .connected ("a", "ws://a") (.error "refused") 3,
    .connected ("b", "ws://b") (.ok ()) 4, .subscribed ("b", "ws://b") (.ok ()) 4, .check,
    .next ("b", "ws://b") (some ⟨8, 103⟩) 5, .drain .txnsAndClear,
    .fetched ("b", "ws://b") ⟨8, 103⟩ (.ok (some 12)) 6]

theorem block_samples_exact_failover :
    ∃ s, run [("a", "ws://a"), ("b", "ws://b")] failover = some s ∧ s.chain.data.chain.maxTxs = 12 ∧
      SamplesExact failover s := by
  have ends : (run [("a", "ws://a"), ("b", "ws://b")] failover).map (·.chain.data.chain.maxTxs) =
      some 12 := by decide
  obtain ⟨s, ran, peak⟩ := Option.map_eq_some_iff.mp ends
  exact ⟨s, ran, peak, block_samples_exact _ _ s ran⟩

/-! ## The order of the endpoints -/

/-- An endpoint that was tried, and whether it connected and subscribed. -/
def attempt : SubscriptionEvent → Option ((String × String) × Bool)
  | .connected endpoint (.error _) _ => some (endpoint, false)
  | .subscribed endpoint (.error _) _ => some (endpoint, false)
  | .subscribed endpoint (.ok ()) _ => some (endpoint, true)
  | _ => none

/-- The end of a stream, or a block that could not be fetched. -/
def isLoss : SubscriptionEvent → Bool
  | .next _ none _ => true
  | .fetched _ _ (.error _) _ => true
  | _ => false

def refused (endpoints : List (String × String)) : List ((String × String) × Bool) :=
  endpoints.map (·, false)

/-- The endpoints of the pass that is under way, from the current one on. -/
def untried : SubscriptionPhase → Option (List (String × String))
  | .connecting endpoint rest | .subscribing endpoint rest => some (endpoint :: rest)
  | _ => none

/-- The endpoint whose stream is open. -/
def source : SubscriptionPhase → Option (String × String)
  | .streaming endpoint | .selecting endpoint | .fetching endpoint _ => some endpoint
  | _ => none

/-- A pass of the `for` loop: all endpoints refuse, or the first that does not is taken. -/
inductive Pass (urls : List (String × String)) :
    List ((String × String) × Bool) → Option (String × String) → Prop where
  | none : Pass urls (refused urls) none
  | taken {before after : List (String × String)} {endpoint : String × String}
      (split : urls = before ++ endpoint :: after) :
      Pass urls (refused before ++ [(endpoint, true)]) (some endpoint)

/-- Passes one after the other, and what the last one took. -/
inductive Passes (urls : List (String × String)) :
    List ((String × String) × Bool) → Option (String × String) → Prop where
  | nil : Passes urls [] none
  | snoc {tried next : List ((String × String) × Bool)} {last taken : Option (String × String)}
      (before : Passes urls tried last) (pass : Pass urls next taken) :
      Passes urls (tried ++ next) taken

/-- The attempts are passes over the endpoints, the last one unfinished while there are
endpoints left to try; an open stream is that of the endpoint the last pass took. -/
def InPasses (urls : List (String × String)) (attempts : List ((String × String) × Bool))
    (phase : SubscriptionPhase) : Prop :=
  ∃ tried current taken, attempts = tried ++ refused current ∧ Passes urls tried taken ∧
    (match untried phase with
      | some rest => current ++ rest = urls
      | none => current = []) ∧
    ∀ endpoint ∈ source phase, taken = some endpoint

/-- The attempts of a run are such passes, and without a stop a new pass is due to the loss of
a stream only: one pass took an endpoint for each stream lost, and one for the open one. -/
structure TriedInOrder (urls : List (String × String)) (events : List SubscriptionEvent)
    (s : BlockSubscription) : Prop where
  passes : InPasses urls (events.filterMap attempt) s.phase
  losses : s.stopFlag = false → (events.filterMap attempt).countP (·.2) =
    events.countP isLoss + (source s.phase).toList.length

section Passes

variable {attempts : List ((String × String) × Bool)} {phase phase' : SubscriptionPhase}

theorem InPasses.keep (inPasses : InPasses urls attempts phase)
    (left : untried phase' = untried phase) (open_ : ∀ endpoint ∈ source phase', endpoint ∈ source phase) :
    InPasses urls attempts phase' := by
  obtain ⟨tried, current, taken, split, passes, unfinished, takes⟩ := inPasses
  refine ⟨tried, current, taken, split, passes, ?_, fun endpoint at_ => takes endpoint (open_ endpoint at_)⟩
  rwa [left]

theorem source_nextEndpoint (rest : List (String × String)) : source (nextEndpoint rest) = none := by
  cases rest <;> rfl

/-- The next pass begins with the first endpoint. -/
theorem InPasses.start (inPasses : InPasses urls attempts phase) (none_ : untried phase = none) :
    InPasses urls attempts (nextEndpoint urls) := by
  obtain ⟨tried, current, taken, split, passes, unfinished, -⟩ := inPasses
  rw [none_] at unfinished
  subst unfinished
  refine ⟨tried, [], taken, split, passes, ?_, by simp [source_nextEndpoint]⟩
  cases urls <;> rfl

/-- A refusal ends the pass when there is no endpoint left. -/
theorem InPasses.refuse (inPasses : InPasses urls attempts phase) {endpoint : String × String}
    {rest : List (String × String)} (left : untried phase = some (endpoint :: rest)) :
    InPasses urls (attempts ++ [(endpoint, false)]) (nextEndpoint rest) := by
  obtain ⟨tried, current, taken, split, passes, unfinished, -⟩ := inPasses
  rw [left] at unfinished
  have longer : attempts ++ [(endpoint, false)] = tried ++ refused (current ++ [endpoint]) := by
    simp [split, refused]
  cases rest with
  | nil =>
    refine ⟨tried ++ refused urls, [], none, ?_, passes.snoc .none, rfl, by simp [nextEndpoint, source]⟩
    rw [longer, unfinished]
    exact (List.append_nil _).symm
  | cons next rest =>
    refine ⟨tried, current ++ [endpoint], taken, longer, passes, ?_, by simp [nextEndpoint, source]⟩
    simpa [nextEndpoint, untried] using unfinished

/-- An endpoint that connects and subscribes ends the pass. -/
theorem InPasses.take (inPasses : InPasses urls attempts phase) {endpoint : String × String}
    {rest : List (String × String)} (left : untried phase = some (endpoint :: rest)) :
    InPasses urls (attempts ++ [(endpoint, true)]) (.streaming endpoint) := by
  obtain ⟨tried, current, taken, split, passes, unfinished, -⟩ := inPasses
  rw [left] at unfinished
  refine ⟨tried ++ (refused current ++ [(endpoint, true)]), [], some endpoint, ?_,
    passes.snoc (.taken unfinished.symm), rfl, by simp [source]⟩
  simp [split, refused]

end Passes

/-- A step that tries no endpoint to its end and loses no stream. -/
theorem TriedInOrder.quiet {event : SubscriptionEvent} (inv : TriedInOrder urls events s)
    (silent : attempt event = none ∧ isLoss event = false)
    (passes : InPasses urls (events.filterMap attempt) s'.phase)
    (kept : s'.stopFlag = false → s.stopFlag = false ∧ source s'.phase = source s.phase) :
    TriedInOrder urls (events ++ [event]) s' := by
  obtain ⟨untried_, lossless⟩ := silent
  constructor
  · rw [filterMap_snoc, untried_]
    simpa using passes
  · intro goes
    obtain ⟨went, same⟩ := kept goes
    rw [filterMap_snoc, untried_, List.countP_append, same]
    simpa [lossless] using inv.losses went

theorem TriedInOrder.refuse {event : SubscriptionEvent} (inv : TriedInOrder urls events s)
    {endpoint : String × String} {rest : List (String × String)}
    (left : untried s.phase = some (endpoint :: rest)) (closed : source s.phase = none)
    (refuses : attempt event = some (endpoint, false)) (lossless : isLoss event = false)
    (next : s'.phase = nextEndpoint rest) (kept : s'.stopFlag = s.stopFlag) :
    TriedInOrder urls (events ++ [event]) s' := by
  constructor
  · rw [filterMap_snoc, refuses, next]
    exact inv.passes.refuse left
  · intro goes
    have before := inv.losses (kept ▸ goes)
    rw [filterMap_snoc, refuses, next, source_nextEndpoint]
    rw [closed] at before
    simpa [List.countP_append, lossless] using before

theorem TriedInOrder.step {event : SubscriptionEvent} (inv : TriedInOrder urls events s)
    (stepped : step urls s event = some s') : TriedInOrder urls (events ++ [event]) s' := by
  cases step_cases stepped with
  | stop => exact inv.quiet ⟨rfl, rfl⟩ inv.passes (fun goes => by cases goes)
  | other foreign => exact inv.quiet ⟨rfl, rfl⟩ inv.passes fun goes => ⟨goes, rfl⟩
  | drain drains => exact inv.quiet ⟨rfl, rfl⟩ inv.passes fun goes => ⟨goes, rfl⟩
  | start phase =>
    have none_ : untried s.phase = none := by rw [phase]; rfl
    refine inv.quiet ⟨rfl, rfl⟩ ?_ ?_
    · dsimp only
      split
      · exact inv.passes.keep none_.symm (by simp [source])
      · exact inv.passes.start none_
    · intro goes
      refine ⟨goes, ?_⟩
      rw [phase]
      simp only [show s.stopFlag = false from goes, Bool.false_eq_true, if_false]
      exact source_nextEndpoint urls
  | watch phase | idle phase =>
    refine inv.quiet ⟨rfl, rfl⟩ (inv.passes.keep ?_ ?_) ?_
    · rw [phase]
      cases s.stopFlag <;> rfl
    · rw [phase]
      cases s.stopFlag <;> simp [source]
    · intro goes
      refine ⟨goes, ?_⟩
      rw [phase]
      simp [show s.stopFlag = false from goes, source]
  | @leave reconnectRequired phase =>
    have none_ : untried s.phase = none ∧ source s.phase = none := by rw [phase]; exact ⟨rfl, rfl⟩
    have after : untried (if s.stopFlag then .returned
        else if reconnectRequired then .sleeping else .starting) = none ∧
        source (if s.stopFlag then .returned
          else if reconnectRequired then .sleeping else .starting) = none := by
      cases s.stopFlag <;> cases reconnectRequired <;> exact ⟨rfl, rfl⟩
    refine inv.quiet ⟨rfl, rfl⟩ (inv.passes.keep ?_ ?_) fun goes => ⟨goes, ?_⟩
    · rw [none_.1]
      exact after.1
    · simp [after.2]
    · rw [none_.2]
      exact after.2
  | connected phase =>
    refine inv.quiet ⟨rfl, rfl⟩ (inv.passes.keep ?_ ?_) fun goes => ⟨goes, ?_⟩
    · rw [phase]
      rfl
    · simp [source]
    · rw [phase]
      rfl
  | unconnected phase | unsubscribed phase =>
    exact inv.refuse (by rw [phase]; rfl) (by rw [phase]; rfl) rfl rfl rfl rfl
  | @subscribed endpoint rest now phase =>
    have left : untried s.phase = some (endpoint :: rest) := by rw [phase]; rfl
    constructor
    · rw [filterMap_snoc]
      exact inv.passes.take left
    · intro goes
      have before := inv.losses goes
      rw [phase] at before
      rw [filterMap_snoc, List.countP_append, List.countP_append, before]
      simp [attempt, isLoss, source]
  | head phase | bodyless phase | sample phase =>
    refine inv.quiet ⟨rfl, rfl⟩ (inv.passes.keep ?_ ?_) fun goes => ⟨goes, ?_⟩
    · rw [phase]
      rfl
    · rw [phase]
      simp [source]
    · rw [phase]
      rfl
  | ended phase | unfetched phase =>
    have none_ : untried s.phase = none := by rw [phase]; rfl
    have left : InPasses urls (events.filterMap attempt) (.leaving true) :=
      inv.passes.keep none_.symm (by simp [source])
    constructor
    · rw [filterMap_snoc]
      simpa [attempt] using left
    · intro goes
      have before := inv.losses goes
      rw [phase] at before
      rw [filterMap_snoc, List.countP_append, List.countP_append, before]
      simp [attempt, isLoss, source]
  | slept phase =>
    refine inv.quiet ⟨rfl, rfl⟩ (inv.passes.keep ?_ ?_) fun goes => ⟨goes, ?_⟩
    · rw [phase]
      rfl
    · simp [source]
    · rw [phase]
      rfl

theorem triedInOrder_start (urls : List (String × String)) : TriedInOrder urls [] {} :=
  ⟨⟨[], [], none, rfl, .nil, rfl, by simp [source]⟩, fun _ => rfl⟩

/-- However the endpoints answer: they are tried in passes from the first one on, each pass
ends with the first that connects and subscribes, the stream read is that endpoint's, and
only the loss of a stream leads to another pass that takes an endpoint. -/
theorem endpoints_tried_in_order (urls : List (String × String)) (events : List SubscriptionEvent)
    (s : BlockSubscription) (ran : run urls events = some s) : TriedInOrder urls events s := by
  refine Lts.run_invariant (I := TriedInOrder urls) (triedInOrder_start urls) ?_ ran
  exact fun _ _ _ _ before stepped => before.step stepped

theorem endpoints_tried_in_order_failover :
    ∃ s, run [("a", "ws://a"), ("b", "ws://b")] failover = some s ∧
      source s.phase = some ("b", "ws://b") ∧
      TriedInOrder [("a", "ws://a"), ("b", "ws://b")] failover s := by
  have ends : (run [("a", "ws://a"), ("b", "ws://b")] failover).map (source ·.phase) =
      some (some ("b", "ws://b")) := by decide
  obtain ⟨s, ran, open_⟩ := Option.map_eq_some_iff.mp ends
  exact ⟨s, ran, open_, endpoints_tried_in_order _ _ s ran⟩

/-! ## Stopping -/

/-- A step of the loop itself. -/
def isOwn : SubscriptionEvent → Bool
  | .stop | .other _ | .drain _ => false
  | _ => true

/-- How many steps the loop can take before it sees a flag that is set. -/
def stepsLeft : SubscriptionPhase → Nat
  | .returned => 0
  | .starting | .leaving _ => 1
  | .sleeping | .streaming _ => 2
  | .fetching .. => 3
  | .selecting _ => 4
  | .subscribing _ rest => 2 * rest.length + 3
  | .connecting _ rest => 2 * rest.length + 4

/-- How many blocks it can still record then. -/
def samplesLeft : SubscriptionPhase → Nat
  | .selecting _ | .fetching .. => 1
  | _ => 0

theorem stepsLeft_nextEndpoint (rest : List (String × String)) :
    stepsLeft (nextEndpoint rest) ≤ 2 * rest.length + 2 := by
  cases rest <;> simp [nextEndpoint, stepsLeft]
  omega

theorem samplesLeft_nextEndpoint (rest : List (String × String)) :
    samplesLeft (nextEndpoint rest) = 0 := by
  cases rest <;> rfl

theorem stepsLeft_le (inPasses : InPasses urls (events.filterMap attempt) s.phase) :
    stepsLeft s.phase ≤ 2 * urls.length + 4 := by
  obtain ⟨-, current, -, -, -, unfinished, -⟩ := inPasses
  cases at_ : s.phase with
  | connecting endpoint rest | subscribing endpoint rest =>
    rw [at_] at unfinished
    have short := congrArg List.length (show current ++ endpoint :: rest = urls from unfinished)
    rw [List.length_append, List.length_cons] at short
    simp only [stepsLeft]
    omega
  | _ => simp only [stepsLeft]; omega

/-- With the flag set, every step of the loop brings it closer to its end. -/
theorem spend_step {event : SubscriptionEvent} (stopped : s.stopFlag = true)
    (stepped : step urls s event = some s') : s'.stopFlag = true ∧
      stepsLeft s'.phase + (isOwn event).toNat ≤ stepsLeft s.phase ∧
      samplesLeft s'.phase + (event.delivered.isSome).toNat ≤ samplesLeft s.phase := by
  cases step_cases stepped with
  | stop | other | drain => simp [isOwn, SubscriptionEvent.delivered, setData, stopped]
  | start phase | watch phase | leave phase | idle phase =>
    simp [isOwn, SubscriptionEvent.delivered, stopped, phase, stepsLeft, samplesLeft]
  | connected phase | subscribed phase | slept phase | head phase | ended phase | unfetched phase
  | bodyless phase | sample phase =>
    simp [isOwn, SubscriptionEvent.delivered, stopped, phase, stepsLeft, samplesLeft,
      warnWithStatus, setData]
    try omega
  | @unconnected endpoint rest err now phase | @unsubscribed endpoint rest err now phase =>
    have steps := stepsLeft_nextEndpoint rest
    have samples := samplesLeft_nextEndpoint rest
    rw [phase]
    refine ⟨stopped, ?_, ?_⟩
    · show stepsLeft (nextEndpoint rest) + 1 ≤ 2 * rest.length + _
      omega
    · show samplesLeft (nextEndpoint rest) + 0 ≤ 0
      omega

/-- Wherever the loop stands, it waits for an answer that can come. -/
theorem exists_step (running : s.phase ≠ .returned) :
    ∃ event, isOwn event = true ∧ (step urls s event).isSome := by
  cases at_ : s.phase with
  | starting | streaming | leaving => exact ⟨.check, rfl, by simp [step, at_]⟩
  | connecting endpoint rest => exact ⟨.connected endpoint (.ok ()) 0, rfl, by simp [step, at_]⟩
  | subscribing endpoint rest => exact ⟨.subscribed endpoint (.ok ()) 0, rfl, by simp [step, at_]⟩
  | sleeping | selecting => exact ⟨.slept, rfl, by simp [step, at_]⟩
  | fetching endpoint head => exact ⟨.fetched endpoint head (.ok none) 0, rfl, by simp [step, at_]⟩
  | returned => exact absurd at_ running

/-- From the moment the flag is set, in any state of any run: the loop takes a bounded number
of steps, none of which it can be stuck before, and records at most one more block. -/
theorem block_subscription_stops (urls : List (String × String))
    (before after : List SubscriptionEvent) (s s' : BlockSubscription)
    (ran : run urls before = some s) (stopped : s.stopFlag = true)
    (rest : Lts.run (step urls) s after = some s') :
    after.countP isOwn ≤ 2 * urls.length + 4 ∧
      after.countP (·.delivered.isSome) ≤ 1 ∧
      (s'.phase = .returned ∨ ∃ event, isOwn event = true ∧ (step urls s' event).isSome) := by
  have keep := fun s e s' (set_ : s.stopFlag = true) (stepped : step urls s e = some s') =>
    (spend_step set_ stepped).1
  have inOrder : TriedInOrder urls before s := by
    refine Lts.run_invariant (I := TriedInOrder urls) (triedInOrder_start urls) ?_ ran
    exact fun _ _ _ _ kept stepped => kept.step stepped
  rw [List.countP_eq_length_filter, List.countP_eq_length_filter]
  refine ⟨?_, ?_, ?_⟩
  · have steps := (Lts.length_filter_le_of_rank (stepsLeft ·.phase) isOwn keep
      (fun s e s' set_ stepped => (spend_step set_ stepped).2.1) stopped rest).2
    have bound := stepsLeft_le inOrder.passes
    omega
  · have samples := (Lts.length_filter_le_of_rank (samplesLeft ·.phase) (·.delivered.isSome) keep
      (fun s e s' set_ stepped => (spend_step set_ stepped).2.2) stopped rest).2
    have bound : samplesLeft s.phase ≤ 1 := by cases s.phase <;> simp [samplesLeft]
    omega
  · by_cases done : s'.phase = .returned
    · exact .inl done
    · exact .inr (exists_step done)

/-- The flag is set while a block is fetched. -/
def stoppedFetching : List SubscriptionEvent :=
  [.check, .connected ("a", "ws://a") (.ok ()) 0, .subscribed ("a", "ws://a") (.ok ()) 0, .check,
    .next ("a", "ws://a") (some ⟨7, 100⟩) 1, .stop]

/-- That block is still recorded, and the loop returns. -/
theorem block_subscription_stops_fetching :
    ∃ s s', run [("a", "ws://a")] stoppedFetching = some s ∧ Lts.run (step [("a", "ws://a")]) s
        [.fetched ("a", "ws://a") ⟨7, 100⟩ (.ok (some 3)) 2, .check, .check] = some s' ∧
      (s'.phase = .returned ∨
        ∃ event, isOwn event = true ∧ (step [("a", "ws://a")] s' event).isSome) := by
  have begins : (run [("a", "ws://a")] stoppedFetching).map (·.stopFlag) = some true := by decide
  obtain ⟨s, ran, stopped⟩ := Option.map_eq_some_iff.mp begins
  have ends : ((run [("a", "ws://a")] stoppedFetching).bind fun s => Lts.run (step [("a", "ws://a")]) s
      [.fetched ("a", "ws://a") ⟨7, 100⟩ (.ok (some 3)) 2, .check, .check]).isSome = true := by decide
  rw [ran, Option.bind_some, Option.isSome_iff_exists] at ends
  obtain ⟨s', rest⟩ := ends
  exact ⟨s, s', ran, rest, (block_subscription_stops _ _ _ s s' ran stopped rest).2.2⟩

end BlockSubscription

end ChainDash.Collect
