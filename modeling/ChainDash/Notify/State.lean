import ChainDash.Lib.Dictionary
import ChainDash.Notify.QuietSummary

/-!
# The notifier's state under its mutex

`NotificationState` and its operations: the edge detectors for connections and
rankings, the rate limiter and the quiet-hours buffer. Each operation returns its
answer and the state after it. Instants and durations are nanoseconds.
-/

namespace ChainDash.Notify
set_option autoImplicit false

inductive ConnectionState where
  | healthy
  | unhealthy
  deriving DecidableEq, Repr

structure RankingChange where
  previous : Int
  current : Int
  deriving DecidableEq

structure NotificationState where
  connectionStates : Dictionary String ConnectionState := ∅
  lastRankings : Dictionary String Int := ∅
  lastSentAt : Dictionary String Nat := ∅
  quietSummary : QuietSummaryBuffer := {}

namespace NotificationState

def markConnectionFailed (state : NotificationState) (key : String) : Bool × NotificationState :=
  (state.connectionStates.lookup key ≠ some .unhealthy,
    { state with connectionStates := state.connectionStates.insert key .unhealthy })

def markConnectionRecovered (state : NotificationState) (key : String) : Bool × NotificationState :=
  (state.connectionStates.lookup key = some .unhealthy,
    { state with connectionStates := state.connectionStates.insert key .healthy })

/-- An unknown rank leaves the last known one in place. -/
def planRankingChange (state : NotificationState) (nodeId : String) (ranking : Int) :
    Option RankingChange × NotificationState :=
  if ranking ≤ 0 then (none, state)
  else
    let change := match (state.lastRankings.lookup nodeId).filter (0 < ·) with
      | none => none
      | some previous => if previous = ranking then none else some { previous, current := ranking }
    (change, { state with lastRankings := state.lastRankings.insert nodeId ranking })

/-- `now - lastSentAt` is truncated, as `saturating_duration_since` is. -/
def allowDelivery (state : NotificationState) (rateLimitKey : String) (now rateLimit : Nat) :
    Bool × NotificationState :=
  if rateLimit = 0 then (true, state)
  else if (state.lastSentAt.lookup rateLimitKey).any (now - · < rateLimit) then (false, state)
  else (true, { state with lastSentAt := state.lastSentAt.insert rateLimitKey now })

def recordQuietSummary (state : NotificationState) (event : NotificationEventKind)
    (subject : String) : NotificationState :=
  { state with quietSummary := state.quietSummary.record event subject }

def takeQuietSummarySnapshot (state : NotificationState) :
    Option QuietSummarySnapshot × NotificationState :=
  let (snapshot, quietSummary) := state.quietSummary.takeSnapshot
  (snapshot, { state with quietSummary })

/-! ## What each operation leaves alone -/

variable (state : NotificationState) (key subject : String) (event : NotificationEventKind)
variable (now rateLimit : Nat)

@[simp] theorem markConnectionFailed_lastSentAt :
    (state.markConnectionFailed key).2.lastSentAt = state.lastSentAt := rfl

@[simp] theorem markConnectionFailed_quietSummary :
    (state.markConnectionFailed key).2.quietSummary = state.quietSummary := rfl

@[simp] theorem markConnectionRecovered_lastSentAt :
    (state.markConnectionRecovered key).2.lastSentAt = state.lastSentAt := rfl

@[simp] theorem markConnectionRecovered_quietSummary :
    (state.markConnectionRecovered key).2.quietSummary = state.quietSummary := rfl

@[simp] theorem planRankingChange_quietSummary (ranking : Int) :
    (state.planRankingChange key ranking).2.quietSummary = state.quietSummary := by
  unfold planRankingChange
  split <;> rfl

@[simp] theorem allowDelivery_connectionStates :
    (state.allowDelivery key now rateLimit).2.connectionStates = state.connectionStates := by
  unfold allowDelivery
  split
  · rfl
  · split <;> rfl

@[simp] theorem allowDelivery_quietSummary :
    (state.allowDelivery key now rateLimit).2.quietSummary = state.quietSummary := by
  unfold allowDelivery
  split
  · rfl
  · split <;> rfl

@[simp] theorem takeQuietSummarySnapshot_connectionStates :
    state.takeQuietSummarySnapshot.2.connectionStates = state.connectionStates := rfl

@[simp] theorem takeQuietSummarySnapshot_lastSentAt :
    state.takeQuietSummarySnapshot.2.lastSentAt = state.lastSentAt := rfl

@[simp] theorem recordQuietSummary_connectionStates :
    (state.recordQuietSummary event subject).connectionStates = state.connectionStates := rfl

@[simp] theorem recordQuietSummary_lastSentAt :
    (state.recordQuietSummary event subject).lastSentAt = state.lastSentAt := rfl

/-! ## The rate limiter -/

/-- A delivery is refused on account of a delivery of the same key, less than the rate
limit ago. -/
theorem allowDelivery_refuses_iff :
    (state.allowDelivery key now rateLimit).1 = false ↔
      ∃ sent, state.lastSentAt.lookup key = some sent ∧ now < sent + rateLimit ∧ 0 < rateLimit := by
  unfold allowDelivery
  by_cases zero : rateLimit = 0
  · simp [zero]
  · have recent (sent : Nat) : now - sent < rateLimit ↔ now < sent + rateLimit := by omega
    cases found : state.lastSentAt.lookup key with
    | none => simp [zero]
    | some sent =>
      by_cases soon : now < sent + rateLimit
      · simp [zero, recent, soon, Nat.pos_of_ne_zero zero]
      · simp [zero, recent, soon]

/-- The limiter reads the send times only. -/
theorem allowDelivery_congr {state state' : NotificationState}
    (same : state'.lastSentAt = state.lastSentAt) :
    (state'.allowDelivery key now rateLimit).1 = (state.allowDelivery key now rateLimit).1 := by
  unfold allowDelivery
  rw [same]
  split
  · rfl
  · split <;> rfl

/-- The limiter remembers the time of an allowed delivery, and nothing else changes. -/
theorem allowDelivery_lastSentAt (key' : String) :
    (state.allowDelivery key now rateLimit).2.lastSentAt.lookup key' =
      if key' = key ∧ rateLimit ≠ 0 ∧ (state.allowDelivery key now rateLimit).1 then some now
      else state.lastSentAt.lookup key' := by
  unfold allowDelivery
  by_cases zero : rateLimit = 0
  · simp [zero]
  · by_cases recent : (state.lastSentAt.lookup key).any (now - · < rateLimit)
    · simp [zero, recent]
    · simp [zero, recent, Dictionary.lookup_insert_eq]

end NotificationState

end ChainDash.Notify
