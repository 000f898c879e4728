import ChainDash.Notify.QuietHours

/-!
# The rate limiter over whole runs

Every event that the filter allows consults the rate limiter. The limiter refuses an event
exactly when one of the same key was let through less than the rate limit before
(`LimiterInv.refused`). Letting an event through is not yet sending it: inside quiet hours
the event goes into the buffer and still starts the interval of its key, and
`rate_limit_kept_iff` says when that makes a difference.
-/

namespace ChainDash.Notify
set_option autoImplicit false

/-- An event about which the limiter is asked: in which call, when, and in which state. -/
structure Consulted where
  call : Nat
  request : SendRequest
  minute : Nat
  now : Nat
  state : NotificationState

namespace Consulted

variable (config : TelegramConfig) (consulted : Consulted)

def key : String := consulted.request.rateLimitKey

def letThrough : Bool :=
  (consulted.state.allowDelivery consulted.key consulted.now config.rateLimit).1

/-- The daily summary knows no quiet hours. -/
def inQuietHours : Bool :=
  consulted.request.event ≠ .dailySummary && config.isQuietTimeAt consulted.minute

def decision : SendDecision :=
  (consulted.state.decideSend config.rateLimit consulted.request
    (config.isQuietTimeAt consulted.minute) consulted.now).1

/-- The messages of the event itself, one for each chat. -/
def ownMessages : List Outgoing :=
  sendMessage config (.own consulted.request.event) consulted.request.message

end Consulted

/-- The consultation that a step makes, if it makes one. -/
def consultation (config : TelegramConfig) : World × Event → Option Consulted
  | (world, .decide index minute now) =>
    match world.calls[index]? with
    | some (.deciding request) =>
      if config.enabledEvents.allows request.event then
        some { call := index, request, minute, now, state := world.state }
      else none
    | _ => none
  | _ => none

/-- All consultations of a run, in order. -/
def consultations (config : TelegramConfig) (events : List Event) : List Consulted :=
  (Lts.visited (World.step config) {} events).filterMap (consultation config)

/-- The instants at which decisions are made. -/
def decideTimes (events : List Event) : List Nat :=
  events.filterMap fun
    | .decide _ _ now => some now
    | _ => none

/-! ## One decision -/

theorem Consulted.decision_cases (config : TelegramConfig) (consulted : Consulted) :
    (consulted.letThrough config = false ∧ consulted.decision config = .suppressedByRateLimit) ∨
    (consulted.letThrough config = true ∧ consulted.inQuietHours config = true ∧
      consulted.decision config = .suppressedByQuietHours) ∨
    (consulted.letThrough config = true ∧ consulted.inQuietHours config = false ∧
      ∃ quietSummary, consulted.decision config = .send quietSummary) := by
  unfold letThrough inQuietHours decision NotificationState.decideSend key
  cases consulted.state.allowDelivery consulted.request.rateLimitKey consulted.now
      config.rateLimit with
  | mk answer limited =>
    cases answer with
    | false => exact .inl ⟨rfl, rfl⟩
    | true =>
      refine .inr ?_
      simp only [Bool.not_true, Bool.false_eq_true, if_false]
      by_cases quiet : (consulted.request.event ≠ .dailySummary &&
          config.isQuietTimeAt consulted.minute) = true
      · exact .inl ⟨trivial, quiet, by rw [if_pos quiet]⟩
      · exact .inr ⟨trivial, Bool.eq_false_iff.mpr quiet, _, by rw [if_neg quiet]⟩

namespace Consulted

variable {config : TelegramConfig} (consulted : Consulted)

theorem decision_of_refused (refused : consulted.letThrough config = false) :
    consulted.decision config = .suppressedByRateLimit := by
  rcases consulted.decision_cases config with ⟨-, decided⟩ | ⟨passed, -⟩ | ⟨passed, -⟩
  · exact decided
  · rw [passed] at refused; cases refused
  · rw [passed] at refused; cases refused

theorem of_decision_suppressed (suppressed : consulted.decision config = .suppressedByRateLimit) :
    consulted.letThrough config = false := by
  rcases consulted.decision_cases config with ⟨refused, -⟩ | ⟨-, -, decided⟩ | ⟨-, -, _, decided⟩
  · exact refused
  · rw [suppressed] at decided; cases decided
  · rw [suppressed] at decided; cases decided

theorem decision_of_loud (passed : consulted.letThrough config = true)
    (loud : consulted.inQuietHours config = false) :
    ∃ quietSummary, consulted.decision config = .send quietSummary := by
  rcases consulted.decision_cases config with ⟨refused, -⟩ | ⟨-, quiet, -⟩ | ⟨-, -, sends⟩
  · rw [passed] at refused; cases refused
  · rw [loud] at quiet; cases quiet
  · exact sends

theorem of_decision_send {quietSummary : Option QuietSummarySnapshot}
    (sends : consulted.decision config = .send quietSummary) :
    consulted.letThrough config = true ∧ consulted.inQuietHours config = false := by
  rcases consulted.decision_cases config with ⟨-, decided⟩ | ⟨-, -, decided⟩ | ⟨passed, loud, -⟩
  · rw [sends] at decided; cases decided
  · rw [sends] at decided; cases decided
  · exact ⟨passed, loud⟩

end Consulted

/-- A decision leaves the limiter as consulting it did. -/
theorem NotificationState.decideSend_lastSentAt (state : NotificationState) (rateLimit now : Nat)
    (request : SendRequest) (quietTimeNow : Bool) :
    (state.decideSend rateLimit request quietTimeNow now).2.lastSentAt =
      (state.allowDelivery request.rateLimitKey now rateLimit).2.lastSentAt := by
  unfold decideSend
  cases state.allowDelivery request.rateLimitKey now rateLimit with
  | mk answer limited =>
    dsimp only
    split
    · rfl
    · split <;> rfl

theorem NotifierCall.observe_lastSentAt (templates : TelegramTemplates) (state : NotificationState)
    (call : NotifierCall) : (call.observe templates state).2.lastSentAt = state.lastSentAt := by
  cases call with
  | nodeRankingChange nodeId nodeName ranking =>
    simp only [observe, NotificationState.planRankingChange]
    split <;> rfl
  | _ => rfl

/-- Every step consults the limiter once, or leaves it alone. -/
theorem World.step_limiter {config : TelegramConfig} {world world' : World} {event : Event}
    (h : world.step config event = some world') :
    (consultation config (world, event) = none ∧
      world'.state.lastSentAt = world.state.lastSentAt) ∨
    (∃ consulted, consultation config (world, event) = some consulted ∧
      world.calls[consulted.call]? = some (.deciding consulted.request) ∧
      consulted.state = world.state ∧
      world'.state.lastSentAt = (world.state.allowDelivery consulted.key consulted.now
        config.rateLimit).2.lastSentAt ∧
      world'.calls = world.calls.set consulted.call (.posting consulted.minute
        (outgoing config consulted.request (consulted.decision config))) ∧
      world'.posts = world.posts) := by
  rcases World.step_cases h with ⟨call, state, rfl, seen, rfl⟩ | ⟨call, request, state, rfl, seen, rfl⟩ |
    ⟨index, minute, now, request, rfl, at_, filtered, rfl⟩ |
    ⟨index, minute, now, request, decision, state, rfl, at_, allowed, decided, rfl⟩ |
    ⟨index, minute, decidedAt, out, queue, rfl, at_, rfl⟩
  · refine .inl ⟨rfl, ?_⟩
    have kept := call.observe_lastSentAt config.templates world.state
    rwa [seen] at kept
  · refine .inl ⟨rfl, ?_⟩
    have kept := call.observe_lastSentAt config.templates world.state
    rwa [seen] at kept
  · exact .inl ⟨by simp [consultation, at_, filtered], rfl⟩
  · refine .inr ⟨⟨index, request, minute, now, world.state⟩,
      by simp [consultation, at_, allowed], at_, rfl, ?_, ?_, rfl⟩
    · have limited := world.state.decideSend_lastSentAt config.rateLimit now request
        (config.isQuietTimeAt minute)
      rwa [decided] at limited
    · simp only [Consulted.decision, decided]
  · exact .inl ⟨rfl, rfl⟩

/-! ## The whole run -/

theorem consultations_snoc {config : TelegramConfig} {events : List Event} {world : World}
    (run : World.run config events = some world) (event : Event) :
    consultations config (events ++ [event]) =
      consultations config events ++ (consultation config (world, event)).toList := by
  unfold consultations
  rw [Lts.visited_snoc event run, List.filterMap_append]
  cases made : consultation config (world, event) <;> simp [made]

/-- The consultations of a key that were let through. -/
def through (config : TelegramConfig) (key : String) (log : List Consulted) : List Consulted :=
  log.filter fun consulted => consulted.key = key && consulted.letThrough config

/-- The messages of an event that was sent: each chat's was posted by the call, or is still
in its queue. -/
def Requested (config : TelegramConfig) (world : World) (consulted : Consulted) : Prop :=
  ∃ decidedAt queue, world.calls[consulted.call]? = some (.posting decidedAt queue) ∧
    ∀ out ∈ consulted.ownMessages config,
      (∃ posted ∈ world.posts, posted.call = consulted.call ∧ posted.outgoing = out) ∨ out ∈ queue

/-- What holds after the events of a run, decided at times that do not decrease. -/
structure LimiterInv (config : TelegramConfig) (log : List Consulted) (world : World) : Prop where
  lastSent : ∀ key, world.state.lastSentAt.lookup key =
    (through config key log).getLast?.map (·.now)
  refused : ∀ before consulted after, log = before ++ consulted :: after →
    (consulted.letThrough config = false ↔ ∃ earlier ∈ through config consulted.key before,
      consulted.now < earlier.now + config.rateLimit)
  requested : ∀ consulted ∈ log, consulted.letThrough config = true →
    consulted.inQuietHours config = false → Requested config world consulted

theorem through_snoc (config : TelegramConfig) (key : String) (log : List Consulted)
    (consulted : Consulted) :
    through config key (log ++ [consulted]) = through config key log ++
      if consulted.key = key ∧ consulted.letThrough config = true then [consulted] else [] := by
  unfold through
  rw [List.filter_append]
  by_cases counts : consulted.key = key ∧ consulted.letThrough config = true
  · simp [counts.1, counts.2]
  · rw [if_neg counts, List.filter_cons_of_neg (by simpa using counts)]
    rfl

/-- Consulting the limiter at a time not before the earlier ones. -/
theorem LimiterInv.refuses_iff {config : TelegramConfig} {log : List Consulted} {world : World}
    (inv : LimiterInv config log world) (limited : 0 < config.rateLimit)
    (ordered : log.Pairwise (·.now ≤ ·.now)) {consulted : Consulted}
    (state : consulted.state = world.state) :
    consulted.letThrough config = false ↔
      ∃ earlier ∈ through config consulted.key log, consulted.now < earlier.now + config.rateLimit := by
  unfold Consulted.letThrough
  rw [NotificationState.allowDelivery_refuses_iff, state, inv.lastSent]
  have sorted : (through config consulted.key log).Pairwise (·.now ≤ ·.now) :=
    ordered.sublist List.filter_sublist
  constructor
  · rintro ⟨sent, found, soon, -⟩
    obtain ⟨earlier, last, rfl⟩ := Option.map_eq_some_iff.mp found
    exact ⟨earlier, List.mem_of_getLast? last, soon⟩
  · rintro ⟨earlier, mem, soon⟩
    rcases List.eq_nil_or_concat (through config consulted.key log) with none | ⟨rest, last, split⟩
    · rw [none] at mem
      cases mem
    · rw [split, List.concat_eq_append] at mem sorted
      rw [split, List.concat_eq_append]
      refine ⟨last.now, by simp, ?_, limited⟩
      have notLater : earlier.now ≤ last.now := by
        rcases List.mem_append.mp mem with old | new
        · exact (List.pairwise_append.mp sorted).2.2 earlier old last (by simp)
        · rw [List.mem_singleton.mp new]
      omega

/-- A step that does not consult the limiter. -/
theorem LimiterInv.idle {config : TelegramConfig} {log : List Consulted} {world world' : World}
    (inv : LimiterInv config log world) (kept : world'.state.lastSentAt = world.state.lastSentAt)
    (requested : ∀ consulted, Requested config world consulted → Requested config world' consulted) :
    LimiterInv config log world' := by
  constructor
  · intro key
    rw [kept, inv.lastSent]
  · exact inv.refused
  · intro consulted mem passed loud
    exact requested consulted (inv.requested consulted mem passed loud)

/-- What was requested stays requested: a post moves the first message of one queue. -/
theorem Requested.step {config : TelegramConfig} {world world' : World} {event : Event}
    (h : world.step config event = some world') {consulted : Consulted}
    (requested : Requested config world consulted) : Requested config world' consulted := by
  obtain ⟨decidedAt, queue, found, rest⟩ := requested
  have bound := (List.getElem?_eq_some_iff.mp found).1
  have elsewhere : ∀ index call, world.calls[index]? = some (.deciding call) →
      index ≠ consulted.call := by
    rintro index call at_ rfl
    rw [at_] at found
    cases found
  rcases World.step_cases h with ⟨_, _, -, -, rfl⟩ | ⟨_, _, _, -, -, rfl⟩ |
    ⟨index, minute, _, request, -, at_, -, rfl⟩ | ⟨index, minute, _, request, _, _, -, at_, -, -, rfl⟩ |
    ⟨index, minute, decidedAt', out, queue', -, at_, rfl⟩
  · exact ⟨decidedAt, queue, found, rest⟩
  · exact ⟨decidedAt, queue, (List.getElem?_append_left bound).trans found, rest⟩
  · refine ⟨decidedAt, queue, ?_, rest⟩
    rw [List.getElem?_set_ne (elsewhere index request at_)]
    exact found
  · refine ⟨decidedAt, queue, ?_, rest⟩
    rw [List.getElem?_set_ne (elsewhere index request at_)]
    exact found
  · by_cases same : index = consulted.call
    · subst same
      rw [at_] at found
      cases found
      refine ⟨decidedAt, queue', List.getElem?_set_self bound, ?_⟩
      intro own mem
      rcases rest own mem with ⟨posted, before, facts⟩ | inside
      · exact .inl ⟨posted, List.mem_append_left _ before, facts⟩
      · rcases List.mem_cons.mp inside with rfl | later
        · exact .inl ⟨⟨consulted.call, decidedAt, minute, own⟩, by simp, rfl, rfl⟩
        · exact .inr later
    · refine ⟨decidedAt, queue, ?_, ?_⟩
      · rw [List.getElem?_set_ne same]
        exact found
      · intro own mem
        rcases rest own mem with ⟨posted, before, facts⟩ | inside
        · exact .inl ⟨posted, List.mem_append_left _ before, facts⟩
        · exact .inr inside

/-- A step that consults the limiter. -/
theorem LimiterInv.consult {config : TelegramConfig} {log : List Consulted} {world world' : World}
    (inv : LimiterInv config log world) (limited : 0 < config.rateLimit)
    (ordered : log.Pairwise (·.now ≤ ·.now)) {consulted : Consulted}
    (state : consulted.state = world.state)
    (at_ : world.calls[consulted.call]? = some (.deciding consulted.request))
    (lastSent : world'.state.lastSentAt = (world.state.allowDelivery consulted.key consulted.now
      config.rateLimit).2.lastSentAt)
    (calls : world'.calls = world.calls.set consulted.call (.posting consulted.minute
      (outgoing config consulted.request (consulted.decision config))))
    (requested : ∀ consulted, Requested config world consulted → Requested config world' consulted) :
    LimiterInv config (log ++ [consulted]) world' := by
  constructor
  · intro key
    have passes : (world.state.allowDelivery consulted.key consulted.now config.rateLimit).1 =
        consulted.letThrough config := by rw [Consulted.letThrough, state]
    rw [lastSent, NotificationState.allowDelivery_lastSentAt, passes, inv.lastSent, through_snoc]
    by_cases counts : consulted.key = key ∧ consulted.letThrough config = true
    · rw [if_pos counts, if_pos ⟨counts.1.symm, limited.ne', counts.2⟩]
      simp
    · rw [if_neg counts, if_neg fun passed => counts ⟨passed.1.symm, passed.2.2⟩, List.append_nil]
  · intro before c after split
    rcases Lts.snoc_eq_append_cons split with ⟨rfl, rfl, -⟩ | ⟨after', -, older⟩
    · exact inv.refuses_iff limited ordered state
    · exact inv.refused before c after' older
  · intro c mem passed loud
    rcases List.mem_append.mp mem with old | new
    · exact requested c (inv.requested c old passed loud)
    · obtain rfl := List.mem_singleton.mp new
      have bound := (List.getElem?_eq_some_iff.mp at_).1
      refine ⟨c.minute, _, by rw [calls, List.getElem?_set_self bound], fun out own => .inr ?_⟩
      rcases c.decision_cases config with ⟨refused, -⟩ | ⟨-, quiet, -⟩ | ⟨-, -, summary, sent⟩
      · rw [passed] at refused
        cases refused
      · rw [loud] at quiet
        cases quiet
      · rw [sent]
        exact List.mem_append_right _ own

theorem limiterInv_init (config : TelegramConfig) : LimiterInv config [] {} := by
  constructor
  · intro key
    rfl
  · intro before consulted after split
    simp at split
  · intro consulted mem
    cases mem

theorem filterMap_cons_toList {α β : Type} (f : α → Option β) (a : α) (l : List α) :
    (a :: l).filterMap f = (f a).toList ++ l.filterMap f := by
  cases made : f a <;> simp [made]

/-- Consultations happen at decisions. -/
theorem consultations_sublist (config : TelegramConfig) (events : List Event) (world : World) :
    (((Lts.visited (World.step config) world events).filterMap (consultation config)).map
      (·.now)).Sublist (decideTimes events) := by
  induction events generalizing world with
  | nil => exact List.Sublist.refl _
  | cons event events ih =>
    have head : ((consultation config (world, event)).toList.map (·.now)).Sublist
        (decideTimes [event]) := by
      cases event with
      | decide index minute now =>
        simp only [consultation]
        split
        · split
          · exact List.Sublist.refl _
          · exact List.nil_sublist _
        · exact List.nil_sublist _
      | observe call => exact List.nil_sublist _
      | post index minute => exact List.nil_sublist _
    have tail : ((((world.step config event).map fun next =>
        Lts.visited (World.step config) next events).getD []).filterMap
          (consultation config)).map (·.now) |>.Sublist (decideTimes events) := by
      cases world.step config event with
      | none => exact List.nil_sublist _
      | some next => exact ih next
    rw [show decideTimes (event :: events) = decideTimes [event] ++ decideTimes events from
      List.filterMap_append (l := [event]), Lts.visited, filterMap_cons_toList, List.map_append]
    exact head.append tail

theorem limiterInv_of_run {config : TelegramConfig} {events : List Event} {world : World}
    (limited : 0 < config.rateLimit) (run : World.run config events = some world)
    (ordered : (consultations config events).Pairwise (·.now ≤ ·.now)) :
    LimiterInv config (consultations config events) world := by
  induction events using List.reverseRecOn generalizing world with
  | nil =>
    cases run
    exact limiterInv_init config
  | append_singleton events event ih =>
    obtain ⟨before, run', stepped⟩ := Lts.run_snoc_split run
    rw [consultations_snoc run'] at ordered ⊢
    have ordered' := (List.pairwise_append.mp ordered).1
    have inv := ih run' ordered'
    rcases World.step_limiter stepped with ⟨none, kept⟩ |
      ⟨consulted, made, at_, state, lastSent, calls, -⟩
    · rw [none, Option.toList_none, List.append_nil]
      exact inv.idle kept fun _ requested => requested.step stepped
    · rw [made, Option.toList_some]
      exact inv.consult limited ordered' state at_ lastSent calls
        fun _ requested => requested.step stepped

/-- Whatever the limiter refuses, it refuses on account of a message of the same key that
was sent less than the rate limit before. -/
def RateLimitKept (config : TelegramConfig) (log : List Consulted) (world : World) : Prop :=
  ∀ before consulted after, log = before ++ consulted :: after →
    consulted.decision config = .suppressedByRateLimit →
      ∃ sent ∈ before, sent.key = consulted.key ∧ consulted.now < sent.now + config.rateLimit ∧
        (∃ quietSummary, sent.decision config = .send quietSummary) ∧ Requested config world sent

/-- No event comes less than the rate limit after one of the same key that the limiter let
through inside quiet hours. -/
def BufferedApart (config : TelegramConfig) (log : List Consulted) : Prop :=
  log.Pairwise fun earlier consulted => earlier.key = consulted.key →
    earlier.letThrough config = true → earlier.inQuietHours config = true →
      earlier.now + config.rateLimit ≤ consulted.now

theorem mem_through {config : TelegramConfig} {key : String} {log : List Consulted}
    {consulted : Consulted} : consulted ∈ through config key log ↔
      consulted ∈ log ∧ consulted.key = key ∧ consulted.letThrough config = true := by
  simp [through]

/-- Two events of one key, both let through, are the rate limit apart. -/
def Apart (config : TelegramConfig) (a b : Consulted) : Prop :=
  a.key = b.key → a.letThrough config = true → b.letThrough config = true →
    a.now + config.rateLimit ≤ b.now ∨ b.now + config.rateLimit ≤ a.now

instance (config : TelegramConfig) : Std.Symm (Apart config) where
  symm _ _ apart key passed passed' := (apart key.symm passed' passed).symm

theorem LimiterInv.apart {config : TelegramConfig} {log : List Consulted} {world : World}
    (inv : LimiterInv config log world) : log.Pairwise (Apart config) := by
  refine Lts.pairwise_of_splits fun before b after split a mem key passedA passedB => .inl ?_
  by_contra soon
  have refused := (inv.refused before b after split).mpr
    ⟨a, mem_through.mpr ⟨mem, key, passedA⟩, by omega⟩
  rw [passedB] at refused
  cases refused

/-- In every run with decisions at times that do not decrease, the rate limiter refuses
events only on account of messages that were sent, if and only if no event follows too
soon on one that went into the quiet-hours buffer. -/
theorem rate_limit_kept_iff {config : TelegramConfig} {events : List Event} {world : World}
    (limited : 0 < config.rateLimit) (ordered : (decideTimes events).Pairwise (· ≤ ·))
    (run : World.run config events = some world) :
    RateLimitKept config (consultations config events) world ↔
      BufferedApart config (consultations config events) := by
  have sorted : (consultations config events).Pairwise (·.now ≤ ·.now) :=
    List.pairwise_map.mp (ordered.sublist (consultations_sublist config events {}))
  have inv := limiterInv_of_run limited run sorted
  constructor
  · intro kept
    refine Lts.pairwise_of_splits fun before c after split b mem key passed quiet => ?_
    by_contra soon
    have refused := (inv.refused before c after split).mpr
      ⟨b, mem_through.mpr ⟨mem, key, passed⟩, by omega⟩
    obtain ⟨sent, memSent, keySent, recent, ⟨summary, sends⟩, -⟩ :=
      kept before c after split (c.decision_of_refused refused)
    obtain ⟨passedSent, loud⟩ := sent.of_decision_send sends
    have inLog : ∀ x ∈ before, x ∈ consultations config events := by
      intro x inside
      rw [split]
      exact List.mem_append_left _ inside
    have different : b ≠ sent := by
      rintro rfl
      rw [loud] at quiet
      cases quiet
    -- one of the two was let through a whole rate limit after the other
    have later := (List.pairwise_append.mp (split ▸ sorted)).2.2
    have bLater := later b mem c (List.mem_cons_self ..)
    have sentLater := later sent memSent c (List.mem_cons_self ..)
    have spaced := inv.apart.forall (inLog b mem) (inLog sent memSent) different
      (key.trans keySent.symm) passed passedSent
    omega
  · intro spaced before c after split suppressed
    obtain ⟨earlier, mem, soon⟩ :=
      (inv.refused before c after split).mp (c.of_decision_suppressed suppressed)
    obtain ⟨inside, key, passed⟩ := mem_through.mp mem
    have memLog : earlier ∈ consultations config events := by
      rw [split]
      exact List.mem_append_left _ inside
    have loud : earlier.inQuietHours config = false := by
      by_contra quiet
      have waited : BufferedApart config (before ++ c :: after) := split ▸ spaced
      have longAgo := (List.pairwise_append.mp waited).2.2 earlier inside c
        (List.mem_cons_self ..) key passed (by simpa using quiet)
      omega
    refine ⟨earlier, inside, key, soon, ?_, inv.requested earlier memLog passed loud⟩
    exact earlier.decision_of_loud passed loud

/-- `nightConfig` with a rate limit of a minute. -/
def minuteConfig : TelegramConfig := { nightConfig with rateLimit := 60 * 10 ^ 9 }

/-- A connection that fails, recovers and fails again ten seconds later, the failures
decided at the given times of day. -/
def flap (first again : Nat) : List Event :=
  [.observe (.nodeConnectionFailed "main" "wss://rpc-a" "timeout"), .decide 0 first 0,
    .observe (.nodeConnectionRecovered "main" "wss://rpc-a"),
    .observe (.nodeConnectionFailed "main" "wss://rpc-a" "timeout"), .decide 2 again (10 * 10 ^ 9)]

instance (config : TelegramConfig) (log : List Consulted) : Decidable (BufferedApart config log) := by
  unfold BufferedApart
  infer_instance

/-- By day the second failure is refused, and the first was sent. -/
theorem rate_limit_kept_iff_day : ∃ world, World.run minuteConfig (flap 600 600) = some world ∧
    RateLimitKept minuteConfig (consultations minuteConfig (flap 600 600)) world := by
  have runs : (World.run minuteConfig (flap 600 600)).isSome := by decide
  obtain ⟨world, run⟩ := Option.isSome_iff_exists.mp runs
  exact ⟨world, run, (rate_limit_kept_iff (by decide) (by decide) run).mpr (by decide)⟩

/-- The first failure at 06:59 goes into the quiet-hours buffer, and the second, at 07:00,
is refused although nothing was sent. -/
theorem buffered_event_starts_rate_limit : ∃ world,
    World.run minuteConfig (flap 419 420) = some world ∧ world.posts.length = 0 ∧
    ¬ RateLimitKept minuteConfig (consultations minuteConfig (flap 419 420)) world := by
  have runs : (World.run minuteConfig (flap 419 420)).map (·.posts.length) = some 0 := by decide
  obtain ⟨world, run, unsent⟩ := Option.map_eq_some_iff.mp runs
  refine ⟨world, run, unsent, ?_⟩
  intro kept
  have decided : (consultations minuteConfig (flap 419 420)).map (·.decision minuteConfig) =
      [.suppressedByQuietHours, .suppressedByRateLimit] := by decide
  obtain ⟨first, rest, split, buffered, refused⟩ := List.map_eq_cons_iff.mp decided
  obtain ⟨again, none, rfl, refused, -⟩ := List.map_eq_cons_iff.mp refused
  obtain ⟨sent, mem, -, -, ⟨summary, sends⟩, -⟩ := kept [first] again none split refused
  rw [List.mem_singleton.mp mem, buffered] at sends
  cases sends

end ChainDash.Notify
