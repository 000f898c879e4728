import ChainDash.Notify.Notifier

/-!
# Quiet hours over whole runs

What is posted inside the quiet window. `OrderInv` holds in every run: a call posts the
buffered summary before its own message. `LoudInv` needs runs whose steps are `calm`: a
daily summary that is delivered inside the window takes the quiet-hours buffer with it,
and a request posted after its decision may find the window entered.
-/

namespace ChainDash.Notify
set_option autoImplicit false

/-- The buffered summary does not come after a message of another kind. -/
def SummaryFirst (a b : Outgoing) : Prop := b.content = .quietSummary → a.content = .quietSummary

theorem outgoing_ordered (config : TelegramConfig) (request : SendRequest) (decision : SendDecision) :
    (outgoing config request decision).Pairwise SummaryFirst := by
  have own : (sendMessage config (.own request.event) request.message).Pairwise SummaryFirst := by
    unfold sendMessage
    rw [List.pairwise_map]
    apply List.pairwise_of_forall
    intro _ _ summary
    cases summary
  cases decision with
  | suppressedByRateLimit => exact .nil
  | suppressedByQuietHours => exact .nil
  | send quietSummary =>
    cases quietSummary with
    | none => simpa [outgoing] using own
    | some summary =>
      unfold outgoing
      refine List.pairwise_append.mpr ⟨?_, own, ?_⟩
      · unfold sendMessage
        rw [List.pairwise_map]
        apply List.pairwise_of_forall
        intro _ _ _
        rfl
      · intro a memA b _ _
        obtain ⟨_, -, rfl⟩ := List.mem_map.mp memA
        rfl

/-- A call that posts after an entry was replaced by a posting one is that call, or it
posted before. -/
theorem posting_of_set {calls : List Call} {index call at_ decidedAt : Nat}
    {queue queue' : List Outgoing}
    (found : (calls.set index (.posting at_ queue))[call]? = some (.posting decidedAt queue')) :
    (decidedAt = at_ ∧ queue' = queue) ∨ calls[call]? = some (.posting decidedAt queue') := by
  rw [List.getElem?_set] at found
  split at found
  · split at found
    · cases found
      exact .inl ⟨rfl, rfl⟩
    · cases found
  · exact .inr found

/-- A new call posts nothing. -/
theorem posting_of_append {calls : List Call} {request : SendRequest} {call decidedAt : Nat}
    {queue : List Outgoing}
    (found : (calls ++ [.deciding request])[call]? = some (.posting decidedAt queue)) :
    calls[call]? = some (.posting decidedAt queue) := by
  rw [List.getElem?_append] at found
  split at found
  · exact found
  · simp [List.getElem?_singleton] at found

/-- The requests of one call are posted in order, the buffered summary first. -/
structure OrderInv (world : World) : Prop where
  queued : ∀ (call : Nat) decidedAt queue, world.calls[call]? = some (Call.posting decidedAt queue) →
    queue.Pairwise SummaryFirst
  owner : ∀ posted ∈ world.posts, ∃ queue,
    world.calls[posted.call]? = some (Call.posting posted.decidedAt queue) ∧
    ∀ out ∈ queue, SummaryFirst posted.outgoing out
  posts : world.posts.Pairwise fun a b => a.call = b.call → SummaryFirst a.outgoing b.outgoing

/-- Replacing a call that has posted nothing yet by one with an ordered queue. -/
theorem OrderInv.decide {world : World} {index minute : Nat} {request : SendRequest}
    {queue : List Outgoing} (inv : OrderInv world)
    (at_ : world.calls[index]? = some (Call.deciding request)) (ordered : queue.Pairwise SummaryFirst)
    (state : NotificationState) (decisions : List Decided) :
    OrderInv { world with state, decisions, calls := world.calls.set index (.posting minute queue) } := by
  refine ⟨?_, ?_, inv.posts⟩
  · intro call decidedAt queue' found
    rcases posting_of_set found with ⟨-, rfl⟩ | old
    · exact ordered
    · exact inv.queued call decidedAt queue' old
  · intro posted mem
    obtain ⟨queue', found, rest⟩ := inv.owner posted mem
    refine ⟨queue', ?_, rest⟩
    rw [List.getElem?_set_ne]
    · exact found
    · rintro rfl
      rw [at_] at found
      cases found

theorem OrderInv.step {config : TelegramConfig} {world world' : World} {event : Event}
    (inv : OrderInv world) (h : world.step config event = some world') : OrderInv world' := by
  rcases World.step_cases h with ⟨call, state, -, -, rfl⟩ | ⟨call, request, state, -, -, rfl⟩ |
    ⟨index, minute, _, _, -, at_, -, rfl⟩ | ⟨index, minute, _, request, decision, _, -, at_, -, -, rfl⟩ |
    ⟨index, minute, decidedAt, out, queue, -, at_, rfl⟩
  · exact ⟨inv.queued, inv.owner, inv.posts⟩
  · refine ⟨?_, ?_, inv.posts⟩
    · intro call decidedAt queue found
      exact inv.queued call decidedAt queue (posting_of_append found)
    · intro posted mem
      obtain ⟨queue, found, rest⟩ := inv.owner posted mem
      have bound := (List.getElem?_eq_some_iff.mp found).1
      exact ⟨queue, (List.getElem?_append_left bound).trans found, rest⟩
  · exact inv.decide at_ .nil _ _
  · exact inv.decide at_ (outgoing_ordered config request decision) _ _
  · obtain ⟨head, tail⟩ := List.pairwise_cons.mp (inv.queued index decidedAt _ at_)
    have bound := (List.getElem?_eq_some_iff.mp at_).1
    refine ⟨?_, ?_, ?_⟩
    · intro call decidedAt' queue' found
      rcases posting_of_set found with ⟨-, rfl⟩ | old
      · exact tail
      · exact inv.queued call decidedAt' queue' old
    · intro posted mem
      rcases List.mem_append.mp mem with old | new
      · obtain ⟨queue', found, rest⟩ := inv.owner posted old
        by_cases same : index = posted.call
        · rw [← same, at_] at found
          cases found
          refine ⟨queue, ?_, fun o inside => rest o (List.mem_cons_of_mem _ inside)⟩
          rw [← same, List.getElem?_set_self bound]
        · exact ⟨queue', by rw [List.getElem?_set_ne same]; exact found, rest⟩
      · obtain rfl := List.mem_singleton.mp new
        exact ⟨queue, List.getElem?_set_self bound, head⟩
    · refine List.pairwise_append.mpr ⟨inv.posts, List.pairwise_singleton _ _, ?_⟩
      intro posted mem last memLast same
      obtain rfl := List.mem_singleton.mp memLast
      obtain ⟨queue', found, rest⟩ := inv.owner posted mem
      rw [same, at_] at found
      cases found
      exact rest out (List.mem_cons_self ..)

/-- The condition on a step under which quiet hours are kept: a daily summary delivered
inside the window finds the quiet-hours buffer empty, and the window is not entered
between a decision and a post that follows it, unless what is posted is a daily summary. -/
def calm (config : TelegramConfig) (world : World) : Event → Bool
  | .observe _ => true
  | .decide index minute now =>
    match world.calls[index]? with
    | some (.deciding request) =>
      let delivered := config.enabledEvents.allows request.event &&
        (world.state.allowDelivery request.rateLimitKey now config.rateLimit).1
      !(delivered && request.event = .dailySummary && config.isQuietTimeAt minute) ||
        world.state.quietSummary.totalCount = 0
    | _ => true
  | .post index minute =>
    match world.calls[index]? with
    | some (.posting decidedAt (out :: _)) =>
      !config.isQuietTimeAt minute || config.isQuietTimeAt decidedAt ||
        out.content = .own .dailySummary
    | _ => true

/-- What is not a daily summary was decided, and posted, outside the window. -/
structure LoudInv (config : TelegramConfig) (world : World) : Prop where
  queued : ∀ (call : Nat) decidedAt queue, world.calls[call]? = some (Call.posting decidedAt queue) →
    ∀ out ∈ queue, out.content ≠ .own .dailySummary → config.isQuietTimeAt decidedAt = false
  posts : ∀ posted ∈ world.posts, posted.outgoing.content ≠ .own .dailySummary →
    config.isQuietTimeAt posted.minute = false ∧ config.isQuietTimeAt posted.decidedAt = false

/-- Inside the window a decision that meets the condition sends only daily summaries. -/
theorem outgoing_loud {config : TelegramConfig} {world : World} {state : NotificationState}
    {request : SendRequest} {decision : SendDecision} {index minute now : Nat}
    (isCalm : calm config world (.decide index minute now) = true)
    (at_ : world.calls[index]? = some (Call.deciding request))
    (allowed : config.enabledEvents.allows request.event = true)
    (decided : world.state.decideSend config.rateLimit request (config.isQuietTimeAt minute) now =
      (decision, state)) :
    ∀ out ∈ outgoing config request decision, out.content ≠ .own .dailySummary →
      config.isQuietTimeAt minute = false := by
  intro out mem notDaily
  rcases NotificationState.decideSend_cases decided with
    ⟨rfl, -⟩ | ⟨rfl, -⟩ | ⟨rfl, daily | loud, delivered, -⟩
  · cases mem
  · cases mem
  · by_contra quiet
    have empty : world.state.quietSummary.totalCount = 0 := by
      rw [daily] at allowed
      simpa [calm, at_, allowed, daily, delivered, quiet] using isCalm
    have none : world.state.quietSummary.takeSnapshot.1 = none := by
      simp [QuietSummaryBuffer.takeSnapshot, QuietSummaryBuffer.renderSnapshot, empty]
    rw [none] at mem
    obtain ⟨_, -, rfl⟩ := List.mem_map.mp mem
    exact notDaily (congrArg Content.own daily)
  · exact loud

/-- Replacing a call by one whose queue was decided outside the window, daily summaries apart. -/
theorem LoudInv.decide {config : TelegramConfig} {world : World} {minute : Nat}
    {queue : List Outgoing} (inv : LoudInv config world)
    (loud : ∀ out ∈ queue, out.content ≠ .own .dailySummary → config.isQuietTimeAt minute = false)
    (index : Nat) (state : NotificationState) (decisions : List Decided) :
    LoudInv config
      { world with state, decisions, calls := world.calls.set index (.posting minute queue) } := by
  constructor
  · intro call decidedAt queue' found
    rcases posting_of_set found with ⟨rfl, rfl⟩ | old
    · exact loud
    · exact inv.queued call decidedAt queue' old
  · exact inv.posts

theorem LoudInv.step {config : TelegramConfig} {world world' : World} {event : Event}
    (inv : LoudInv config world) (isCalm : calm config world event = true)
    (h : world.step config event = some world') : LoudInv config world' := by
  rcases World.step_cases h with ⟨call, state, -, -, rfl⟩ | ⟨call, request, state, -, -, rfl⟩ |
    ⟨index, minute, now, _, -, at_, -, rfl⟩ |
    ⟨index, minute, now, request, decision, state, rfl, at_, allowed, decided, rfl⟩ |
    ⟨index, minute, decidedAt, out, queue, rfl, at_, rfl⟩
  · exact ⟨inv.queued, inv.posts⟩
  · constructor
    · intro call decidedAt queue found
      exact inv.queued call decidedAt queue (posting_of_append found)
    · exact inv.posts
  · apply inv.decide
    intro out mem
    exact absurd mem List.not_mem_nil
  · exact inv.decide (outgoing_loud isCalm at_ allowed decided) _ _ _
  · constructor
    · intro call decidedAt' queue' found o inside
      rcases posting_of_set found with ⟨rfl, rfl⟩ | old
      · exact inv.queued index _ _ at_ o (List.mem_cons_of_mem _ inside)
      · exact inv.queued call decidedAt' queue' old o inside
    · intro posted mem notDaily
      rcases List.mem_append.mp mem with old | new
      · exact inv.posts posted old notDaily
      · obtain rfl := List.mem_singleton.mp new
        have loud := inv.queued index decidedAt _ at_ out (List.mem_cons_self ..) notDaily
        constructor
        · simpa [calm, at_, loud, notDaily] using isCalm
        · exact loud

/-- Quiet hours are kept by the posts of a run. -/
structure QuietHoursKept (config : TelegramConfig) (posts : List Posted) : Prop where
  dailyOnly : ∀ posted ∈ posts, config.isQuietTimeAt posted.minute = true →
    posted.outgoing.content = .own .dailySummary
  summaryLoud : ∀ posted ∈ posts, posted.outgoing.content = .quietSummary →
    config.isQuietTimeAt posted.decidedAt = false
  summaryFirst : posts.Pairwise fun a b => a.call = b.call → SummaryFirst a.outgoing b.outgoing

/-- In every run whose steps meet the condition, nothing but daily summaries is posted
inside the window, and the buffered summary only by a delivery decided outside it and
before that delivery's own message. -/
theorem quiet_hours_kept {config : TelegramConfig} {events : List Event} {world : World}
    (run : World.run config events = some world)
    (allCalm : ∀ visit ∈ Lts.visited (World.step config) {} events, calm config visit.1 visit.2) :
    QuietHoursKept config world.posts := by
  have ordered : OrderInv world :=
    Lts.run_invariant (I := fun _ world => OrderInv world)
      ⟨by simp, by simp, .nil⟩ (fun _ _ _ _ inv stepped => inv.step stepped) run
  have loud : LoudInv config world :=
    Lts.run_invariant_of (I := fun _ world => LoudInv config world) ⟨by simp, by simp⟩
      (fun _ _ _ _ inv ok stepped => inv.step ok stepped) run allCalm
  refine ⟨?_, ?_, ordered.posts⟩
  · intro posted mem quiet
    by_contra notDaily
    rw [(loud.posts posted mem notDaily).1] at quiet
    cases quiet
  · intro posted mem summary
    exact (loud.posts posted mem (by simp [summary])).2

/-- A failure buffered at 23:20, and a daily summary at 08:00. -/
theorem quiet_hours_kept_overnight : ∃ world,
    World.run nightConfig [.observe (.nodeConnectionFailed "main" "wss://rpc-a" "timeout"),
      .decide 0 1400 0, .observe (.dailyNodeSnapshot "2024-05-01" []), .decide 1 480 1,
      .post 1 480, .post 1 480] = some world ∧
    world.posts.map (·.outgoing.content) = [.quietSummary, .own .dailySummary] ∧
    QuietHoursKept nightConfig world.posts := by
  have ends : (World.run nightConfig [.observe (.nodeConnectionFailed "main" "wss://rpc-a" "timeout"),
      .decide 0 1400 0, .observe (.dailyNodeSnapshot "2024-05-01" []), .decide 1 480 1,
      .post 1 480, .post 1 480]).map (·.posts.map (·.outgoing.content)) =
      some [.quietSummary, .own .dailySummary] := by decide
  obtain ⟨world, run, contents⟩ := Option.map_eq_some_iff.mp ends
  exact ⟨world, run, contents, quiet_hours_kept run (by decide)⟩

/-- A failure buffered at 23:20, and the daily summary of midnight: the buffered summary
is posted at midnight, by a delivery decided inside the window. -/
theorem midnight_summary_breaks_quiet_hours : ∃ world,
    World.run nightConfig [.observe (.nodeConnectionFailed "main" "wss://rpc-a" "timeout"),
      .decide 0 1400 0, .observe (.dailyNodeSnapshot "2024-05-01" []), .decide 1 0 1,
      .post 1 0, .post 1 0] = some world ∧ ¬ QuietHoursKept nightConfig world.posts := by
  have ends : (World.run nightConfig [.observe (.nodeConnectionFailed "main" "wss://rpc-a" "timeout"),
      .decide 0 1400 0, .observe (.dailyNodeSnapshot "2024-05-01" []), .decide 1 0 1,
      .post 1 0, .post 1 0]).map (·.posts.map fun posted => (posted.minute, posted.outgoing.content)) =
      some [(0, .quietSummary), (0, .own .dailySummary)] := by decide
  obtain ⟨world, run, contents⟩ := Option.map_eq_some_iff.mp ends
  refine ⟨world, run, ?_⟩
  intro kept
  have first : (0, Content.quietSummary) ∈
      world.posts.map fun posted => (posted.minute, posted.outgoing.content) := by
    rw [contents]
    decide
  obtain ⟨posted, mem, same⟩ := List.mem_map.mp first
  obtain ⟨minute, content⟩ := Prod.mk.inj same
  have daily := kept.dailyOnly posted mem (by rw [minute]; decide)
  rw [content] at daily
  cases daily

end ChainDash.Notify
