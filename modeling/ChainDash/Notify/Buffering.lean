import Mathlib.Data.List.DropRight
import ChainDash.Notify.Notifier

/-!
# Quiet-hours buffering over whole runs

The log of decisions determines the quiet-hours buffer: it holds what was buffered
since the last delivery took it (`sinceTake`). `BufferInv` says so for a reachable
world, and that every summary taken was the summary of what was buffered between two
takes; one step keeps it (`BufferInv.step`).
-/

namespace ChainDash.Notify
set_option autoImplicit false

/-- What a decision put into the buffer. -/
def Decided.buffered? (decided : Decided) : Option Buffered :=
  match decided.decision with
  | .suppressedByQuietHours => some (decided.request.event, decided.request.summarySubject)
  | _ => none

/-- The summary a decision took out of the buffer. -/
def Decided.taken? (decided : Decided) : Option QuietSummarySnapshot :=
  match decided.decision with
  | .send quietSummary => quietSummary
  | _ => none

def Decided.isSend (decided : Decided) : Bool :=
  match decided.decision with
  | .send _ => true
  | _ => false

/-- All notifications buffered by quiet hours, in order of arrival. -/
def buffered (log : List Decided) : List Buffered := log.filterMap Decided.buffered?

/-- All summaries taken, in order. -/
def taken (log : List Decided) : List QuietSummarySnapshot := log.filterMap Decided.taken?

/-- The notifications buffered after the last delivery. -/
def sinceTake (log : List Decided) : List Buffered := buffered (log.rtakeWhile (!·.isSend))

theorem buffered_snoc (log : List Decided) (last : Decided) :
    buffered (log ++ [last]) = buffered log ++ last.buffered?.toList := by
  cases h : last.buffered? <;> simp [buffered, List.filterMap_append, h]

theorem taken_snoc (log : List Decided) (last : Decided) :
    taken (log ++ [last]) = taken log ++ last.taken?.toList := by
  cases h : last.taken? <;> simp [taken, List.filterMap_append, h]

theorem sinceTake_snoc (log : List Decided) (last : Decided) :
    sinceTake (log ++ [last]) =
      if last.isSend then [] else sinceTake log ++ last.buffered?.toList := by
  unfold sinceTake
  rw [List.rtakeWhile_concat]
  cases last.isSend
  · simp [buffered_snoc]
  · simp [buffered]

/-- The summary that a delivery after the given log takes. -/
def pendingSummary (log : List Decided) : Option QuietSummarySnapshot :=
  if sinceTake log = [] then none else some (summaryOf (sinceTake log))

/-- What holds of the log and the buffer in every reachable world. -/
structure BufferInv (world : World) : Prop where
  buffer : world.state.quietSummary = .recordAll (sinceTake world.decisions)
  summaries : ∀ before decided after, world.decisions = before ++ decided :: after →
    decided.isSend → decided.taken? = pendingSummary before
  conserved : (buffered world.decisions).length =
    ((taken world.decisions).map (·.totalCount)).sum + (sinceTake world.decisions).length
  noDaily : ∀ entry ∈ buffered world.decisions, entry.1 ≠ .dailySummary

/-- The decisions of a world and its buffer are all that the invariant reads. -/
theorem BufferInv.frame {world world' : World} (inv : BufferInv world)
    (decisions : world'.decisions = world.decisions)
    (buffer : world'.state.quietSummary = world.state.quietSummary) : BufferInv world' := by
  obtain ⟨buf, summaries, conserved, noDaily⟩ := inv
  exact ⟨by rw [buffer, decisions, buf], decisions ▸ summaries, decisions ▸ conserved,
    decisions ▸ noDaily⟩

theorem NotifierCall.observe_quietSummary (templates : TelegramTemplates) (state : NotificationState)
    (call : NotifierCall) : (call.observe templates state).2.quietSummary = state.quietSummary := by
  cases call <;> simp [observe]

/-- Every delivery carries the summary of what was pending: the last one, and those before. -/
theorem summaries_snoc {decisions : List Decided} {decided : Decided}
    (summaries : ∀ before d after, decisions = before ++ d :: after → d.isSend →
      d.taken? = pendingSummary before)
    (last : decided.isSend → decided.taken? = pendingSummary decisions) :
    ∀ before d after, decisions ++ [decided] = before ++ d :: after → d.isSend →
      d.taken? = pendingSummary before := by
  intro before d after split sent
  rcases Lts.snoc_eq_append_cons split with ⟨rfl, rfl, -⟩ | ⟨after', -, split'⟩
  · exact last sent
  · exact summaries before d after' split' sent

theorem BufferInv.decide {world world' : World} {request : SendRequest} {decision : SendDecision}
    {rateLimit now : Nat} {quietTime : Bool} (inv : BufferInv world)
    (decided : world.state.decideSend rateLimit request quietTime now = (decision, world'.state))
    (log : world'.decisions = world.decisions ++ [⟨request, decision⟩]) : BufferInv world' := by
  obtain ⟨buf, summaries, conserved, noDaily⟩ := inv
  rcases NotificationState.decideSend_cases decided with
    ⟨rfl, kept⟩ | ⟨rfl, notDaily, -, recorded⟩ | ⟨rfl, -, -, taking⟩
  · -- the rate limiter leaves the buffer alone
    have since : sinceTake world'.decisions = sinceTake world.decisions := by
      rw [log, sinceTake_snoc]
      simp [Decided.isSend, Decided.buffered?]
    refine ⟨by rw [kept, since, buf], ?_, ?_, ?_⟩
    · rw [log]
      apply summaries_snoc summaries
      intro sent
      simp [Decided.isSend] at sent
    · rw [since, log, buffered_snoc, taken_snoc]
      simpa [Decided.buffered?, Decided.taken?] using conserved
    · rw [log, buffered_snoc]
      simpa [Decided.buffered?] using noDaily
  · -- quiet hours buffer the notification
    have since : sinceTake world'.decisions =
        sinceTake world.decisions ++ [(request.event, request.summarySubject)] := by
      rw [log, sinceTake_snoc]
      simp [Decided.isSend, Decided.buffered?]
    refine ⟨by rw [recorded, since, QuietSummaryBuffer.recordAll_snoc, buf], ?_, ?_, ?_⟩
    · rw [log]
      apply summaries_snoc summaries
      intro sent
      simp [Decided.isSend] at sent
    · rw [since, log, buffered_snoc, taken_snoc]
      simp only [Decided.buffered?, Decided.taken?, Option.toList_some, Option.toList_none,
        List.append_nil, List.length_append, List.length_singleton]
      omega
    · rw [log, buffered_snoc]
      intro entry mem
      rcases List.mem_append.mp mem with old | new
      · exact noDaily entry old
      · obtain rfl := List.mem_singleton.mp new
        exact notDaily
  · -- a delivery takes the buffer
    have taken : world.state.quietSummary.takeSnapshot =
        (pendingSummary world.decisions, {}) := by
      rw [buf, QuietSummaryBuffer.takeSnapshot_recordAll]
      rfl
    rw [taken] at taking
    have since : sinceTake world'.decisions = [] := by
      rw [log, sinceTake_snoc]
      simp [Decided.isSend]
    refine ⟨by rw [taking, since]; rfl, ?_, ?_, ?_⟩
    · rw [log]
      apply summaries_snoc summaries
      intro _
      exact congrArg Prod.fst taken
    · rw [since, log, buffered_snoc, taken_snoc]
      simp only [Decided.buffered?, Decided.taken?, taken, Option.toList_none, List.append_nil,
        List.length_nil, Nat.add_zero, List.map_append, List.sum_append]
      rw [conserved]
      unfold pendingSummary
      split
      case isTrue empty => simp [empty]
      case isFalse => simp [summaryOf]
    · rw [log, buffered_snoc]
      simpa [Decided.buffered?] using noDaily

theorem BufferInv.step {config : TelegramConfig} {world world' : World} {event : Event}
    (inv : BufferInv world) (h : world.step config event = some world') : BufferInv world' := by
  rcases World.step_cases h with ⟨call, state, -, seen, rfl⟩ | ⟨call, request, state, -, seen, rfl⟩ |
    ⟨_, _, _, _, -, -, -, rfl⟩ | ⟨_, _, _, _, _, _, -, -, -, decided, rfl⟩ | ⟨_, _, _, _, _, -, -, rfl⟩
  · refine inv.frame rfl ?_
    have kept := call.observe_quietSummary config.templates world.state
    rwa [seen] at kept
  · refine inv.frame rfl ?_
    have kept := call.observe_quietSummary config.templates world.state
    rwa [seen] at kept
  · exact inv.frame rfl rfl
  · exact inv.decide decided rfl
  · exact inv.frame rfl rfl

theorem bufferInv_init : BufferInv {} :=
  ⟨rfl, by simp, rfl, by simp [buffered]⟩

theorem bufferInv_of_run {config : TelegramConfig} {events : List Event} {world : World}
    (run : World.run config events = some world) : BufferInv world :=
  Lts.run_invariant (I := fun _ world => BufferInv world) bufferInv_init
    (fun _ _ _ _ inv stepped => inv.step stepped) run

/-- Without daily events, every event is of one of the three kinds with a bucket. -/
theorem length_eq_subjects (entries : List Buffered) (noDaily : ∀ entry ∈ entries, entry.1 ≠ .dailySummary) :
    entries.length = (subjectsOf .connectionFailed entries).length +
      (subjectsOf .connectionRecovered entries).length + (subjectsOf .rankingChanged entries).length := by
  induction entries using List.reverseRecOn with
  | nil => rfl
  | append_singleton entries last ih =>
    have rest := ih fun entry mem => noDaily entry (List.mem_append_left _ mem)
    have kind := noDaily last (by simp)
    obtain ⟨event, subject⟩ := last
    simp only [subjectsOf_snoc, List.length_append, List.length_singleton]
    cases event
    case dailySummary => exact absurd rfl kind
    all_goals
      simp only [reduceCtorEq, if_true, if_false, List.length_append, List.length_singleton]
      omega

theorem mem_sinceTake {log : List Decided} {entry : Buffered} (mem : entry ∈ sinceTake log) :
    entry ∈ buffered log := by
  obtain ⟨decided, inside, same⟩ := List.mem_filterMap.mp mem
  exact List.mem_filterMap.mpr ⟨decided, (List.rtakeWhile_suffix _ _).mem inside, same⟩

/-- The law of the quiet-hours buffer, for the log of decisions `log`. -/
structure BufferLaw (log : List Decided) (buffer : QuietSummaryBuffer) : Prop where
  conserved : (buffered log).length = ((taken log).map (·.totalCount)).sum + buffer.totalCount
  total : buffer.totalCount =
    buffer.connectionFailed.count + buffer.connectionRecovered.count + buffer.rankingChanged.count
  noDaily : ∀ entry ∈ buffered log, entry.1 ≠ .dailySummary
  connectionFailed : buffer.connectionFailed = .ofSubjects (subjectsOf .connectionFailed (sinceTake log))
  connectionRecovered :
    buffer.connectionRecovered = .ofSubjects (subjectsOf .connectionRecovered (sinceTake log))
  rankingChanged : buffer.rankingChanged = .ofSubjects (subjectsOf .rankingChanged (sinceTake log))
  summaries : ∀ before decided after, log = before ++ decided :: after → decided.isSend →
    decided.taken? = if sinceTake before = [] then none else some (summaryOf (sinceTake before))

/-- In every interleaving of notifier calls, the buffer and the summaries taken account
for exactly the notifications that quiet hours buffered. -/
theorem buffering_exact {config : TelegramConfig} {events : List Event} {world : World}
    (run : World.run config events = some world) :
    BufferLaw world.decisions world.state.quietSummary := by
  obtain ⟨buf, summaries, conserved, noDaily⟩ := bufferInv_of_run run
  have buckets := length_eq_subjects (sinceTake world.decisions)
    fun entry mem => noDaily entry (mem_sinceTake mem)
  rw [buf, QuietSummaryBuffer.recordAll_eq]
  exact ⟨conserved, buckets, noDaily, rfl, rfl, rfl, summaries⟩

/-- Two failures buffered overnight, and one more after the summary was taken. -/
theorem buffering_exact_overnight : ∃ world,
    World.run nightConfig [.observe (.nodeConnectionFailed "main" "wss://rpc-a" "timeout"),
      .decide 0 1400 0, .observe (.nodeConnectionFailed "backup" "wss://rpc-b" "timeout"),
      .decide 1 1410 1, .observe (.dailyNodeSnapshot "2024-05-01" []), .decide 2 0 2,
      .observe (.nodeConnectionRecovered "main" "wss://rpc-a"), .decide 3 5 3] = some world ∧
    taken world.decisions = [⟨2, "连接失败 2 次：main, backup"⟩] ∧
    BufferLaw world.decisions world.state.quietSummary := by
  have ends : (World.run nightConfig [.observe (.nodeConnectionFailed "main" "wss://rpc-a" "timeout"),
      .decide 0 1400 0, .observe (.nodeConnectionFailed "backup" "wss://rpc-b" "timeout"),
      .decide 1 1410 1, .observe (.dailyNodeSnapshot "2024-05-01" []), .decide 2 0 2,
      .observe (.nodeConnectionRecovered "main" "wss://rpc-a"), .decide 3 5 3]).map
        (taken ·.decisions) = some [⟨2, "连接失败 2 次：main, backup"⟩] := by decide
  obtain ⟨world, run, summaries⟩ := Option.map_eq_some_iff.mp ends
  exact ⟨world, run, summaries, buffering_exact run⟩

end ChainDash.Notify
