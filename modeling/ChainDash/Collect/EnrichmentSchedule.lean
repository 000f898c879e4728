import ChainDash.Collect.PeerLookups
import ChainDash.Lib.Mealy

/-!
# What is looked up, and when

A tick of the collector starts a poll when the last one started a minute ago
(`polls_exact`). When the peers of a complete round are stored, the IPs that IPinfo is then
asked for are those that can be enriched and have no location of the last 24 hours, but for
the ones that are being looked up already (`enrichment_schedule`); so a lookup that failed is
tried again in every such round.
-/

namespace ChainDash.Collect
set_option autoImplicit false

open Geo Net

namespace PeerGeoSystem

variable {urls : List (String × String)} {kept : Tables} {s s' : PeerGeoSystem} {event : SystemEvent}
  {events : List SystemEvent}

/-! ## The calls of the store -/

/-- The write that a step commits. -/
def storeWrite : PeerGeoSystem × SystemEvent → Option StoreWrite
  | (s, .replace (.ok now)) => s.collector.replacing?.map (.replacePeerSnapshot · now)
  | (s, .update i (.ok now)) =>
    match s.collector.tasks[i]? with
    | some ⟨_, .calling entry⟩ => some (.updateLocationCache [entry] now)
    | _ => none
  | _ => none

/-- The writes of a run that began with the tables kept from earlier ones. -/
def storeWrites (urls : List (String × String)) (kept : Tables) (events : List SystemEvent) :
    List StoreWrite :=
  (Lts.visited (step urls) { tables := kept } events).filterMap storeWrite

theorem storeWrites_snoc (ran : run urls kept events = some s) (event : SystemEvent) :
    storeWrites urls kept (events ++ [event]) =
      storeWrites urls kept events ++ (storeWrite (s, event)).toList := by
  unfold storeWrites
  rw [Lts.visited_snoc event ran, List.filterMap_append]
  cases wrote : storeWrite (s, event) <;> simp [wrote]

/-- A step commits its write, or leaves the tables as they are. -/
theorem step_tables (stepped : step urls s event = some s') :
    match storeWrite (s, event) with
    | some write => write.exec s.tables = .ok s'.tables
    | none => s'.tables = s.tables := by
  cases event with
  | collector event => exact (step_collector stepped).2.2
  | replace outcome =>
    obtain ⟨ips, replacing, tables, -⟩ := step_replace stepped
    have waiting : s.collector.replacing? = some ips := by
      rw [PeerCollector.replacing?, replacing]
    cases outcome with
    | error err => exact tables
    | ok now =>
      obtain ⟨after, done, -⟩ := replacePeerSnapshotTx_ok s.tables ips now
      simp only [storeWrite, waiting, Option.map_some, StoreWrite.exec]
      rw [tables]
      simp [replaceCall, Except.bind, done, Except.map]
  | update i outcome =>
    obtain ⟨ip, entry, calling, tables, -⟩ := step_update stepped
    cases outcome with
    | error err => exact tables
    | ok now =>
      simp only [storeWrite, calling, StoreWrite.exec]
      rw [tables]
      rfl

/-- The tables are what the writes committed so far make of those kept. -/
theorem replayFrom_storeWrites (ran : run urls kept events = some s) :
    replayFrom kept (storeWrites urls kept events) = .ok s.tables := by
  induction events using List.reverseRecOn generalizing s with
  | nil =>
    cases ran
    rfl
  | append_singleton events event ih =>
    obtain ⟨before, begun, stepped⟩ := Lts.run_snoc_split ran
    have tables := step_tables stepped
    rw [storeWrites_snoc begun]
    cases wrote : storeWrite (before, event) with
    | none =>
      rw [wrote] at tables
      rw [Option.toList_none, List.append_nil, ih begun, tables]
    | some write =>
      rw [wrote] at tables
      rw [Option.toList_some, replayFrom_snoc, ih begun]
      exact tables

/-- A row is what the writes of the run make of the one that was kept. -/
theorem lookup_locationCache (ran : run urls kept events = some s) (ip : String) :
    s.tables.locationCache.lookup ip =
      rowAfter (kept.locationCache.lookup ip) (writtenFor ip (storeWrites urls kept events)) := by
  obtain ⟨tables, done, -, cache⟩ := replayFrom_tables kept (storeWrites urls kept events)
  obtain rfl := Except.ok.inj (done.symm.trans (replayFrom_storeWrites ran))
  exact cache ip

/-! ## The IPs of a round -/

/-- The IPs that the loop has still to go through. -/
def remaining (s : PeerGeoSystem) : List String :=
  match s.collector.phase with
  | .enriching ips => ips
  | _ => []

theorem remaining_of_enriching {ips : List String} (phase : s.collector.phase = .enriching ips) :
    s.remaining = ips := by
  rw [remaining, phase]

/-- The IPs of the tasks spawned from one state to another. -/
def spawnedSince (s s' : PeerGeoSystem) : List String :=
  (s'.collector.tasks.drop s.collector.tasks.length).map (·.ip)

/-- How far the loop has come with the IPs of a round since state `s`. -/
structure Enriched (s : PeerGeoSystem) (needs : List String) (s' : PeerGeoSystem) : Prop where
  progress : ∃ done spawned, needs = done ++ s'.remaining ∧ spawned.Sublist done ∧
    s'.collector.tasks.map (·.ip) = s.collector.tasks.map (·.ip) ++ spawned ∧
    (∀ ip ∈ s'.collector.pending, ip ∈ s.collector.pending ∨ ip ∈ spawned) ∧
    ∀ ip ∈ done, ip ∈ s.collector.pending ∨ ip ∈ spawned

/-- A step that spawns nothing. -/
theorem Enriched.quiet {needs : List String} {mid mid' : PeerGeoSystem} (enriched : Enriched s needs mid)
    (left : mid'.remaining = mid.remaining)
    (tasks : mid'.collector.tasks.map (·.ip) = mid.collector.tasks.map (·.ip))
    (pending : ∀ ip ∈ mid'.collector.pending, ip ∈ mid.collector.pending) : Enriched s needs mid' := by
  obtain ⟨done, spawned, split, sublist, ips, under, covered⟩ := enriched
  refine ⟨done, spawned, ?_, sublist, ?_, fun ip mem => under ip (pending ip mem), covered⟩
  · rw [left, split]
  · rw [tasks, ips]

/-- The loop takes the next IP: it is under way already, or a task is spawned for it. -/
theorem Enriched.take {needs rest : List String} {ip : String} {mid mid' : PeerGeoSystem}
    (enriched : Enriched s needs mid) (before : mid.remaining = ip :: rest)
    (after : mid'.remaining = rest) (next : List String)
    (tasks : mid'.collector.tasks.map (·.ip) = mid.collector.tasks.map (·.ip) ++ next)
    (pending : ∀ other ∈ mid'.collector.pending, other ∈ mid.collector.pending ∨ other ∈ next)
    (taken : next = [ip] ∨ next = [] ∧ ip ∈ mid.collector.pending) : Enriched s needs mid' := by
  obtain ⟨done, spawned, split, sublist, ips, under, covered⟩ := enriched
  refine ⟨done ++ [ip], spawned ++ next, ?_, ?_, ?_, ?_, ?_⟩
  · rw [split, before, after, List.append_assoc]
    rfl
  · apply sublist.append
    rcases taken with rfl | ⟨rfl, -⟩
    · exact List.Sublist.refl _
    · exact List.nil_sublist _
  · rw [tasks, ips, List.append_assoc]
  · intro other mem
    rw [List.mem_append]
    rcases pending other mem with old | new
    · exact (under other old).imp_right .inl
    · exact .inr (.inr new)
  · intro other mem
    rw [List.mem_append]
    rcases List.mem_append.mp mem with old | last
    · exact (covered other old).imp_right .inl
    · obtain rfl := List.mem_singleton.mp last
      rcases taken with rfl | ⟨rfl, inside⟩
      · exact .inr (.inr last)
      · exact (under other inside).imp_right .inl

theorem Enriched.collector {needs : List String} {mid mid' : PeerGeoSystem} {event : PeerEvent}
    (enriched : Enriched s needs mid)
    (moved : PeerCollector.step urls mid.collector event = some mid'.collector)
    (other : ∀ answer, event ≠ .replaced answer) : Enriched s needs mid' := by
  obtain ⟨c', tables'⟩ := mid'
  dsimp only at moved
  cases PeerCollector.step_cases moved with
  | early => exact enriched.quiet rfl rfl fun _ mem => mem
  | replaced | refused => exact absurd rfl (other _)
  | stop phase | due phase | enriched phase | join phase =>
    exact enriched.quiet (by simp [remaining, phase]) rfl fun _ mem => mem
  | @polled round phase =>
    apply enriched.quiet
    · unfold PeerCollector.finishPoll
      cases round.merged <;> simp [remaining, phase]
    · unfold PeerCollector.finishPoll
      cases round.merged <;> rfl
    · unfold PeerCollector.finishPoll
      cases round.merged <;> exact fun _ mem => mem
  | known phase known =>
    exact enriched.take (remaining_of_enriching phase) rfl [] (List.append_nil _).symm
      (fun _ mem => .inl mem) (.inr ⟨rfl, known⟩)
  | @spawned ip rest phase fresh =>
    refine enriched.take (remaining_of_enriching phase) rfl [ip] List.map_append ?_ (.inl rfl)
    intro other mem
    rcases Finset.mem_insert.mp mem with rfl | old
    · exact .inr (List.mem_singleton.mpr rfl)
    · exact .inl old
  | lookup found | lookedUp found | write found | written found =>
    exact enriched.quiet rfl (PeerCollector.map_ip_set found) fun _ mem => mem
  | remove found =>
    exact enriched.quiet rfl (PeerCollector.map_ip_set found) fun _ mem => Finset.mem_of_mem_erase mem

theorem Enriched.step {needs : List String} {mid mid' : PeerGeoSystem} (enriched : Enriched s needs mid)
    (other : ∀ outcome, event ≠ .replace outcome)
    (stepped : PeerGeoSystem.step urls mid event = some mid') : Enriched s needs mid' := by
  cases event with
  | collector event =>
    obtain ⟨own, moved, -⟩ := step_collector stepped
    refine enriched.collector moved ?_
    rintro answer rfl
    cases own
  | replace outcome => exact absurd rfl (other outcome)
  | update i outcome =>
    obtain ⟨ip, entry, -, -, moved⟩ := step_update stepped
    exact enriched.collector moved (by simp)

/-- The IP is in the round, can be enriched, and had no success in the 24 hours before, in this run
or in an earlier one of which the row is kept. -/
structure Due (kept : Tables) (calls : List StoreWrite) (ips : List String) (now : UnixSeconds)
    (ip : String) : Prop where
  inRound : ip ∈ ips
  enrichable : isEnrichableText ip = true
  stale : ∀ row, rowAfter (kept.locationCache.lookup ip) (writtenFor ip calls) = some row →
    row.refreshedAt < now.seconds - 86400

theorem mem_needs_iff {ips : List String} {now : UnixSeconds} (ip : String) {needs : List String}
    (ran : run urls kept events = some s)
    (answered : (replaceCall s.tables ips (.ok now)).1 = .ok needs) :
    ip ∈ needs.filter isEnrichableText ↔ Due kept (storeWrites urls kept events) ips now ip := by
  obtain ⟨after, called, peers, cache⟩ := replaceCall_ok s.tables ips now
  rw [called] at answered
  obtain rfl := Except.ok.inj answered
  rw [List.mem_filter, mem_selectNeedsEnrichment, peers, cache, lookup_locationCache ran]
  constructor
  · rintro ⟨⟨inRound, stale⟩, enrichable⟩
    exact ⟨inRound, enrichable, stale⟩
  · rintro ⟨inRound, enrichable, stale⟩
    exact ⟨⟨inRound, stale⟩, enrichable⟩

/-- The peers of a round are stored at `now`. When the loop has gone through the answer, before
the next round, it has spawned tasks for distinct IPs that were due, and for all of these but
those that were being looked up already. -/
theorem enrichment_schedule {ips : List String} {now : UnixSeconds} {before mid : List SystemEvent}
    {s₁ s₂ : PeerGeoSystem} (ran : run urls kept before = some s)
    (replacing : s.collector.phase = .replacing ips)
    (stored : step urls s (.replace (.ok now)) = some s₁)
    (rest : Lts.run (step urls) s₁ mid = some s₂)
    (sameRound : ∀ outcome, SystemEvent.replace outcome ∉ mid) (through : s₂.remaining = []) :
    (spawnedSince s s₂).Nodup ∧ ∀ ip,
      (ip ∈ spawnedSince s s₂ → Due kept (storeWrites urls kept before) ips now ip) ∧
      (Due kept (storeWrites urls kept before) ips now ip →
        ip ∈ spawnedSince s s₂ ∨ ip ∈ s.collector.pending) := by
  obtain ⟨ips', replacing', -, moved⟩ := step_replace stored
  obtain rfl : ips = ips' := CollectorPhase.replacing.inj (replacing.symm.trans replacing')
  obtain ⟨after, called, -⟩ := replaceCall_ok s.tables ips now
  have due := fun ip => mem_needs_iff ip ran (congrArg Prod.fst called)
  have distinct := ((pairwise_selectNeedsEnrichment after
    (now.seconds - locationCacheTtlSeconds)).imp ne_of_lt).filter isEnrichableText
  generalize selectNeedsEnrichment after (now.seconds - locationCacheTtlSeconds) = needs
    at called due distinct
  rw [called] at moved
  obtain ⟨c₁, tables₁⟩ := s₁
  have began : Enriched s (needs.filter isEnrichableText) ⟨c₁, tables₁⟩ := by
    dsimp only at moved
    cases PeerCollector.step_cases moved with
    | replaced =>
      exact ⟨[], [], rfl, List.Sublist.refl _, (List.append_nil _).symm, fun _ mem => .inl mem,
        fun _ mem => by cases mem⟩
  have ended : Enriched s (needs.filter isEnrichableText) s₂ := by
    refine Lts.run_invariant (I := fun t mid => (∀ outcome, SystemEvent.replace outcome ∉ t) →
      Enriched s (needs.filter isEnrichableText) mid) (fun _ => began) ?_ rest sameRound
    intro t mid event mid' enriched stepped other
    refine (enriched fun outcome mem => other outcome (List.mem_append_left _ mem)).step ?_ stepped
    rintro outcome rfl
    exact other outcome (List.mem_append_right _ (List.mem_singleton.mpr rfl))
  obtain ⟨done, spawned, split, sublist, tasks, -, covered⟩ := ended.progress
  rw [through, List.append_nil] at split
  subst split
  have since : spawnedSince s s₂ = spawned := by
    rw [spawnedSince, List.map_drop, tasks, List.drop_left' (List.length_map _)]
  rw [since]
  refine ⟨distinct.sublist sublist, fun ip => ⟨fun mem => (due ip).mp (sublist.subset mem), ?_⟩⟩
  intro isDue
  exact (covered ip ((due ip).mpr isDue)).symm

/-- A location of the day before yesterday. -/
def keptTables : Tables where
  locationCache := (∅ : Dictionary String LocationRow).insert "1.1.1.1" ⟨"AU", "", noon.seconds - 172800, ""⟩

/-- The first round finds an IP with an old location, and a task is spawned for it. -/
theorem enrichment_schedule_first : ∃ s s₁ s₂ : PeerGeoSystem,
    run [("node", "ws://node")] keptTables ((lookupOf "1.1.1.1:30303").take 2) = some s ∧
    step [("node", "ws://node")] s (.replace (.ok noon)) = some s₁ ∧
    Lts.run (step [("node", "ws://node")]) s₁ [.collector .enrich, .collector .enrich] = some s₂ ∧
    spawnedSince s s₂ = ["1.1.1.1"] ∧
    Due keptTables
      (storeWrites [("node", "ws://node")] keptTables ((lookupOf "1.1.1.1:30303").take 2))
      ["1.1.1.1"] noon "1.1.1.1" := by
  have runs : ∃ s s₁ s₂ : PeerGeoSystem,
      run [("node", "ws://node")] keptTables ((lookupOf "1.1.1.1:30303").take 2) = some s ∧
      s.collector.phase = .replacing ["1.1.1.1"] ∧
      step [("node", "ws://node")] s (.replace (.ok noon)) = some s₁ ∧
      Lts.run (step [("node", "ws://node")]) s₁ [.collector .enrich, .collector .enrich] = some s₂ ∧
      s₂.remaining = [] ∧ spawnedSince s s₂ = ["1.1.1.1"] :=
    ⟨_, _, _, rfl, rfl, rfl, rfl, rfl, rfl⟩
  obtain ⟨s, s₁, s₂, ran, replacing, stored, rest, through, spawned⟩ := runs
  refine ⟨s, s₁, s₂, ran, stored, rest, spawned, ?_⟩
  exact ((enrichment_schedule ran replacing stored rest (by simp) through).2 "1.1.1.1").1
    (by rw [spawned]; exact .head _)

/-! ## The polls -/

/-- When the timer ticked while the loop waited for it. -/
def tick? : SystemEvent → Option Nat
  | .collector (.tick elapsed) => some elapsed
  | _ => none

/-- A tick, and whether it starts a poll. -/
def tickAnswer : PeerGeoSystem × SystemEvent → Option (Nat × Bool)
  | (s, .collector (.tick elapsed)) => some (elapsed, (pollDue elapsed s.collector.nextPoll).isSome)
  | _ => none

def tickAnswers (urls : List (String × String)) (tables : Tables) (events : List SystemEvent) :
    List (Nat × Bool) :=
  (Lts.visited (step urls) { tables } events).filterMap tickAnswer

/-- The ticks are gated, and the time of the next poll is the gate's. -/
structure PollsGated (urls : List (String × String)) (tables : Tables) (events : List SystemEvent)
    (s : PeerGeoSystem) : Prop where
  answers : tickAnswers urls tables events =
    Mealy.emitted (Mealy.gate peerPollInterval id) none (events.filterMap tick?)
  next : s.collector.nextPoll =
    (Mealy.cellAfter (Mealy.gate peerPollInterval id) none (events.filterMap tick?)).elim 0
      (· + peerPollInterval)

theorem gate_eq (window : Nat) (last : Option Nat) (elapsed : Nat) :
    Mealy.gate window id last elapsed =
      if elapsed < last.elim 0 (· + window) then (some (elapsed, false), last)
      else (some (elapsed, true), some elapsed) := by
  cases last with
  | none => simp [Mealy.gate]
  | some sent =>
    by_cases early : elapsed < sent + window <;> simp [Mealy.gate, early]

/-- `poll_due` is the gate of one minute. -/
theorem gate_cases (last : Option Nat) (elapsed : Nat) :
    (pollDue elapsed (last.elim 0 (· + peerPollInterval)) = none ∧
      Mealy.gate peerPollInterval id last elapsed = (some (elapsed, false), last)) ∨
    (pollDue elapsed (last.elim 0 (· + peerPollInterval)) = some (elapsed + peerPollInterval) ∧
      Mealy.gate peerPollInterval id last elapsed = (some (elapsed, true), some elapsed)) := by
  rw [gate_eq, pollDue]
  by_cases early : elapsed < last.elim 0 (· + peerPollInterval)
  · rw [if_pos early, if_pos early]
    exact .inl ⟨rfl, rfl⟩
  · rw [if_neg early, if_neg early]
    exact .inr ⟨rfl, rfl⟩

theorem nextPoll_step {event : PeerEvent} {c c' : PeerCollector}
    (moved : PeerCollector.step urls c event = some c') (noTick : ∀ elapsed, event ≠ .tick elapsed) :
    c'.nextPoll = c.nextPoll := by
  cases PeerCollector.step_cases moved with
  | due | early => exact absurd rfl (noTick _)
  | @polled round =>
    unfold PeerCollector.finishPoll
    cases round.merged <;> rfl
  | _ => rfl

theorem nextPoll_tick {elapsed : Nat} {c c' : PeerCollector}
    (moved : PeerCollector.step urls c (.tick elapsed) = some c') :
    c'.nextPoll = (pollDue elapsed c.nextPoll).getD c.nextPoll := by
  cases PeerCollector.step_cases moved with
  | due phase due => rw [due]; rfl
  | early phase early => rw [early]; rfl

theorem pollsGated_run {tables : Tables} (ran : run urls tables events = some s) :
    PollsGated urls tables events s := by
  induction events using List.reverseRecOn generalizing s with
  | nil =>
    cases ran
    exact ⟨rfl, rfl⟩
  | append_singleton events event ih =>
    obtain ⟨before, begun, stepped⟩ := Lts.run_snoc_split ran
    obtain ⟨answers, next⟩ := ih begun
    have answered : tickAnswers urls tables (events ++ [event]) =
        tickAnswers urls tables events ++ (tickAnswer (before, event)).toList := by
      unfold tickAnswers
      rw [Lts.visited_snoc event begun, List.filterMap_append]
      cases answer : tickAnswer (before, event) <;> simp [answer]
    have ticked : (events ++ [event]).filterMap tick? = events.filterMap tick? ++ (tick? event).toList := by
      rw [List.filterMap_append]
      cases tick : tick? event <;> simp [tick]
    have quiet (untold : tickAnswer (before, event) = none) (noTick : tick? event = none)
        (kept : s.collector.nextPoll = before.collector.nextPoll) :
        PollsGated urls tables (events ++ [event]) s := by
      rw [untold, Option.toList_none, List.append_nil] at answered
      rw [noTick, Option.toList_none, List.append_nil] at ticked
      exact ⟨by rw [answered, ticked, answers], by rw [ticked, kept, next]⟩
    cases event with
    | replace outcome =>
      obtain ⟨ips, -, -, moved⟩ := step_replace stepped
      exact quiet rfl rfl (nextPoll_step moved (by simp))
    | update i outcome =>
      obtain ⟨ip, entry, -, -, moved⟩ := step_update stepped
      exact quiet rfl rfl (nextPoll_step moved (by simp))
    | collector event =>
      obtain ⟨-, moved, -⟩ := step_collector stepped
      by_cases tick : ∃ elapsed, event = .tick elapsed
      · obtain ⟨elapsed, rfl⟩ := tick
        have gated := gate_cases
          (Mealy.cellAfter (Mealy.gate peerPollInterval id) none (events.filterMap tick?)) elapsed
        rw [← next] at gated
        have emits := Mealy.emitted_snoc (Mealy.gate peerPollInterval id) none
          (events.filterMap tick?) elapsed
        have cell : Mealy.cellAfter (Mealy.gate peerPollInterval id) none
            (events.filterMap tick? ++ [elapsed]) = (Mealy.gate peerPollInterval id
              (Mealy.cellAfter (Mealy.gate peerPollInterval id) none (events.filterMap tick?))
              elapsed).2 := by
          rw [Mealy.cellAfter, List.foldl_append]
          rfl
        rw [show tick? (.collector (.tick elapsed)) = some elapsed from rfl, Option.toList_some] at ticked
        have told : tickAnswer (before, .collector (.tick elapsed)) =
          some (elapsed, (pollDue elapsed before.collector.nextPoll).isSome) := rfl
        rw [told, Option.toList_some] at answered
        rcases gated with ⟨due, gate⟩ | ⟨due, gate⟩ <;> constructor
        · rw [answered, ticked, emits, gate, answers, due]
          rfl
        · rw [ticked, cell, gate, nextPoll_tick moved, due]
          exact next
        · rw [answered, ticked, emits, gate, answers, due]
          rfl
        · rw [ticked, cell, gate, nextPoll_tick moved, due]
          rfl
      · have noTick : ∀ elapsed, event ≠ .tick elapsed := fun elapsed same => tick ⟨elapsed, same⟩
        refine quiet ?_ ?_ (nextPoll_step moved noTick)
        · cases event <;> first | rfl | exact absurd rfl (noTick _)
        · cases event <;> first | rfl | exact absurd rfl (noTick _)

/-- On a clock that does not go back a tick starts a poll exactly when it comes a minute or more
after every poll started before it, however the polls themselves and the store turned out. -/
theorem polls_exact {tables : Tables} (ran : run urls tables events = some s)
    (ordered : (events.filterMap tick?).Pairwise (· ≤ ·)) {before after : List (Nat × Bool)}
    {elapsed : Nat} {polled : Bool}
    (split : tickAnswers urls tables events = before ++ (elapsed, polled) :: after) :
    polled = true ↔ ∀ earlier, (earlier, true) ∈ before → earlier + peerPollInterval ≤ elapsed := by
  rw [(pollsGated_run ran).answers] at split
  have exact_ := Mealy.gate_exact ordered (fun sent known => by cases known) split
  simpa using exact_

/-- The loop ticks every second; of three ticks the first and the last poll. -/
def threeTicks : List SystemEvent :=
  [.collector (.tick 0), .collector (.polled [.error "timeout"]), .collector (.tick (59 * 10 ^ 9)),
    .collector (.tick (60 * 10 ^ 9)), .collector (.polled [.error "timeout"])]

theorem polls_exact_threeTicks : tickAnswers [("node", "ws://node")] {} threeTicks =
      [(0, true), (59 * 10 ^ 9, false), (60 * 10 ^ 9, true)] ∧
    ((true = true) ↔ ∀ earlier, (earlier, true) ∈ [(0, true), (59 * 10 ^ 9, false)] →
      earlier + peerPollInterval ≤ 60 * 10 ^ 9) := by
  have runs : ∃ s, run [("node", "ws://node")] {} threeTicks = some s := ⟨_, rfl⟩
  obtain ⟨s, ran⟩ := runs
  have answers : tickAnswers [("node", "ws://node")] {} threeTicks =
      [(0, true), (59 * 10 ^ 9, false), (60 * 10 ^ 9, true)] := by rfl
  have split : tickAnswers [("node", "ws://node")] {} threeTicks =
      [(0, true), (59 * 10 ^ 9, false)] ++ (60 * 10 ^ 9, true) :: [] := answers
  exact ⟨answers, polls_exact ran (by decide) split⟩

end PeerGeoSystem

end ChainDash.Collect
