import ChainDash.Collect.PeerGeo

/-!
# Poll rounds and the peer snapshot

The collector of `Collect.PeerGeo` with the tables of the store behind it. A call of the
store is one step here, for the calls are linearizable (`Geo.StoreCalls`). Of all rounds
only the last complete one is in the tables, and the order of its parts does not matter
(`poll_rounds_exact`).
-/

namespace ChainDash.Collect
set_option autoImplicit false

open Geo Net

structure PeerGeoSystem where
  collector : PeerCollector := {}
  tables : Tables := {}

/-- A store call fails with a text, or is executed at a clock reading. -/
abbrev StoreOutcome := Except String UnixSeconds

/-- `store.replace_peer_snapshot(ips)`. -/
def replaceCall (tables : Tables) (ips : List String) (outcome : StoreOutcome) :
    Except String (List String) × Tables :=
  match outcome.bind (replacePeerSnapshotTx tables ips) with
  | .ok (needs, after) => (.ok needs, after)
  | .error err => (.error err, tables)

/-- `store.update_location_cache(entries)`. -/
def updateCall (tables : Tables) (entries : List LocationEntry) (outcome : StoreOutcome) :
    Except String Unit × Tables :=
  match outcome.bind (updateLocationCacheTx tables entries) with
  | .ok after => (.ok (), after)
  | .error err => (.error err, tables)

/-- The steps of the collector; the answers of the store are not free here. -/
inductive SystemEvent where
  | collector (event : PeerEvent)
  | replace (outcome : StoreOutcome)
  | update (task : Nat) (outcome : StoreOutcome)

def PeerEvent.isStoreAnswer : PeerEvent → Bool
  | .replaced _ | .written _ _ => true
  | _ => false

namespace PeerGeoSystem

def step (urls : List (String × String)) (s : PeerGeoSystem) : SystemEvent → Option PeerGeoSystem
  | .collector event =>
    if event.isStoreAnswer then none
    else (PeerCollector.step urls s.collector event).map fun collector => { s with collector }
  | .replace outcome =>
    match s.collector.phase with
    | .replacing ips =>
      let (answer, tables) := replaceCall s.tables ips outcome
      (PeerCollector.step urls s.collector (.replaced answer)).map fun collector => { collector, tables }
    | _ => none
  | .update i outcome =>
    match s.collector.tasks[i]? with
    | some ⟨_, .calling entry⟩ =>
      let (answer, tables) := updateCall s.tables [entry] outcome
      (PeerCollector.step urls s.collector (.written i answer)).map fun collector => { collector, tables }
    | _ => none

def run (urls : List (String × String)) (tables : Tables) (events : List SystemEvent) :
    Option PeerGeoSystem :=
  Lts.run (step urls) { tables } events

def rounds (events : List SystemEvent) : List Round :=
  events.filterMap fun
    | .collector (.polled round) => some round
    | _ => none

end PeerGeoSystem

/-! ## What a step does to the rounds -/

namespace PeerCollector

variable {urls : List (String × String)} {s s' : PeerCollector} {event : PeerEvent}

/-- The list whose replacement is under way. -/
def replacing? (s : PeerCollector) : Option (List String) :=
  match s.phase with
  | .replacing ips => some ips
  | _ => none

/-- Only the end of a round and the answer to a replace bear on the replaces. -/
theorem step_replaces (stepped : step urls s event = some s')
    (notPolled : ∀ round, event ≠ .polled round) (notReplaced : ∀ answer, event ≠ .replaced answer) :
    s'.replaces = s.replaces ∧ s'.replacing? = s.replacing? := by
  cases step_cases stepped with
  | polled => exact absurd rfl (notPolled _)
  | replaced | refused => exact absurd rfl (notReplaced _)
  | early => exact ⟨rfl, rfl⟩
  | stop phase | due phase | known phase | spawned phase | enriched phase | join phase =>
    exact ⟨rfl, by simp [replacing?, phase]⟩
  | lookup | lookedUp | write | written | remove => exact ⟨rfl, rfl⟩

theorem step_polled {round : Round} (stepped : step urls s (.polled round) = some s') :
    s.phase = .polling ∧ round.length = urls.length ∧ s' = s.finishPoll urls round := by
  cases step_cases stepped with
  | polled phase all => exact ⟨phase, all, rfl⟩

theorem step_replaced {answer : Except String (List String)}
    (stepped : step urls s (.replaced answer) = some s') :
    s'.replaces = s.replaces ∧ s'.replacing? = none := by
  cases step_cases stepped with
  | replaced | refused => exact ⟨rfl, rfl⟩

end PeerCollector

namespace PeerGeoSystem

variable {urls : List (String × String)} {s s' : PeerGeoSystem} {event : SystemEvent}
  {events : List SystemEvent}

theorem step_collector {event : PeerEvent} (stepped : step urls s (.collector event) = some s') :
    event.isStoreAnswer = false ∧ PeerCollector.step urls s.collector event = some s'.collector ∧
      s'.tables = s.tables := by
  simp only [step] at stepped
  split at stepped
  case isTrue => cases stepped
  case isFalse own =>
    obtain ⟨collector, moved, rfl⟩ := Option.map_eq_some_iff.mp stepped
    exact ⟨by simpa using own, moved, rfl⟩

theorem step_replace {outcome : StoreOutcome} (stepped : step urls s (.replace outcome) = some s') :
    ∃ ips, s.collector.phase = .replacing ips ∧ s'.tables = (replaceCall s.tables ips outcome).2 ∧
      PeerCollector.step urls s.collector (.replaced (replaceCall s.tables ips outcome).1) =
        some s'.collector := by
  simp only [step] at stepped
  split at stepped
  case h_2 => cases stepped
  case h_1 ips replacing =>
    obtain ⟨collector, moved, rfl⟩ := Option.map_eq_some_iff.mp stepped
    exact ⟨ips, replacing, rfl, moved⟩

theorem step_update {i : Nat} {outcome : StoreOutcome}
    (stepped : step urls s (.update i outcome) = some s') :
    ∃ ip entry, s.collector.tasks[i]? = some ⟨ip, .calling entry⟩ ∧
      s'.tables = (updateCall s.tables [entry] outcome).2 ∧
      PeerCollector.step urls s.collector (.written i (updateCall s.tables [entry] outcome).1) =
        some s'.collector := by
  simp only [step] at stepped
  split at stepped
  case h_2 => cases stepped
  case h_1 ip entry calling =>
    obtain ⟨collector, moved, rfl⟩ := Option.map_eq_some_iff.mp stepped
    exact ⟨ip, entry, calling, rfl, moved⟩

theorem currentPeers_updateCall (tables : Tables) (entries : List LocationEntry)
    (outcome : StoreOutcome) :
    (updateCall tables entries outcome).2.currentPeers = tables.currentPeers := by
  cases outcome <;> rfl

theorem replaceCall_ok (tables : Tables) (ips : List String) (now : UnixSeconds) :
    ∃ after, replaceCall tables ips (.ok now) =
        (.ok (selectNeedsEnrichment after (now.seconds - locationCacheTtlSeconds)), after) ∧
      (∀ ip, ip ∈ after.currentPeers ↔ ip ∈ ips) ∧ after.locationCache = tables.locationCache := by
  obtain ⟨after, done, peers, cache⟩ := replacePeerSnapshotTx_ok tables ips now
  refine ⟨after, ?_, peers, cache⟩
  unfold replaceCall
  simp only [Except.bind, done]

/-! ## The rounds of a run -/

/-- Every complete round has been handed to the store, and the last one is in there,
unless that is under way. -/
structure Mirrors (events : List SystemEvent) (s : PeerGeoSystem) : Prop where
  replaces : s.collector.replaces = (rounds events).filterMap Round.merged
  last : ∀ ips, s.collector.replacing? = some ips → s.collector.replaces.getLast? = some ips
  peers : s.collector.replacing? = none →
    ∀ ip, ip ∈ s.tables.currentPeers ↔ ip ∈ s.collector.replaces.getLast?.getD []

theorem rounds_snoc (events : List SystemEvent) (event : SystemEvent) :
    rounds (events ++ [event]) = rounds events ++ rounds [event] := by
  unfold rounds
  rw [List.filterMap_append]

/-- A step that neither ends a round nor answers a replace. -/
theorem Mirrors.quiet (mirrors : Mirrors events s) (none_ : rounds [event] = [])
    (replaces : s'.collector.replaces = s.collector.replaces)
    (replacing : s'.collector.replacing? = s.collector.replacing?)
    (peers : s'.tables.currentPeers = s.tables.currentPeers) : Mirrors (events ++ [event]) s' := by
  constructor
  · rw [replaces, mirrors.replaces, rounds_snoc, none_, List.append_nil]
  · rw [replacing, replaces]
    exact mirrors.last
  · rw [replacing, replaces, peers]
    exact mirrors.peers

theorem Mirrors.polled {round : Round} (mirrors : Mirrors events s)
    (stepped : step urls s (.collector (.polled round)) = some s') :
    Mirrors (events ++ [.collector (.polled round)]) s' := by
  obtain ⟨-, moved, tables⟩ := step_collector stepped
  obtain ⟨polling, -, finished⟩ := PeerCollector.step_polled moved
  have idle : s.collector.replacing? = none := by simp [PeerCollector.replacing?, polling]
  have handed : (rounds (events ++ [.collector (.polled round)])).filterMap Round.merged =
      s.collector.replaces ++ round.merged.toList := by
    rw [rounds_snoc, List.filterMap_append, ← mirrors.replaces]
    show _ ++ [round].filterMap Round.merged = _
    cases merged : round.merged <;> simp [merged]
  unfold PeerCollector.finishPoll at finished
  cases merged : round.merged with
  | some ips =>
    simp only [merged] at finished handed
    constructor
    · rw [finished, handed]
      rfl
    · intro ips' same
      rw [finished] at same ⊢
      obtain rfl := Option.some.inj same
      exact List.getLast?_concat
    · intro none_
      rw [finished] at none_
      cases none_
  | none =>
    simp only [merged] at finished handed
    constructor
    · rw [finished, handed]
      exact (List.append_nil _).symm
    · intro ips same
      rw [finished] at same
      cases same
    · intro _
      rw [tables, finished]
      exact mirrors.peers idle

theorem Mirrors.replaced {now : UnixSeconds} (mirrors : Mirrors events s)
    (stepped : step urls s (.replace (.ok now)) = some s') :
    Mirrors (events ++ [.replace (.ok now)]) s' := by
  obtain ⟨ips, replacing, tables, moved⟩ := step_replace stepped
  obtain ⟨replaces, idle⟩ := PeerCollector.step_replaced moved
  obtain ⟨after, called, peers, -⟩ := replaceCall_ok s.tables ips now
  constructor
  · rw [replaces, mirrors.replaces, rounds_snoc]
    exact congrArg _ (List.append_nil _).symm
  · intro ips' same
    rw [idle] at same
    cases same
  · intro _ ip
    have last := mirrors.last ips (by simp [PeerCollector.replacing?, replacing])
    rw [tables, called, peers, replaces, last]
    rfl

theorem mirrors_step (mirrors : Mirrors events s)
    (succeeds : ∀ outcome, event = .replace outcome → ∃ now, outcome = .ok now)
    (stepped : step urls s event = some s') : Mirrors (events ++ [event]) s' := by
  cases event with
  | collector event =>
    obtain ⟨own, moved, tables⟩ := step_collector stepped
    by_cases polled : ∃ round, event = .polled round
    · obtain ⟨round, rfl⟩ := polled
      exact mirrors.polled stepped
    · have notReplaced : ∀ answer, event ≠ .replaced answer := by
        rintro answer rfl
        cases own
      obtain ⟨replaces, replacing⟩ := PeerCollector.step_replaces moved
        (fun round same => polled ⟨round, same⟩) notReplaced
      have none_ : rounds [.collector event] = [] := by
        cases event with
        | polled round => exact absurd ⟨round, rfl⟩ polled
        | _ => rfl
      exact mirrors.quiet none_ replaces replacing (by rw [tables])
  | replace outcome =>
    obtain ⟨now, rfl⟩ := succeeds outcome rfl
    exact mirrors.replaced stepped
  | update i outcome =>
    obtain ⟨ip, entry, -, tables, moved⟩ := step_update stepped
    obtain ⟨replaces, replacing⟩ := PeerCollector.step_replaces moved (by nofun) (by nofun)
    exact mirrors.quiet rfl replaces replacing (by rw [tables, currentPeers_updateCall])

/-- The store has answered every replace. -/
def WritesSucceed (events : List SystemEvent) : Prop :=
  ∀ outcome, .replace outcome ∈ events → ∃ now, outcome = .ok now

theorem mirrors_run (succeed : WritesSucceed events) (ran : run urls {} events = some s) :
    Mirrors events s := by
  refine Lts.run_invariant (I := fun events s => WritesSucceed events → Mirrors events s)
    ?_ ?_ ran succeed
  · intro _
    exact ⟨rfl, nofun, fun _ ip => by simp [AList.notMem_empty]⟩
  · intro events before event after mirrors stepped succeed
    have earlier := mirrors fun outcome mem => succeed outcome (List.mem_append_left _ mem)
    refine mirrors_step earlier ?_ stepped
    rintro outcome rfl
    exact succeed outcome (by simp)

/-- Between the rounds the table holds the texts of the addresses of the last complete
round, each address once. -/
theorem currentPeers_perm (mirrors : Mirrors events s) (idle : s.collector.replacing? = none) :
    s.tables.currentPeers.keys.Perm ((lastFound (rounds events)).dedup.map IpAddr.display) := by
  have distinct := (List.nodup_dedup (lastFound (rounds events))).map IpAddr.display_injective
  refine (List.perm_ext_iff_of_nodup s.tables.currentPeers.keys_nodup distinct).mpr ?_
  intro text
  rw [← AList.mem_keys, mirrors.peers idle, mirrors.replaces, mem_lastMerged]
  simp only [List.mem_map, List.mem_dedup]

theorem totalPeers_eq (mirrors : Mirrors events s) (idle : s.collector.replacing? = none) :
    (buildGeoViewSnapshot s.tables).totalPeers = (lastFound (rounds events)).dedup.length := by
  rw [totalPeers_buildGeoViewSnapshot, (currentPeers_perm mirrors idle).length_eq, List.length_map]

/-- A round with an error ends without a call or a task. -/
theorem failed_round {round : Round} (fails : ¬ round.AllOk)
    (stepped : step urls s (.collector (.polled round)) = some s') :
    s' = { s with collector := { s.collector with
      phase := .ticking
      warnings := s.collector.warnings ++ PeerCollector.pollWarnings urls round } } := by
  obtain ⟨-, moved, tables⟩ := step_collector stepped
  obtain ⟨-, -, finished⟩ := PeerCollector.step_polled moved
  have none_ : round.merged = none := by rw [merged_eq, if_neg fails]
  unfold PeerCollector.finishPoll at finished
  simp only [none_] at finished
  rw [← finished, ← tables]

end PeerGeoSystem

/-! ## The order of the nodes and of the peers -/

/-- The same round, with the nodes and the peers in another order. -/
structure SameRound (urls urls' : List (String × String)) (round round' : Round) : Prop where
  nodes : urls.length = urls'.length
  answers : round.length = round'.length
  reordered : ∃ nodes : List ((String × String) × Except String (List Json.Value)),
    List.Forall₂ (fun a b => a.1 = b.1 ∧ SameAnswer a.2 b.2) (urls.zip round) nodes ∧
      nodes.Perm (urls'.zip round')

inductive SameEvent (urls urls' : List (String × String)) : SystemEvent → SystemEvent → Prop where
  | round {round round' : Round} (same : SameRound urls urls' round round') :
      SameEvent urls urls' (.collector (.polled round)) (.collector (.polled round'))
  | other {event : SystemEvent} (notPolled : ∀ round, event ≠ .collector (.polled round)) :
      SameEvent urls urls' event event

section Reordered

variable {urls urls' : List (String × String)} {round round' : Round}

theorem SameRound.sameFindings (same : SameRound urls urls' round round')
    (all : round.length = urls.length) : round.SameFindings round' := by
  obtain ⟨nodes, answers, perm⟩ := same.reordered
  have left : (urls.zip round).map (·.2) = round := List.map_snd_zip all.le
  have right : (urls'.zip round').map (·.2) = round' :=
    List.map_snd_zip (by rw [← same.answers, ← same.nodes, all])
  have answers : List.Forall₂ SameAnswer round (nodes.map (·.2)) := by
    rw [← left, List.forall₂_map_left_iff, List.forall₂_map_right_iff]
    exact answers.imp fun _ _ both => both.2
  have perm := perm.map (·.2)
  rw [right] at perm
  exact (sameFindings_of_forall₂ answers).trans (sameFindings_of_perm perm)

/-- Each node that failed is named once in both. -/
theorem SameRound.warnings (same : SameRound urls urls' round round') :
    (PeerCollector.pollWarnings urls round).Perm (PeerCollector.pollWarnings urls' round') := by
  obtain ⟨nodes, answers, perm⟩ := same.reordered
  unfold PeerCollector.pollWarnings
  refine List.Perm.trans (List.Perm.of_eq ?_) (perm.filterMap _)
  clear perm
  generalize urls.zip round = asked at answers
  induction answers with
  | nil => rfl
  | @cons a b rest rest' both _ ih =>
    obtain ⟨url, answer⟩ := a
    obtain ⟨url', answer'⟩ := b
    obtain ⟨rfl, same⟩ : url = url' ∧ SameAnswer answer answer' := both
    cases same with
    | ok perm => exact ih
    | error err => exact congrArg (_ :: ·) ih

end Reordered

namespace PeerCollector

variable {urls : List (String × String)} {s s' : PeerCollector} {event : PeerEvent}

def withWarnings (s : PeerCollector) (warnings : List String) : PeerCollector := { s with warnings }

/-- The warnings are only written, and the nodes only read at the end of a round. -/
theorem step_warnings (stepped : step urls s event = some s')
    (notPolled : ∀ round, event ≠ .polled round) :
    ∃ new, s'.warnings = s.warnings ++ new ∧ ∀ urls' warnings,
      step urls' (s.withWarnings warnings) event = some (s'.withWarnings (warnings ++ new)) := by
  cases step_cases stepped with
  | polled => exact absurd rfl (notPolled _)
  | stop phase | replaced phase | enriched phase =>
    exact ⟨[], (List.append_nil _).symm, fun urls' warnings => by simp [step, withWarnings, phase]⟩
  | due phase due | early phase due =>
    exact ⟨[], (List.append_nil _).symm, fun urls' warnings => by simp [step, withWarnings, phase, due]⟩
  | refused phase => exact ⟨_, rfl, fun urls' warnings => by simp [step, withWarnings, warn, phase]⟩
  | known phase pending | spawned phase pending =>
    exact ⟨[], (List.append_nil _).symm, fun urls' warnings => by
      simp [step, withWarnings, spawn, phase, pending]⟩
  | lookup found | write found | remove found =>
    exact ⟨[], (List.append_nil _).symm, fun urls' warnings => by
      simp [step, withWarnings, setTask, found]⟩
  | @lookedUp i ip result found =>
    refine ⟨_, rfl, fun urls' warnings => ?_⟩
    cases failed : (buildLocationEntry ip result).error <;>
      simp [step, withWarnings, setTask, warn, found, failed]
  | @written i ip entry answer found =>
    refine ⟨_, rfl, fun urls' warnings => ?_⟩
    cases answer <;> simp [step, withWarnings, setTask, warn, found]
  | join phase all =>
    refine ⟨[], (List.append_nil _).symm, fun urls' warnings => ?_⟩
    simp only [step, withWarnings, phase]
    rw [if_pos all, List.append_nil]

/-- The same but for the order of the warnings. -/
structure SameButWarnings (s t : PeerCollector) : Prop where
  rest : t = s.withWarnings t.warnings
  warnings : s.warnings.Perm t.warnings

variable {urls' : List (String × String)} {t : PeerCollector}

theorem SameButWarnings.step (urls' : List (String × String)) (same : SameButWarnings s t)
    (notPolled : ∀ round, event ≠ .polled round)
    (stepped : PeerCollector.step urls s event = some s') :
    ∃ t', PeerCollector.step urls' t event = some t' ∧ SameButWarnings s' t' := by
  obtain ⟨new, appended, replay⟩ := step_warnings stepped notPolled
  refine ⟨s'.withWarnings (t.warnings ++ new), ?_, rfl, ?_⟩
  · rw [same.rest]
    exact replay urls' _
  · show s'.warnings.Perm (t.warnings ++ new)
    rw [appended]
    exact same.warnings.append_right new

theorem SameButWarnings.polled {round round' : Round} (same : SameButWarnings s t)
    (reordered : SameRound urls urls' round round')
    (stepped : PeerCollector.step urls s (.polled round) = some s') :
    ∃ t', PeerCollector.step urls' t (.polled round') = some t' ∧ SameButWarnings s' t' := by
  obtain ⟨polling, all, rfl⟩ := step_polled stepped
  have all' : round'.length = urls'.length := by rw [← reordered.answers, all, reordered.nodes]
  have merged : round.merged = round'.merged := (reordered.sameFindings all).merged_eq
  have phase : t.phase = .polling := by
    rw [same.rest]
    exact polling
  have warnings := same.warnings.append reordered.warnings
  refine ⟨t.finishPoll urls' round', ?_, ?_⟩
  · simp only [PeerCollector.step, phase]
    rw [if_pos all']
  · rw [same.rest]
    unfold finishPoll
    rw [← merged]
    cases round.merged with
    | some ips => exact ⟨rfl, warnings⟩
    | none => exact ⟨rfl, warnings⟩

end PeerCollector

namespace PeerGeoSystem

variable {urls urls' : List (String × String)} {s s' t : PeerGeoSystem} {event event' : SystemEvent}
  {events events' : List SystemEvent}

theorem step_reordered (tables : t.tables = s.tables) (same : s.collector.SameButWarnings t.collector)
    (sameEvent : SameEvent urls urls' event event') (stepped : step urls s event = some s') :
    ∃ t', step urls' t event' = some t' ∧ t'.tables = s'.tables ∧
      s'.collector.SameButWarnings t'.collector := by
  cases sameEvent with
  | @round round round' reordered =>
    obtain ⟨-, moved, kept⟩ := step_collector stepped
    obtain ⟨collector, moved', same'⟩ := same.polled reordered moved
    refine ⟨⟨collector, t.tables⟩, ?_, tables.trans kept.symm, same'⟩
    simp [step, PeerEvent.isStoreAnswer, moved']
  | other notPolled =>
    cases event with
    | collector event =>
      obtain ⟨own, moved, kept⟩ := step_collector stepped
      have notPolled : ∀ round, event ≠ .polled round := by
        rintro round rfl
        exact notPolled round rfl
      obtain ⟨collector, moved', same'⟩ := same.step urls' notPolled moved
      refine ⟨⟨collector, t.tables⟩, ?_, tables.trans kept.symm, same'⟩
      simp [step, own, moved']
    | replace outcome =>
      obtain ⟨ips, replacing, replaced, moved⟩ := step_replace stepped
      obtain ⟨collector, moved', same'⟩ := same.step urls' (by nofun) moved
      have phase : t.collector.phase = .replacing ips := by
        rw [same.rest]
        exact replacing
      refine ⟨⟨collector, s'.tables⟩, ?_, rfl, same'⟩
      simp [step, phase, tables, moved', replaced]
    | update i outcome =>
      obtain ⟨ip, entry, calling, updated, moved⟩ := step_update stepped
      obtain ⟨collector, moved', same'⟩ := same.step urls' (by nofun) moved
      have found : t.collector.tasks[i]? = some ⟨ip, .calling entry⟩ := by
        rw [same.rest]
        exact calling
      refine ⟨⟨collector, s'.tables⟩, ?_, rfl, same'⟩
      simp [step, found, tables, moved', updated]

theorem run_reordered (sameEvents : List.Forall₂ (SameEvent urls urls') events events')
    (tables : t.tables = s.tables) (same : s.collector.SameButWarnings t.collector)
    (ran : Lts.run (step urls) s events = some s') :
    ∃ t', Lts.run (step urls') t events' = some t' ∧ t'.tables = s'.tables ∧
      s'.collector.SameButWarnings t'.collector := by
  induction sameEvents generalizing s t with
  | nil =>
    obtain rfl := Option.some.inj ran
    exact ⟨t, rfl, tables, same⟩
  | @cons event event' events events' head _ ih =>
    rw [Lts.run_cons] at ran
    obtain ⟨m, stepped, rest⟩ := Option.bind_eq_some_iff.mp ran
    obtain ⟨m', stepped', tables', same'⟩ := step_reordered tables same head stepped
    obtain ⟨t', ran', final⟩ := ih tables' same' rest
    refine ⟨t', ?_, final⟩
    rw [Lts.run_cons, stepped']
    exact ran'

/-- On an empty store that answers every replace: each complete round is handed to the
store and nothing of the others, the table and the assembled snapshot hold the addresses
of the last complete round, each once, and the order of the nodes and of the peers in the
rounds bears on nothing but the order of the warnings. -/
theorem poll_rounds_exact (urls : List (String × String)) (events : List SystemEvent) (s : PeerGeoSystem)
    (succeed : WritesSucceed events) (ran : run urls {} events = some s) :
    s.collector.replaces = (rounds events).filterMap Round.merged ∧
    (s.collector.replacing? = none →
      s.tables.currentPeers.keys.Perm ((lastFound (rounds events)).dedup.map IpAddr.display) ∧
      (buildGeoViewSnapshot s.tables).totalPeers = (lastFound (rounds events)).dedup.length) ∧
    (∀ round s', ¬ round.AllOk → step urls s (.collector (.polled round)) = some s' →
      s' = { s with collector := { s.collector with
        phase := .ticking
        warnings := s.collector.warnings ++ PeerCollector.pollWarnings urls round } }) ∧
    ∀ urls' events', List.Forall₂ (SameEvent urls urls') events events' →
      ∃ s', run urls' {} events' = some s' ∧ s'.tables = s.tables ∧ s.collector.SameButWarnings s'.collector := by
  have mirrors := mirrors_run succeed ran
  refine ⟨mirrors.replaces, ?_, ?_, ?_⟩
  · intro idle
    exact ⟨currentPeers_perm mirrors idle, totalPeers_eq mirrors idle⟩
  · intro round s' fails stepped
    exact failed_round fails stepped
  · intro urls' events' sameEvents
    exact run_reordered sameEvents rfl ⟨rfl, .refl _⟩ ran

/-- A peer object with nothing but its remote address. -/
def peer (remoteAddress : String) : Json.Value :=
  .object [("network", .object [("remoteAddress", .string remoteAddress)])]

def noon : UnixSeconds := ⟨1767268800, by decide, by decide⟩

/-- A complete round that finds one address twice, and one in which a node fails. -/
def twoRounds : List SystemEvent :=
  [.collector (.tick 0), .collector (.polled [.ok [peer "1.1.1.1:30303", peer "[2001:db8::1]:30303"],
    .ok [peer "1.1.1.1:16789"]]), .replace (.ok noon), .collector .enrich, .collector .enrich,
    .collector .enrich, .collector (.tick peerPollInterval),
    .collector (.polled [.ok [], .error "timed out"])]

theorem poll_rounds_exact_twoRounds : ∃ s : PeerGeoSystem,
    run [("a", "ws://a"), ("b", "ws://b")] {} twoRounds = some s ∧
      (buildGeoViewSnapshot s.tables).totalPeers = 2 ∧
      s.collector.replaces = (rounds twoRounds).filterMap Round.merged := by
  have succeed : WritesSucceed twoRounds := by
    intro outcome mem
    simp only [twoRounds, List.mem_cons, SystemEvent.replace.injEq, reduceCtorEq,
      List.not_mem_nil] at mem
    exact ⟨noon, by simpa using mem⟩
  have ran : ∃ s : PeerGeoSystem, run [("a", "ws://a"), ("b", "ws://b")] {} twoRounds = some s ∧
      s.collector.replacing? = none := ⟨_, rfl, rfl⟩
  obtain ⟨s, ran, idle⟩ := ran
  obtain ⟨replaces, peers, -⟩ := poll_rounds_exact _ _ s succeed ran
  refine ⟨s, ran, ?_, replaces⟩
  rw [(peers idle).2]
  decide

end PeerGeoSystem

end ChainDash.Collect
