import ChainDash.Collect.PeerRounds

/-!
# Which addresses are looked up

IPinfo sees the address of every task whose lookup has started. The filter of the
collector judges an address by its form, so an IPv4-mapped IPv6 address of a private host
passes; without such addresses in the store only public hosts are looked up
(`lookups_public`).
-/

namespace ChainDash.Collect
set_option autoImplicit false

open Geo Net

/-- The text of an address of a public host. -/
def PublicText (text : String) : Prop := ∃ ip ∈ IpAddr.parse text, IsPublic (denoted ip)

instance : DecidablePred PublicText := fun text => by unfold PublicText; infer_instance

/-- The text of an address that passes the filter though its host is not public. -/
def DisguisedText (text : String) : Prop := ∃ ip ∈ IpAddr.parse text, Disguised ip

instance : DecidablePred DisguisedText := fun text => by unfold DisguisedText; infer_instance

theorem exists_of_isEnrichableText {text : String} (enrichable : isEnrichableText text = true) :
    ∃ ip, IpAddr.parse text = some ip ∧ IsPublic ip := by
  unfold isEnrichableText at enrichable
  cases parsed : IpAddr.parse text with
  | none => simp [parsed] at enrichable
  | some ip => exact ⟨ip, rfl, (isEnrichable_iff ip).mp (by simpa [parsed] using enrichable)⟩

def TaskPhase.hasStarted : TaskPhase → Bool
  | .spawned => false
  | _ => true

namespace PeerCollector

variable {urls : List (String × String)} {s s' : PeerCollector} {event : PeerEvent}

/-- The IPs that IPinfo has been asked for. -/
def lookedUp (s : PeerCollector) : List String :=
  (s.tasks.filter fun task => task.phase.hasStarted).map (·.ip)

/-- The IPs of the tasks, and those that the loop has still to go through. -/
def announced (s : PeerCollector) : List String :=
  s.tasks.map (·.ip) ++ match s.phase with
    | .enriching ips => ips
    | _ => []

theorem mem_announced_of_mem_lookedUp {ip : String} (mem : ip ∈ s.lookedUp) : ip ∈ s.announced := by
  obtain ⟨task, inside, rfl⟩ := List.mem_map.mp mem
  exact List.mem_append_left _ (List.mem_map.mpr ⟨task, List.mem_of_mem_filter inside, rfl⟩)

/-- A task keeps its IP. -/
theorem map_ip_set {tasks : List EnrichmentTask} {i : Nat} {ip : String} {phase phase' : TaskPhase}
    (found : tasks[i]? = some ⟨ip, phase⟩) :
    (tasks.set i ⟨ip, phase'⟩).map (·.ip) = tasks.map (·.ip) := by
  have bound := (List.getElem?_eq_some_iff.mp found).1
  apply List.ext_getElem?
  intro j
  rw [List.map_set, List.getElem?_set]
  split
  case isTrue same =>
    subst same
    rw [List.length_map, if_pos bound, List.getElem?_map, found]
    rfl
  case isFalse => rfl

/-- What the loop is going to look up comes from the answer to a replace. -/
theorem announced_step (stepped : step urls s event = some s') {ip : String}
    (mem : ip ∈ s'.announced) : ip ∈ s.announced ∨
      ∃ needs, event = .replaced (.ok needs) ∧ ip ∈ needs.filter isEnrichableText := by
  cases step_cases stepped with
  | early => exact .inl mem
  | stop phase | due phase | refused phase | enriched phase | join phase =>
    simp only [announced, warn, List.append_nil] at mem
    exact .inl (List.mem_append_left _ mem)
  | @polled round phase =>
    have kept : (s.finishPoll urls round).announced = s.tasks.map (·.ip) := by
      unfold finishPoll
      cases round.merged <;> simp [announced]
    rw [kept] at mem
    exact .inl (List.mem_append_left _ mem)
  | @replaced ips needs phase =>
    rcases List.mem_append.mp mem with old | new
    · exact .inl (List.mem_append_left _ old)
    · exact .inr ⟨needs, rfl, new⟩
  | known phase =>
    left
    simp only [announced, phase]
    rcases List.mem_append.mp mem with old | new
    · exact List.mem_append_left _ old
    · exact List.mem_append_right _ (List.mem_cons_of_mem _ new)
  | spawned phase =>
    left
    simp only [announced, phase]
    simpa [announced, or_assoc] using mem
  | lookup found | lookedUp found | write found | written found | remove found =>
    left
    simpa only [announced, setTask, map_ip_set found] using mem

end PeerCollector

namespace PeerGeoSystem

variable {urls : List (String × String)} {s s' : PeerGeoSystem} {event : SystemEvent}

/-- A list that is stored holds no address that passes the filter though its host is not
public, unless its location is fresh. -/
def NoneDisguised (s : PeerGeoSystem) : SystemEvent → Prop
  | .replace (.ok now) => ∀ text ∈ s.collector.replacing?.getD [], DisguisedText text →
      ∃ row ∈ s.tables.locationCache.lookup text, now.seconds - locationCacheTtlSeconds ≤ row.refreshedAt
  | _ => True

instance (s : PeerGeoSystem) : DecidablePred s.NoneDisguised
  | .replace (.ok _) => by unfold NoneDisguised; infer_instance
  | .replace (.error _) | .collector _ | .update _ _ => instDecidableTrue

/-- What a replace answers is in the list stored, and not fresh. -/
theorem mem_of_mem_needs {ips needs : List String} {now : UnixSeconds} {text : String}
    (answered : (replaceCall s.tables ips (.ok now)).1 = .ok needs) (mem : text ∈ needs) :
    text ∈ ips ∧ ∀ row, s.tables.locationCache.lookup text = some row →
      row.refreshedAt < now.seconds - locationCacheTtlSeconds := by
  obtain ⟨after, called, peers, cache⟩ := replaceCall_ok s.tables ips now
  rw [called] at answered
  obtain rfl := Except.ok.inj answered
  obtain ⟨stored, stale⟩ := mem_selectNeedsEnrichment.mp mem
  rw [cache] at stale
  exact ⟨(peers text).mp stored, stale⟩

theorem announced_public_step (before : ∀ text ∈ s.collector.announced, PublicText text)
    (none_ : NoneDisguised s event) (stepped : step urls s event = some s') :
    ∀ text ∈ s'.collector.announced, PublicText text := by
  intro text mem
  cases event with
  | collector event =>
    obtain ⟨own, moved, -⟩ := step_collector stepped
    rcases PeerCollector.announced_step moved mem with old | ⟨needs, rfl, -⟩
    · exact before text old
    · cases own
  | update i outcome =>
    obtain ⟨ip, entry, -, -, moved⟩ := step_update stepped
    rcases PeerCollector.announced_step moved mem with old | ⟨needs, written, -⟩
    · exact before text old
    · cases written
  | replace outcome =>
    obtain ⟨ips, replacing, -, moved⟩ := step_replace stepped
    rcases PeerCollector.announced_step moved mem with old | ⟨needs, answered, new⟩
    · exact before text old
    obtain ⟨needed, enrichable⟩ := List.mem_filter.mp new
    obtain ⟨ip, parsed, shown⟩ := exists_of_isEnrichableText enrichable
    have answered := PeerEvent.replaced.inj answered
    cases outcome with
    | error err => cases answered
    | ok now =>
      obtain ⟨stored, stale⟩ := mem_of_mem_needs answered needed
      refine ⟨ip, parsed, ?_⟩
      by_contra hidden
      have inside : text ∈ s.collector.replacing?.getD [] := by
        simpa [PeerCollector.replacing?, replacing] using stored
      obtain ⟨row, found, fresh⟩ := none_ text inside ⟨ip, parsed, shown, hidden⟩
      have old := stale row found
      omega

/-- In a run that never stores such an address, IPinfo is asked for public hosts only. -/
theorem lookups_public (urls : List (String × String)) (tables : Tables) (events : List SystemEvent)
    (s : PeerGeoSystem) (ran : run urls tables events = some s)
    (none_ : ∀ visit ∈ Lts.visited (step urls) { tables } events, NoneDisguised visit.1 visit.2) :
    ∀ text ∈ s.collector.lookedUp, PublicText text := by
  have all : ∀ text ∈ s.collector.announced, PublicText text := by
    refine Lts.run_invariant_of (I := fun _ s => ∀ text ∈ s.collector.announced, PublicText text)
      ?_ ?_ ran none_
    · intro text mem
      simp [PeerCollector.announced] at mem
    · intro _ before event after invariant condition stepped
      exact announced_public_step invariant condition stepped
  intro text mem
  exact all text (PeerCollector.mem_announced_of_mem_lookedUp mem)

/-- A round that finds one address, which is then looked up. -/
def lookupOf (remoteAddress : String) : List SystemEvent :=
  [.collector (.tick 0), .collector (.polled [.ok [peer remoteAddress]]), .replace (.ok noon),
    .collector .enrich, .collector (.lookup 0)]

theorem lookups_public_one : ∃ s : PeerGeoSystem,
    run [("node", "ws://node")] {} (lookupOf "1.1.1.1:30303") = some s ∧
    s.collector.lookedUp = ["1.1.1.1"] ∧ PublicText "1.1.1.1" := by
  have ran : ∃ s : PeerGeoSystem,
      run [("node", "ws://node")] {} (lookupOf "1.1.1.1:30303") = some s ∧
      s.collector.lookedUp = ["1.1.1.1"] := ⟨_, rfl, rfl⟩
  obtain ⟨s, ran, asked⟩ := ran
  refine ⟨s, ran, asked, ?_⟩
  exact lookups_public _ _ _ s ran (by decide) "1.1.1.1" (by rw [asked]; simp)

/-- The mapped form of a private address is no private IPv6 address. -/
theorem mapped_private_looked_up : ∃ s : PeerGeoSystem,
    run [("node", "ws://node")] {} (lookupOf "[::ffff:10.0.0.1]:30303") = some s ∧
      s.collector.lookedUp = ["::ffff:10.0.0.1"] ∧ ¬ PublicText "::ffff:10.0.0.1" :=
  ⟨_, rfl, rfl, by decide⟩

end PeerGeoSystem

end ChainDash.Collect
