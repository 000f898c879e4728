import ChainDash.Collect.EnrichmentSchedule
import ChainDash.Collect.IpInfo

/-!
# Where the peers are

From the answers of IPinfo through the tasks and the store to the view, on top of whatever the
database has kept from earlier runs. The rows of the location cache are what IPinfo has answered
about each IP since, and come to hold nothing but country codes and coordinates (`location_rows`);
the view counts the peers of the last round that was stored by the country of their last successful
lookup (`view_located`).
-/

namespace ChainDash.Collect
set_option autoImplicit false

open Geo Net

abbrev LookupResult := Except String (Option IpInfoEntry)

/-- The result that an event hands to a task. -/
def PeerEvent.result? (i : Nat) : PeerEvent → Option LookupResult
  | .lookedUp j result => if j = i then some result else none
  | _ => none

def SystemEvent.result? (i : Nat) : SystemEvent → Option LookupResult
  | .collector event => event.result? i
  | _ => none

/-- What a task was answered. -/
def resultOf (events : List SystemEvent) (i : Nat) : Option LookupResult :=
  events.findSome? (SystemEvent.result? i)

theorem resultOf_append (events later : List SystemEvent) (i : Nat) :
    resultOf (events ++ later) i = (resultOf events i).or (resultOf later i) := List.findSome?_append

theorem resultOf_singleton (event : SystemEvent) (i : Nat) : resultOf [event] i = event.result? i := by
  unfold resultOf
  rw [List.findSome?_cons]
  cases event.result? i <;> rfl

/-- How far a task is fits what it was answered. -/
def Fits : Option EnrichmentTask → Option LookupResult → Prop
  | none, result | some ⟨_, .spawned⟩, result | some ⟨_, .lookingUp⟩, result => result = none
  | some ⟨ip, .writing entry⟩, result | some ⟨ip, .calling entry⟩, result =>
    ∃ given, result = some given ∧ entry = buildLocationEntry ip given
  | some ⟨_, .removing⟩, result | some ⟨_, .finished⟩, result => result.isSome

/-- The tasks fit the results. -/
def Answered (results : Nat → Option LookupResult) (tasks : List EnrichmentTask) : Prop :=
  ∀ i, Fits tasks[i]? (results i)

section

variable {results results' : Nat → Option LookupResult} {tasks : List EnrichmentTask}

theorem Answered.set {i : Nat} {task task' : EnrichmentTask} (answered : Answered results tasks)
    (found : tasks[i]? = some task) (own : Fits (some task') (results' i))
    (others : ∀ j, j ≠ i → results' j = results j) : Answered results' (tasks.set i task') := by
  intro j
  by_cases same : j = i
  · subst same
    have bound := (List.getElem?_eq_some_iff.mp found).1
    rw [List.getElem?_set_self bound]
    exact own
  · rw [List.getElem?_set_ne (Ne.symm same), others j same]
    exact answered j

theorem Answered.push {ip : String} (answered : Answered results tasks) :
    Answered results (tasks ++ [⟨ip, .spawned⟩]) := by
  intro i
  rcases Nat.lt_trichotomy i tasks.length with below | last | beyond
  · rw [List.getElem?_append_left below]
    exact answered i
  · have none_ := answered i
    rw [List.getElem?_eq_none (by omega)] at none_
    subst last
    rw [List.getElem?_concat_length]
    exact none_
  · have none_ := answered i
    rw [List.getElem?_eq_none (by omega)] at none_
    rw [List.getElem?_eq_none (by simp; omega)]
    exact none_

variable {urls : List (String × String)} {s s' : PeerCollector} {event : PeerEvent}

theorem answered_step (answered : Answered results s.tasks)
    (stepped : PeerCollector.step urls s event = some s') :
    Answered (fun i => (results i).or (event.result? i)) s'.tasks := by
  have quiet : ∀ j, (∀ k result, event ≠ .lookedUp k result) →
      (results j).or (event.result? j) = results j := by
    intro j other
    cases event with
    | lookedUp k result => exact absurd rfl (other k result)
    | _ => exact Option.or_none
  cases PeerCollector.step_cases stepped with
  | stop | due | early | replaced | refused | known | enriched | join =>
    intro j
    dsimp only
    rw [quiet j (by simp)]
    exact answered j
  | @polled round =>
    have kept : (s.finishPoll urls round).tasks = s.tasks := by
      unfold PeerCollector.finishPoll
      cases round.merged <;> rfl
    intro j
    dsimp only
    rw [quiet j (by simp), kept]
    exact answered j
  | spawned =>
    intro j
    dsimp only
    rw [quiet j (by simp)]
    exact answered.push j
  | @lookup i ip found | @write i ip entry found | @remove i ip found =>
    have own := answered i
    rw [found] at own
    refine answered.set found ?_ fun j _ => quiet j (by simp)
    rw [quiet i (by simp)]
    exact own
  | @written i ip entry answer found =>
    have own := answered i
    rw [found] at own
    obtain ⟨given, at_, -⟩ := own
    refine answered.set found ?_ fun j _ => quiet j (by simp)
    rw [quiet i (by simp), at_]
    rfl
  | @lookedUp i ip result found =>
    have own : results i = none := by
      have own := answered i
      rw [found] at own
      exact own
    refine answered.set found ?_ fun j other => ?_
    · refine ⟨result, ?_, rfl⟩
      simp [own, PeerEvent.result?]
    · simp [PeerEvent.result?, Ne.symm other]

end

namespace PeerGeoSystem

variable {urls : List (String × String)} {kept : Tables} {s s' : PeerGeoSystem} {event : SystemEvent}
  {events : List SystemEvent}

/-- Every entry that a task writes is made of what the task was answered. -/
theorem answered_run (ran : run urls kept events = some s) :
    Answered (resultOf events) s.collector.tasks := by
  refine Lts.run_invariant (I := fun events s => Answered (resultOf events) s.collector.tasks) ?_ ?_ ran
  · intro i
    rw [List.getElem?_nil]
    rfl
  · intro events before event after answered stepped
    have grown : resultOf (events ++ [event]) = fun i => (resultOf events i).or (event.result? i) := by
      funext i
      rw [resultOf_append, resultOf_singleton]
    rw [grown]
    cases event with
    | collector event => exact answered_step answered (step_collector stepped).2.1
    | replace outcome =>
      obtain ⟨ips, -, -, moved⟩ := step_replace stepped
      exact answered_step answered moved
    | update i outcome =>
      obtain ⟨ip, entry, -, -, moved⟩ := step_update stepped
      exact answered_step answered moved

/-! ## The answers in the store -/

/-- An answer of IPinfo about an IP, and the time of the write. -/
structure StoredAnswer where
  ip : String
  result : LookupResult
  now : UnixSeconds

def StoredAnswer.written (answer : StoredAnswer) : Geo.Written :=
  (buildLocationEntry answer.ip answer.result, answer.now)

def StoredAnswer.found? (answer : StoredAnswer) : Option IpInfoEntry :=
  match answer.result with
  | .ok found => found
  | .error _ => none

/-- The answer that a step of a run stores. -/
def storedAnswer (events : List SystemEvent) : PeerGeoSystem × SystemEvent → Option StoredAnswer
  | (s, .update i (.ok now)) =>
    (s.collector.tasks[i]?).bind fun task => (resultOf events i).map fun result => ⟨task.ip, result, now⟩
  | _ => none

/-- The answers about an IP that have been stored, oldest first. -/
def storedAnswers (urls : List (String × String)) (kept : Tables) (events : List SystemEvent)
    (ip : String) : List StoredAnswer :=
  ((Lts.visited (step urls) { tables := kept } events).filterMap (storedAnswer events)).filter
    (·.ip = ip)

/-- One write is one answer, and later events change nothing of that. -/
theorem written_step (ran : run urls kept events = some s) (stepped : step urls s event = some s')
    (later : List SystemEvent) (ip : String) :
    Geo.writtenFor ip (storeWrite (s, event)).toList =
      ((storedAnswer (events ++ event :: later) (s, event)).toList.filter (·.ip = ip)).map
        StoredAnswer.written := by
  cases event with
  | collector event => rfl
  | replace outcome =>
    cases outcome with
    | error err => rfl
    | ok now =>
      show Geo.writtenFor ip
        (s.collector.replacing?.map (StoreWrite.replacePeerSnapshot · now)).toList = []
      cases s.collector.replacing? <;> rfl
  | update i outcome =>
    obtain ⟨task, entry, calling, -⟩ := step_update stepped
    cases outcome with
    | error err => rfl
    | ok now =>
      have fits := answered_run ran i
      rw [calling] at fits
      obtain ⟨given, at_, rfl⟩ := fits
      have same : resultOf (events ++ SystemEvent.update i (.ok now) :: later) i = some given := by
        rw [resultOf_append, at_]
        rfl
      simp only [storeWrite, storedAnswer, calling, same, Option.bind_some, Option.map_some,
        Option.toList_some, Geo.writtenFor, List.flatMap_cons, List.flatMap_nil, List.append_nil,
        StoreWrite.writtenFor, batchFor]
      by_cases own : task = ip
      · simp [own, StoredAnswer.written]
      · simp [own]

theorem writtenFor_storeWrites (ran : run urls kept events = some s) (ip : String) :
    Geo.writtenFor ip (storeWrites urls kept events) =
      (storedAnswers urls kept events ip).map StoredAnswer.written := by
  -- the answers are looked up in the whole trace, so the induction is over its prefixes
  have prefixes : ∀ later, Geo.writtenFor ip (storeWrites urls kept events) =
      (((Lts.visited (step urls) { tables := kept } events).filterMap
        (storedAnswer (events ++ later))).filter (·.ip = ip)).map StoredAnswer.written := by
    induction events using List.reverseRecOn generalizing s with
    | nil => exact fun _ => rfl
    | append_singleton events event ih =>
      obtain ⟨before, begun, stepped⟩ := Lts.run_snoc_split ran
      intro later
      have last := written_step begun stepped later ip
      rw [storeWrites_snoc begun, Lts.visited_snoc event begun, List.filterMap_append,
        List.filter_append, List.map_append, List.append_assoc, List.singleton_append]
      rw [Geo.writtenFor, List.flatMap_append]
      exact congrArg₂ (· ++ ·) (ih begun (event :: later)) last
  have all := prefixes []
  rw [List.append_nil] at all
  exact all

theorem error_written (answer : StoredAnswer) :
    answer.written.1.error.isNone = answer.found?.isSome := by
  obtain ⟨ip, result, now⟩ := answer
  rcases result with err | _ | entry <;> rfl

/-- The answers about an IP that had something to say. -/
def successes (urls : List (String × String)) (kept : Tables) (events : List SystemEvent)
    (ip : String) : List StoredAnswer :=
  (storedAnswers urls kept events ip).filter (·.found?.isSome)

/-- What the last of these said. -/
def located (urls : List (String × String)) (kept : Tables) (events : List SystemEvent) (ip : String) :
    Option IpInfoEntry :=
  (successes urls kept events ip).getLast?.bind StoredAnswer.found?

/-- The row kept from an earlier run, or a blank one. -/
def keptRow (kept : Tables) (ip : String) : LocationRow :=
  (kept.locationCache.lookup ip).getD ⟨"", "", 0, ""⟩

/-- Once an answer is stored a row is the last success, or else the row that was kept, with the error
of the last answer. -/
theorem lookup_located (ran : run urls kept events = some s) (ip : String) :
    s.tables.locationCache.lookup ip =
      (storedAnswers urls kept events ip).getLast?.elim (kept.locationCache.lookup ip) fun last => some
        { country := (located urls kept events ip).elim (keptRow kept ip).country (·.country.getD "")
          loc := (located urls kept events ip).elim (keptRow kept ip).loc (·.loc.getD "")
          refreshedAt := (successes urls kept events ip).getLast?.elim (keptRow kept ip).refreshedAt
            (·.now.seconds)
          lastError := last.written.1.error.getD "" } := by
  have found : ∀ answer ∈ (successes urls kept events ip).getLast?, ∃ entry,
      answer.found? = some entry ∧
        answer.written.1 = locationSuccess answer.ip entry.country entry.loc := by
    intro answer mem
    obtain ⟨-, success⟩ := List.mem_filter.mp (List.mem_of_getLast? mem)
    obtain ⟨ip, result, now⟩ := answer
    rcases result with err | _ | entry
    · cases success
    · cases success
    · exact ⟨entry, rfl, rfl⟩
  have same : (storedAnswers urls kept events ip).filter ((·.1.error.isNone) ∘ StoredAnswer.written) =
      successes urls kept events ip := List.filter_congr fun answer _ => error_written answer
  rw [lookup_locationCache ran, writtenFor_storeWrites ran, rowAfter, List.filter_map, same,
    List.getLast?_map, List.getLast?_map]
  unfold located keptRow
  generalize (successes urls kept events ip).getLast? = success at found
  cases (storedAnswers urls kept events ip).getLast? with
  | none => rfl
  | some last =>
    cases success with
    | none => rfl
    | some answer =>
      obtain ⟨entry, at_, success⟩ := found answer rfl
      have time : answer.written.2 = answer.now := rfl
      simp [at_, success, locationSuccess, time]

/-! ## Whatever IPinfo answers -/

/-- Every lookup is one of IPinfo. -/
def FromIpInfo (fromStr : String → Except String Json.Value) (events : List SystemEvent) : Prop :=
  ∀ i result, .collector (.lookedUp i result) ∈ events → ∃ answer, result = lookup fromStr answer

theorem mem_of_resultOf {i : Nat} {result : LookupResult} (given : resultOf events i = some result) :
    .collector (.lookedUp i result) ∈ events := by
  obtain ⟨event, mem, given⟩ := List.exists_of_findSome?_eq_some given
  cases event with
  | replace | update => cases given
  | collector event =>
    cases event with
    | lookedUp j other =>
      simp only [SystemEvent.result?, PeerEvent.result?] at given
      split at given
      case isFalse => cases given
      case isTrue same =>
        cases given
        subst same
        exact mem
    | _ => cases given

theorem wellFormed_located {fromStr : String → Except String Json.Value}
    (from_ : FromIpInfo fromStr events) {ip : String} {entry : IpInfoEntry}
    (found : located urls kept events ip = some entry) : entry.WellFormed := by
  obtain ⟨answer, last, found⟩ := Option.bind_eq_some_iff.mp found
  have stored := (List.mem_filter.mp (List.mem_filter.mp (List.mem_of_getLast? last)).1).1
  obtain ⟨⟨before, event⟩, -, stored⟩ := List.mem_filterMap.mp stored
  unfold storedAnswer at stored
  split at stored
  case h_2 => cases stored
  case h_1 i now _ =>
    obtain ⟨task, -, stored⟩ := Option.bind_eq_some_iff.mp stored
    obtain ⟨result, given, rfl⟩ := Option.map_eq_some_iff.mp stored
    obtain ⟨sent, rfl⟩ := from_ i result (mem_of_resultOf given)
    cases looked : lookup fromStr sent with
    | error err => simp [StoredAnswer.found?, looked] at found
    | ok found? =>
      simp only [StoredAnswer.found?, looked] at found
      subst found
      exact wellFormed_lookup looked

/-- A country code or nothing, and coordinates or nothing. -/
structure RowWellFormed (row : LocationRow) : Prop where
  country : row.country = "" ∨ IsCountryCode row.country
  loc : row.loc = "" ∨ IsLocation row.loc

theorem eq_empty_or_of_forall {p : String → Prop} {text : Option String}
    (all : ∀ t, text = some t → p t) : text.getD "" = "" ∨ p (text.getD "") := by
  cases text with
  | none => exact .inl rfl
  | some t => exact .inr (all t rfl)

/-- Until an answer about an IP is stored its row is the one that was kept, if any. From then on it
has a row, which tells the last answer that had something to say, or else what was kept, and the
error of the last answer of all. Rows are and stay well formed. -/
theorem location_rows {fromStr : String → Except String Json.Value}
    (from_ : FromIpInfo fromStr events) (ran : run urls kept events = some s) (ip : String) :
    (storedAnswers urls kept events ip = [] →
      s.tables.locationCache.lookup ip = kept.locationCache.lookup ip) ∧
    (∀ last ∈ (storedAnswers urls kept events ip).getLast?, ∃ row,
      s.tables.locationCache.lookup ip = some row ∧
      row.country = (located urls kept events ip).elim (keptRow kept ip).country (·.country.getD "") ∧
      row.loc = (located urls kept events ip).elim (keptRow kept ip).loc (·.loc.getD "") ∧
      row.refreshedAt = (successes urls kept events ip).getLast?.elim (keptRow kept ip).refreshedAt
        (·.now.seconds) ∧
      row.lastError = ((buildLocationEntry ip last.result).error).getD "") ∧
    ((∀ row ∈ kept.locationCache.lookup ip, RowWellFormed row) →
      ∀ row ∈ s.tables.locationCache.lookup ip, RowWellFormed row) := by
  have row_ := lookup_located ran ip
  refine ⟨fun none_ => ?_, fun last isLast => ?_, fun before row at_ => ?_⟩
  · rw [row_, none_]
    rfl
  · rw [Option.mem_def.mp isLast] at row_
    refine ⟨_, row_, rfl, rfl, rfl, ?_⟩
    obtain ⟨-, own⟩ := List.mem_filter.mp (List.mem_of_getLast? isLast)
    dsimp only
    rw [StoredAnswer.written, of_decide_eq_true own]
  · have blank : RowWellFormed (keptRow kept ip) := by
      unfold keptRow
      cases there : kept.locationCache.lookup ip with
      | none => exact ⟨.inl rfl, .inl rfl⟩
      | some old => exact before old there
    rw [row_] at at_
    cases isLast : (storedAnswers urls kept events ip).getLast? with
    | none =>
      rw [isLast] at at_
      exact before row at_
    | some last =>
      rw [isLast] at at_
      obtain rfl := Option.some.inj at_
      cases found : located urls kept events ip with
      | none => exact ⟨blank.country, blank.loc⟩
      | some entry =>
        have wellFormed := wellFormed_located from_ found
        exact ⟨eq_empty_or_of_forall wellFormed.country, eq_empty_or_of_forall wellFormed.loc⟩

/-- A reader that knows one body. -/
def readOne (body : String) : Except String Json.Value :=
  if body = "\x7b\"country\": \" cn \"\x7d" then .ok (.object [("country", .string " cn ")])
  else .error "expected value at line 1 column 1"

def answers : List HttpAnswer :=
  [.response 200 "OK" (.ok "\x7b\"country\": \" cn \"\x7d"), .response 429 "Too Many Requests" (.ok "")]

/-- Two peers are found, one of which IPinfo refuses to look up. -/
def twoLookups : List SystemEvent :=
  [.collector (.tick 0), .collector (.polled [.ok [peer "1.1.1.1:30303", peer "[2001:db8::1]:30303"]]),
    .replace (.ok noon), .collector .enrich, .collector .enrich, .collector (.lookup 1),
    .collector (.lookup 0)] ++
  (answers.zipIdx.flatMap fun (answer, i) => [.collector (.lookedUp i (lookup readOne answer)),
    .collector (.write i), .update i (.ok noon)])

theorem twoLookups_fromIpInfo : FromIpInfo readOne twoLookups := by
  intro i result mem
  simp [twoLookups, answers] at mem
  rcases mem with ⟨-, rfl⟩ | ⟨-, rfl⟩
  · exact ⟨_, rfl⟩
  · exact ⟨_, rfl⟩

/-- Both were located by an earlier run, which saw another peer, too. -/
def keptLocations : Tables where
  currentPeers := (∅ : Dictionary String Int).insert "9.9.9.9" 0
  locationCache := keptTables.locationCache.insert "2001:db8::1" ⟨"NZ", "", 0, ""⟩

theorem location_rows_twoLookups :
    ∃ s : PeerGeoSystem, run [("node", "ws://node")] keptLocations twoLookups = some s ∧
    (∃ row, s.tables.locationCache.lookup "1.1.1.1" = some row ∧ row.country = "CN" ∧
      row.lastError = "") ∧
    ∃ row, s.tables.locationCache.lookup "2001:db8::1" = some row ∧ row.country = "NZ" ∧
      row.lastError ≠ "" := by
  obtain ⟨s, ran⟩ : ∃ s : PeerGeoSystem,
    run [("node", "ws://node")] keptLocations twoLookups = some s := ⟨_, rfl⟩
  obtain ⟨-, first, -⟩ := location_rows twoLookups_fromIpInfo ran "1.1.1.1"
  obtain ⟨-, second, -⟩ := location_rows twoLookups_fromIpInfo ran "2001:db8::1"
  obtain ⟨row₁, at₁, country₁, -, -, error₁⟩ := first _ rfl
  obtain ⟨row₂, at₂, country₂, -, -, error₂⟩ := second _ rfl
  refine ⟨s, ran, ⟨row₁, at₁, country₁, error₁⟩, row₂, at₂, country₂, ?_⟩
  rw [error₂]
  decide

/-! ## The view -/

/-- The last round polled, and the last one whose peers the store has taken. -/
def track (tracked : Option Round × Option Round) : SystemEvent → Option Round × Option Round
  | .collector (.polled round) => (some round, tracked.2)
  | .replace (.ok _) => (tracked.1, tracked.1)
  | _ => tracked

def tracked (events : List SystemEvent) : Option Round × Option Round := events.foldl track (none, none)

def displayed : IpAddr ↪ String := ⟨_, IpAddr.display_injective⟩

/-- The peers of the last round that was stored, or before the first one those that were kept. -/
def shownPeers (kept : Tables) (events : List SystemEvent) : Finset String :=
  (tracked events).2.elim kept.currentPeers.keys.toFinset fun round =>
    round.addresses.toFinset.map displayed

/-- The store holds the peers of the last round that it has taken, and the round before the
call is the one whose peers are handed over. -/
structure Tracks (kept : Tables) (events : List SystemEvent) (s : PeerGeoSystem) : Prop where
  replacing : ∀ ips, s.collector.replacing? = some ips →
    ∃ round, (tracked events).1 = some round ∧ round.merged = some ips
  peers : ∀ ip, ip ∈ s.tables.currentPeers ↔ ip ∈ shownPeers kept events

theorem tracked_snoc (events : List SystemEvent) (event : SystemEvent) :
    tracked (events ++ [event]) = track (tracked events) event := by
  unfold tracked
  rw [List.foldl_append]
  rfl

theorem mem_displayed_of_merged {round : Round} {ips : List String} (merged : round.merged = some ips)
    (text : String) : text ∈ ips ↔ text ∈ round.addresses.toFinset.map displayed := by
  rw [merged_eq] at merged
  split at merged <;> cases merged
  simp [Sorting.mem_sortDedup, displayed]

theorem tracks_step (tracks : Tracks kept events s) (stepped : step urls s event = some s') :
    Tracks kept (events ++ [event]) s' := by
  cases event with
  | collector event =>
    obtain ⟨own, moved, tables⟩ := step_collector stepped
    by_cases polled : ∃ round, event = .polled round
    · obtain ⟨round, rfl⟩ := polled
      obtain ⟨-, -, finished⟩ := PeerCollector.step_polled moved
      constructor
      · intro ips replacing
        refine ⟨round, by rw [tracked_snoc]; rfl, ?_⟩
        rw [finished] at replacing
        unfold PeerCollector.finishPoll at replacing
        cases merged : round.merged with
        | none => simp [merged, PeerCollector.replacing?] at replacing
        | some found => simpa [merged, PeerCollector.replacing?] using replacing
      · rw [tables, shownPeers, tracked_snoc]
        exact tracks.peers
    · have notReplaced : ∀ answer, event ≠ .replaced answer := by
        rintro answer rfl
        cases own
      obtain ⟨-, replacing⟩ := PeerCollector.step_replaces moved
        (fun round same => polled ⟨round, same⟩) notReplaced
      have same : track (tracked events) (.collector event) = tracked events := by
        cases event with
        | polled round => exact absurd ⟨round, rfl⟩ polled
        | _ => rfl
      constructor
      · rw [replacing, tracked_snoc, same]
        exact tracks.replacing
      · rw [tables, shownPeers, tracked_snoc, same]
        exact tracks.peers
  | replace outcome =>
    obtain ⟨ips, replacing, tables, moved⟩ := step_replace stepped
    obtain ⟨-, idle⟩ := PeerCollector.step_replaced moved
    constructor
    · intro ips' same
      rw [idle] at same
      cases same
    · cases outcome with
      | error err =>
        rw [tables, shownPeers, tracked_snoc]
        exact tracks.peers
      | ok now =>
        obtain ⟨after, called, peers, -⟩ := replaceCall_ok s.tables ips now
        obtain ⟨round, last, merged⟩ :=
          tracks.replacing ips (by simp [PeerCollector.replacing?, replacing])
        intro ip
        rw [tables, called, peers, mem_displayed_of_merged merged, shownPeers, tracked_snoc]
        simp only [track, last, Option.elim_some]
  | update i outcome =>
    obtain ⟨ip, entry, -, tables, moved⟩ := step_update stepped
    obtain ⟨-, replacing⟩ := PeerCollector.step_replaces moved (by simp) (by simp)
    constructor
    · rw [replacing, tracked_snoc]
      exact tracks.replacing
    · rw [tables, currentPeers_updateCall, shownPeers, tracked_snoc]
      exact tracks.peers

theorem tracks_run (ran : run urls kept events = some s) : Tracks kept events s := by
  refine Lts.run_invariant (I := fun events s => Tracks kept events s) ?_ ?_ ran
  · refine ⟨fun ips same => by simp [PeerCollector.replacing?] at same, fun ip => ?_⟩
    exact AList.mem_keys.trans List.mem_toFinset.symm
  · exact fun _ _ _ _ tracks stepped => tracks_step tracks stepped

/-- The country that the last successful lookup of an IP has given, or else that of its kept row. -/
def countryAt (urls : List (String × String)) (kept : Tables) (events : List SystemEvent)
    (ip : String) : Option String :=
  (located urls kept events ip).elim
    ((kept.locationCache.lookup ip).bind fun row => normalizeCountryCode row.country) (·.country)

/-- The rows of the query behind the view. -/
def viewRows (tables : Tables) : List (String × String) :=
  (tables.currentPeers.keys.insertionSort (· ≤ ·)).map fun ip =>
    (ip, ((tables.locationCache.lookup ip).map (·.country)).getD "")

theorem ipsOf_viewRows (ran : run urls kept events = some s) :
    ipsOf (viewRows s.tables) = shownPeers kept events := by
  ext ip
  rw [← (tracks_run ran).peers, AList.mem_keys]
  simp [ipsOf, viewRows]

theorem normalizeCountryCode_getD {text : Option String}
    (codes : ∀ code, text = some code → IsCountryCode code) :
    normalizeCountryCode (text.getD "") = text := by
  cases text with
  | none => decide
  | some code => exact normalizeCountryCode_of_isCountryCode (codes code rfl)

theorem countryOf_viewRows {fromStr : String → Except String Json.Value}
    (from_ : FromIpInfo fromStr events) (ran : run urls kept events = some s) {ip : String}
    (mem : ip ∈ shownPeers kept events) :
    countryOf (viewRows s.tables) ip = countryAt urls kept events ip := by
  have listed : ip ∈ s.tables.currentPeers.keys.insertionSort (· ≤ ·) := by
    rw [List.mem_insertionSort, ← AList.mem_keys]
    exact ((tracks_run ran).peers ip).mpr mem
  have blank : normalizeCountryCode "" = none := by decide
  unfold countryOf viewRows
  rw [List.lookup_graph _ listed, Option.bind_some, lookup_located ran, countryAt]
  cases found : located urls kept events ip with
  | none =>
    unfold keptRow
    cases (storedAnswers urls kept events ip).getLast? <;>
      cases kept.locationCache.lookup ip <;> simp [blank]
  | some entry =>
    obtain ⟨answer, last, -⟩ := Option.bind_eq_some_iff.mp found
    have some_ : storedAnswers urls kept events ip ≠ [] := by
      intro none_
      simp [successes, none_] at last
    rw [List.getLast?_eq_some_getLast some_]
    exact normalizeCountryCode_getD (wellFormed_located from_ found).country

theorem card_peersOf_viewRows {fromStr : String → Except String Json.Value}
    (from_ : FromIpInfo fromStr events) (ran : run urls kept events = some s)
    (country : Option String) : (peersOf (viewRows s.tables) country).card =
      ((shownPeers kept events).filter (countryAt urls kept events · = country)).card := by
  unfold peersOf
  rw [ipsOf_viewRows ran]
  refine congrArg Finset.card (Finset.filter_congr fun ip mem => ?_)
  rw [countryOf_viewRows from_ ran mem]

/-- The view counts the peers of the last round that was stored, or those that were kept, each once
and under the country that its last successful lookup has given, or that of its kept row. -/
theorem view_located {fromStr : String → Except String Json.Value}
    (from_ : FromIpInfo fromStr events) (ran : run urls kept events = some s) :
    (buildGeoViewSnapshot s.tables).totalPeers = (shownPeers kept events).card ∧
    (∀ entry, entry ∈ (buildGeoViewSnapshot s.tables).countryCounts ↔ 0 < entry.peerCount ∧
      entry.peerCount = ((shownPeers kept events).filter fun ip =>
        countryAt urls kept events ip = some entry.countryCode).card) ∧
    (buildGeoViewSnapshot s.tables).unknownCountryCount =
      ((shownPeers kept events).filter fun ip => countryAt urls kept events ip = none).card := by
  have counted := counted_foldl (viewRows s.tables)
  refine ⟨?_, fun entry => ?_, ?_⟩
  · show (assembleSnapshot (viewRows s.tables)).totalPeers = _
    rw [Geo.totalPeers_eq, ipsOf_viewRows ran]
  · show entry ∈ (assembleSnapshot (viewRows s.tables)).countryCounts ↔ _
    rw [mem_countryCounts, card_peersOf_viewRows from_ ran]
  · exact counted.unknown.trans (card_peersOf_viewRows from_ ran none)

/-- The peer that was kept is gone, the refused one keeps its country. -/
theorem view_located_twoLookups :
    ∃ s : PeerGeoSystem, run [("node", "ws://node")] keptLocations twoLookups = some s ∧
    (buildGeoViewSnapshot s.tables).totalPeers = 2 ∧
    ⟨"CN", 1⟩ ∈ (buildGeoViewSnapshot s.tables).countryCounts ∧
    ⟨"NZ", 1⟩ ∈ (buildGeoViewSnapshot s.tables).countryCounts ∧
    (buildGeoViewSnapshot s.tables).unknownCountryCount = 0 := by
  obtain ⟨s, ran⟩ : ∃ s : PeerGeoSystem,
    run [("node", "ws://node")] keptLocations twoLookups = some s := ⟨_, rfl⟩
  obtain ⟨total, counts, unknown⟩ := view_located twoLookups_fromIpInfo ran
  refine ⟨s, ran, ?_, ?_, ?_, ?_⟩
  · rw [total]
    decide
  · rw [counts]
    decide
  · rw [counts]
    decide
  · rw [unknown]
    decide

end PeerGeoSystem

end ChainDash.Collect
