import ChainDash.Geo.Addresses
import ChainDash.Geo.Tables
import ChainDash.Lib.Lts
import Mathlib.Data.Finset.Erase
import Mathlib.Data.Finset.Insert

/-!
# The peer-geo collector

`collect_peer_geo` polls the monitored nodes, replaces the peers in the store and spawns a
task for each IP that is to be looked up, unless one is under way: the IPs under way are
in a set that the loop and the tasks share. The loop and every task take their steps in
any order, with any answers of the nodes, of IPinfo and of the store; in every reachable
state the set fits the tasks (`enrichment_exclusive`).
-/

namespace ChainDash.Collect
set_option autoImplicit false

open Geo Net

structure IpInfoEntry where
  ip : String
  country : Option String
  loc : Option String

/-- `LocationEntry::success`. -/
def locationSuccess (ip : String) (country loc : Option String) : LocationEntry :=
  { ip, country, loc, error := none }

/-- `LocationEntry::failed`. -/
def locationFailed (ip error : String) : LocationEntry :=
  { ip, country := none, loc := none, error := some error }

def buildLocationEntry (ip : String) (lookup : Except String (Option IpInfoEntry)) : LocationEntry :=
  match lookup with
  | .ok (some entry) => locationSuccess ip entry.country entry.loc
  | .ok none => locationFailed ip "ipinfo returned no usable location data"
  | .error err => locationFailed ip err

@[simp] theorem ip_buildLocationEntry (ip : String) (lookup : Except String (Option IpInfoEntry)) :
    (buildLocationEntry ip lookup).ip = ip := by
  rcases lookup with err | _ | entry <;> rfl

/-- In nanoseconds. -/
def peerPollInterval : Nat := 60 * 10 ^ 9

/-- `poll_due`, with the time of the next poll if one is due now. -/
def pollDue (elapsed nextPoll : Nat) : Option Nat :=
  if elapsed < nextPoll then none else some (elapsed + peerPollInterval)

/-- `ip.parse::<IpAddr>().map(is_enrichable).unwrap_or(false)`. -/
def isEnrichableText (ip : String) : Bool := ((IpAddr.parse ip).map isEnrichable).getD false

/-- Where an enrichment task stands. -/
inductive TaskPhase where
  | spawned
  | lookingUp
  | writing (entry : LocationEntry)
  | calling (entry : LocationEntry)
  | removing
  | finished

def TaskPhase.isFinished : TaskPhase → Bool
  | .finished => true
  | _ => false

structure EnrichmentTask where
  ip : String
  phase : TaskPhase := .spawned

/-- Where the loop stands: `enriching` holds the IPs that it has still to go through. -/
inductive CollectorPhase where
  | ticking
  | polling
  | replacing (ips : List String)
  | enriching (ips : List String)
  | draining
  | returned

/-- The loop and its tasks, in the order in which they were spawned. `replaces` and
`updates` log the calls of the store, the latter with the number of the task. -/
structure PeerCollector where
  phase : CollectorPhase := .ticking
  nextPoll : Nat := 0
  pending : Finset String := ∅
  tasks : List EnrichmentTask := []
  replaces : List (List String) := []
  updates : List (Nat × List LocationEntry) := []
  warnings : List String := []

inductive PeerEvent where
  /-- The stop flag is seen. -/
  | stop
  | tick (elapsed : Nat)
  /-- All nodes have been asked, one after the other; the warnings about them are logged
  together. -/
  | polled (round : Round)
  | replaced (answer : Except String (List String))
  | enrich
  | lookup (task : Nat)
  | lookedUp (task : Nat) (result : Except String (Option IpInfoEntry))
  | write (task : Nat)
  | written (task : Nat) (answer : Except String Unit)
  | remove (task : Nat)
  /-- `join_next` has returned all tasks. -/
  | join

namespace PeerCollector

def warn (s : PeerCollector) (message : String) : PeerCollector :=
  { s with warnings := s.warnings ++ [message] }

def setTask (s : PeerCollector) (i : Nat) (task : EnrichmentTask) : PeerCollector :=
  { s with tasks := s.tasks.set i task }

/-- One status warning for each node that failed. -/
def pollWarnings (urls : List (String × String)) (round : Round) : List String :=
  (urls.zip round).filterMap fun
    | (url, .error err) => some ("admin_peers failed for " ++ url.1 ++ ": " ++ err)
    | (_, .ok _) => none

/-- `match fetch_admin_peers_ips …` for all nodes and `merge_node_results`. -/
def finishPoll (urls : List (String × String)) (s : PeerCollector) (round : Round) : PeerCollector :=
  let s := { s with warnings := s.warnings ++ pollWarnings urls round }
  match round.merged with
  | some ips => { s with phase := .replacing ips, replaces := s.replaces ++ [ips] }
  | none => { s with phase := .ticking }

/-- `pending.insert(ip)`, and the spawn if it was not in there. -/
def spawn (s : PeerCollector) (ip : String) : PeerCollector :=
  if ip ∈ s.pending then s
  else { s with pending := insert ip s.pending, tasks := s.tasks ++ [⟨ip, .spawned⟩] }

def step (urls : List (String × String)) (s : PeerCollector) (event : PeerEvent) :
    Option PeerCollector :=
  match event with
  | .stop =>
    match s.phase with
    | .ticking => some { s with phase := .draining }
    | _ => none
  | .tick elapsed =>
    match s.phase with
    | .ticking =>
      match pollDue elapsed s.nextPoll with
      | some nextPoll => some { s with phase := .polling, nextPoll }
      | none => some s
    | _ => none
  | .polled round =>
    match s.phase with
    | .polling => if round.length = urls.length then some (s.finishPoll urls round) else none
    | _ => none
  | .replaced answer =>
    match s.phase, answer with
    | .replacing _, .ok needs => some { s with phase := .enriching (needs.filter isEnrichableText) }
    | .replacing _, .error err =>
      some ({ s with phase := .ticking }.warn ("peer snapshot store write failed: " ++ err))
    | _, _ => none
  | .enrich =>
    match s.phase with
    | .enriching (ip :: rest) => some ({ s with phase := .enriching rest }.spawn ip)
    | .enriching [] => some { s with phase := .ticking }
    | _ => none
  | .lookup i =>
    match s.tasks[i]? with
    | some ⟨ip, .spawned⟩ => some (s.setTask i ⟨ip, .lookingUp⟩)
    | _ => none
  | .lookedUp i result =>
    match s.tasks[i]? with
    | some ⟨ip, .lookingUp⟩ =>
      let entry := buildLocationEntry ip result
      let s := s.setTask i ⟨ip, .writing entry⟩
      match entry.error with
      | some error => some (s.warn ("IPinfo enrichment failed for " ++ ip ++ ": " ++ error))
      | none => some s
    | _ => none
  | .write i =>
    match s.tasks[i]? with
    | some ⟨ip, .writing entry⟩ =>
      some { s.setTask i ⟨ip, .calling entry⟩ with updates := s.updates ++ [(i, [entry])] }
    | _ => none
  | .written i answer =>
    match s.tasks[i]? with
    | some ⟨ip, .calling _⟩ =>
      let s := s.setTask i ⟨ip, .removing⟩
      match answer with
      | .error err => some (s.warn ("location cache store write failed: " ++ err))
      | .ok () => some s
    | _ => none
  | .remove i =>
    match s.tasks[i]? with
    | some ⟨ip, .removing⟩ =>
      some { s.setTask i ⟨ip, .finished⟩ with pending := s.pending.erase ip }
    | _ => none
  | .join =>
    match s.phase with
    | .draining => if s.tasks.all (·.phase.isFinished) then some { s with phase := .returned } else none
    | _ => none

def run (urls : List (String × String)) (events : List PeerEvent) : Option PeerCollector :=
  Lts.run (step urls) {} events

/-! ## What a step can do -/

inductive Stepped (urls : List (String × String)) (s : PeerCollector) :
    PeerEvent → PeerCollector → Prop where
  | stop (phase : s.phase = .ticking) : Stepped urls s .stop { s with phase := .draining }
  | due {elapsed nextPoll : Nat} (phase : s.phase = .ticking)
      (due : pollDue elapsed s.nextPoll = some nextPoll) :
      Stepped urls s (.tick elapsed) { s with phase := .polling, nextPoll }
  | early {elapsed : Nat} (phase : s.phase = .ticking) (early : pollDue elapsed s.nextPoll = none) :
      Stepped urls s (.tick elapsed) s
  | polled {round : Round} (phase : s.phase = .polling) (all : round.length = urls.length) :
      Stepped urls s (.polled round) (s.finishPoll urls round)
  | replaced {ips needs : List String} (phase : s.phase = .replacing ips) :
      Stepped urls s (.replaced (.ok needs))
        { s with phase := .enriching (needs.filter isEnrichableText) }
  | refused {ips : List String} {err : String} (phase : s.phase = .replacing ips) :
      Stepped urls s (.replaced (.error err))
        ({ s with phase := .ticking }.warn ("peer snapshot store write failed: " ++ err))
  | known {ip : String} {rest : List String} (phase : s.phase = .enriching (ip :: rest))
      (known : ip ∈ s.pending) : Stepped urls s .enrich { s with phase := .enriching rest }
  | spawned {ip : String} {rest : List String} (phase : s.phase = .enriching (ip :: rest))
      (fresh : ip ∉ s.pending) : Stepped urls s .enrich { s with
        phase := .enriching rest
        pending := insert ip s.pending
        tasks := s.tasks ++ [⟨ip, .spawned⟩] }
  | enriched (phase : s.phase = .enriching []) : Stepped urls s .enrich { s with phase := .ticking }
  | lookup {i : Nat} {ip : String} (found : s.tasks[i]? = some ⟨ip, .spawned⟩) :
      Stepped urls s (.lookup i) (s.setTask i ⟨ip, .lookingUp⟩)
  | lookedUp {i : Nat} {ip : String} {result : Except String (Option IpInfoEntry)}
      (found : s.tasks[i]? = some ⟨ip, .lookingUp⟩) : Stepped urls s (.lookedUp i result)
        { s.setTask i ⟨ip, .writing (buildLocationEntry ip result)⟩ with
          warnings := s.warnings ++ ((buildLocationEntry ip result).error.map fun error =>
            "IPinfo enrichment failed for " ++ ip ++ ": " ++ error).toList }
  | write {i : Nat} {ip : String} {entry : LocationEntry}
      (found : s.tasks[i]? = some ⟨ip, .writing entry⟩) : Stepped urls s (.write i)
        { s.setTask i ⟨ip, .calling entry⟩ with updates := s.updates ++ [(i, [entry])] }
  | written {i : Nat} {ip : String} {entry : LocationEntry} {answer : Except String Unit}
      (found : s.tasks[i]? = some ⟨ip, .calling entry⟩) : Stepped urls s (.written i answer)
        { s.setTask i ⟨ip, .removing⟩ with
          warnings := s.warnings ++ match answer with
            | .error err => ["location cache store write failed: " ++ err]
            | .ok () => [] }
  | remove {i : Nat} {ip : String} (found : s.tasks[i]? = some ⟨ip, .removing⟩) :
      Stepped urls s (.remove i) { s.setTask i ⟨ip, .finished⟩ with pending := s.pending.erase ip }
  | join (phase : s.phase = .draining) (all : s.tasks.all (·.phase.isFinished) = true) :
      Stepped urls s .join { s with phase := .returned }

variable {urls : List (String × String)} {s s' : PeerCollector} {event : PeerEvent}

theorem step_cases (stepped : step urls s event = some s') : Stepped urls s event s' := by
  cases event with
  | stop =>
    simp only [step] at stepped
    split at stepped <;> cases stepped
    case h_1 ticking => exact .stop ticking
  | tick elapsed =>
    simp only [step] at stepped
    split at stepped
    case h_2 => cases stepped
    case h_1 ticking =>
      split at stepped <;> cases stepped
      case h_1 due => exact .due ticking due
      case h_2 early => exact .early ticking early
  | polled round =>
    simp only [step] at stepped
    split at stepped
    case h_2 => cases stepped
    case h_1 polling =>
      split at stepped <;> cases stepped
      case isTrue all => exact .polled polling all
  | replaced answer =>
    simp only [step] at stepped
    split at stepped <;> cases stepped
    case h_1 replacing => exact .replaced replacing
    case h_2 replacing => exact .refused replacing
  | enrich =>
    simp only [step] at stepped
    split at stepped <;> cases stepped
    case h_1 ip rest enriching =>
      unfold spawn
      split
      case isTrue known => exact .known enriching known
      case isFalse fresh => exact .spawned enriching fresh
    case h_2 enriching => exact .enriched enriching
  | lookup i =>
    simp only [step] at stepped
    split at stepped <;> cases stepped
    case h_1 found => exact .lookup found
  | lookedUp i result =>
    simp only [step] at stepped
    split at stepped
    case h_2 => cases stepped
    case h_1 ip found =>
      have moved : Stepped urls s (.lookedUp i result) _ := .lookedUp found
      split at stepped <;> cases stepped
      case h_1 error failed => simpa [failed, warn, setTask] using moved
      case h_2 succeeded => simpa [succeeded, setTask] using moved
  | write i =>
    simp only [step] at stepped
    split at stepped <;> cases stepped
    case h_1 found => exact .write found
  | written i answer =>
    simp only [step] at stepped
    split at stepped
    case h_2 => cases stepped
    case h_1 ip entry found =>
      have moved : Stepped urls s (.written i answer) _ := .written found
      split at stepped <;> cases stepped
      · exact moved
      · simpa [setTask] using moved
  | remove i =>
    simp only [step] at stepped
    split at stepped <;> cases stepped
    case h_1 found => exact .remove found
  | join =>
    simp only [step] at stepped
    split at stepped
    case h_2 => cases stepped
    case h_1 draining =>
      split at stepped <;> cases stepped
      case isTrue all => exact .join draining all

/-! ## What a step can do to the tasks -/

/-- What has been written for an IP by a task in a phase. -/
def Written (ip : String) : TaskPhase → List (List LocationEntry) → Prop
  | .spawned, calls | .lookingUp, calls => calls = []
  | .writing entry, calls => calls = [] ∧ entry.ip = ip
  | .calling entry, calls => calls = [[entry]] ∧ entry.ip = ip
  | .removing, calls | .finished, calls => ∃ entry, calls = [[entry]] ∧ entry.ip = ip

/-- The store calls of a task. -/
def updatesOf (s : PeerCollector) (i : Nat) : List (List LocationEntry) :=
  (s.updates.filter (·.1 = i)).map (·.2)

/-- Either the loop moves on, or it spawns a task, or a task does its next step, or the
loop has joined all tasks. -/
inductive Moves (s : PeerCollector) : PeerCollector → Prop where
  | loop {s' : PeerCollector} (tasks : s'.tasks = s.tasks) (pending : s'.pending = s.pending)
      (updates : s'.updates = s.updates) (running : s'.phase ≠ .returned) : Moves s s'
  | spawn {s' : PeerCollector} {ip : String} (fresh : ip ∉ s.pending)
      (tasks : s'.tasks = s.tasks ++ [⟨ip, .spawned⟩]) (pending : s'.pending = insert ip s.pending)
      (updates : s'.updates = s.updates) (running : s'.phase ≠ .returned) : Moves s s'
  | task {s' : PeerCollector} {i : Nat} {ip : String} {phase phase' : TaskPhase}
      (calls : List (List LocationEntry)) (found : s.tasks[i]? = some ⟨ip, phase⟩)
      (live : phase ≠ .finished) (live' : phase' ≠ .finished)
      (tasks : s'.tasks = s.tasks.set i ⟨ip, phase'⟩)
      (pending : s'.pending = s.pending) (updates : s'.updates = s.updates ++ calls.map (i, ·))
      (written : ∀ before, Written ip phase before → Written ip phase' (before ++ calls))
      (same : s'.phase = s.phase) : Moves s s'
  | remove {s' : PeerCollector} {i : Nat} {ip : String} (found : s.tasks[i]? = some ⟨ip, .removing⟩)
      (tasks : s'.tasks = s.tasks.set i ⟨ip, .finished⟩) (pending : s'.pending = s.pending.erase ip)
      (updates : s'.updates = s.updates) (same : s'.phase = s.phase) : Moves s s'
  | join {s' : PeerCollector} (all : ∀ task ∈ s.tasks, task.phase = .finished)
      (returned : s' = { s with phase := .returned }) : Moves s s'

theorem isFinished_iff {phase : TaskPhase} : phase.isFinished = true ↔ phase = .finished := by
  cases phase <;> simp [TaskPhase.isFinished]

theorem step_moves (stepped : step urls s event = some s') : Moves s s' := by
  cases step_cases stepped with
  | stop | due | refused | replaced | known | enriched => exact .loop rfl rfl rfl (by simp [warn])
  | early phase => exact .loop rfl rfl rfl (by simp [phase])
  | @polled round =>
    unfold finishPoll
    cases round.merged with
    | some ips => exact .loop rfl rfl rfl (by simp)
    | none => exact .loop rfl rfl rfl (by simp)
  | spawned _ fresh => exact .spawn fresh rfl rfl rfl (by simp)
  | lookup found =>
    refine .task [] found (by simp) (by simp) rfl rfl (List.append_nil _).symm ?_ rfl
    intro before none_
    rwa [List.append_nil]
  | @lookedUp i ip result found =>
    refine .task [] found (by simp) (by simp) rfl rfl (List.append_nil _).symm ?_ rfl
    intro before none_
    rw [List.append_nil]
    exact ⟨none_, ip_buildLocationEntry ip result⟩
  | write found =>
    refine .task [_] found (by simp) (by simp) rfl rfl rfl ?_ rfl
    rintro before ⟨rfl, same⟩
    exact ⟨rfl, same⟩
  | @written i ip entry answer found =>
    refine .task [] found (by simp) (by simp) rfl rfl (List.append_nil _).symm ?_ rfl
    rintro before ⟨called, same⟩
    rw [List.append_nil]
    exact ⟨entry, called, same⟩
  | remove found => exact .remove found rfl rfl rfl rfl
  | join _ all =>
    refine .join ?_ rfl
    intro task mem
    exact isFinished_iff.mp (List.all_eq_true.mp all task mem)

/-! ## Exclusive enrichment -/

/-- The set holds the IPs of the tasks that are still to remove theirs, each task its own;
a task has written what its phase says, and after the loop there is nothing left to do. -/
structure Exclusive (s : PeerCollector) : Prop where
  pending : ∀ ip, ip ∈ s.pending ↔ ∃ task ∈ s.tasks, task.ip = ip ∧ task.phase ≠ .finished
  distinct : ∀ (i j : Nat) (a b : EnrichmentTask), s.tasks[i]? = some a → s.tasks[j]? = some b →
    a.phase ≠ .finished → b.phase ≠ .finished → a.ip = b.ip → i = j
  written : ∀ (i : Nat) (task : EnrichmentTask), s.tasks[i]? = some task →
    Written task.ip task.phase (s.updatesOf i)
  owned : ∀ call ∈ s.updates, call.1 < s.tasks.length
  returned : s.phase = .returned → ∀ task ∈ s.tasks, task.phase = .finished

theorem mem_iff_getElem? {tasks : List EnrichmentTask} {P : EnrichmentTask → Prop} :
    (∃ task ∈ tasks, P task) ↔
      ∃ (i : Nat) (task : EnrichmentTask), tasks[i]? = some task ∧ P task := by
  simp only [List.mem_iff_getElem?]
  exact ⟨fun ⟨task, ⟨i, found⟩, holds⟩ => ⟨i, task, found, holds⟩,
    fun ⟨i, task, found, holds⟩ => ⟨task, ⟨i, found⟩, holds⟩⟩

theorem updatesOf_append {i j : Nat} {calls : List (List LocationEntry)}
    (updates : s'.updates = s.updates ++ calls.map (i, ·)) :
    s'.updatesOf j = if j = i then s.updatesOf j ++ calls else s.updatesOf j := by
  unfold updatesOf
  rw [updates, List.filter_append, List.map_append]
  by_cases same : j = i
  · subst same
    simp [List.filter_map, Function.comp_def]
  · have none_ : (calls.map (i, ·)).filter (·.1 = j) = [] := by
      rw [List.filter_eq_nil_iff]
      rintro _ mem
      obtain ⟨call, -, rfl⟩ := List.mem_map.mp mem
      simpa using Ne.symm same
    rw [if_neg same, none_, List.map_nil, List.append_nil]

theorem updatesOf_length (exclusive : Exclusive s) : s.updatesOf s.tasks.length = [] := by
  unfold updatesOf
  rw [List.map_eq_nil_iff, List.filter_eq_nil_iff]
  intro call mem
  simpa using (exclusive.owned call mem).ne

theorem getElem?_snoc {tasks : List EnrichmentTask} {last task : EnrichmentTask} {i : Nat}
    (found : (tasks ++ [last])[i]? = some task) :
    tasks[i]? = some task ∨ i = tasks.length ∧ task = last := by
  rcases lt_or_ge i tasks.length with lt | ge
  · rw [List.getElem?_append_left lt] at found
    exact .inl found
  · rw [List.getElem?_append_right ge] at found
    obtain ⟨bound, same⟩ := List.getElem?_eq_some_iff.mp found
    simp only [List.length_singleton] at bound
    refine .inr ⟨by omega, ?_⟩
    simpa using same.symm

theorem Exclusive.spawn {ip : String} (exclusive : Exclusive s) (fresh : ip ∉ s.pending)
    (tasks : s'.tasks = s.tasks ++ [⟨ip, .spawned⟩]) (pending : s'.pending = insert ip s.pending)
    (updates : s'.updates = s.updates) (running : s'.phase ≠ .returned) : Exclusive s' := by
  have other (i : Nat) (task : EnrichmentTask) (found : s.tasks[i]? = some task)
      (live : task.phase ≠ .finished) : task.ip ≠ ip := by
    intro same
    exact fresh ((exclusive.pending ip).mpr ⟨task, List.mem_of_getElem? found, same, live⟩)
  constructor
  · intro ip'
    rw [pending, tasks, Finset.mem_insert, exclusive.pending]
    simp only [List.mem_append, List.mem_singleton, or_and_right, exists_or, exists_eq_left]
    rw [or_comm, eq_comm]
    simp
  · intro i j a b findA findB liveA liveB same
    rw [tasks] at findA findB
    rcases getElem?_snoc findA with oldA | ⟨rfl, rfl⟩ <;>
      rcases getElem?_snoc findB with oldB | ⟨rfl, rfl⟩
    · exact exclusive.distinct i j a b oldA oldB liveA liveB same
    · exact absurd same (other i a oldA liveA)
    · exact absurd same.symm (other j b oldB liveB)
    · rfl
  · intro i task found
    have same : s'.updatesOf i = s.updatesOf i := by rw [updatesOf, updatesOf, updates]
    rw [tasks] at found
    rw [same]
    rcases getElem?_snoc found with old | ⟨rfl, rfl⟩
    · exact exclusive.written i task old
    · exact updatesOf_length exclusive
  · intro call mem
    rw [updates] at mem
    rw [tasks, List.length_append]
    exact (exclusive.owned call mem).trans_le (Nat.le_add_right _ _)
  · intro returned
    exact absurd returned running

/-- The other tasks stay as they are. -/
theorem getElem?_set_cases {tasks : List EnrichmentTask} {i j : Nat} {old new task : EnrichmentTask}
    (found : tasks[i]? = some old) : (tasks.set i new)[j]? = some task ↔
      j = i ∧ task = new ∨ j ≠ i ∧ tasks[j]? = some task := by
  have bound := (List.getElem?_eq_some_iff.mp found).1
  by_cases same : j = i
  · subst same
    simp [List.getElem?_set_self bound, eq_comm]
  · simp [List.getElem?_set_ne (Ne.symm same), same]

theorem Exclusive.task {i : Nat} {ip : String} {phase phase' : TaskPhase}
    {calls : List (List LocationEntry)} (exclusive : Exclusive s)
    (found : s.tasks[i]? = some ⟨ip, phase⟩) (live : phase ≠ .finished) (live' : phase' ≠ .finished)
    (tasks : s'.tasks = s.tasks.set i ⟨ip, phase'⟩)
    (pending : s'.pending = s.pending) (updates : s'.updates = s.updates ++ calls.map (i, ·))
    (written : ∀ before, Written ip phase before → Written ip phase' (before ++ calls))
    (same : s'.phase = s.phase) : Exclusive s' := by
  constructor
  · intro ip'
    rw [pending, exclusive.pending, tasks, mem_iff_getElem?, mem_iff_getElem?]
    constructor
    · rintro ⟨j, task, inside, rfl, busy⟩
      by_cases own : j = i
      · subst own
        obtain rfl := Option.some.inj (found.symm.trans inside)
        exact ⟨j, _, (getElem?_set_cases found).mpr (.inl ⟨rfl, rfl⟩), rfl, live'⟩
      · exact ⟨j, task, (getElem?_set_cases found).mpr (.inr ⟨own, inside⟩), rfl, busy⟩
    · rintro ⟨j, task, inside, rfl, busy⟩
      rcases (getElem?_set_cases found).mp inside with ⟨rfl, rfl⟩ | ⟨-, inside⟩
      · exact ⟨j, _, found, rfl, live⟩
      · exact ⟨j, task, inside, rfl, busy⟩
  · intro j k a b findA findB liveA liveB shared
    rw [tasks] at findA findB
    rcases (getElem?_set_cases found).mp findA with ⟨rfl, rfl⟩ | ⟨_, oldA⟩ <;>
      rcases (getElem?_set_cases found).mp findB with ⟨rfl, rfl⟩ | ⟨_, oldB⟩
    · rfl
    · exact exclusive.distinct j k _ b found oldB live liveB shared
    · exact exclusive.distinct j k a _ oldA found liveA live shared
    · exact exclusive.distinct j k a b oldA oldB liveA liveB shared
  · intro j task inside
    rw [tasks] at inside
    rw [updatesOf_append updates]
    rcases (getElem?_set_cases found).mp inside with ⟨rfl, rfl⟩ | ⟨own, inside⟩
    · rw [if_pos rfl]
      exact written _ (exclusive.written j _ found)
    · rw [if_neg own]
      exact exclusive.written j task inside
  · intro call mem
    rw [updates] at mem
    rw [tasks, List.length_set]
    rcases List.mem_append.mp mem with mem | mem
    · exact exclusive.owned call mem
    · obtain ⟨list, -, rfl⟩ := List.mem_map.mp mem
      exact (List.getElem?_eq_some_iff.mp found).1
  · intro returned
    rw [same] at returned
    exact absurd (exclusive.returned returned _ (List.mem_of_getElem? found)) live

theorem Exclusive.remove {i : Nat} {ip : String} (exclusive : Exclusive s)
    (found : s.tasks[i]? = some ⟨ip, .removing⟩) (tasks : s'.tasks = s.tasks.set i ⟨ip, .finished⟩)
    (pending : s'.pending = s.pending.erase ip) (updates : s'.updates = s.updates)
    (same : s'.phase = s.phase) : Exclusive s' := by
  constructor
  · intro ip'
    rw [pending, Finset.mem_erase, exclusive.pending, tasks, mem_iff_getElem?, mem_iff_getElem?]
    constructor
    · rintro ⟨other, j, task, inside, rfl, busy⟩
      refine ⟨j, task, (getElem?_set_cases found).mpr (.inr ⟨?_, inside⟩), rfl, busy⟩
      rintro rfl
      obtain rfl := Option.some.inj (found.symm.trans inside)
      exact other rfl
    · rintro ⟨j, task, inside, rfl, busy⟩
      rcases (getElem?_set_cases found).mp inside with ⟨rfl, rfl⟩ | ⟨own, inside⟩
      · exact absurd rfl busy
      · refine ⟨?_, j, task, inside, rfl, busy⟩
        intro shared
        exact own (exclusive.distinct j i task _ inside found busy (by simp) shared)
  · intro j k a b findA findB liveA liveB shared
    rw [tasks] at findA findB
    rcases (getElem?_set_cases found).mp findA with ⟨rfl, rfl⟩ | ⟨_, findA⟩
    · exact absurd rfl liveA
    · rcases (getElem?_set_cases found).mp findB with ⟨rfl, rfl⟩ | ⟨_, findB⟩
      · exact absurd rfl liveB
      · exact exclusive.distinct j k a b findA findB liveA liveB shared
  · intro j task inside
    have kept : s'.updatesOf j = s.updatesOf j := by rw [updatesOf, updatesOf, updates]
    rw [tasks] at inside
    rw [kept]
    rcases (getElem?_set_cases found).mp inside with ⟨rfl, rfl⟩ | ⟨_, inside⟩
    · -- removing and finished tasks have written the same
      exact exclusive.written j ⟨ip, .removing⟩ found
    · exact exclusive.written j task inside
  · intro call mem
    rw [updates] at mem
    rw [tasks, List.length_set]
    exact exclusive.owned call mem
  · intro returned
    rw [same] at returned
    have done := exclusive.returned returned _ (List.mem_of_getElem? found)
    simp at done

theorem exclusive_step (exclusive : Exclusive s) (stepped : step urls s event = some s') :
    Exclusive s' := by
  cases step_moves stepped with
  | loop tasks pending updates running =>
    have kept (i : Nat) : s'.updatesOf i = s.updatesOf i := by rw [updatesOf, updatesOf, updates]
    constructor
    · rw [pending, tasks]
      exact exclusive.pending
    · rw [tasks]
      exact exclusive.distinct
    · intro i
      rw [tasks, kept]
      exact exclusive.written i
    · rw [updates, tasks]
      exact exclusive.owned
    · intro returned
      exact absurd returned running
  | spawn fresh tasks pending updates running =>
    exact exclusive.spawn fresh tasks pending updates running
  | task calls found live live' tasks pending updates written same =>
    exact exclusive.task found live live' tasks pending updates written same
  | remove found tasks pending updates same => exact exclusive.remove found tasks pending updates same
  | join all returned =>
    subst returned
    exact ⟨exclusive.pending, exclusive.distinct, exclusive.written, exclusive.owned, fun _ => all⟩

/-- Whatever the nodes, IPinfo and the store answer, and however the tasks interleave. -/
theorem enrichment_exclusive {events : List PeerEvent} (ran : run urls events = some s) :
    Exclusive s := by
  refine Lts.run_invariant (I := fun _ s => Exclusive s) ?_ ?_ ran
  · exact ⟨by simp, by simp, by simp, by simp, by simp⟩
  · intro _ before event after exclusive stepped
    exact exclusive_step exclusive stepped

/-- A lookup that is under way when the program stops. -/
def stopEvents : List PeerEvent :=
  [.tick 0, .polled [.ok []], .replaced (.ok ["1.1.1.1", "10.0.0.1"]), .enrich, .enrich, .lookup 0,
    .stop, .lookedUp 0 (.ok none), .write 0, .written 0 (.ok ()), .remove 0, .join]

theorem enrichment_exclusive_stop : ∃ s : PeerCollector,
    run [("node", "ws://node")] stopEvents = some s ∧ s.phase = .returned ∧ s.tasks.length = 1 ∧ Exclusive s := by
  have ran : ∃ s : PeerCollector, run [("node", "ws://node")] stopEvents = some s ∧
      s.phase = .returned ∧ s.tasks.length = 1 := ⟨_, rfl, rfl, rfl⟩
  obtain ⟨s, ran, returned, one⟩ := ran
  exact ⟨s, ran, returned, one, enrichment_exclusive ran⟩

end PeerCollector

end ChainDash.Collect
