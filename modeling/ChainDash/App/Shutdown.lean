import Mathlib.Algebra.GroupWithZero.Nat
import ChainDash.Lib.Lts

/-!
# From the terminal guard to the end of `main`

The main thread, the collector task of `Collector::run`, its background tasks and the store,
in any interleaving and with any failures on the way. `main` returns only after it has put the
terminal back, once itself, and has waited for the collector (`main_returns`). While no task
panics the store outlives all tasks that call it, so no call of theirs is refused
(`store_outlives_tasks`). The loops end at the stop flag, which `main` sets before it waits, so
that the end comes after a bounded number of steps (`main_ends`).
-/

namespace ChainDash.App
set_option autoImplicit false

/-- What `spawn_background_tasks` spawns. -/
inductive BackgroundTask where
  | nodeState (name url : String)
  | peerGeo
  | nodeDetails
  | systemStats
  deriving DecidableEq

/-- The fields of `Collector` that decide on the tasks, and `target_family`. -/
structure TaskConfig where
  urls : List (String × String)
  nodeIds : List String
  unix : Bool

def spawnBackgroundTasks (config : TaskConfig) : List BackgroundTask :=
  config.urls.map (fun (name, url) => .nodeState name url) ++
    (if config.urls.isEmpty then [] else [.peerGeo]) ++
    (if config.nodeIds.isEmpty then [] else [.nodeDetails]) ++
    if config.unix then [.systemStats] else []

/-- A `JoinError` is a text here. -/
inductive TaskStatus where
  | running
  | finished
  | panicked (err : String)
  deriving DecidableEq

structure SpawnedTask where
  task : BackgroundTask
  status : TaskStatus := .running
  joined : Bool := false

/-- Where `Collector::run` stands; `done` holds what its handle gives. -/
inductive CollectorTask where
  | absent
  | spawned
  | subscribing
  | stopping (runResult : Except String Unit)
  | joining (runResult : Except String Unit)
  | done (joined : Except String (Except String Unit))

/-- How `main` comes to its end: an error before the collector is spawned, one in the first
draw, or the event loop with its `exit_error`. -/
inductive Exit where
  | early (err : String)
  | firstDraw (err : String)
  | eventLoop (exitError : Option String)

/-- Where `main` stands, from the `TerminalGuard` on. -/
inductive MainPhase where
  | guarded
  | listening
  | spawned
  | looping
  | stopping (exit : Exit)
  | cleaning (exit : Exit)
  | awaiting (exit : Exit)
  | closing (exit : Exit) (joined : Option (Except String (Except String Unit)))
  | returned (result : Except String Unit)

/-- `cleanups` counts the calls of `cleanup_terminal`, `refused` the calls of tasks that found
the store shut down. -/
structure Program where
  main : MainPhase := .guarded
  guardActive : Bool := true
  cleanups : Nat := 0
  stopFlag : Bool := false
  collector : CollectorTask := .absent
  tasks : List SpawnedTask := []
  storeOpen : Bool := true
  served : Nat := 0
  refused : Nat := 0

inductive ProgramEvent where
  | setupCtrlC (result : Except String Unit)
  | newCollector (result : Except String Unit)
  | firstDraw (result : Except String Unit)
  | leaveLoop (exitError : Option String)
  | stop
  | cleanup
  | await
  | shutdownStore
  /-- The collector task. -/
  | spawnTasks
  | subscriptionEnds (result : Except String Unit)
  | stopTasks
  | joinNext (i : Nat)
  | joinedAll
  | collectorPanics (err : String)
  /-- The background tasks. -/
  | taskFinishes (i : Nat)
  | taskPanics (i : Nat) (err : String)
  | taskCallsStore (i : Nat)
  /-- A lookup or a closure of `spawn_blocking` that the task has started panics. -/
  | workerPanics (i : Nat)

def ProgramEvent.panics : ProgramEvent → Bool
  | .collectorPanics _ | .taskPanics _ _ | .workerPanics _ => true
  | _ => false

/-- What a task may do any number of times. -/
def ProgramEvent.repeats : ProgramEvent → Bool
  | .taskCallsStore _ | .workerPanics _ => true
  | _ => false

/-- The end that an event brings about. -/
def ProgramEvent.exit? : ProgramEvent → Option Exit
  | .setupCtrlC (.error err) | .newCollector (.error err) => some (.early err)
  | .firstDraw (.error err) => some (.firstDraw err)
  | .leaveLoop exitError => some (.eventLoop exitError)
  | _ => none

theorem ProgramEvent.calm_of_exit {event : ProgramEvent} {exit : Exit} (exits : event.exit? = some exit) :
    event.panics = false := by
  cases event <;> first | rfl | cases exits

/-- `run_result.and(join_result)`. -/
def andResult (runResult joinResult : Except String Unit) : Except String Unit :=
  match runResult with
  | .ok () => joinResult
  | .error err => .error err

/-- What `main` makes of it all; `joined` is `None` where nothing was spawned. -/
def mainResult : Exit → Option (Except String (Except String Unit)) → Except String Unit
  | .early err, _ => .error err
  | _, some (.error err) => .error ("collector task join error: " ++ err)
  | .firstDraw err, _ => .error err
  | .eventLoop _, some (.ok (.error err)) => .error err
  | .eventLoop (some err), _ => .error err
  | .eventLoop none, _ => .ok ()

namespace Program

/-- `TerminalGuard::cleanup`. -/
def cleanupGuard (s : Program) : Program :=
  if s.guardActive then { s with guardActive := false, cleanups := s.cleanups + 1 } else s

/-- The hook of `setup_panic_hook`. It does not know of the guard, and runs on every panic. -/
def panicHook (s : Program) : Program := { s with cleanups := s.cleanups + 1 }

/-- A returned error drops the guard, and then the last handle of the store. -/
def afterCleanup : Exit → MainPhase
  | .early err => .closing (.early err) none
  | exit => .awaiting exit

def setTask (s : Program) (i : Nat) (task : SpawnedTask) : Program :=
  { s with tasks := s.tasks.set i task }

def stepMain (s : Program) : ProgramEvent → Option Program
  | .setupCtrlC result =>
    match s.main, result with
    | .guarded, .ok () => some { s with main := .listening }
    | .guarded, .error err => some { s with main := .cleaning (.early err) }
    | _, _ => none
  | .newCollector result =>
    match s.main, result with
    | .listening, .ok () => some { s with main := .spawned, collector := .spawned }
    | .listening, .error err => some { s with main := .cleaning (.early err) }
    | _, _ => none
  | .firstDraw result =>
    match s.main, result with
    | .spawned, .ok () => some { s with main := .looping }
    | .spawned, .error err => some { s with main := .stopping (.firstDraw err) }
    | _, _ => none
  | .leaveLoop exitError =>
    match s.main with
    | .looping => some { s with main := .stopping (.eventLoop exitError) }
    | _ => none
  | .stop =>
    match s.main with
    | .stopping exit => some { s with main := .cleaning exit, stopFlag := true }
    | _ => none
  | .cleanup =>
    match s.main with
    | .cleaning exit => some { s.cleanupGuard with main := afterCleanup exit }
    | _ => none
  | .await =>
    match s.main, s.collector with
    | .awaiting exit, .done joined => some { s with main := .closing exit (some joined) }
    | _, _ => none
  | .shutdownStore =>
    match s.main with
    | .closing exit joined =>
      some { s with main := .returned (mainResult exit joined), storeOpen := false }
    | _ => none
  | _ => none

/-- `join_background_tasks` stops at the first task that panicked; the others are aborted and
may run on for a while. -/
def joinTask (s : Program) (runResult : Except String Unit) (i : Nat) (task : SpawnedTask) : Program :=
  let s := s.setTask i { task with joined := true }
  match task.status with
  | .panicked err =>
    let joinResult := .error ("collector background task join error: " ++ err)
    { s with collector := .done (.ok (andResult runResult joinResult)) }
  | _ => s

def stepCollector (config : TaskConfig) (s : Program) : ProgramEvent → Option Program
  | .spawnTasks =>
    match s.collector with
    | .spawned => some { s with
        collector := .subscribing
        tasks := (spawnBackgroundTasks config).map fun task => { task } }
    | _ => none
  | .subscriptionEnds result =>
    match s.collector with
    | .subscribing => if s.stopFlag then some { s with collector := .stopping result } else none
    | _ => none
  | .stopTasks =>
    match s.collector with
    | .stopping result => some { s with collector := .joining result, stopFlag := true }
    | _ => none
  | .joinNext i =>
    match s.collector, s.tasks[i]? with
    | .joining result, some task =>
      if task.status = .running ∨ task.joined then none else some (s.joinTask result i task)
    | _, _ => none
  | .joinedAll =>
    match s.collector with
    | .joining result =>
      if s.tasks.all (·.joined) then some { s with collector := .done (.ok (andResult result (.ok ()))) }
      else none
    | _ => none
  | .collectorPanics err =>
    match s.collector with
    | .absent | .done _ => none
    | _ => some { s.panicHook with collector := .done (.error err) }
  | _ => none

/-- All loops end at the stop flag; that of `collect_system_stats` also ends where the join of
its blocking closure fails. -/
def mayFinish (s : Program) (task : SpawnedTask) : Bool :=
  s.stopFlag || task.task = .systemStats

/-- Of the background tasks only the peer-geo task calls the store. It finishes after the
lookups it has spawned; when it panics or is aborted these may go on. -/
def stepTask (s : Program) : ProgramEvent → Option Program
  | .taskFinishes i =>
    match s.tasks[i]? with
    | some task =>
      if task.status = .running ∧ s.mayFinish task then
        some (s.setTask i { task with status := .finished })
      else none
    | none => none
  | .taskPanics i err =>
    match s.tasks[i]? with
    | some task =>
      if task.status = .running then
        some (s.panicHook.setTask i { task with status := .panicked err })
      else none
    | none => none
  | .workerPanics i =>
    match s.tasks[i]? with
    | some task =>
      if (task.task = .peerGeo ∨ task.task = .systemStats) ∧ task.status ≠ .finished then
        some s.panicHook
      else none
    | none => none
  | .taskCallsStore i =>
    match s.tasks[i]? with
    | some task =>
      if task.task = .peerGeo ∧ task.status ≠ .finished then
        some (if s.storeOpen then { s with served := s.served + 1 }
          else { s with refused := s.refused + 1 })
      else none
    | none => none
  | _ => none

def step (config : TaskConfig) (s : Program) (event : ProgramEvent) : Option Program :=
  (s.stepMain event).or <| (s.stepCollector config event).or (s.stepTask event)

def run (config : TaskConfig) (events : List ProgramEvent) : Option Program :=
  Lts.run (step config) {} events

/-! ## What a step can do -/

inductive Stepped (config : TaskConfig) (s : Program) : ProgramEvent → Program → Prop where
  | setup {result : Except String Unit} (main : s.main = .guarded) (ok : result = .ok ()) :
      Stepped config s (.setupCtrlC result) { s with main := .listening }
  | spawn {result : Except String Unit} (main : s.main = .listening) (ok : result = .ok ()) :
      Stepped config s (.newCollector result) { s with main := .spawned, collector := .spawned }
  | early {event : ProgramEvent} {err : String} (main : s.main = .guarded ∨ s.main = .listening)
      (exit : event.exit? = some (.early err)) :
      Stepped config s event { s with main := .cleaning (.early err) }
  | drawn {result : Except String Unit} (main : s.main = .spawned) (ok : result = .ok ()) :
      Stepped config s (.firstDraw result) { s with main := .looping }
  | leave {event : ProgramEvent} {exit : Exit} (main : s.main = .spawned ∨ s.main = .looping)
      (late : ∀ err, exit ≠ .early err) (exits : event.exit? = some exit) :
      Stepped config s event { s with main := .stopping exit }
  | stop {exit : Exit} (main : s.main = .stopping exit) :
      Stepped config s .stop { s with main := .cleaning exit, stopFlag := true }
  | cleanup {exit : Exit} (main : s.main = .cleaning exit) :
      Stepped config s .cleanup { s.cleanupGuard with main := afterCleanup exit }
  | await {exit : Exit} {joined : Except String (Except String Unit)} (main : s.main = .awaiting exit)
      (done : s.collector = .done joined) :
      Stepped config s .await { s with main := .closing exit (some joined) }
  | shutdown {exit : Exit} {joined : Option (Except String (Except String Unit))}
      (main : s.main = .closing exit joined) : Stepped config s .shutdownStore
        { s with main := .returned (mainResult exit joined), storeOpen := false }
  | tasks (collector : s.collector = .spawned) : Stepped config s .spawnTasks { s with
      collector := .subscribing
      tasks := (spawnBackgroundTasks config).map fun task => { task } }
  | ended {result : Except String Unit} (collector : s.collector = .subscribing)
      (told : s.stopFlag = true) :
      Stepped config s (.subscriptionEnds result) { s with collector := .stopping result }
  | stopTasks {result : Except String Unit} (collector : s.collector = .stopping result) :
      Stepped config s .stopTasks { s with collector := .joining result, stopFlag := true }
  | join {result : Except String Unit} {i : Nat} {task : SpawnedTask}
      (collector : s.collector = .joining result) (found : s.tasks[i]? = some task)
      (ended : task.status ≠ .running) (fresh : task.joined = false) :
      Stepped config s (.joinNext i) (s.joinTask result i task)
  | joined {result : Except String Unit} (collector : s.collector = .joining result)
      (all : s.tasks.all (·.joined) = true) :
      Stepped config s .joinedAll { s with collector := .done (.ok (andResult result (.ok ()))) }
  | collectorPanics {err : String} (present : s.collector ≠ .absent)
      (live : ∀ joined, s.collector ≠ .done joined) :
      Stepped config s (.collectorPanics err) { s.panicHook with collector := .done (.error err) }
  | finish {i : Nat} {task : SpawnedTask} (found : s.tasks[i]? = some task)
      (running : task.status = .running) (may : s.mayFinish task = true) :
      Stepped config s (.taskFinishes i) (s.setTask i { task with status := .finished })
  | panic {i : Nat} {task : SpawnedTask} {err : String} (found : s.tasks[i]? = some task)
      (running : task.status = .running) :
      Stepped config s (.taskPanics i err) (s.panicHook.setTask i { task with status := .panicked err })
  | workerPanic {i : Nat} {task : SpawnedTask} (found : s.tasks[i]? = some task)
      (live : task.status ≠ .finished) : Stepped config s (.workerPanics i) s.panicHook
  | served {i : Nat} (isOpen : s.storeOpen = true) :
      Stepped config s (.taskCallsStore i) { s with served := s.served + 1 }
  | refused {i : Nat} {task : SpawnedTask} (found : s.tasks[i]? = some task)
      (live : task.status ≠ .finished) (shut : s.storeOpen = false) :
      Stepped config s (.taskCallsStore i) { s with refused := s.refused + 1 }

variable {config : TaskConfig} {s s' : Program} {event : ProgramEvent}

theorem stepMain_cases (moved : s.stepMain event = some s') : Stepped config s event s' := by
  cases event with
  | setupCtrlC result =>
    simp only [stepMain] at moved
    split at moved <;> cases moved
    case h_1 main => exact .setup main rfl
    case h_2 main => exact .early (.inl main) rfl
  | newCollector result =>
    simp only [stepMain] at moved
    split at moved <;> cases moved
    case h_1 main => exact .spawn main rfl
    case h_2 main => exact .early (.inr main) rfl
  | firstDraw result =>
    simp only [stepMain] at moved
    split at moved <;> cases moved
    case h_1 main => exact .drawn main rfl
    case h_2 main => exact .leave (.inl main) (by simp) rfl
  | leaveLoop exitError =>
    simp only [stepMain] at moved
    split at moved <;> cases moved
    case h_1 main => exact .leave (.inr main) (by simp) rfl
  | stop =>
    simp only [stepMain] at moved
    split at moved <;> cases moved
    case h_1 main => exact .stop main
  | cleanup =>
    simp only [stepMain] at moved
    split at moved <;> cases moved
    case h_1 main => exact .cleanup main
  | await =>
    simp only [stepMain] at moved
    split at moved <;> cases moved
    case h_1 main done => exact .await main done
  | shutdownStore =>
    simp only [stepMain] at moved
    split at moved <;> cases moved
    case h_1 main => exact .shutdown main
  | _ => cases moved

theorem stepCollector_cases (moved : s.stepCollector config event = some s') :
    Stepped config s event s' := by
  cases event with
  | spawnTasks =>
    simp only [stepCollector] at moved
    split at moved <;> cases moved
    case h_1 collector => exact .tasks collector
  | subscriptionEnds result =>
    simp only [stepCollector] at moved
    split at moved
    case h_2 => cases moved
    case h_1 collector =>
      split at moved <;> cases moved
      case isTrue told => exact .ended collector told
  | stopTasks =>
    simp only [stepCollector] at moved
    split at moved <;> cases moved
    case h_1 collector => exact .stopTasks collector
  | joinNext i =>
    simp only [stepCollector] at moved
    split at moved
    case h_2 => cases moved
    case h_1 collector found =>
      split at moved <;> cases moved
      case isFalse ended =>
        rw [not_or, Bool.not_eq_true] at ended
        exact .join collector found ended.1 ended.2
  | joinedAll =>
    simp only [stepCollector] at moved
    split at moved
    case h_2 => cases moved
    case h_1 collector =>
      split at moved <;> cases moved
      case isTrue all => exact .joined collector all
  | collectorPanics err =>
    simp only [stepCollector] at moved
    split at moved <;> cases moved
    case h_3 absent done => exact .collectorPanics absent done
  | _ => cases moved

theorem stepTask_cases (moved : s.stepTask event = some s') : Stepped config s event s' := by
  cases event with
  | taskFinishes i =>
    simp only [stepTask] at moved
    split at moved
    case h_2 => cases moved
    case h_1 found =>
      split at moved <;> cases moved
      case isTrue may => exact .finish found may.1 may.2
  | taskPanics i err =>
    simp only [stepTask] at moved
    split at moved
    case h_2 => cases moved
    case h_1 found =>
      split at moved <;> cases moved
      case isTrue running => exact .panic found running
  | workerPanics i =>
    simp only [stepTask] at moved
    split at moved
    case h_2 => cases moved
    case h_1 found =>
      split at moved <;> cases moved
      case isTrue live => exact .workerPanic found live.2
  | taskCallsStore i =>
    simp only [stepTask] at moved
    split at moved
    case h_2 => cases moved
    case h_1 found =>
      split at moved <;> cases moved
      case isTrue live =>
        split
        case isTrue isOpen => exact .served isOpen
        case isFalse shut => exact .refused found live.2 (by simpa using shut)
  | _ => cases moved

theorem step_cases (stepped : step config s event = some s') : Stepped config s event s' := by
  unfold step at stepped
  rcases Option.or_eq_some_iff.mp stepped with moved | ⟨-, stepped⟩
  · exact stepMain_cases moved
  rcases Option.or_eq_some_iff.mp stepped with moved | ⟨-, moved⟩
  · exact stepCollector_cases moved
  · exact stepTask_cases moved

/-! ## The order of the end -/

/-- How a run has come to its end. -/
def exitOf (events : List ProgramEvent) : Option Exit := events.findSome? ProgramEvent.exit?

theorem exitOf_snoc (events : List ProgramEvent) (event : ProgramEvent) :
    exitOf (events ++ [event]) = (exitOf events).or event.exit? := by
  unfold exitOf
  rw [List.findSome?_append, List.findSome?_cons]
  cases event.exit? <;> rfl

/-- How often the panic hook has run. -/
def panicsOf (events : List ProgramEvent) : Nat := events.countP (·.panics)

theorem panicsOf_snoc (events : List ProgramEvent) (event : ProgramEvent) :
    panicsOf (events ++ [event]) = panicsOf events + event.panics.toNat := by
  unfold panicsOf
  rw [List.countP_append, List.countP_singleton]
  cases event.panics <;> rfl

theorem panicsOf_calm {events : List ProgramEvent} {event : ProgramEvent} (calm : event.panics = false) :
    panicsOf (events ++ [event]) = panicsOf events := by
  rw [panicsOf_snoc, calm]
  rfl

end Program

def MainPhase.isCleaned : MainPhase → Bool
  | .awaiting _ | .closing _ _ | .returned _ => true
  | _ => false

def MainPhase.isReturned : MainPhase → Bool
  | .returned _ => true
  | _ => false

/-- The phases between an exit and the return. -/
def MainPhase.exit? : MainPhase → Option Exit
  | .stopping exit | .cleaning exit | .awaiting exit | .closing exit _ => some exit
  | _ => none

namespace Program

/-- Nothing was spawned, or the collector has been told to stop and has ended. -/
def Ended (s : Program) : Exit → Option (Except String (Except String Unit)) → Prop
  | .early _, joined => joined = none ∧ s.collector = .absent
  | _, joined => s.stopFlag = true ∧ ∃ result, joined = some result ∧ s.collector = .done result

/-- What a phase of `main` rests on. -/
def Standing (events : List ProgramEvent) (s : Program) : MainPhase → Prop
  | .guarded | .listening => exitOf events = none ∧ s.collector = .absent
  | .spawned | .looping => exitOf events = none ∧ s.collector ≠ .absent
  | .stopping exit => exitOf events = some exit ∧ (∀ err, exit ≠ .early err) ∧ s.collector ≠ .absent
  | .cleaning (.early err) => exitOf events = some (.early err) ∧ s.collector = .absent
  | .cleaning exit | .awaiting exit => exitOf events = some exit ∧ (∀ err, exit ≠ .early err) ∧
      s.stopFlag = true ∧ s.collector ≠ .absent
  | .closing exit joined => exitOf events = some exit ∧ s.Ended exit joined
  | .returned result => ∃ exit joined, exitOf events = some exit ∧ s.Ended exit joined ∧
      result = mainResult exit joined

structure Orderly (events : List ProgramEvent) (s : Program) : Prop where
  standing : Standing events s s.main
  guardActive : s.guardActive = !s.main.isCleaned
  cleanups : s.cleanups = s.main.isCleaned.toNat + panicsOf events
  store : s.storeOpen = !s.main.isReturned
  bare : s.collector = .absent → s.tasks = []

variable {config : TaskConfig} {s s' : Program} {event : ProgramEvent} {events : List ProgramEvent}

/-- A step of the collector or of a task. -/
theorem Standing.of_frame {phase : MainPhase} (standing : Standing events s phase)
    (quiet : event.exit? = none) (stopFlag : s.stopFlag = true → s'.stopFlag = true)
    (present : s'.collector = .absent ↔ s.collector = .absent)
    (done : ∀ joined, s.collector = .done joined → s'.collector = .done joined) :
    Standing (events ++ [event]) s' phase := by
  have same : exitOf (events ++ [event]) = exitOf events := by
    rw [exitOf_snoc, quiet, Option.or_none]
  have ended : ∀ exit joined, s.Ended exit joined → s'.Ended exit joined := by
    intro exit joined ended
    cases exit with
    | early err => exact ⟨ended.1, present.mpr ended.2⟩
    | firstDraw | eventLoop =>
      obtain ⟨stop, result, at_, collector⟩ := ended
      exact ⟨stopFlag stop, result, at_, done result collector⟩
  cases phase with
  | guarded | listening => exact ⟨same.trans standing.1, present.mpr standing.2⟩
  | spawned | looping => exact ⟨same.trans standing.1, fun none_ => standing.2 (present.mp none_)⟩
  | stopping exit =>
    obtain ⟨exits, late, there⟩ := standing
    exact ⟨same.trans exits, late, fun none_ => there (present.mp none_)⟩
  | cleaning exit =>
    cases exit with
    | early err => exact ⟨same.trans standing.1, present.mpr standing.2⟩
    | firstDraw | eventLoop =>
      obtain ⟨exits, late, stop, there⟩ := standing
      exact ⟨same.trans exits, late, stopFlag stop, fun none_ => there (present.mp none_)⟩
  | awaiting exit =>
    obtain ⟨exits, late, stop, there⟩ := standing
    exact ⟨same.trans exits, late, stopFlag stop, fun none_ => there (present.mp none_)⟩
  | closing exit joined => exact ⟨same.trans standing.1, ended _ _ standing.2⟩
  | returned result =>
    obtain ⟨exit, joined, exits, ended_, result⟩ := standing
    exact ⟨exit, joined, same.trans exits, ended _ _ ended_, result⟩

theorem Orderly.of_frame (orderly : Orderly events s) (quiet : event.exit? = none)
    (main : s'.main = s.main) (guardActive : s'.guardActive = s.guardActive)
    (cleanups : s'.cleanups = s.cleanups + event.panics.toNat) (store : s'.storeOpen = s.storeOpen)
    (stopFlag : s.stopFlag = true → s'.stopFlag = true)
    (present : s'.collector = .absent ↔ s.collector = .absent)
    (done : ∀ joined, s.collector = .done joined → s'.collector = .done joined)
    (bare : s'.collector = .absent → s'.tasks = []) : Orderly (events ++ [event]) s' := by
  refine ⟨?_, ?_, ?_, ?_, bare⟩
  · rw [main]
    exact orderly.standing.of_frame quiet stopFlag present done
  · rw [main, guardActive, orderly.guardActive]
  · rw [main, cleanups, orderly.cleanups, panicsOf_snoc, Nat.add_assoc]
  · rw [main, store, orderly.store]

/-- A step of `main` before the terminal is put back. -/
theorem Orderly.of_main (orderly : Orderly events s) {phase : MainPhase} {collector : CollectorTask}
    {stopFlag : Bool} (calm : event.panics = false) (main : s.main.isCleaned = false)
    (cleaned : phase.isCleaned = false)
    (bare : collector = .absent → s.collector = .absent)
    (standing : Standing (events ++ [event]) { s with main := phase, collector, stopFlag } phase) :
    Orderly (events ++ [event]) { s with main := phase, collector, stopFlag } := by
  have running : ∀ phase : MainPhase, phase.isCleaned = false → phase.isReturned = false := by
    intro phase cleaned
    cases phase <;> first | rfl | cases cleaned
  refine ⟨standing, ?_, ?_, ?_, fun none_ => orderly.bare (bare none_)⟩
  · rw [cleaned, ← main]
    exact orderly.guardActive
  · rw [cleaned, ← main, panicsOf_calm calm]
    exact orderly.cleanups
  · rw [running phase cleaned, ← running s.main main]
    exact orderly.store

theorem orderly_step (orderly : Orderly events s) (stepped : step config s event = some s') :
    Orderly (events ++ [event]) s' := by
  have standing := orderly.standing
  cases step_cases stepped with
  | setup main ok | drawn main ok =>
    rw [main] at standing
    obtain ⟨none_, collector⟩ := standing
    refine orderly.of_main rfl (by rw [main]; rfl) rfl id ⟨?_, collector⟩
    rw [exitOf_snoc, none_, ok]
    rfl
  | spawn main ok =>
    rw [main] at standing
    refine orderly.of_main rfl (by rw [main]; rfl) rfl (by simp) ⟨?_, by simp⟩
    rw [exitOf_snoc, standing.1, ok]
    rfl
  | early main exit =>
    have at_ : exitOf events = none ∧ s.collector = .absent := by
      rcases main with main | main <;> rw [main] at standing <;> exact standing
    refine orderly.of_main (ProgramEvent.calm_of_exit exit) ?_ rfl id ⟨?_, at_.2⟩
    · rcases main with main | main <;> rw [main] <;> rfl
    · rw [exitOf_snoc, at_.1, exit]
      rfl
  | leave main late exits =>
    have at_ : exitOf events = none ∧ s.collector ≠ .absent := by
      rcases main with main | main <;> rw [main] at standing <;> exact standing
    refine orderly.of_main (ProgramEvent.calm_of_exit exits) ?_ rfl id ⟨?_, late, at_.2⟩
    · rcases main with main | main <;> rw [main] <;> rfl
    · rw [exitOf_snoc, at_.1, exits]
      rfl
  | @stop exit main =>
    rw [main] at standing
    obtain ⟨exits, late, there⟩ := standing
    refine orderly.of_main rfl (by rw [main]; rfl) rfl id ?_
    have same : exitOf (events ++ [.stop]) = some exit := by
      rw [exitOf_snoc, exits]
      rfl
    cases exit with
    | early err => exact absurd rfl (late err)
    | firstDraw | eventLoop => exact ⟨same, late, rfl, there⟩
  | @cleanup exit main =>
    rw [main] at standing
    have active := orderly.guardActive
    have cleanups := orderly.cleanups
    rw [main] at active cleanups
    have once : s.cleanupGuard = { s with guardActive := false, cleanups := s.cleanups + 1 } :=
      if_pos active
    rw [once]
    have cleaned : (afterCleanup exit).isCleaned = true ∧ (afterCleanup exit).isReturned = false := by
      cases exit <;> exact ⟨rfl, rfl⟩
    refine ⟨?_, ?_, ?_, ?_, orderly.bare⟩
    · cases exit with
      | early err =>
        refine ⟨?_, rfl, standing.2⟩
        rw [exitOf_snoc, standing.1]
        rfl
      | firstDraw | eventLoop =>
        refine ⟨?_, standing.2⟩
        rw [exitOf_snoc, standing.1]
        rfl
    · simp [cleaned.1]
    · have before : s.cleanups = panicsOf events := cleanups.trans (Nat.zero_add _)
      show s.cleanups + 1 = (afterCleanup exit).isCleaned.toNat + panicsOf (events ++ [.cleanup])
      rw [cleaned.1, panicsOf_snoc, before]
      exact Nat.add_comm _ _
    · have isOpen := orderly.store
      rw [main] at isOpen
      show s.storeOpen = !(afterCleanup exit).isReturned
      rw [cleaned.2]
      exact isOpen
  | @await exit joined main done =>
    rw [main] at standing
    have active := orderly.guardActive
    have cleanups := orderly.cleanups
    have isOpen := orderly.store
    rw [main] at active cleanups isOpen
    obtain ⟨exits, late, stop, -⟩ := standing
    rw [← @panicsOf_calm events .await rfl] at cleanups
    refine ⟨⟨?_, ?_⟩, active, cleanups, isOpen, orderly.bare⟩
    · rw [exitOf_snoc, exits]
      rfl
    · cases exit with
      | early err => exact absurd rfl (late err)
      | firstDraw | eventLoop => exact ⟨stop, joined, rfl, done⟩
  | @shutdown exit joined main =>
    rw [main] at standing
    have active := orderly.guardActive
    have cleanups := orderly.cleanups
    rw [main] at active cleanups
    rw [← @panicsOf_calm events .shutdownStore rfl] at cleanups
    refine ⟨⟨exit, joined, ?_, ?_, rfl⟩, active, cleanups, rfl, orderly.bare⟩
    · rw [exitOf_snoc, standing.1]
      rfl
    · cases exit <;> exact standing.2
  | tasks collector | ended collector | joined collector =>
    exact orderly.of_frame rfl rfl rfl rfl rfl id (by simp [collector]) (by simp [collector]) (by simp)
  | stopTasks collector =>
    exact orderly.of_frame rfl rfl rfl rfl rfl (fun _ => rfl) (by simp [collector]) (by simp [collector])
      (by simp)
  | @join result i task collector found =>
    unfold joinTask
    cases task.status with
    | running | finished =>
      exact orderly.of_frame rfl rfl rfl rfl rfl id Iff.rfl (fun _ => id) fun none_ => by
        simp [setTask, collector] at none_
    | panicked err =>
      exact orderly.of_frame rfl rfl rfl rfl rfl id (by simp [collector]) (by simp [collector]) (by simp)
  | collectorPanics present live =>
    exact orderly.of_frame rfl rfl rfl rfl rfl id (by simp [present])
      (fun joined at_ => absurd at_ (live joined)) (by simp)
  | finish found | panic found =>
    refine orderly.of_frame rfl rfl rfl rfl rfl id Iff.rfl (fun _ => id) fun none_ => ?_
    rw [orderly.bare none_] at found
    cases found
  | served | refused | workerPanic =>
    exact orderly.of_frame rfl rfl rfl rfl rfl id Iff.rfl (fun _ => id) orderly.bare

theorem orderly_run (ran : run config events = some s) : Orderly events s := by
  refine Lts.run_invariant (I := Orderly) ?_ ?_ ran
  · exact ⟨⟨rfl, rfl⟩, rfl, rfl, rfl, fun _ => rfl⟩
  · exact fun _ _ _ _ orderly stepped => orderly_step orderly stepped

/-- When `main` returns it has put the terminal back exactly once, and the panic hook once more on
each panic, and the store is shut down. Either nothing was spawned, and the result is the error that came up, or the
collector was told to stop and waited for: its failure comes before its error, and that before an
error of the event loop, while after a failed first draw its error is lost. -/
theorem main_returns {result : Except String Unit} (ran : run config events = some s)
    (returned : s.main = .returned result) :
    s.cleanups = 1 + panicsOf events ∧ s.storeOpen = false ∧ ∃ exit, exitOf events = some exit ∧
      ((∃ err, exit = .early err ∧ s.collector = .absent ∧ s.tasks = [] ∧ result = .error err) ∨
        ∃ joined, s.stopFlag = true ∧ s.collector = .done joined ∧
          result = mainResult exit (some joined)) := by
  have orderly := orderly_run ran
  have standing := orderly.standing
  have cleanups := orderly.cleanups
  have store := orderly.store
  rw [returned] at standing cleanups store
  obtain ⟨exit, joined, exits, ended, rfl⟩ := standing
  refine ⟨cleanups, store, exit, exits, ?_⟩
  cases exit with
  | early err => exact .inl ⟨err, rfl, ended.2, orderly.bare ended.2, rfl⟩
  | firstDraw | eventLoop =>
    obtain ⟨stop, result, rfl, done⟩ := ended
    exact .inr ⟨result, stop, done, rfl⟩

/-- The program is left with `q` while the tasks run, and one of them fails after that. -/
def quitEvents : List ProgramEvent :=
  [.setupCtrlC (.ok ()), .newCollector (.ok ()), .spawnTasks, .firstDraw (.ok ()), .taskCallsStore 1,
    .leaveLoop none, .stop, .cleanup, .taskFinishes 0, .subscriptionEnds (.ok ()), .stopTasks,
    .joinNext 0, .taskPanics 1 "task 3 panicked", .joinNext 1, .await, .shutdownStore,
    .taskCallsStore 1]

theorem main_returns_quit : ∃ s, run ⟨[("node", "ws://node")], [], false⟩ quitEvents = some s ∧
    s.main = .returned (.error "collector background task join error: task 3 panicked") ∧
    s.cleanups = 2 ∧ s.refused = 1 := by
  have ran : ∃ s, run ⟨[("node", "ws://node")], [], false⟩ quitEvents = some s ∧
      s.main = .returned (.error "collector background task join error: task 3 panicked") ∧
      s.refused = 1 := ⟨_, rfl, rfl, rfl⟩
  obtain ⟨s, ran, returned, refused⟩ := ran
  exact ⟨s, ran, returned, (main_returns ran returned).1, refused⟩

/-! ## Calls of the store -/

/-- What holds while no task panics: the handle gives the result of `Collector::run`, and by then
all tasks have been joined. -/
structure Unharmed (s : Program) : Prop where
  tasks : ∀ task ∈ s.tasks, task.status = .finished ∨ task.status = .running ∧ task.joined = false
  done : ∀ joined, s.collector = .done joined → (∃ result, joined = .ok result) ∧
    ∀ task ∈ s.tasks, task.joined = true
  refused : s.refused = 0

theorem Unharmed.finished (unharmed : Unharmed s) {joined : Except String (Except String Unit)}
    (done : s.collector = .done joined) : ∀ task ∈ s.tasks, task.status = .finished := by
  intro task mem
  rcases unharmed.tasks task mem with finished | ⟨-, fresh⟩
  · exact finished
  · rw [(unharmed.done joined done).2 task mem] at fresh
    cases fresh

theorem Unharmed.of_frame (unharmed : Unharmed s) (tasks : s'.tasks = s.tasks)
    (done : ∀ joined, s'.collector = .done joined → s.collector = .done joined)
    (refused : s'.refused = s.refused) : Unharmed s' := by
  refine ⟨?_, ?_, refused.trans unharmed.refused⟩
  · rw [tasks]
    exact unharmed.tasks
  · rw [tasks]
    exact fun joined at_ => unharmed.done joined (done joined at_)

theorem Unharmed.setTask (unharmed : Unharmed s) {i : Nat} {task : SpawnedTask}
    (live : ∀ joined, s.collector ≠ .done joined) (finished : task.status = .finished) :
    Unharmed (s.setTask i task) := by
  refine ⟨?_, fun joined at_ => absurd at_ (live joined), unharmed.refused⟩
  intro other mem
  rcases List.mem_or_eq_of_mem_set mem with old | rfl
  · exact unharmed.tasks other old
  · exact .inl finished

/-- Once the store is shut down the tasks that were spawned have finished. -/
theorem Unharmed.finished_of_shut (unharmed : Unharmed s) (orderly : Orderly events s)
    (shut : s.storeOpen = false) : ∀ task ∈ s.tasks, task.status = .finished := by
  intro task mem
  have store := orderly.store
  have standing := orderly.standing
  cases main : s.main with
  | returned result =>
    rw [main] at standing
    obtain ⟨exit, joined, -, ended, -⟩ := standing
    cases exit with
    | early err =>
      rw [orderly.bare ended.2] at mem
      cases mem
    | firstDraw | eventLoop =>
      obtain ⟨-, result, -, done⟩ := ended
      exact unharmed.finished done task mem
  | _ =>
    rw [main, shut] at store
    cases store

theorem unharmed_step (orderly : Orderly events s) (unharmed : Unharmed s)
    (quiet : event.panics = false) (stepped : step config s event = some s') : Unharmed s' := by
  cases step_cases stepped with
  | setup | early | drawn | leave | stop | await | shutdown | served =>
    exact unharmed.of_frame rfl (fun _ => id) rfl
  | cleanup =>
    unfold cleanupGuard
    split <;> exact unharmed.of_frame rfl (fun _ => id) rfl
  | spawn | ended | stopTasks => exact unharmed.of_frame rfl (by simp) rfl
  | tasks =>
    refine ⟨?_, by simp, unharmed.refused⟩
    intro task mem
    obtain ⟨kind, -, rfl⟩ := List.mem_map.mp mem
    exact .inr ⟨rfl, rfl⟩
  | @join result i task collector found ended =>
    have finished : task.status = .finished := by
      rcases unharmed.tasks task (List.mem_of_getElem? found) with finished | ⟨running, -⟩
      · exact finished
      · exact absurd running ended
    unfold joinTask
    rw [finished]
    exact unharmed.setTask (by simp [collector]) rfl
  | joined collector all =>
    refine ⟨unharmed.tasks, ?_, unharmed.refused⟩
    rintro _ at_
    cases at_
    exact ⟨⟨_, rfl⟩, List.all_eq_true.mp all⟩
  | collectorPanics | panic | workerPanic => cases quiet
  | @finish i task found running =>
    refine unharmed.setTask ?_ rfl
    intro joined done
    rw [unharmed.finished done task (List.mem_of_getElem? found)] at running
    cases running
  | @refused i task found live shut =>
    exact absurd (unharmed.finished_of_shut orderly shut task (List.mem_of_getElem? found)) live

/-- In a run in which no task panics the store is shut down after the last background task has
finished, and no call is refused. -/
theorem store_outlives_tasks (quiet : ∀ event ∈ events, event.panics = false)
    (ran : run config events = some s) :
    s.refused = 0 ∧ (s.storeOpen = false → ∀ task ∈ s.tasks, task.status = .finished) := by
  have both : Orderly events s ∧ ((∀ event ∈ events, event.panics = false) → Unharmed s) := by
    refine Lts.run_invariant (I := fun events s => Orderly events s ∧
      ((∀ event ∈ events, event.panics = false) → Unharmed s)) ?_ ?_ ran
    · refine ⟨⟨⟨rfl, rfl⟩, rfl, rfl, rfl, fun _ => rfl⟩, fun _ => ⟨?_, ?_, rfl⟩⟩
      · exact fun task mem => by cases mem
      · exact fun joined at_ => by cases at_
    · rintro events before event after ⟨orderly, unharmed⟩ stepped
      refine ⟨orderly_step orderly stepped, fun quiet => ?_⟩
      have earlier := unharmed fun event mem => quiet event (List.mem_append_left _ mem)
      exact unharmed_step orderly earlier (quiet event (by simp)) stepped
  obtain ⟨orderly, unharmed⟩ := both
  exact ⟨(unharmed quiet).refused, (unharmed quiet).finished_of_shut orderly⟩

/-- The same, but the tasks finish. -/
def calmEvents : List ProgramEvent :=
  [.setupCtrlC (.ok ()), .newCollector (.ok ()), .spawnTasks, .firstDraw (.error "cannot draw"), .stop,
    .cleanup, .taskFinishes 0, .subscriptionEnds (.ok ()), .stopTasks, .joinNext 0, .taskCallsStore 1,
    .taskFinishes 1, .joinNext 1, .joinedAll, .await, .shutdownStore]

theorem store_outlives_tasks_calm : ∃ s, run ⟨[("node", "ws://node")], [], false⟩ calmEvents = some s ∧
    s.main = .returned (.error "cannot draw") ∧ s.served = 1 ∧ s.refused = 0 ∧
    ∀ task ∈ s.tasks, task.status = .finished := by
  have ran : ∃ s, run ⟨[("node", "ws://node")], [], false⟩ calmEvents = some s ∧
      s.main = .returned (.error "cannot draw") ∧ s.served = 1 ∧ s.storeOpen = false :=
    ⟨_, rfl, rfl, rfl, rfl⟩
  obtain ⟨s, ran, returned, served, shut⟩ := ran
  obtain ⟨refused, finished⟩ := store_outlives_tasks (by simp [calmEvents, ProgramEvent.panics]) ran
  exact ⟨s, ran, returned, served, refused, finished shut⟩

/-! ## The way to the return -/

def mainRank : MainPhase → Nat
  | .stopping _ => 4
  | .cleaning _ => 3
  | .awaiting _ => 2
  | .closing _ _ => 1
  | _ => 0

def collectorRank (config : TaskConfig) : CollectorTask → Nat
  | .spawned => 4 + 2 * (spawnBackgroundTasks config).length
  | .subscribing => 3
  | .stopping _ => 2
  | .joining _ => 1
  | .absent | .done _ => 0

def taskRank (task : SpawnedTask) : Nat :=
  (if task.status = .running then 1 else 0) + if task.joined then 0 else 1

/-- What is left to do. -/
def rank (config : TaskConfig) (s : Program) : Nat :=
  mainRank s.main + collectorRank config s.collector + (s.tasks.map taskRank).sum

theorem sum_map_set {tasks : List SpawnedTask} {i : Nat} {task : SpawnedTask}
    (found : tasks[i]? = some task) (task' : SpawnedTask) :
    ((tasks.set i task').map taskRank).sum + taskRank task =
      (tasks.map taskRank).sum + taskRank task' := by
  induction tasks generalizing i with
  | nil => cases found
  | cons head tail ih =>
    cases i with
    | zero =>
      cases found
      simp only [List.set_cons_zero, List.map_cons, List.sum_cons]
      omega
    | succ i =>
      have rest := @ih i found
      simp only [List.set_cons_succ, List.map_cons, List.sum_cons]
      omega

theorem sum_spawned (kinds : List BackgroundTask) :
    ((kinds.map fun task => ({ task } : SpawnedTask)).map taskRank).sum = 2 * kinds.length := by
  induction kinds with
  | nil => rfl
  | cons kind kinds ih =>
    have fresh : taskRank { task := kind } = 2 := rfl
    simp only [List.map_cons, List.sum_cons, List.length_cons, fresh, ih]
    omega

theorem sum_taskRank_le (tasks : List SpawnedTask) : (tasks.map taskRank).sum ≤ 2 * tasks.length := by
  induction tasks with
  | nil => exact Nat.le_refl _
  | cons task tasks ih =>
    have two : taskRank task ≤ 2 := by
      unfold taskRank
      split <;> split <;> omega
    simp only [List.map_cons, List.sum_cons, List.length_cons]
    omega

/-- There are no more tasks than were to be spawned, and none before. -/
structure Counted (config : TaskConfig) (s : Program) : Prop where
  none_yet : s.collector = .spawned → s.tasks = []
  length : s.tasks.length ≤ (spawnBackgroundTasks config).length

theorem counted_step (orderly : Orderly events s) (counted : Counted config s)
    (stepped : step config s event = some s') : Counted config s' := by
  cases step_cases stepped with
  | setup | early | drawn | leave | stop | await | shutdown | served | refused | workerPanic =>
    exact ⟨counted.none_yet, counted.length⟩
  | cleanup =>
    unfold cleanupGuard
    split <;> exact ⟨counted.none_yet, counted.length⟩
  | @spawn result main =>
    have standing := orderly.standing
    rw [main] at standing
    exact ⟨fun _ => orderly.bare standing.2, counted.length⟩
  | tasks => exact ⟨by simp, by simp⟩
  | ended | stopTasks | joined | collectorPanics => exact ⟨by simp, counted.length⟩
  | @join result i task collector found =>
    have same : (s.joinTask result i task).tasks.length = s.tasks.length := by
      unfold joinTask setTask
      cases task.status <;> simp
    refine ⟨fun spawned => ?_, same ▸ counted.length⟩
    unfold joinTask setTask at spawned
    cases status : task.status <;> simp [status, collector] at spawned
  | finish found | panic found =>
    refine ⟨fun spawned => ?_, ?_⟩
    · rw [counted.none_yet spawned] at found
      cases found
    · unfold setTask
      rw [List.length_set]
      exact counted.length

theorem counted_run (ran : run config events = some s) : Counted config s := by
  refine Lts.run_invariant_reached (I := fun _ s => Counted config s) ?_ ?_ ran
  · exact ⟨fun _ => rfl, Nat.zero_le _⟩
  · intro events before event after ran counted stepped
    exact counted_step (orderly_run ran) counted stepped

theorem rank_le (counted : Counted config s) :
    rank config s ≤ 2 * (spawnBackgroundTasks config).length + 8 := by
  have main : mainRank s.main ≤ 4 := by cases s.main <;> simp [mainRank]
  have tasks := sum_taskRank_le s.tasks
  have length := counted.length
  unfold rank
  cases collector : s.collector with
  | spawned =>
    simp only [counted.none_yet collector, collectorRank, List.map_nil, List.sum_nil]
    omega
  | absent | subscribing | stopping | joining | done =>
    simp only [collectorRank]
    omega

/-- `main` has left the event loop, or never got there. -/
def Leaving (s : Program) : Prop := s.main.exit?.isSome ∨ s.main.isReturned

theorem rank_joinTask {result : Except String Unit} {i : Nat} {task : SpawnedTask}
    (found : s.tasks[i]? = some task) (fresh : task.joined = false) :
    rank config (s.joinTask result i task) < rank config s := by
  have tasks : (s.joinTask result i task).tasks = s.tasks.set i { task with joined := true } := by
    unfold joinTask
    cases task.status <;> rfl
  have main : (s.joinTask result i task).main = s.main := by
    unfold joinTask
    cases task.status <;> rfl
  have collector : collectorRank config (s.joinTask result i task).collector ≤
      collectorRank config s.collector := by
    unfold joinTask
    cases task.status with
    | running | finished => exact Nat.le_refl _
    | panicked err => exact Nat.zero_le _
  have sum := sum_map_set found { task with joined := true }
  have spent : taskRank { task with joined := true } + 1 = taskRank task := by
    simp [taskRank, fresh]
  unfold rank
  rw [main, tasks]
  omega

/-- A task ends, in whatever way. -/
theorem rank_setTask {i : Nat} {task : SpawnedTask} (found : s.tasks[i]? = some task)
    (running : task.status = .running) {status : TaskStatus} (ended : status ≠ .running) :
    rank config (s.setTask i { task with status }) < rank config s := by
  have sum := sum_map_set found { task with status }
  have spent : taskRank { task with status } + 1 = taskRank task := by
    simp [taskRank, running, ended]
    omega
  unfold rank setTask
  dsimp only
  omega

/-- Every step that does not repeat brings the end nearer. -/
theorem rank_spent (leaving : s.Leaving) (stepped : step config s event = some s') :
    s'.Leaving ∧ rank config s' + (!event.repeats).toNat ≤ rank config s := by
  have inside : ∀ phase, s.main = phase → phase.exit?.isSome ∨ phase.isReturned := by
    rintro _ rfl
    exact leaving
  cases step_cases stepped with
  | setup main | spawn main | drawn main =>
    simpa [MainPhase.exit?, MainPhase.isReturned] using inside _ main
  | early main | leave main =>
    rcases main with main | main <;>
      simpa [MainPhase.exit?, MainPhase.isReturned] using inside _ main
  | stop main =>
    refine ⟨.inl rfl, ?_⟩
    simp only [rank, mainRank, main, ProgramEvent.repeats, Bool.not_false, Bool.toNat_true]
    omega
  | @cleanup exit main =>
    have kept : s.cleanupGuard.collector = s.collector ∧ s.cleanupGuard.tasks = s.tasks := by
      unfold cleanupGuard
      split <;> exact ⟨rfl, rfl⟩
    have next : mainRank (afterCleanup exit) ≤ 2 ∧ (afterCleanup exit).exit?.isSome := by
      cases exit <;> simp [afterCleanup, mainRank, MainPhase.exit?]
    have before : mainRank s.main = 3 := by rw [main]; rfl
    refine ⟨.inl next.2, ?_⟩
    simp only [rank, kept, ProgramEvent.repeats, Bool.not_false, Bool.toNat_true]
    omega
  | await main =>
    refine ⟨.inl rfl, ?_⟩
    simp only [rank, mainRank, main, ProgramEvent.repeats, Bool.not_false, Bool.toNat_true]
    omega
  | shutdown main =>
    refine ⟨.inr rfl, ?_⟩
    simp only [rank, mainRank, main, ProgramEvent.repeats, Bool.not_false, Bool.toNat_true]
    omega
  | tasks collector =>
    refine ⟨leaving, ?_⟩
    simp only [rank, collectorRank, collector, sum_spawned, ProgramEvent.repeats, Bool.not_false,
      Bool.toNat_true]
    omega
  | ended collector | stopTasks collector | joined collector =>
    refine ⟨leaving, ?_⟩
    simp only [rank, collectorRank, collector, ProgramEvent.repeats, Bool.not_false, Bool.toNat_true]
    omega
  | @join result i task collector found ended fresh =>
    have main : (s.joinTask result i task).main = s.main := by
      unfold joinTask
      cases task.status <;> rfl
    refine ⟨?_, rank_joinTask found fresh⟩
    unfold Leaving
    rw [main]
    exact leaving
  | collectorPanics present live =>
    have waiting : 0 < collectorRank config s.collector := by
      cases collector : s.collector with
      | absent => exact absurd collector present
      | done joined => exact absurd collector (live joined)
      | spawned | subscribing | stopping | joining =>
        simp only [collectorRank]
        omega
    have gone : ∀ joined, collectorRank config (.done joined) = 0 := fun _ => rfl
    refine ⟨leaving, ?_⟩
    simp only [rank, gone, panicHook, ProgramEvent.repeats, Bool.not_false, Bool.toNat_true]
    omega
  | finish found running => exact ⟨leaving, rank_setTask found running (by simp)⟩
  | @panic i task err found running =>
    have spent : rank config (s.panicHook.setTask i { task with status := .panicked err }) <
        rank config s.panicHook := rank_setTask found running (by simp)
    exact ⟨leaving, spent⟩
  | served | refused | workerPanic => exact ⟨leaving, Nat.le_refl _⟩

/-- Once the stop flag is set, the collector or one of its tasks can go on until it has ended. -/
theorem exists_collector_step (told : s.stopFlag = true) (live : ∀ joined, s.collector ≠ .done joined)
    (present : s.collector ≠ .absent) :
    ∃ event, event.repeats = false ∧ event.panics = false ∧ (step config s event).isSome := by
  cases collector : s.collector with
  | absent => exact absurd collector present
  | done joined => exact absurd collector (live joined)
  | spawned => exact ⟨.spawnTasks, rfl, rfl, by simp [step, stepMain, stepCollector, collector]⟩
  | subscribing =>
    exact ⟨.subscriptionEnds (.ok ()), rfl, rfl, by simp [step, stepMain, stepCollector, collector, told]⟩
  | stopping result => exact ⟨.stopTasks, rfl, rfl, by simp [step, stepMain, stepCollector, collector]⟩
  | joining result =>
    by_cases all : s.tasks.all (·.joined) = true
    · exact ⟨.joinedAll, rfl, rfl, by simp [step, stepMain, stepCollector, collector, all]⟩
    · have left : ∃ task ∈ s.tasks, task.joined = false := by simpa using all
      obtain ⟨task, mem, fresh⟩ := left
      obtain ⟨i, found⟩ := List.mem_iff_getElem?.mp mem
      by_cases running : task.status = .running
      · refine ⟨.taskFinishes i, rfl, rfl, ?_⟩
        simp [step, stepMain, stepCollector, stepTask, found, running, mayFinish, told]
      · refine ⟨.joinNext i, rfl, rfl, ?_⟩
        simp [step, stepMain, stepCollector, collector, found, running, fresh]

/-- Until `main` has returned something can go on. -/
theorem exists_step (orderly : Orderly events s) (exit : s.main.exit?.isSome) :
    ∃ event, event.repeats = false ∧ event.panics = false ∧ (step config s event).isSome := by
  have standing := orderly.standing
  cases main : s.main with
  | guarded | listening | spawned | looping | returned =>
    rw [main] at exit
    cases exit
  | stopping => exact ⟨.stop, rfl, rfl, by simp [step, stepMain, main]⟩
  | cleaning => exact ⟨.cleanup, rfl, rfl, by simp [step, stepMain, main]⟩
  | closing => exact ⟨.shutdownStore, rfl, rfl, by simp [step, stepMain, main]⟩
  | awaiting exit =>
    rw [main] at standing
    by_cases done : ∃ joined, s.collector = .done joined
    · obtain ⟨joined, done⟩ := done
      exact ⟨.await, rfl, rfl, by simp [step, stepMain, main, done]⟩
    · exact exists_collector_step standing.2.2.1 (fun joined at_ => done ⟨joined, at_⟩) standing.2.2.2

/-- From the moment `main` leaves the event loop, or fails on the way to it, at most two steps for
each background task and eight more are taken, besides calls of the store and panics of what the
tasks have started, whatever fails or panics; and until `main` has returned one of them is
possible, without a panic: `main` has set the flag at which the loops it waits for end. -/
theorem main_ends {before after : List ProgramEvent} (ran : run config before = some s)
    (exit : s.main.exit?.isSome) (rest : Lts.run (step config) s after = some s') :
    after.countP (!·.repeats) ≤ 2 * (spawnBackgroundTasks config).length + 8 ∧
      (s'.main.isReturned ∨
        ∃ event, event.repeats = false ∧ event.panics = false ∧ (step config s' event).isSome) := by
  obtain ⟨leaving, steps⟩ := Lts.length_filter_le_of_rank (rank config) (!·.repeats) (I := Leaving)
    (fun _ _ _ leaving stepped => (rank_spent leaving stepped).1)
    (fun _ _ _ leaving stepped => (rank_spent leaving stepped).2) (.inl exit) rest
  have bound := rank_le (counted_run ran)
  rw [List.countP_eq_length_filter]
  refine ⟨by omega, ?_⟩
  have ran' : run config (before ++ after) = some s' := by
    unfold run at ran ⊢
    rw [Lts.run_append, ran]
    exact rest
  rcases leaving with exit | returned
  · exact .inr (exists_step (orderly_run ran') exit)
  · exact .inl returned

theorem main_ends_quit : ∃ s s', run ⟨[("node", "ws://node")], [], false⟩ (quitEvents.take 6) = some s ∧
    Lts.run (step ⟨[("node", "ws://node")], [], false⟩) s ((quitEvents.drop 6).take 8) = some s' ∧
    ∃ event, event.panics = false ∧ (step ⟨[("node", "ws://node")], [], false⟩ s' event).isSome := by
  have ran : ∃ s s', run ⟨[("node", "ws://node")], [], false⟩ (quitEvents.take 6) = some s ∧
      s.main.exit?.isSome ∧
      Lts.run (step ⟨[("node", "ws://node")], [], false⟩) s ((quitEvents.drop 6).take 8) = some s' ∧
      s'.main.isReturned = false := ⟨_, _, rfl, rfl, rfl, rfl⟩
  obtain ⟨s, s', ran, exit, rest, waits⟩ := ran
  refine ⟨s, s', ran, rest, ?_⟩
  rcases (main_ends ran exit rest).2 with returned | ⟨event, -, calm, possible⟩
  · rw [waits] at returned
    cases returned
  · exact ⟨event, calm, possible⟩

end Program

end ChainDash.App
