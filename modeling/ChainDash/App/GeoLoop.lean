import ChainDash.Collect.Data
import ChainDash.Geo.Store
import ChainDash.Lib.Lts

/-!
# The UI loop and the peer-geo store

The store worker interleaved with its clients and with the UI thread, which reads a Geo
View Snapshot when the wake channel fires and, after a failed read, once a second. Two
results: the panel is up to date whenever everything is quiet (`never_stale`), and when
the arm of the wake channel fires for a commit (`firings_follow_commits`).
-/

namespace ChainDash.App
set_option autoImplicit false

open Geo Collect

/-- The snapshot part of the widget. -/
structure PeerCountriesWidget where
  snapshot : GeoViewSnapshot := {}
  snapshotLoaded : Bool := false

/-- `refresh_snapshot` once the store has answered: whether the read succeeded, with the
widget and the shared data after it. -/
def PeerCountriesWidget.refreshSnapshot (widget : PeerCountriesWidget) (data : Data)
    (read : Except String GeoViewSnapshot) (now : Nat) : Bool × PeerCountriesWidget × Data :=
  match read with
  | .ok snapshot => (true, { widget with snapshot, snapshotLoaded := true }, data)
  | .error err =>
    (false, widget, data.setStatusMessage .warn ("geo snapshot unavailable: " ++ err) now)

/-- Where the UI thread stands in `refresh_geo_snapshot`; `waiting` holds its reply channel. -/
inductive GeoPhase where
  | idle
  | refreshing
  | waiting (reply : Option (Except String GeoViewSnapshot))

/-- A write transaction committed, or the arm of the wake channel fired. -/
inductive Mark where
  | commit
  | firing
  deriving DecidableEq

/-- The log, which no step reads, keeps commits and firings in the order they happen. -/
structure GeoLoop where
  store : PeerGeoStore
  data : Data := {}
  widget : PeerCountriesWidget := {}
  geoSnapshotRetry : Bool := false
  ui : GeoPhase := .refreshing
  log : List Mark := []

/-- A step of a collector task (`call`), of the worker (`exec`, `signal`, `reply`), or of
the UI thread: an arm of its `select!`, the request it sends, the answer it gets. -/
inductive GeoEvent where
  | call (id : Nat) (command : StoreCommand)
  | exec (now : UnixSeconds) (fault : Option String)
  | signal
  | reply
  | geoUpdate
  | geoRetryTick
  | request
  | finish (now : Nat)

namespace GeoLoop

/-- A call of a collector task is queued; an unavailable store fails it at once. -/
def call (loop : GeoLoop) (id : Nat) (command : StoreCommand) : GeoLoop :=
  match loop.store with
  | .null _ => loop
  | .sqlite worker =>
    match worker.send ⟨.collector id, command⟩ with
    | .error _ => loop
    | .ok worker => { loop with store := .sqlite worker }

/-- `geo_view_snapshot` up to its `recv`. -/
def request (loop : GeoLoop) : GeoLoop :=
  match loop.store with
  | .null error => { loop with ui := .waiting (some (.error error)) }
  | .sqlite worker =>
    match worker.send ⟨.ui, .snapshot⟩ with
    | .error err => { loop with ui := .waiting (some (.error err)) }
    | .ok worker => { loop with store := .sqlite worker, ui := .waiting none }

/-- A reply to the UI thread lands in the channel it waits on. -/
def deliver (loop : GeoLoop) (client : Client) (reply : Reply) : GeoLoop :=
  match client, reply, loop.ui with
  | .ui, .snapshot result, .waiting none => { loop with ui := .waiting (some result) }
  | _, _, _ => loop

/-- What the UI thread's `recv` gives; a worker that has exited sends no reply any more. -/
def readResult (loop : GeoLoop) : Option (Except String GeoViewSnapshot) :=
  match loop.ui, loop.store with
  | .waiting (some result), _ => some result
  | .waiting none, .sqlite { phase := .exited, .. } => some (.error (storeUnavailable recvError))
  | _, _ => none

/-- The rest of `refresh_geo_snapshot`. -/
def finishRead (loop : GeoLoop) (read : Except String GeoViewSnapshot) (now : Nat) : GeoLoop :=
  let (loaded, widget, data) := loop.widget.refreshSnapshot loop.data read now
  { loop with widget, data, geoSnapshotRetry := !loaded, ui := .idle }

def step (loop : GeoLoop) : GeoEvent → Option GeoLoop
  | .call id command => some (loop.call id command)
  | .exec now fault =>
    match loop.store with
    | .null _ => none
    | .sqlite worker => (worker.exec now fault).map fun worker =>
      { loop with
        store := .sqlite worker
        log := if worker.phase.isCommitted then loop.log ++ [.commit] else loop.log }
  | .signal =>
    match loop.store with
    | .null _ => none
    | .sqlite worker => worker.signal.map fun worker => { loop with store := .sqlite worker }
  | .reply =>
    match loop.store with
    | .null _ => none
    | .sqlite worker => worker.reply.map fun (client, reply, worker) =>
      { loop with store := .sqlite worker }.deliver client reply
  | .geoUpdate =>
    match loop.ui with
    | .idle =>
      if loop.store.updatesReady then
        some { loop with
          store := loop.store.takeUpdate, ui := .refreshing, log := loop.log ++ [.firing] }
      else none
    | _ => none
  | .geoRetryTick =>
    match loop.ui with
    | .idle => some (if loop.geoSnapshotRetry then { loop with ui := .refreshing } else loop)
    | _ => none
  | .request =>
    match loop.ui with
    | .refreshing => some loop.request
    | _ => none
  | .finish now => loop.readResult.map (loop.finishRead · now)

/-- The initial `refresh_geo_snapshot` is ahead. -/
def start (store : PeerGeoStore) : GeoLoop where
  store := store

/-! ## The panel -/

variable {loop loop' : GeoLoop} {worker : Worker}

/-- Every snapshot on its way to the panel, and the one on it, shows the tables. -/
structure Inv (loop : GeoLoop) (worker : Worker) : Prop where
  store : loop.store = .sqlite worker
  replying : ∀ client snapshot, worker.phase = .replying client (.snapshot (.ok snapshot)) →
    snapshot = buildGeoViewSnapshot worker.tables
  delivered : ∀ snapshot, loop.ui = .waiting (some (.ok snapshot)) → worker.Shows snapshot
  displayed : loop.ui = .idle → loop.geoSnapshotRetry = false → worker.Shows loop.widget.snapshot

/-- A step of the worker that keeps what a snapshot shows keeps the invariant. -/
theorem Inv.worker_step {worker' : Worker} (inv : Inv loop worker) (log : List Mark)
    (shows_ : ∀ snapshot, worker.Shows snapshot → worker'.Shows snapshot)
    (replying : ∀ client snapshot, worker'.phase = .replying client (.snapshot (.ok snapshot)) →
      snapshot = buildGeoViewSnapshot worker'.tables) :
    Inv { loop with store := .sqlite worker', log } worker' where
  store := rfl
  replying := replying
  delivered snapshot ui := shows_ _ (inv.delivered snapshot ui)
  displayed ui retry := shows_ _ (inv.displayed ui retry)

theorem Inv.call (inv : Inv loop worker) (id : Nat) (command : StoreCommand) :
    ∃ worker', Inv (loop.call id command) worker' := by
  cases sent : worker.send ⟨.collector id, command⟩ with
  | error err =>
    simp only [GeoLoop.call, inv.store, sent]
    exact ⟨worker, inv⟩
  | ok worker' =>
    simp only [GeoLoop.call, inv.store, sent]
    obtain rfl := Worker.send_cases sent
    exact ⟨_, inv.worker_step loop.log (fun _ => (Worker.shows_queue _).mpr) inv.replying⟩

theorem Inv.request (inv : Inv loop worker) : ∃ worker', Inv loop.request worker' := by
  cases sent : worker.send ⟨.ui, .snapshot⟩ with
  | error err =>
    simp only [GeoLoop.request, inv.store, sent]
    exact ⟨worker, rfl, inv.replying, by simp, by simp⟩
  | ok worker' =>
    simp only [GeoLoop.request, inv.store, sent]
    obtain rfl := Worker.send_cases sent
    exact ⟨_, rfl, inv.replying, by simp, by simp⟩

/-- A snapshot that was read from the tables as they are now may be delivered. -/
theorem Inv.deliver (inv : Inv loop worker) (client : Client) (reply : Reply)
    (shown : ∀ snapshot, reply = .snapshot (.ok snapshot) → worker.Shows snapshot) :
    Inv (loop.deliver client reply) worker := by
  unfold GeoLoop.deliver
  split
  case h_1 result _ =>
    refine ⟨inv.store, inv.replying, ?_, by simp⟩
    intro snapshot ui
    simp only [GeoPhase.waiting.injEq, Option.some.injEq] at ui
    apply shown
    rw [ui]
  case h_2 => exact inv

theorem Inv.finishRead (inv : Inv loop worker) {read : Except String GeoViewSnapshot}
    (got : loop.readResult = some read) (now : Nat) : Inv (loop.finishRead read now) worker := by
  refine ⟨inv.store, inv.replying, by simp [GeoLoop.finishRead], ?_⟩
  intro _ retry
  cases read with
  | error err => simp [GeoLoop.finishRead, PeerCountriesWidget.refreshSnapshot] at retry
  | ok snapshot =>
    apply inv.delivered snapshot
    simp only [readResult] at got
    split at got
    case h_1 ui => rw [ui, Option.some.inj got]
    case h_2 => simp at got
    case h_3 => cases got

theorem Inv.step (inv : Inv loop worker) {event : GeoEvent} (h : loop.step event = some loop') :
    ∃ worker', Inv loop' worker' := by
  cases event with
  | call id command =>
    cases h
    exact inv.call id command
  | exec now fault =>
    simp only [GeoLoop.step, inv.store, Option.map_eq_some_iff] at h
    obtain ⟨worker', executed, rfl⟩ := h
    have effect := Worker.exec_executed executed
    exact ⟨worker', inv.worker_step _ (fun _ => effect.shows) effect.shown⟩
  | signal =>
    simp only [GeoLoop.step, inv.store, Option.map_eq_some_iff] at h
    obtain ⟨worker', signalled, rfl⟩ := h
    obtain ⟨client, reply, -, rfl⟩ := Worker.signal_cases signalled
    refine ⟨_, inv.worker_step loop.log ?_ ?_⟩
    · intro snapshot _
      left
      simp [Worker.unseen]
    · intro client snapshot phase
      cases phase
  | reply =>
    simp only [GeoLoop.step, inv.store, Option.map_eq_some_iff] at h
    obtain ⟨⟨client, reply, worker'⟩, replied, rfl⟩ := h
    obtain ⟨before, rfl⟩ := Worker.reply_cases replied
    refine ⟨_, (inv.worker_step loop.log ?_ ?_).deliver client reply ?_⟩
    · intro snapshot shows_
      simpa [Worker.Shows, Worker.unseen, before, WorkerPhase.isCommitted] using shows_
    · intro client snapshot phase
      cases phase
    · rintro snapshot rfl
      exact .inr (inv.replying client snapshot before)
  | geoUpdate =>
    simp only [GeoLoop.step] at h
    split at h
    case h_1 =>
      split at h
      · cases h
        refine ⟨{ worker with wake := false }, ?_, inv.replying, by simp, by simp⟩
        simp [inv.store, PeerGeoStore.takeUpdate]
      · cases h
    case h_2 => cases h
  | geoRetryTick =>
    simp only [GeoLoop.step] at h
    split at h
    case h_1 =>
      cases h
      split
      · exact ⟨worker, inv.store, inv.replying, by simp, by simp⟩
      · exact ⟨worker, inv⟩
    case h_2 => cases h
  | request =>
    simp only [GeoLoop.step] at h
    split at h
    · cases h
      exact inv.request
    · cases h
  | finish now =>
    simp only [GeoLoop.step, Option.map_eq_some_iff] at h
    obtain ⟨read, got, rfl⟩ := h
    exact ⟨worker, inv.finishRead got now⟩

theorem start_inv (dbPath : String) (tables : Tables) :
    Inv (start (setupGeoStore dbPath (.ok tables))) { tables } where
  store := rfl
  replying client snapshot phase := by cases phase
  delivered snapshot ui := by cases ui
  displayed ui := by cases ui

theorem inv_of_run {dbPath : String} {tables : Tables} {events : List GeoEvent}
    (run : Lts.run step (start (setupGeoStore dbPath (.ok tables))) events = some loop) :
    ∃ worker, Inv loop worker := by
  refine Lts.run_invariant (I := fun _ loop => ∃ worker, Inv loop worker)
    ⟨_, start_inv dbPath tables⟩ ?_ run
  rintro _ before event after ⟨worker, inv⟩ stepped
  exact inv.step stepped

/-- With the database open, in every interleaving: the panel holds the snapshot of the
tables whenever no commit awaits its wake, no wake is pending, no refresh is in progress
and no retry armed; and a failed read keeps the panel and arms the retry. -/
theorem never_stale {dbPath : String} {tables : Tables} {events : List GeoEvent}
    (run : Lts.run step (start (setupGeoStore dbPath (.ok tables))) events = some loop) :
    ∃ worker, loop.store = .sqlite worker ∧
      (worker.phase.isCommitted = false → worker.wake = false → loop.ui = .idle →
        loop.geoSnapshotRetry = false →
        loop.widget.snapshot = buildGeoViewSnapshot worker.tables) ∧
      ∀ err now, loop.readResult = some (.error err) →
        ∃ after, step loop (.finish now) = some after ∧ after.ui = .idle ∧
          after.widget = loop.widget ∧ after.geoSnapshotRetry = true := by
  obtain ⟨worker, inv⟩ := inv_of_run run
  refine ⟨worker, inv.store, ?_, ?_⟩
  · intro sent empty rests calm
    rcases inv.displayed rests calm with unseen | shown
    · simp [Worker.unseen, sent, empty] at unseen
    · exact shown
  · intro err now failed
    refine ⟨loop.finishRead (.error err) now, ?_, rfl, rfl, rfl⟩
    simp [step, failed]

def noon : UnixSeconds := ⟨1700000000, by decide, by decide⟩

/-- The initial read succeeds; then a second write lands while the panel reads after the
first, the read fails, the retry shows both writes and so does the read of the wake. -/
def wroteTwice : List GeoEvent :=
  [.request, .exec noon none, .reply, .finish 0,
    .call 0 (.replaceSnapshot ["1.1.1.1", "2.2.2.2"]), .exec noon none, .signal, .reply,
    .geoUpdate, .call 0 (.updateLocations [⟨"1.1.1.1", some "cn", none, none⟩]), .request,
    .exec noon none, .signal, .reply, .exec noon (some "disk I/O error"), .reply, .finish 1,
    .geoRetryTick, .request, .exec noon none, .reply, .finish 2,
    .geoUpdate, .request, .exec noon none, .reply, .finish 3]

theorem never_stale_wroteTwice : ∃ loop worker,
    Lts.run step (start (setupGeoStore "geo.db" (.ok {}))) wroteTwice = some loop ∧
    loop.store = .sqlite worker ∧ loop.widget.snapshot = buildGeoViewSnapshot worker.tables ∧
    loop.widget.snapshot = ⟨2, 1, [⟨"CN", 1⟩], 1⟩ := by
  have ends : (Lts.run step (start (setupGeoStore "geo.db" (.ok {}))) wroteTwice).map (fun loop =>
      match loop.ui, loop.store with
      | .idle, .sqlite worker => some (worker.phase.isCommitted, worker.wake,
          loop.geoSnapshotRetry, loop.widget.snapshot)
      | _, _ => none) = some (some (false, false, false, ⟨2, 1, [⟨"CN", 1⟩], 1⟩)) := by decide
  obtain ⟨loop, run, facts⟩ := Option.map_eq_some_iff.mp ends
  obtain ⟨worker, store, shows_, -⟩ := never_stale run
  rw [store] at facts
  cases rests : loop.ui with
  | idle =>
    simp only [rests, Option.some.injEq, Prod.mk.injEq] at facts
    obtain ⟨sent, empty, calm, shown⟩ := facts
    exact ⟨loop, worker, run, store, shows_ sent empty rests calm, shown⟩
  | refreshing => simp [rests] at facts
  | waiting reply => simp [rests] at facts

/-! ## The wake channel -/

/-- Every firing comes right after a commit, the log holding nothing else. -/
def FiringsFollowCommits (log : List Mark) : Prop :=
  ∀ before after, log = before ++ .firing :: after → before.getLast? = some .commit

theorem firingsFollowCommits_snoc {log : List Mark} {mark : Mark} (sofar : FiringsFollowCommits log)
    (last : mark = .firing → log.getLast? = some .commit) : FiringsFollowCommits (log ++ [mark]) := by
  intro before after split
  rcases Lts.snoc_eq_append_cons split with ⟨rfl, fired, -⟩ | ⟨after', -, inside⟩
  · exact last fired
  · exact sofar before after' inside

/-- The arm fires only on the wake of an open database, and never while the wake of a
newer commit is still to be sent. -/
def WakesInTime (loop : GeoLoop) (event : GeoEvent) : Prop :=
  match event, loop.store with
  | .geoUpdate, .sqlite worker => worker.phase.isCommitted = false
  | .geoUpdate, .null _ => False
  | _, _ => True

/-- A step as far as the wake channel is concerned: most steps leave it and the log as
they are, a commit awaits its wake, a wake fills the channel, a firing empties it. -/
inductive WakeStep (event : GeoEvent) (loop loop' : GeoLoop) (worker worker' : Worker) : Prop where
  | quiet (log : loop'.log = loop.log) (wake : worker'.wake = worker.wake)
      (phase : worker'.phase.isCommitted = worker.phase.isCommitted)
  | commit (log : loop'.log = loop.log ++ [.commit]) (wake : worker'.wake = worker.wake)
      (before : worker.phase.isCommitted = false) (after : worker'.phase.isCommitted = true)
  | signal (log : loop'.log = loop.log) (wake : worker'.wake = true)
      (before : worker.phase.isCommitted = true) (after : worker'.phase.isCommitted = false)
  | fire (fired : event = .geoUpdate) (log : loop'.log = loop.log ++ [.firing])
      (before : worker.wake = true) (after : worker'.wake = false)
      (phase : worker'.phase = worker.phase)

theorem call_wakeStep (store : loop.store = .sqlite worker) (id : Nat) (command : StoreCommand) :
    ∃ worker', (loop.call id command).store = .sqlite worker' ∧
      WakeStep (.call id command) loop (loop.call id command) worker worker' := by
  cases sent : worker.send ⟨.collector id, command⟩ with
  | error err =>
    simp only [GeoLoop.call, store, sent]
    exact ⟨worker, rfl, .quiet rfl rfl rfl⟩
  | ok worker' =>
    simp only [GeoLoop.call, store, sent]
    obtain rfl := Worker.send_cases sent
    exact ⟨_, rfl, .quiet rfl rfl rfl⟩

theorem request_wakeStep (store : loop.store = .sqlite worker) :
    ∃ worker', loop.request.store = .sqlite worker' ∧
      WakeStep .request loop loop.request worker worker' := by
  cases sent : worker.send ⟨.ui, .snapshot⟩ with
  | error err =>
    simp only [GeoLoop.request, store, sent]
    exact ⟨worker, rfl, .quiet rfl rfl rfl⟩
  | ok worker' =>
    simp only [GeoLoop.request, store, sent]
    obtain rfl := Worker.send_cases sent
    exact ⟨_, rfl, .quiet rfl rfl rfl⟩

theorem deliver_store_log (loop : GeoLoop) (client : Client) (reply : Reply) :
    (loop.deliver client reply).store = loop.store ∧
      (loop.deliver client reply).log = loop.log := by
  unfold deliver
  split <;> exact ⟨rfl, rfl⟩

theorem step_wakeStep (store : loop.store = .sqlite worker) {event : GeoEvent}
    (h : loop.step event = some loop') :
    ∃ worker', loop'.store = .sqlite worker' ∧ WakeStep event loop loop' worker worker' := by
  cases event with
  | call id command =>
    cases h
    exact call_wakeStep store id command
  | exec now fault =>
    simp only [step, store, Option.map_eq_some_iff] at h
    obtain ⟨worker', executed, rfl⟩ := h
    have effect := Worker.exec_executed executed
    refine ⟨worker', rfl, ?_⟩
    cases committed : worker'.phase.isCommitted with
    | true => exact .commit (by simp) effect.wake (by rw [effect.before]; rfl) committed
    | false =>
      apply WakeStep.quiet (by simp) effect.wake
      rw [committed, effect.before]
      rfl
  | signal =>
    simp only [step, store, Option.map_eq_some_iff] at h
    obtain ⟨worker', signalled, rfl⟩ := h
    obtain ⟨client, reply, before, rfl⟩ := Worker.signal_cases signalled
    exact ⟨_, rfl, .signal rfl rfl (by rw [before]; rfl) rfl⟩
  | reply =>
    simp only [step, store, Option.map_eq_some_iff] at h
    obtain ⟨⟨client, reply, worker'⟩, replied, rfl⟩ := h
    obtain ⟨before, rfl⟩ := Worker.reply_cases replied
    obtain ⟨sameStore, sameLog⟩ := deliver_store_log
      { loop with store := .sqlite { worker with phase := .receiving } } client reply
    refine ⟨_, sameStore, .quiet sameLog rfl ?_⟩
    rw [before]
    rfl
  | geoUpdate =>
    simp only [step] at h
    split at h
    case h_2 => cases h
    case h_1 =>
      split at h
      case isFalse => cases h
      case isTrue ready =>
        cases h
        rw [store] at ready
        refine ⟨{ worker with wake := false }, ?_, .fire rfl rfl ready rfl rfl⟩
        simp [store, PeerGeoStore.takeUpdate]
  | geoRetryTick =>
    simp only [step] at h
    split at h
    case h_2 => cases h
    case h_1 =>
      cases h
      refine ⟨worker, ?_, .quiet ?_ rfl rfl⟩
      · split <;> exact store
      · split <;> rfl
  | request =>
    simp only [step] at h
    split at h
    · cases h
      exact request_wakeStep store
    · cases h
  | finish now =>
    simp only [step, Option.map_eq_some_iff] at h
    obtain ⟨read, -, rfl⟩ := h
    exact ⟨worker, store, .quiet rfl rfl rfl⟩

/-- An unavailable store never writes: all that is ever logged is a firing. -/
theorem step_null {err : String} (store : loop.store = .null err) {event : GeoEvent}
    (h : loop.step event = some loop') :
    loop'.store = .null err ∧ (loop'.log = loop.log ∨ event = .geoUpdate) := by
  cases event with
  | call id command =>
    cases h
    simp [GeoLoop.call, store]
  | exec now fault | signal | reply => simp [step, store] at h
  | geoUpdate =>
    simp only [step] at h
    split at h
    case h_2 => cases h
    case h_1 =>
      split at h <;> cases h
      exact ⟨by simp [store, PeerGeoStore.takeUpdate], .inr rfl⟩
  | geoRetryTick =>
    simp only [step] at h
    split at h <;> cases h
    split <;> exact ⟨store, .inl rfl⟩
  | request =>
    simp only [step] at h
    split at h <;> cases h
    simp [GeoLoop.request, store]
  | finish now =>
    simp only [step, Option.map_eq_some_iff] at h
    obtain ⟨read, -, rfl⟩ := h
    exact ⟨store, .inl rfl⟩

instance (loop : GeoLoop) (event : GeoEvent) : Decidable (WakesInTime loop event) :=
  match event, store : loop.store with
  | .geoUpdate, .sqlite worker =>
    decidable_of_iff (worker.phase.isCommitted = false) (by simp [WakesInTime, store])
  | .geoUpdate, .null _ => isFalse (by simp [WakesInTime, store])
  | .call _ _, _ | .exec _ _, _ | .signal, _ | .reply, _ | .geoRetryTick, _ | .request, _
  | .finish _, _ => isTrue trivial

/-- As long as a commit is unseen, it is the last mark. -/
structure LogInv (loop : GeoLoop) : Prop where
  follow : FiringsFollowCommits loop.log
  unseen : ∀ worker, loop.store = .sqlite worker → worker.unseen = true →
    loop.log.getLast? = some .commit

theorem LogInv.step (inv : LogInv loop) {event : GeoEvent} (inTime : WakesInTime loop event)
    (h : loop.step event = some loop') : LogInv loop' := by
  cases store : loop.store with
  | null err =>
    obtain ⟨store', same | rfl⟩ := step_null store h
    · exact ⟨same ▸ inv.follow, fun worker sqlite => by simp [store'] at sqlite⟩
    · simp [WakesInTime, store] at inTime
  | sqlite worker =>
    obtain ⟨worker', store', moved⟩ := step_wakeStep store h
    have last := inv.unseen worker store
    unfold Worker.unseen at last
    constructor
    · cases moved with
      | quiet log _ _ | signal log _ _ _ => exact log ▸ inv.follow
      | commit log _ _ _ => exact log ▸ firingsFollowCommits_snoc inv.follow (by simp)
      | fire _ log before _ _ =>
        exact log ▸ firingsFollowCommits_snoc inv.follow fun _ => last (by simp [before])
    · intro other sqlite unseen
      obtain rfl : worker' = other := PeerGeoStore.sqlite.inj (store'.symm.trans sqlite)
      unfold Worker.unseen at unseen
      cases moved with
      | quiet log wake phase => exact log ▸ last (by rwa [← wake, ← phase])
      | commit log _ _ _ => simp [log]
      | signal log _ before _ => exact log ▸ last (by simp [before])
      | fire fired _ _ after phase =>
        subst fired
        simp only [WakesInTime, store] at inTime
        simp [after, phase, inTime] at unseen

/-- In every run in which the arm fires in time, every firing follows a commit of its own. -/
theorem firings_follow_commits {dbPath : String} {opened : Except String Tables}
    {events : List GeoEvent} (run : Lts.run step (start (setupGeoStore dbPath opened)) events = some loop)
    (inTime : ∀ visit ∈ Lts.visited step (start (setupGeoStore dbPath opened)) events,
      WakesInTime visit.1 visit.2) : FiringsFollowCommits loop.log := by
  refine (Lts.run_invariant_of (I := fun _ loop => LogInv loop) ⟨?_, ?_⟩ ?_ run inTime).follow
  · intro before after split
    simp [start] at split
  · intro worker store unseen
    cases opened with
    | ok tables =>
      cases store
      simp [Worker.unseen, WorkerPhase.isCommitted] at unseen
    | error err => cases store
  · intro _ before event after inv ok stepped
    exact inv.step ok stepped

theorem firings_follow_commits_wroteTwice : ∃ loop,
    Lts.run step (start (setupGeoStore "geo.db" (.ok {}))) wroteTwice = some loop ∧
    loop.log = [.commit, .firing, .commit, .firing] ∧ FiringsFollowCommits loop.log := by
  have ends : (Lts.run step (start (setupGeoStore "geo.db" (.ok {}))) wroteTwice).map (·.log) =
      some [.commit, .firing, .commit, .firing] := by decide
  obtain ⟨loop, run, log⟩ := Option.map_eq_some_iff.mp ends
  exact ⟨loop, run, log, firings_follow_commits run (by decide)⟩

/-- Two writes, and a firing between the commit of the second one and its wake. -/
example : (Lts.run step (start (setupGeoStore "geo.db" (.ok {}))) [.request, .exec noon none, .reply,
    .finish 0, .call 0 (.replaceSnapshot ["1.1.1.1"]), .exec noon none, .signal, .reply,
    .call 0 (.replaceSnapshot []), .exec noon none, .geoUpdate, .signal, .reply,
    .request, .exec noon none, .reply, .finish 1, .geoUpdate]).map (·.log) =
    some [.commit, .commit, .firing, .firing] := by decide

/-- Whatever the interleaving, an open database never makes the arm fire more often than
writes commit. -/
theorem firings_le_commits {dbPath : String} {tables : Tables} {events : List GeoEvent}
    (run : Lts.run step (start (setupGeoStore dbPath (.ok tables))) events = some loop) :
    loop.log.count .firing ≤ loop.log.count .commit := by
  suffices ∃ worker, loop.store = .sqlite worker ∧
      loop.log.count .firing + worker.wake.toNat + worker.phase.isCommitted.toNat ≤
        loop.log.count .commit by
    obtain ⟨worker, -, bound⟩ := this
    omega
  refine Lts.run_invariant (I := fun _ loop => ∃ worker, loop.store = .sqlite worker ∧
    loop.log.count .firing + worker.wake.toNat + worker.phase.isCommitted.toNat ≤
      loop.log.count .commit) ⟨{ tables }, rfl, le_refl 0⟩ ?_ run
  rintro _ before event after ⟨worker, store, bound⟩ stepped
  obtain ⟨worker', store', moved⟩ := step_wakeStep store stepped
  refine ⟨worker', store', ?_⟩
  cases moved with
  | quiet log wake phase => rwa [log, wake, phase]
  | commit log wake before after =>
    rw [log, wake, after]
    simp [before] at bound ⊢
    omega
  | signal log wake before after =>
    rw [log, wake, after]
    simp [before] at bound ⊢
    omega
  | fire _ log before after phase =>
    rw [log, after, phase]
    simp [before] at bound ⊢
    omega

/-- An unavailable database, and nothing but the initial read: the arm fires at once, and
again after every refresh. -/
def spinning : List GeoEvent :=
  [.request, .finish 0, .geoUpdate, .request, .finish 1, .geoUpdate]

theorem spinning_without_commits : ∃ loop,
    Lts.run step (start (setupGeoStore "geo.db" (.error "unable to open database file"))) spinning =
      some loop ∧ loop.log = [.firing, .firing] ∧ ¬ FiringsFollowCommits loop.log := by
  have ends : (Lts.run step (start (setupGeoStore "geo.db" (.error "unable to open database file")))
      spinning).map (·.log) = some [.firing, .firing] := by decide
  obtain ⟨loop, run, log⟩ := Option.map_eq_some_iff.mp ends
  refine ⟨loop, run, log, ?_⟩
  intro follow
  have first := follow [] [.firing] log
  cases first

end GeoLoop

end ChainDash.App
