import ChainDash.Geo.Tables

/-!
# The peer-geo store worker

The channel-backed worker of `SqlitePeerGeoStore`: it owns the tables and executes the
queued commands one at a time. A successful write commits, then tries to send on the
one-slot wake channel, then replies, and these are three steps here, for the clients and
the UI run in between. The steps are functions of the worker alone; which client waits
for which reply is the business of whoever composes them.
-/

namespace ChainDash.Geo
set_option autoImplicit false

inductive StoreCommand where
  | replaceSnapshot (ips : List String)
  | updateLocations (entries : List LocationEntry)
  | snapshot
  | shutdown

/-- The callers of the store: the UI thread, and the tasks of the collector. -/
inductive Client where
  | ui
  | collector (id : Nat)
  deriving DecidableEq

/-- A command with its reply channel, which belongs to the caller. -/
structure Request where
  client : Client
  command : StoreCommand

inductive WriteReply where
  | replaceSnapshot (result : Except String (List String))
  | updateLocations (result : Except String Unit)

inductive Reply where
  | write (reply : WriteReply)
  | snapshot (result : Except String GeoViewSnapshot)

/-- Where the worker stands in its loop: a write is `committed` until its wake is sent. -/
inductive WorkerPhase where
  | receiving
  | committed (client : Client) (reply : WriteReply)
  | replying (client : Client) (reply : Reply)
  | exited

def WorkerPhase.isCommitted : WorkerPhase → Bool
  | .committed _ _ => true
  | _ => false

/-- The worker, its command channel and its wake channel. -/
structure Worker where
  tables : Tables
  queue : List Request := []
  phase : WorkerPhase := .receiving
  wake : Bool := false

/-- `From<rusqlite::Error>`. -/
def sqliteError (err : String) : String := "sqlite error: " ++ err

/-- `store_unavailable`. -/
def storeUnavailable (err : String) : String := "peer geo store worker is unavailable: " ++ err

/-- crossbeam's texts for a channel whose other end is gone. -/
def sendError : String := "sending on a disconnected channel"

def recvError : String := "receiving on an empty and disconnected channel"

namespace Worker

/-- The database may refuse any statement; a transaction then leaves no trace. -/
def query {α : Type} (fault : Option String) (result : Except String α) : Except String α :=
  match fault with
  | some err => .error (sqliteError err)
  | none => result.mapError sqliteError

/-- The end of a write: a commit with its reply ahead, or the error. -/
def finishWrite {α : Type} (worker : Worker) (client : Client) (reply : Except String α → WriteReply)
    (result : Except String (α × Tables)) : Worker :=
  match result with
  | .ok (answer, tables) => { worker with tables, phase := .committed client (reply (.ok answer)) }
  | .error err => { worker with phase := .replying client (.write (reply (.error err))) }

/-- One round of `worker_loop` up to the commit. -/
def exec (worker : Worker) (now : UnixSeconds) (fault : Option String) : Option Worker :=
  match worker.phase, worker.queue with
  | .receiving, request :: queue =>
    let worker := { worker with queue }
    match request.command with
    | .replaceSnapshot ips => some <| worker.finishWrite request.client .replaceSnapshot <|
        query fault (replacePeerSnapshotTx worker.tables ips now)
    | .updateLocations entries => some <| worker.finishWrite request.client .updateLocations <|
        query fault ((updateLocationCacheTx worker.tables entries now).map ((), ·))
    | .snapshot =>
      let result := query fault (.ok (buildGeoViewSnapshot worker.tables))
      some { worker with phase := .replying request.client (.snapshot result) }
    | .shutdown => some { worker with queue := [], phase := .exited }
  | _, _ => none

/-- `wake.try_send(())` after a commit: a full channel stays full. -/
def signal (worker : Worker) : Option Worker :=
  match worker.phase with
  | .committed client reply =>
    some { worker with wake := true, phase := .replying client (.write reply) }
  | _ => none

/-- `reply.send(result)`, and back to the channel. -/
def reply (worker : Worker) : Option (Client × Reply × Worker) :=
  match worker.phase with
  | .replying client reply => some (client, reply, { worker with phase := .receiving })
  | _ => none

/-- `self.tx.send(command)` fails once the worker has dropped its receiver. -/
def send (worker : Worker) (request : Request) : Except String Worker :=
  match worker.phase with
  | .exited => .error (storeUnavailable sendError)
  | _ => .ok { worker with queue := worker.queue ++ [request] }

end Worker

/-- The handles that `setup_geo_store` returns. -/
inductive PeerGeoStore where
  | sqlite (worker : Worker)
  | null (error : String)

/-- `SqlitePeerGeoStore::open` gives the tables of the migrated database, or its error. -/
def setupGeoStore (dbPath : String) (opened : Except String Tables) : PeerGeoStore :=
  match opened with
  | .ok tables => .sqlite { tables }
  | .error err => .null ("peer geo database " ++ dbPath ++ " unavailable: " ++ err)

/-- Is a receive on `updates()` ready? The SQLite handle keeps a sender, so only a token
makes it so. `NullPeerGeoStore::new` drops the only sender: its channel is disconnected. -/
def PeerGeoStore.updatesReady : PeerGeoStore → Bool
  | .sqlite worker => worker.wake
  | .null _ => true

/-- The receive takes the token, where there is one. -/
def PeerGeoStore.takeUpdate : PeerGeoStore → PeerGeoStore
  | .sqlite worker => .sqlite { worker with wake := false }
  | .null error => .null error

/-! ## What the steps of the worker do -/

namespace Worker

variable {worker worker' : Worker}

/-- The effect of an executed command: a commit is announced by the phase, nothing else
changes the tables, and a snapshot shows them as they are. -/
structure Executed (worker worker' : Worker) : Prop where
  before : worker.phase = .receiving
  wake : worker'.wake = worker.wake
  tables : worker'.phase.isCommitted = true ∨ worker'.tables = worker.tables
  shown : ∀ client snapshot, worker'.phase = .replying client (.snapshot (.ok snapshot)) →
    snapshot = buildGeoViewSnapshot worker'.tables

theorem finishWrite_executed {α : Type} {client : Client} {reply : Except String α → WriteReply}
    {result : Except String (α × Tables)} {queue : List Request}
    (before : worker.phase = .receiving) :
    Executed worker ({ worker with queue }.finishWrite client reply result) := by
  unfold finishWrite
  cases result with
  | ok written =>
    refine ⟨before, rfl, .inl rfl, ?_⟩
    intro client snapshot phase
    cases phase
  | error err =>
    refine ⟨before, rfl, .inr rfl, ?_⟩
    intro client snapshot phase
    cases phase

theorem exec_executed {now : UnixSeconds} {fault : Option String}
    (h : worker.exec now fault = some worker') : Executed worker worker' := by
  simp only [exec] at h
  split at h
  case h_2 => cases h
  case h_1 request queue before _ =>
    split at h <;> cases h
    · exact finishWrite_executed before
    · exact finishWrite_executed before
    · refine ⟨before, rfl, .inr rfl, ?_⟩
      intro client snapshot phase
      simp only [WorkerPhase.replying.injEq, Reply.snapshot.injEq] at phase
      cases fault with
      | none => simpa [query, Except.mapError] using phase.2.symm
      | some err => simp [query] at phase
    · refine ⟨before, rfl, .inr rfl, ?_⟩
      intro client snapshot phase
      cases phase

theorem signal_cases (h : worker.signal = some worker') : ∃ client reply,
    worker.phase = .committed client reply ∧
      worker' = { worker with wake := true, phase := .replying client (.write reply) } := by
  simp only [signal] at h
  split at h
  case h_1 client reply phase => exact ⟨client, reply, phase, (Option.some.inj h).symm⟩
  case h_2 => cases h

theorem reply_cases {client : Client} {answer : Reply}
    (h : worker.reply = some (client, answer, worker')) :
    worker.phase = .replying client answer ∧ worker' = { worker with phase := .receiving } := by
  simp only [reply] at h
  split at h
  case h_1 phase =>
    cases h
    exact ⟨phase, rfl⟩
  case h_2 => cases h

theorem send_cases {request : Request} (h : worker.send request = .ok worker') :
    worker' = { worker with queue := worker.queue ++ [request] } := by
  simp only [send] at h
  split at h
  · cases h
  · exact (Except.ok.inj h).symm

/-- A commit the UI has not received the wake of: it is still to be sent, or in the channel. -/
def unseen (worker : Worker) : Bool := worker.phase.isCommitted || worker.wake

/-- A snapshot shows the tables, unless an unseen commit will have it read again. -/
def Shows (worker : Worker) (snapshot : GeoViewSnapshot) : Prop :=
  worker.unseen = true ∨ snapshot = buildGeoViewSnapshot worker.tables

variable {snapshot : GeoViewSnapshot}

theorem Executed.shows (executed : Executed worker worker') (shows_ : worker.Shows snapshot) :
    worker'.Shows snapshot := by
  obtain ⟨before, wake, tables, -⟩ := executed
  unfold Shows unseen at *
  rw [wake]
  rcases tables with committed | same
  · left
    simp [committed]
  · rw [same]
    rcases shows_ with unseen | shown
    · left
      simp only [before, WorkerPhase.isCommitted, Bool.false_or] at unseen
      simp [unseen]
    · exact .inr shown

/-- Tables, phase and wake channel are all that counts. -/
theorem shows_queue (queue : List Request) :
    { worker with queue }.Shows snapshot ↔ worker.Shows snapshot := Iff.rfl

end Worker

end ChainDash.Geo
