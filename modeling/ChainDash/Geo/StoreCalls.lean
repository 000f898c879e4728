import Mathlib.Logic.Function.Basic
import ChainDash.Geo.Store
import ChainDash.Lib.Lts

/-!
# Blocking calls of the peer-geo store

Any number of clients call the store: a call sends its command with a reply channel of its
own and blocks on it; `shutdown` sends the marker and joins the worker's thread under a
lock. Every step of a client or of the worker is a step of `StoreSystem`, which logs what
was queued, executed and returned. `store_linearizable` reads the laws of the store off
these logs.
-/

namespace ChainDash.Geo
set_option autoImplicit false

def StoreCommand.isShutdown : StoreCommand → Bool
  | .shutdown => true
  | _ => false

/-- Where a client stands in its call. -/
inductive Caller where
  | idle
  | waiting (command : StoreCommand) (ticket : Nat) (reply : Option Reply)
  | locking
  | joining

/-- A command taken off the channel, the clock's reading and what the database did. -/
structure Execution where
  request : Request
  now : UnixSeconds
  fault : Option String

/-- A call that returned. The ticket is the place of its command among the queued ones,
and there is none when the send failed. -/
structure Returned where
  client : Client
  command : StoreCommand
  ticket : Option Nat
  result : Except String Reply

/-- The store and its clients. `handle` says that nobody took the thread's join handle yet,
`locked` that a client holds the lock on it. -/
structure StoreSystem where
  worker : Worker
  callers : Client → Caller := fun _ => .idle
  handle : Bool := true
  locked : Bool := false
  queued : List Request := []
  executed : List Execution := []
  returned : List Returned := []
  stopped : List Client := []

inductive StoreEvent where
  | call (client : Client) (command : StoreCommand)
  | exec (now : UnixSeconds) (fault : Option String)
  | signal
  | reply
  | receive (client : Client)
  | shutdown (client : Client)
  | lock (client : Client)
  | join (client : Client)
  | takeUpdate

namespace StoreSystem

def setCaller (s : StoreSystem) (client : Client) (caller : Caller) : StoreSystem :=
  { s with callers := Function.update s.callers client caller }

/-- A command went into the worker's queue, and its client goes on. -/
def enqueue (s : StoreSystem) (worker : Worker) (request : Request) (caller : Caller) : StoreSystem :=
  { s with
    worker
    queued := s.queued ++ [request]
    callers := Function.update s.callers request.client caller }

/-- A call returns. -/
def finish (s : StoreSystem) (returned : Returned) : StoreSystem :=
  { s with
    returned := s.returned ++ [returned]
    callers := Function.update s.callers returned.client .idle }

/-- `shutdown` returns. -/
def stop (s : StoreSystem) (client : Client) : StoreSystem :=
  { s with
    stopped := s.stopped ++ [client]
    callers := Function.update s.callers client .idle }

/-- `self.tx.send(command).map_err(store_unavailable)?`. -/
def call (s : StoreSystem) (client : Client) (command : StoreCommand) : StoreSystem :=
  match s.worker.send ⟨client, command⟩ with
  | .ok worker => s.enqueue worker ⟨client, command⟩ (.waiting command s.queued.length none)
  | .error err => s.finish ⟨client, command, none, .error err⟩

/-- `reply_rx.recv().map_err(store_unavailable)?`: without a reply the channel is
disconnected once the worker has dropped the commands it did not execute. -/
def receive (s : StoreSystem) (client : Client) : Option StoreSystem :=
  match s.callers client with
  | .waiting command ticket (some reply) =>
    some (s.finish ⟨client, command, some ticket, .ok reply⟩)
  | .waiting command ticket none =>
    match s.worker.phase with
    | .exited => some (s.finish ⟨client, command, some ticket, .error (storeUnavailable recvError)⟩)
    | _ => none
  | _ => none

/-- `let _ = self.tx.send(StoreCommand::Shutdown)`. -/
def sendShutdown (s : StoreSystem) (client : Client) : StoreSystem :=
  match s.worker.send ⟨client, .shutdown⟩ with
  | .ok worker => s.enqueue worker ⟨client, .shutdown⟩ .locking
  | .error _ => s.setCaller client .locking

/-- `lock_or_panic(&self.thread).take()`: the lock is held for as long as the handle is
joined, and who finds no handle returns. -/
def lock (s : StoreSystem) (client : Client) : Option StoreSystem :=
  if s.locked then none
  else if s.handle then some ({ s with handle := false, locked := true }.setCaller client .joining)
  else some (s.stop client)

/-- One step of a client or of the worker. -/
def step (s : StoreSystem) : StoreEvent → Option StoreSystem
  | .call client command =>
    match s.callers client with
    | .idle => if command.isShutdown then none else some (s.call client command)
    | _ => none
  | .exec now fault =>
    match s.worker.queue, s.worker.exec now fault with
    | request :: _, some worker =>
      some { s with worker, executed := s.executed ++ [⟨request, now, fault⟩] }
    | _, _ => none
  | .signal => s.worker.signal.map fun worker => { s with worker }
  | .reply =>
    match s.worker.reply with
    | some (client, reply, worker) =>
      match s.callers client with
      | .waiting command ticket none =>
        some ({ s with worker }.setCaller client (.waiting command ticket (some reply)))
      | _ => some { s with worker }
    | none => none
  | .receive client => s.receive client
  | .shutdown client =>
    match s.callers client with
    | .idle => some (s.sendShutdown client)
    | _ => none
  | .lock client =>
    match s.callers client with
    | .locking => s.lock client
    | _ => none
  | .join client =>
    match s.callers client, s.worker.phase with
    | .joining, .exited =>
      some ({ s with locked := false }.stop client)
    | _, _ => none
  | .takeUpdate => some { s with worker := { s.worker with wake := false } }

/-- Every run starts from a worker on the tables of the migrated database. -/
def run (tables : Tables) (events : List StoreEvent) : Option StoreSystem :=
  Lts.run step { worker := { tables } } events

end StoreSystem

/-! ## The store as one sequential object -/

/-- What a command answers on the given tables, and the tables it leaves. -/
def StoreCommand.execute (tables : Tables) (now : UnixSeconds) (fault : Option String) :
    StoreCommand → Option Reply × Tables
  | .replaceSnapshot ips =>
    match Worker.query fault (replacePeerSnapshotTx tables ips now) with
    | .ok (answer, after) => (some (.write (.replaceSnapshot (.ok answer))), after)
    | .error err => (some (.write (.replaceSnapshot (.error err))), tables)
  | .updateLocations entries =>
    match Worker.query fault (updateLocationCacheTx tables entries now) with
    | .ok after => (some (.write (.updateLocations (.ok ()))), after)
    | .error err => (some (.write (.updateLocations (.error err))), tables)
  | .snapshot => (some (.snapshot (Worker.query fault (.ok (buildGeoViewSnapshot tables)))), tables)
  | .shutdown => (none, tables)

def Execution.execute (tables : Tables) (execution : Execution) : Option Reply × Tables :=
  execution.request.command.execute tables execution.now execution.fault

/-- The tables after a sequence of executions. -/
def tablesAfter (tables : Tables) (executed : List Execution) : Tables :=
  executed.foldl (fun tables execution => (execution.execute tables).2) tables

/-- The command with the given ticket was executed, and answered so on the tables that the
executions before it left. -/
def Answers (tables : Tables) (executed : List Execution) (ticket : Nat) (request : Request)
    (reply : Reply) : Prop :=
  ∃ execution, executed[ticket]? = some execution ∧ execution.request = request ∧
    (execution.execute (tablesAfter tables (executed.take ticket))).1 = some reply

theorem Answers.snoc {tables : Tables} {executed : List Execution} {ticket : Nat}
    {request : Request} {reply : Reply} (answers : Answers tables executed ticket request reply)
    (last : Execution) : Answers tables (executed ++ [last]) ticket request reply := by
  obtain ⟨execution, found, rest⟩ := answers
  have bound := (List.getElem?_eq_some_iff.mp found).1
  refine ⟨execution, (List.getElem?_append_left bound).trans found, ?_⟩
  rwa [List.take_append_of_le_length bound.le]

/-- The reply a worker still owes. -/
def WorkerPhase.owes : WorkerPhase → Option (Client × Reply)
  | .committed client reply => some (client, .write reply)
  | .replying client reply => some (client, reply)
  | _ => none

/-- What the worker does with the first command of its queue. -/
theorem Worker.exec_execute {worker worker' : Worker} {now : UnixSeconds} {fault : Option String}
    {request : Request} {queue : List Request} (first : worker.queue = request :: queue)
    (h : worker.exec now fault = some worker') :
    worker.phase = .receiving ∧
    worker'.tables = (request.command.execute worker.tables now fault).2 ∧
    ((request.command.isShutdown = true ∧ worker'.phase = .exited ∧ worker'.queue = []) ∨
      ∃ reply, request.command.isShutdown = false ∧ worker'.queue = queue ∧
        (request.command.execute worker.tables now fault).1 = some reply ∧
        worker'.phase.owes = some (request.client, reply)) := by
  simp only [exec] at h
  split at h
  case h_2 => cases h
  case h_1 request' queue' before split =>
    rw [first] at split
    obtain ⟨rfl, rfl⟩ := List.cons.inj split
    refine ⟨before, ?_⟩
    cases command : request.command with
    | replaceSnapshot ips =>
      simp only [command, Option.some.injEq] at h
      subst h
      unfold finishWrite StoreCommand.execute
      dsimp only
      cases query fault (replacePeerSnapshotTx worker.tables ips now) with
      | ok written => exact ⟨rfl, .inr ⟨_, rfl, rfl, rfl, rfl⟩⟩
      | error err => exact ⟨rfl, .inr ⟨_, rfl, rfl, rfl, rfl⟩⟩
    | updateLocations entries =>
      simp only [command, Option.some.injEq] at h
      subst h
      unfold finishWrite StoreCommand.execute updateLocationCacheTx
      cases fault with
      | none => exact ⟨rfl, .inr ⟨_, rfl, rfl, rfl, rfl⟩⟩
      | some err => exact ⟨rfl, .inr ⟨_, rfl, rfl, rfl, rfl⟩⟩
    | snapshot =>
      simp only [command, Option.some.injEq] at h
      subst h
      exact ⟨rfl, .inr ⟨_, rfl, rfl, rfl, rfl⟩⟩
    | shutdown =>
      simp only [command, Option.some.injEq] at h
      subst h
      exact ⟨rfl, .inl ⟨rfl, rfl, rfl⟩⟩

/-! ## What one step does -/

/-- The caller of a command that was sent: `shutdown` waits for no reply. -/
def StoreSystem.sentCaller (s : StoreSystem) (request : Request) : Caller :=
  if request.command.isShutdown then .locking
  else .waiting request.command s.queued.length none

/-- Every way the system can move. -/
inductive Moves (s : StoreSystem) : StoreSystem → Prop where
  | sent (request : Request) (idle : s.callers request.client = .idle)
      (running : s.worker.phase ≠ .exited) :
      Moves s (s.enqueue { s.worker with queue := s.worker.queue ++ [request] } request
        (s.sentCaller request))
  | refused (client : Client) (command : StoreCommand) (idle : s.callers client = .idle)
      (exited : s.worker.phase = .exited) :
      Moves s (s.finish ⟨client, command, none, .error (storeUnavailable sendError)⟩)
  | executed (execution : Execution) (queue : List Request) (worker : Worker)
      (first : s.worker.queue = execution.request :: queue)
      (exec : s.worker.exec execution.now execution.fault = some worker) :
      Moves s { s with worker, executed := s.executed ++ [execution] }
  | signalled (worker : Worker) (tables : worker.tables = s.worker.tables)
      (queue : worker.queue = s.worker.queue) (owes : worker.phase.owes = s.worker.phase.owes)
      (exited : worker.phase = .exited ↔ s.worker.phase = .exited) : Moves s { s with worker }
  | replied (client : Client) (reply : Reply) (phase : s.worker.phase = .replying client reply)
      (command : StoreCommand) (ticket : Nat) (at_ : s.callers client = .waiting command ticket none) :
      Moves s ({ s with worker := { s.worker with phase := .receiving } }.setCaller client
        (.waiting command ticket (some reply)))
  | unheard (client : Client) (reply : Reply) (phase : s.worker.phase = .replying client reply)
      (absent : ∀ command ticket, s.callers client ≠ .waiting command ticket none) :
      Moves s { s with worker := { s.worker with phase := .receiving } }
  | received (client : Client) (command : StoreCommand) (ticket : Nat) (reply : Reply)
      (at_ : s.callers client = .waiting command ticket (some reply)) :
      Moves s (s.finish ⟨client, command, some ticket, .ok reply⟩)
  | dropped (client : Client) (command : StoreCommand) (ticket : Nat)
      (at_ : s.callers client = .waiting command ticket none) (exited : s.worker.phase = .exited) :
      Moves s (s.finish ⟨client, command, some ticket, .error (storeUnavailable recvError)⟩)
  | late (client : Client) (idle : s.callers client = .idle) :
      Moves s (s.setCaller client .locking)
  | took (client : Client) (at_ : s.callers client = .locking) (free : s.locked = false)
      (handle : s.handle = true) :
      Moves s ({ s with handle := false, locked := true }.setCaller client .joining)
  | found (client : Client) (at_ : s.callers client = .locking) (free : s.locked = false)
      (handle : s.handle = false) : Moves s (s.stop client)
  | joined (client : Client) (at_ : s.callers client = .joining)
      (exited : s.worker.phase = .exited) : Moves s ({ s with locked := false }.stop client)

theorem Worker.send_eq (worker : Worker) (request : Request) :
    worker.send request = .error (storeUnavailable sendError) ∧ worker.phase = .exited ∨
    worker.send request = .ok { worker with queue := worker.queue ++ [request] } ∧
      worker.phase ≠ .exited := by
  unfold send
  split
  case h_1 exited => exact .inl ⟨rfl, exited⟩
  case h_2 running => exact .inr ⟨rfl, running⟩

theorem StoreSystem.step_moves {s s' : StoreSystem} {event : StoreEvent}
    (h : s.step event = some s') : Moves s s' := by
  cases event with
  | call client command =>
    simp only [step] at h
    split at h
    case h_2 => cases h
    case h_1 idle =>
    split at h
    case isTrue => cases h
    case isFalse plain =>
    cases h
    unfold call
    rcases s.worker.send_eq ⟨client, command⟩ with ⟨failed, exited⟩ | ⟨sent, running⟩
    · rw [failed]
      exact .refused client command idle exited
    · rw [sent]
      have caller : s.sentCaller ⟨client, command⟩ = .waiting command s.queued.length none :=
        if_neg plain
      have moves := Moves.sent ⟨client, command⟩ idle running
      rwa [caller] at moves
  | exec now fault =>
    simp only [step] at h
    split at h
    case h_2 => cases h
    case h_1 request queue worker first exec =>
    cases h
    exact .executed ⟨request, now, fault⟩ queue worker first exec
  | signal =>
    obtain ⟨worker, signalled, rfl⟩ := Option.map_eq_some_iff.mp h
    obtain ⟨client, reply, phase, rfl⟩ := Worker.signal_cases signalled
    exact .signalled _ rfl rfl (by rw [phase]; rfl) (by simp [phase])
  | reply =>
    simp only [step] at h
    split at h
    case h_2 => cases h
    case h_1 client reply worker replied =>
    obtain ⟨phase, rfl⟩ := Worker.reply_cases replied
    split at h
    case h_1 command ticket at_ =>
      cases h
      exact .replied client reply phase command ticket at_
    case h_2 absent =>
      cases h
      exact .unheard client reply phase absent
  | receive client =>
    simp only [step, receive] at h
    split at h
    case h_1 command ticket reply at_ =>
      cases h
      exact .received client command ticket reply at_
    case h_2 command ticket at_ =>
      split at h
      case h_1 exited =>
        cases h
        exact .dropped client command ticket at_ exited
      case h_2 => cases h
    case h_3 => cases h
  | shutdown client =>
    simp only [step] at h
    split at h
    case h_2 => cases h
    case h_1 idle =>
    cases h
    unfold sendShutdown
    rcases s.worker.send_eq ⟨client, .shutdown⟩ with ⟨failed, -⟩ | ⟨sent, running⟩
    · rw [failed]
      exact .late client idle
    · rw [sent]
      exact .sent ⟨client, .shutdown⟩ idle running
  | lock client =>
    simp only [step] at h
    split at h
    case h_2 => cases h
    case h_1 at_ =>
    unfold lock at h
    cases free : s.locked with
    | true => simp [free] at h
    | false =>
      cases handle : s.handle with
      | true =>
        simp only [free, handle, Bool.false_eq_true, if_false, if_true, Option.some.injEq] at h
        subst h
        exact .took client at_ free handle
      | false =>
        simp only [free, handle, Bool.false_eq_true, if_false, Option.some.injEq] at h
        subst h
        exact .found client at_ free handle
  | join client =>
    simp only [step] at h
    split at h
    case h_1 at_ exited =>
      cases h
      exact .joined client at_ exited
    case h_2 => cases h
  | takeUpdate =>
    cases h
    exact .signalled _ rfl rfl rfl Iff.rfl

/-! ## Invariants -/

/-- What was queued is what was executed, then what is still in the channel, and the
worker stops at the first marker. -/
structure LogInv (tables : Tables) (worker : Worker) (queued : List Request)
    (executed : List Execution) : Prop where
  order : ∃ rest, queued = executed.map (·.request) ++ rest ∧
    (worker.phase ≠ .exited → rest = worker.queue)
  marker : worker.phase = .exited → ∃ before last, executed = before ++ [last] ∧
    last.request.command.isShutdown = true ∧
    ∀ execution ∈ before, execution.request.command.isShutdown = false
  running : worker.phase ≠ .exited →
    ∀ execution ∈ executed, execution.request.command.isShutdown = false
  tables : worker.tables = tablesAfter tables executed

theorem tablesAfter_snoc (tables : Tables) (executed : List Execution) (last : Execution) :
    tablesAfter tables (executed ++ [last]) = (last.execute (tablesAfter tables executed)).2 := by
  simp [tablesAfter]

variable {tables : Tables} {s s' : StoreSystem}

theorem LogInv.queue {worker : Worker} {queued : List Request} {executed : List Execution}
    (inv : LogInv tables worker queued executed) (running : worker.phase ≠ .exited) :
    queued = executed.map (·.request) ++ worker.queue := by
  obtain ⟨rest, order, open_⟩ := inv.order
  rw [order, open_ running]

/-- A worker that owes a reply has not exited. -/
theorem ne_exited_of_owes {phase : WorkerPhase} {owed : Client × Reply}
    (owes : phase.owes = some owed) : phase ≠ .exited := by
  rintro rfl
  cases owes

theorem LogInv.execute {worker worker' : Worker} {queued : List Request} {executed : List Execution}
    (inv : LogInv tables worker queued executed) {execution : Execution} {queue : List Request}
    (first : worker.queue = execution.request :: queue)
    (exec : worker.exec execution.now execution.fault = some worker') :
    LogInv tables worker' queued (executed ++ [execution]) := by
  obtain ⟨receiving, after, outcome⟩ := Worker.exec_execute first exec
  have running : worker.phase ≠ .exited := by
    rw [receiving]
    nofun
  have old := inv.running running
  constructor
  · refine ⟨queue, ?_, ?_⟩
    · rw [inv.queue running, first]
      simp
    · intro running'
      rcases outcome with ⟨-, exited, -⟩ | ⟨reply, -, rest, -, -⟩
      · exact absurd exited running'
      · exact rest.symm
  · intro exited
    rcases outcome with ⟨isShutdown, -, -⟩ | ⟨reply, -, -, -, owes⟩
    · exact ⟨executed, _, rfl, isShutdown, old⟩
    · exact absurd exited (ne_exited_of_owes owes)
  · intro running' other mem
    rcases List.mem_append.mp mem with before | last
    · exact old other before
    · obtain rfl := List.mem_singleton.mp last
      rcases outcome with ⟨-, exited, -⟩ | ⟨reply, plain, -, -, -⟩
      · exact absurd exited running'
      · exact plain
  · rw [tablesAfter_snoc, ← inv.tables]
    exact after

theorem LogInv.moves (inv : LogInv tables s.worker s.queued s.executed) (h : Moves s s') :
    LogInv tables s'.worker s'.queued s'.executed := by
  cases h with
  | sent request idle running =>
    refine ⟨⟨s.worker.queue ++ [request], ?_, fun _ => rfl⟩, inv.marker, inv.running, inv.tables⟩
    show s.queued ++ [request] = s.executed.map (·.request) ++ (s.worker.queue ++ [request])
    rw [inv.queue running, List.append_assoc]
  | executed execution queue worker first exec => exact inv.execute first exec
  | signalled worker sameTables queue owes exited =>
    refine ⟨?_, ?_, ?_, sameTables.trans inv.tables⟩
    · obtain ⟨rest, order, open_⟩ := inv.order
      exact ⟨rest, order, fun running => (open_ (exited.not.mp running)).trans queue.symm⟩
    · exact fun gone => inv.marker (exited.mp gone)
    · exact fun running => inv.running (exited.not.mp running)
  | replied client reply phase command ticket at_ =>
    have running : s.worker.phase ≠ .exited := by
      rw [phase]
      nofun
    exact ⟨⟨_, inv.queue running, fun _ => rfl⟩, nofun, fun _ => inv.running running, inv.tables⟩
  | unheard client reply phase absent =>
    have running : s.worker.phase ≠ .exited := by
      rw [phase]
      nofun
    exact ⟨⟨_, inv.queue running, fun _ => rfl⟩, nofun, fun _ => inv.running running, inv.tables⟩
  | refused client command idle exited => exact inv
  | received client command ticket reply at_ => exact inv
  | dropped client command ticket at_ exited => exact inv
  | late client idle => exact inv
  | took client at_ free handle => exact inv
  | found client at_ free handle => exact inv
  | joined client at_ exited => exact inv

/-- Each client waits for its own command: until it is executed it is in the queue, then
the worker owes its reply, then the reply is the client's. -/
structure CallerInv (tables : Tables) (s : StoreSystem) : Prop where
  pending : s.worker.phase ≠ .exited → ∀ i request, s.worker.queue[i]? = some request →
    request.command.isShutdown = false →
      s.callers request.client = .waiting request.command (s.executed.length + i) none
  owed : ∀ client reply, s.worker.phase.owes = some (client, reply) →
    ∃ before last, s.executed = before ++ [last] ∧ last.request.client = client ∧
      s.callers client = .waiting last.request.command before.length none ∧
      (last.execute (tablesAfter tables before)).1 = some reply
  waiting : ∀ client command ticket, s.callers client = .waiting command ticket none →
    s.queued[ticket]? = some ⟨client, command⟩ ∧ command.isShutdown = false ∧
      (s.executed.length ≤ ticket ∨ ∃ reply, s.worker.phase.owes = some (client, reply))
  answered : ∀ client command ticket reply, s.callers client = .waiting command ticket (some reply) →
    Answers tables s.executed ticket ⟨client, command⟩ reply

theorem sentCaller_cases (s : StoreSystem) (request : Request) :
    request.command.isShutdown = true ∧ s.sentCaller request = .locking ∨
    request.command.isShutdown = false ∧
      s.sentCaller request = .waiting request.command s.queued.length none := by
  unfold StoreSystem.sentCaller
  cases request.command.isShutdown with
  | true => exact .inl ⟨rfl, rfl⟩
  | false => exact .inr ⟨rfl, rfl⟩

theorem CallerInv.sent (log : LogInv tables s.worker s.queued s.executed) (inv : CallerInv tables s)
    {request : Request} (idle : s.callers request.client = .idle)
    (running : s.worker.phase ≠ .exited) :
    CallerInv tables (s.enqueue { s.worker with queue := s.worker.queue ++ [request] } request
      (s.sentCaller request)) := by
  have length : s.queued.length = s.executed.length + s.worker.queue.length := by
    rw [log.queue running, List.length_append, List.length_map]
  -- whoever waits is not the client that sent
  have other : ∀ {client command ticket reply}, s.callers client = .waiting command ticket reply →
      Function.update s.callers request.client (s.sentCaller request) client =
        .waiting command ticket reply := by
    intro client command ticket reply waits
    rw [Function.update_of_ne, waits]
    rintro rfl
    rw [idle] at waits
    cases waits
  constructor
  · intro _ i r found plain
    show Function.update s.callers request.client (s.sentCaller request) r.client =
      .waiting r.command (s.executed.length + i) none
    change (s.worker.queue ++ [request])[i]? = some r at found
    by_cases old : i < s.worker.queue.length
    · rw [List.getElem?_append_left old] at found
      exact other (inv.pending running i r found plain)
    · rw [List.getElem?_append_right (by omega), List.getElem?_singleton] at found
      split at found
      case isFalse => cases found
      case isTrue last =>
        obtain rfl := Option.some.inj found
        rw [Function.update_self]
        rcases sentCaller_cases s request with ⟨marker, -⟩ | ⟨-, caller⟩
        · rw [plain] at marker
          cases marker
        · rw [caller, length, show i = s.worker.queue.length by omega]
  · intro client reply owes
    obtain ⟨before, last, split, own, waits, answer⟩ := inv.owed client reply owes
    exact ⟨before, last, split, own, other waits, answer⟩
  · intro client command ticket waits
    change Function.update s.callers request.client (s.sentCaller request) client =
      .waiting command ticket none at waits
    show (s.queued ++ [request])[ticket]? = _ ∧ _
    by_cases same : client = request.client
    · subst same
      rw [Function.update_self] at waits
      rcases sentCaller_cases s request with ⟨-, caller⟩ | ⟨plain, caller⟩
      · rw [caller] at waits
        cases waits
      · rw [caller] at waits
        cases waits
        exact ⟨by simp, plain, .inl (by show s.executed.length ≤ s.queued.length; omega)⟩
    · rw [Function.update_of_ne same] at waits
      obtain ⟨found, plain, unanswered⟩ := inv.waiting client command ticket waits
      have bound := (List.getElem?_eq_some_iff.mp found).1
      exact ⟨(List.getElem?_append_left bound).trans found, plain, unanswered⟩
  · intro client command ticket reply waits
    change Function.update s.callers request.client (s.sentCaller request) client =
      .waiting command ticket (some reply) at waits
    by_cases same : client = request.client
    · subst same
      rw [Function.update_self] at waits
      rcases sentCaller_cases s request with ⟨-, caller⟩ | ⟨-, caller⟩ <;>
        · rw [caller] at waits
          cases waits
    · rw [Function.update_of_ne same] at waits
      exact inv.answered client command ticket reply waits

/-- A client that waits for nothing goes on to something that is not waiting either. -/
theorem CallerInv.setCaller (inv : CallerInv tables s) {client : Client} {caller : Caller}
    (free : s.worker.phase = .exited ∨ ∀ command ticket, s.callers client ≠ .waiting command ticket none)
    (notWaiting : ∀ command ticket reply, caller ≠ .waiting command ticket reply)
    (callers : s'.callers = Function.update s.callers client caller) (worker : s'.worker = s.worker)
    (queued : s'.queued = s.queued) (executed : s'.executed = s.executed) : CallerInv tables s' := by
  have stillWaits : s.worker.phase ≠ .exited → ∀ {other command ticket},
      s.callers other = .waiting command ticket none →
        s'.callers other = .waiting command ticket none := by
    intro running other command ticket waits
    rw [callers, Function.update_of_ne, waits]
    rintro rfl
    exact free.resolve_left running command ticket waits
  have waited : ∀ {other command ticket reply}, s'.callers other = .waiting command ticket reply →
      s.callers other = .waiting command ticket reply := by
    intro other command ticket reply waits
    rw [callers] at waits
    by_cases same : other = client
    · subst same
      rw [Function.update_self] at waits
      exact absurd waits (notWaiting command ticket reply)
    · rwa [Function.update_of_ne same] at waits
  constructor
  · intro running i request found plain
    rw [executed]
    rw [worker] at running found
    exact stillWaits running (inv.pending running i request found plain)
  · intro other reply owes
    rw [worker] at owes
    obtain ⟨before, last, split, own, waits, answer⟩ := inv.owed other reply owes
    have running := ne_exited_of_owes owes
    exact ⟨before, last, executed.trans split, own, stillWaits running waits, answer⟩
  · intro other command ticket waits
    rw [worker, queued, executed]
    exact inv.waiting other command ticket (waited waits)
  · intro other command ticket reply waits
    rw [executed]
    exact inv.answered other command ticket reply (waited waits)

theorem CallerInv.execute (log : LogInv tables s.worker s.queued s.executed)
    (inv : CallerInv tables s) {execution : Execution} {queue : List Request} {worker : Worker}
    (first : s.worker.queue = execution.request :: queue)
    (exec : s.worker.exec execution.now execution.fault = some worker) :
    CallerInv tables { s with worker, executed := s.executed ++ [execution] } := by
  obtain ⟨receiving, -, outcome⟩ := Worker.exec_execute first exec
  have running : s.worker.phase ≠ .exited := by
    rw [receiving]
    nofun
  have length : (s.executed ++ [execution]).length = s.executed.length + 1 := List.length_append
  have head := inv.pending running 0 execution.request (by rw [first]; rfl)
  constructor
  · intro running' i r found plain
    show s.callers r.client = .waiting r.command ((s.executed ++ [execution]).length + i) none
    rcases outcome with ⟨-, exited, -⟩ | ⟨reply, -, rest, -, -⟩
    · exact absurd exited running'
    · have old := inv.pending running (i + 1) r (by rw [first, ← rest]; exact found) plain
      rw [old, length, Nat.add_right_comm, Nat.add_assoc]
  · intro client reply owes
    rcases outcome with ⟨-, exited, -⟩ | ⟨answer, plain, -, answers, owed⟩
    · exact absurd exited (ne_exited_of_owes owes)
    · obtain ⟨rfl, rfl⟩ := Prod.mk.inj (Option.some.inj (owed.symm.trans owes))
      refine ⟨s.executed, execution, rfl, rfl, head plain, ?_⟩
      rw [← log.tables]
      exact answers
  · intro client command ticket waits
    obtain ⟨found, plain, place⟩ := inv.waiting client command ticket waits
    refine ⟨found, plain, ?_⟩
    rw [receiving] at place
    have notBefore : s.executed.length ≤ ticket := place.resolve_right (by rintro ⟨_, ⟨⟩⟩)
    by_cases last : ticket = s.executed.length
    · -- the command at the head of the queue is this client's
      rw [log.queue running, first, last, List.getElem?_append_right (by simp)] at found
      simp only [List.length_map, Nat.sub_self, List.getElem?_cons_zero, Option.some.injEq] at found
      rw [found] at outcome
      rcases outcome with ⟨marker, -, -⟩ | ⟨answer, -, -, -, owed⟩
      · rw [plain] at marker
        cases marker
      · exact .inr ⟨answer, owed⟩
    · refine .inl ?_
      show (s.executed ++ [execution]).length ≤ ticket
      omega
  · intro client command ticket reply waits
    exact (inv.answered client command ticket reply waits).snoc _

/-- The reply goes to the client whose command was executed last. -/
theorem CallerInv.reply (inv : CallerInv tables s) {client : Client} {reply : Reply}
    (phase : s.worker.phase = .replying client reply) {command : StoreCommand} {ticket : Nat}
    (at_ : s.callers client = .waiting command ticket none) :
    CallerInv tables ({ s with worker := { s.worker with phase := .receiving } }.setCaller client
      (.waiting command ticket (some reply))) := by
  have running : s.worker.phase ≠ .exited := by
    rw [phase]
    nofun
  obtain ⟨before, last, split, own, waits, answer⟩ := inv.owed client reply (by rw [phase]; rfl)
  obtain ⟨rfl, rfl⟩ : last.request.command = command ∧ before.length = ticket := by
    rw [at_] at waits
    cases waits
    exact ⟨rfl, rfl⟩
  have length : s.executed.length = before.length + 1 := by
    rw [split]
    exact List.length_append
  constructor
  · intro _ i request found plain
    have queued := inv.pending running i request found plain
    refine (Function.update_of_ne ?_ _ _).trans queued
    intro same
    rw [same, at_] at queued
    have place := (Caller.waiting.inj queued).2.1
    omega
  · nofun
  · intro other command ticket waits'
    change Function.update s.callers client _ other = .waiting command ticket none at waits'
    by_cases same : other = client
    · subst same
      rw [Function.update_self] at waits'
      cases waits'
    · rw [Function.update_of_ne same] at waits'
      obtain ⟨found, plain, place⟩ := inv.waiting other command ticket waits'
      refine ⟨found, plain, .inl (place.resolve_right ?_)⟩
      rintro ⟨reply', owes⟩
      rw [phase] at owes
      cases owes
      exact same rfl
  · intro other command ticket reply' waits'
    change Function.update s.callers client _ other = .waiting command ticket (some reply') at waits'
    by_cases same : other = client
    · subst same
      rw [Function.update_self] at waits'
      cases waits'
      refine ⟨last, ?_, ?_, ?_⟩
      · show s.executed[before.length]? = some last
        rw [split, List.getElem?_append_right (Nat.le_refl _), Nat.sub_self]
        rfl
      · rw [← own]
      · show (last.execute (tablesAfter tables (s.executed.take before.length))).1 = some reply
        rw [split, List.take_left]
        exact answer
    · rw [Function.update_of_ne same] at waits'
      exact inv.answered other command ticket reply' waits'

theorem CallerInv.moves (log : LogInv tables s.worker s.queued s.executed) (inv : CallerInv tables s)
    (h : Moves s s') : CallerInv tables s' := by
  cases h with
  | sent request idle running => exact inv.sent log idle running
  | executed execution queue worker first exec => exact inv.execute log first exec
  | signalled worker sameTables queue owes exited =>
    refine ⟨?_, ?_, ?_, inv.answered⟩
    · intro running i request found plain
      exact inv.pending (exited.not.mp running) i request (queue ▸ found) plain
    · intro client reply owed
      exact inv.owed client reply (owes ▸ owed)
    · intro client command ticket waits
      obtain ⟨found, plain, place⟩ := inv.waiting client command ticket waits
      exact ⟨found, plain, owes ▸ place⟩
  | replied client reply phase command ticket at_ => exact inv.reply phase at_
  | unheard client reply phase absent =>
    obtain ⟨_, _, -, -, waits, -⟩ := inv.owed client reply (by rw [phase]; rfl)
    exact absurd waits (absent _ _)
  | refused client command idle exited =>
    exact inv.setCaller (.inl exited) (by nofun) rfl rfl rfl rfl
  | received client command ticket reply at_ =>
    exact inv.setCaller (.inr (by rw [at_]; nofun)) (by nofun) rfl rfl rfl rfl
  | dropped client command ticket at_ exited =>
    exact inv.setCaller (.inl exited) (by nofun) rfl rfl rfl rfl
  | late client idle => exact inv.setCaller (.inr (by rw [idle]; nofun)) (by nofun) rfl rfl rfl rfl
  | took client at_ free handle =>
    exact inv.setCaller (.inr (by rw [at_]; nofun)) (by nofun) rfl rfl rfl rfl
  | found client at_ free handle =>
    exact inv.setCaller (.inr (by rw [at_]; nofun)) (by nofun) rfl rfl rfl rfl
  | joined client at_ exited => exact inv.setCaller (.inl exited) (by nofun) rfl rfl rfl rfl

/-- What a call may return: the answer to its own command, or the unavailable error of a
command that is never executed. -/
def Returned.Lawful (tables : Tables) (s : StoreSystem) (returned : Returned) : Prop :=
  match returned.result with
  | .ok reply => ∃ ticket, returned.ticket = some ticket ∧
      Answers tables s.executed ticket ⟨returned.client, returned.command⟩ reply
  | .error err => s.worker.phase = .exited ∧
      (returned.ticket = none ∧ err = storeUnavailable sendError ∨
        ∃ ticket, returned.ticket = some ticket ∧ err = storeUnavailable recvError ∧
          s.executed.length ≤ ticket ∧ s.queued[ticket]? = some ⟨returned.client, returned.command⟩)

/-- After its exit the worker does nothing. -/
theorem Moves.exited (h : Moves s s') (exited : s.worker.phase = .exited) :
    s'.worker.phase = .exited ∧ s'.executed = s.executed ∧ s'.queued = s.queued := by
  cases h with
  | sent request idle running => exact absurd exited running
  | executed execution queue worker first exec =>
    have receiving := (Worker.exec_execute first exec).1
    rw [exited] at receiving
    cases receiving
  | signalled worker sameTables queue owes stays => exact ⟨stays.mpr exited, rfl, rfl⟩
  | replied client reply phase command ticket at_ =>
    rw [exited] at phase
    cases phase
  | unheard client reply phase absent =>
    rw [exited] at phase
    cases phase
  | refused client command idle exited => exact ⟨exited, rfl, rfl⟩
  | received client command ticket reply at_ => exact ⟨exited, rfl, rfl⟩
  | dropped client command ticket at_ exited => exact ⟨exited, rfl, rfl⟩
  | late client idle => exact ⟨exited, rfl, rfl⟩
  | took client at_ free handle => exact ⟨exited, rfl, rfl⟩
  | found client at_ free handle => exact ⟨exited, rfl, rfl⟩
  | joined client at_ exited => exact ⟨exited, rfl, rfl⟩

theorem Moves.answers (h : Moves s s') {ticket : Nat} {request : Request} {reply : Reply}
    (answers : Answers tables s.executed ticket request reply) :
    Answers tables s'.executed ticket request reply := by
  cases h with
  | executed execution queue worker first exec => exact answers.snoc execution
  | _ => exact answers

/-- What was lawful to return stays so. -/
theorem Returned.Lawful.moves (h : Moves s s') {returned : Returned}
    (lawful : returned.Lawful tables s) : returned.Lawful tables s' := by
  unfold Lawful at lawful ⊢
  cases outcome : returned.result with
  | ok reply =>
    simp only [outcome] at lawful ⊢
    obtain ⟨ticket, own, answers⟩ := lawful
    exact ⟨ticket, own, h.answers answers⟩
  | error err =>
    simp only [outcome] at lawful ⊢
    obtain ⟨exited, executed, queued⟩ := h.exited lawful.1
    rw [executed, queued]
    exact ⟨exited, lawful.2⟩

theorem lawful_moves (inv : CallerInv tables s) (lawful : ∀ returned ∈ s.returned, returned.Lawful tables s)
    (h : Moves s s') : ∀ returned ∈ s'.returned, returned.Lawful tables s' := by
  have old : ∀ returned ∈ s.returned, returned.Lawful tables s' :=
    fun returned mem => (lawful returned mem).moves h
  have finished : ∀ last : Returned, last.Lawful tables s' →
      ∀ returned ∈ s.returned ++ [last], returned.Lawful tables s' := by
    intro last isLawful returned mem
    rcases List.mem_append.mp mem with before | new
    · exact old returned before
    · rw [List.mem_singleton.mp new]
      exact isLawful
  cases h with
  | refused client command idle exited => exact finished _ ⟨exited, .inl ⟨rfl, rfl⟩⟩
  | received client command ticket reply at_ =>
    exact finished _ ⟨ticket, rfl, inv.answered client command ticket reply at_⟩
  | dropped client command ticket at_ exited =>
    obtain ⟨found, -, place⟩ := inv.waiting client command ticket at_
    rw [exited] at place
    have never := place.resolve_right (by rintro ⟨_, ⟨⟩⟩)
    exact finished _ ⟨exited, .inr ⟨ticket, rfl, rfl, never, found⟩⟩
  | sent request idle running => exact old
  | executed execution queue worker first exec => exact old
  | signalled worker sameTables queue owes exited => exact old
  | replied client reply phase command ticket at_ => exact old
  | unheard client reply phase absent => exact old
  | late client idle => exact old
  | took client at_ free handle => exact old
  | found client at_ free handle => exact old
  | joined client at_ exited => exact old

/-- One client at a time joins the thread, and `shutdown` returns after the worker's exit. -/
structure StopInv (s : StoreSystem) : Prop where
  joining : ∀ client, s.callers client = .joining → s.handle = false ∧ s.locked = true
  alone : ∀ client client', s.callers client = .joining → s.callers client' = .joining →
    client = client'
  taken : s.handle = false → s.locked = true ∨ s.worker.phase = .exited
  stopped : s.stopped ≠ [] → s.handle = false ∧ s.locked = false ∧ s.worker.phase = .exited

theorem joining_of_update {callers : Client → Caller} {client other : Client} {caller : Caller}
    (notJoining : caller ≠ .joining) (joins : Function.update callers client caller other = .joining) :
    other ≠ client ∧ callers other = .joining := by
  by_cases same : other = client
  · subst same
    rw [Function.update_self] at joins
    exact absurd joins notJoining
  · rw [Function.update_of_ne same] at joins
    exact ⟨same, joins⟩

/-- A step that takes no handle and returns from no `shutdown`. -/
theorem StopInv.frame (inv : StopInv s)
    (joining : ∀ client, s'.callers client = .joining → s.callers client = .joining)
    (handle : s'.handle = s.handle) (locked : s'.locked = s.locked) (stopped : s'.stopped = s.stopped)
    (exited : s.worker.phase = .exited → s'.worker.phase = .exited) : StopInv s' := by
  constructor
  · intro client joins
    rw [handle, locked]
    exact inv.joining client (joining client joins)
  · intro client client' joins joins'
    exact inv.alone client client' (joining client joins) (joining client' joins')
  · intro taken
    rw [handle] at taken
    rw [locked]
    exact (inv.taken taken).imp id exited
  · intro some
    rw [stopped] at some
    obtain ⟨taken, free, gone⟩ := inv.stopped some
    exact ⟨handle.trans taken, locked.trans free, exited gone⟩

theorem StopInv.moves (inv : StopInv s) (h : Moves s s') : StopInv s' := by
  have exits := fun exited => (h.exited exited).1
  cases h with
  | sent request idle running =>
    refine inv.frame (fun client joins => (joining_of_update ?_ joins).2) rfl rfl rfl exits
    rcases sentCaller_cases s request with ⟨-, caller⟩ | ⟨-, caller⟩
    · rw [caller]
      nofun
    · rw [caller]
      nofun
  | executed execution queue worker first exec => exact inv.frame (fun _ joins => joins) rfl rfl rfl exits
  | signalled worker tables queue owes exited => exact inv.frame (fun _ joins => joins) rfl rfl rfl exits
  | unheard client reply phase absent => exact inv.frame (fun _ joins => joins) rfl rfl rfl exits
  | replied client reply phase command ticket at_ =>
    exact inv.frame (fun _ joins => (joining_of_update (by nofun) joins).2) rfl rfl rfl exits
  | refused client command idle exited =>
    exact inv.frame (fun _ joins => (joining_of_update (by nofun) joins).2) rfl rfl rfl exits
  | received client command ticket reply at_ =>
    exact inv.frame (fun _ joins => (joining_of_update (by nofun) joins).2) rfl rfl rfl exits
  | dropped client command ticket at_ exited =>
    exact inv.frame (fun _ joins => (joining_of_update (by nofun) joins).2) rfl rfl rfl exits
  | late client idle =>
    exact inv.frame (fun _ joins => (joining_of_update (by nofun) joins).2) rfl rfl rfl exits
  | took client at_ free handle =>
    have nobody : ∀ other, s.callers other ≠ .joining := by
      intro other joins
      rw [(inv.joining other joins).1] at handle
      cases handle
    have onlyThis : ∀ other, Function.update s.callers client .joining other = .joining →
        other = client := by
      intro other joins
      by_contra different
      rw [Function.update_of_ne different] at joins
      exact nobody other joins
    refine ⟨fun _ _ => ⟨rfl, rfl⟩, ?_, fun _ => .inl rfl, ?_⟩
    · intro other other' joins joins'
      exact (onlyThis other joins).trans (onlyThis other' joins').symm
    · intro some
      rw [(inv.stopped some).1] at handle
      cases handle
  | found client at_ free handle =>
    have exited : s.worker.phase = .exited := (inv.taken handle).resolve_left (by simp [free])
    refine ⟨?_, ?_, fun _ => .inr exited, fun _ => ⟨handle, free, exited⟩⟩
    · intro other joins
      exact inv.joining other (joining_of_update (by nofun) joins).2
    · intro other other' joins joins'
      exact inv.alone other other' (joining_of_update (by nofun) joins).2
        (joining_of_update (by nofun) joins').2
  | joined client at_ exited =>
    have nobody : ∀ other, Function.update s.callers client .idle other ≠ .joining := by
      intro other joins
      obtain ⟨different, joins⟩ := joining_of_update (by nofun) joins
      exact different (inv.alone other client joins at_)
    refine ⟨?_, ?_, fun _ => .inr exited, fun _ => ⟨(inv.joining client at_).1, rfl, exited⟩⟩
    · intro other joins
      exact absurd joins (nobody other)
    · intro other _ joins
      exact absurd joins (nobody other)

/-! ## The laws of the store -/

/-- All invariants of a reachable system. -/
structure StoreInv (tables : Tables) (s : StoreSystem) : Prop where
  log : LogInv tables s.worker s.queued s.executed
  callers : CallerInv tables s
  returned : ∀ returned ∈ s.returned, returned.Lawful tables s
  stop : StopInv s

theorem storeInv_start (tables : Tables) : StoreInv tables { worker := { tables } } := by
  constructor
  · constructor
    · exact ⟨[], rfl, fun _ => rfl⟩
    · intro exited
      cases exited
    · intro _ execution mem
      cases mem
    · rfl
  · constructor
    · intro _ i request found
      simp at found
    · intro client reply owes
      cases owes
    · intro client command ticket waits
      cases waits
    · intro client command ticket reply waits
      cases waits
  · intro returned mem
    cases mem
  · constructor
    · intro client joins
      cases joins
    · intro client client' joins
      cases joins
    · intro taken
      cases taken
    · intro some
      exact absurd rfl some

theorem storeInv_of_run {events : List StoreEvent} (run : StoreSystem.run tables events = some s) :
    StoreInv tables s := by
  refine Lts.run_invariant (I := fun _ s => StoreInv tables s) (storeInv_start tables) ?_ run
  intro _ before event after inv stepped
  have moves := StoreSystem.step_moves stepped
  exact ⟨inv.log.moves moves, inv.callers.moves inv.log moves,
    lawful_moves inv.callers inv.returned moves, inv.stop.moves moves⟩

/-- The ticket of the first marker among the queued commands. -/
def FirstShutdown (queued : List Request) (first : Nat) : Prop :=
  (∃ request, queued[first]? = some request ∧ request.command.isShutdown = true) ∧
    ∀ i < first, ∀ request, queued[i]? = some request → request.command.isShutdown = false

/-- The store behaves as one object that executes the queued commands in order. -/
structure StoreLaw (initial : Tables) (s : StoreSystem) : Prop where
  order : s.executed.map (·.request) <+: s.queued
  tables : s.worker.tables = tablesAfter initial s.executed
  replies : ∀ returned ∈ s.returned, ∀ reply, returned.result = .ok reply →
    ∃ ticket, returned.ticket = some ticket ∧
      s.queued[ticket]? = some ⟨returned.client, returned.command⟩ ∧
      (s.executed.take ticket).map (·.request) = s.queued.take ticket ∧
      Answers initial s.executed ticket ⟨returned.client, returned.command⟩ reply
  drained : s.stopped ≠ [] → ∃ first, FirstShutdown s.queued first ∧ s.executed.length = first + 1
  undone : ∀ first, FirstShutdown s.queued first → s.executed.length ≤ first + 1 ∧
    ∀ returned ∈ s.returned, ∀ ticket, returned.ticket = some ticket →
      (first < ticket ↔ returned.result = .error (storeUnavailable recvError))
  unsent : ∀ returned ∈ s.returned, returned.ticket = none →
    returned.result = .error (storeUnavailable sendError)
  unblocked : s.worker.phase = .exited → ∀ client command ticket reply,
    s.callers client = .waiting command ticket reply → (s.step (.receive client)).isSome
  again : s.stopped ≠ [] → ∀ client, s.callers client = .idle →
    Lts.run StoreSystem.step s [.shutdown client, .lock client] =
      some { s with stopped := s.stopped ++ [client] }

theorem StoreInv.order (inv : StoreInv tables s) : s.executed.map (·.request) <+: s.queued := by
  obtain ⟨rest, order, -⟩ := inv.log.order
  exact ⟨rest, order.symm⟩

theorem StoreInv.getElem?_queued (inv : StoreInv tables s) {i : Nat} (done : i < s.executed.length) :
    s.queued[i]? = (s.executed[i]?).map (·.request) := by
  obtain ⟨rest, order, -⟩ := inv.log.order
  rw [order, List.getElem?_append_left (by simpa using done), List.getElem?_map]

/-- The worker exits on the first marker. -/
theorem StoreInv.first_of_exited (inv : StoreInv tables s) (exited : s.worker.phase = .exited) :
    ∃ first, FirstShutdown s.queued first ∧ s.executed.length = first + 1 := by
  obtain ⟨before, last, split, marker, plain⟩ := inv.log.marker exited
  have length : s.executed.length = before.length + 1 := by
    rw [split]
    exact List.length_append
  refine ⟨before.length, ⟨⟨last.request, ?_, marker⟩, ?_⟩, length⟩
  · rw [inv.getElem?_queued (by omega), split]
    simp
  · intro i below request found
    rw [inv.getElem?_queued (by omega), split, List.getElem?_append_left below] at found
    obtain ⟨execution, inside, rfl⟩ := Option.map_eq_some_iff.mp found
    exact plain execution (List.mem_of_getElem? inside)

theorem FirstShutdown.unique {queued : List Request} {first first' : Nat}
    (a : FirstShutdown queued first) (b : FirstShutdown queued first') : first = first' := by
  obtain ⟨⟨request, found, marker⟩, plain⟩ := a
  obtain ⟨⟨request', found', marker'⟩, plain'⟩ := b
  rcases Nat.lt_trichotomy first first' with less | same | more
  · rw [plain' first less request found] at marker
    cases marker
  · exact same
  · rw [plain first' more request' found'] at marker'
    cases marker'

/-- Nothing is executed past the first marker. -/
theorem StoreInv.executed_le (inv : StoreInv tables s) {first : Nat}
    (isFirst : FirstShutdown s.queued first) : s.executed.length ≤ first + 1 := by
  by_cases exited : s.worker.phase = .exited
  · obtain ⟨first', isFirst', length⟩ := inv.first_of_exited exited
    rw [length, isFirst.unique isFirst']
  · by_contra more
    obtain ⟨request, found, marker⟩ := isFirst.1
    rw [inv.getElem?_queued (by omega)] at found
    obtain ⟨execution, inside, rfl⟩ := Option.map_eq_some_iff.mp found
    rw [inv.log.running exited execution (List.mem_of_getElem? inside)] at marker
    cases marker

/-- A `shutdown` after one that returned finds the channel closed and no handle. -/
theorem again_of_stopped (inv : StoreInv tables s) (stopped : s.stopped ≠ []) {client : Client}
    (idle : s.callers client = .idle) :
    Lts.run StoreSystem.step s [.shutdown client, .lock client] =
      some { s with stopped := s.stopped ++ [client] } := by
  obtain ⟨handle, free, exited⟩ := inv.stop.stopped stopped
  have sent : s.step (.shutdown client) = some (s.setCaller client .locking) := by
    simp [StoreSystem.step, idle, StoreSystem.sendShutdown, Worker.send, exited]
  have back : Function.update (Function.update s.callers client .locking) client .idle = s.callers := by
    rw [Function.update_idem, ← idle, Function.update_eq_self]
  have found : (s.setCaller client .locking).step (.lock client) =
      some { s with stopped := s.stopped ++ [client] } := by
    simp [StoreSystem.step, StoreSystem.setCaller, StoreSystem.lock, free, handle, StoreSystem.stop,
      back]
  rw [Lts.run_cons, sent, Option.bind_some, Lts.run_cons, found]
  rfl

/-- Whatever the clients do and in whatever order: the store executes the queued commands
one after the other, answers each from the tables of those before it, and stops at the
first `shutdown`. -/
theorem store_linearizable {events : List StoreEvent} (run : StoreSystem.run tables events = some s) :
    StoreLaw tables s := by
  have inv := storeInv_of_run run
  constructor
  · exact inv.order
  · exact inv.log.tables
  · intro returned mem reply result
    have lawful := inv.returned returned mem
    simp only [Returned.Lawful, result] at lawful
    obtain ⟨ticket, own, answers⟩ := lawful
    have answers' := answers
    obtain ⟨execution, found, same, -⟩ := answers'
    have done := (List.getElem?_eq_some_iff.mp found).1
    refine ⟨ticket, own, ?_, ?_, answers⟩
    · rw [inv.getElem?_queued done, found, ← same]
      rfl
    · obtain ⟨rest, order, -⟩ := inv.log.order
      rw [order, List.take_append_of_le_length (by simpa using done.le), List.map_take]
  · exact fun stopped => inv.first_of_exited (inv.stop.stopped stopped).2.2
  · intro first isFirst
    have bound := inv.executed_le isFirst
    refine ⟨bound, ?_⟩
    intro returned mem ticket own
    have lawful := inv.returned returned mem
    unfold Returned.Lawful at lawful
    cases result : returned.result with
    | ok reply =>
      simp only [result] at lawful
      obtain ⟨ticket', own', execution, found, -⟩ := lawful
      obtain rfl := Option.some.inj (own.symm.trans own')
      have done := (List.getElem?_eq_some_iff.mp found).1
      constructor
      · intro past
        omega
      · nofun
    | error err =>
      simp only [result, own] at lawful
      obtain ⟨exited, none | ⟨ticket', own', rfl, never, -⟩⟩ := lawful
      · cases none.1
      · obtain rfl := Option.some.inj own'
        obtain ⟨first', isFirst', length⟩ := inv.first_of_exited exited
        obtain rfl := isFirst.unique isFirst'
        exact ⟨fun _ => rfl, fun _ => by omega⟩
  · intro returned mem none
    have lawful := inv.returned returned mem
    unfold Returned.Lawful at lawful
    cases result : returned.result with
    | ok reply =>
      simp only [result, none] at lawful
      obtain ⟨_, ⟨⟩, -⟩ := lawful
    | error err =>
      simp only [result, none] at lawful
      obtain ⟨-, ⟨-, rfl⟩ | ⟨_, ⟨⟩, -⟩⟩ := lawful
      rfl
  · intro exited client command ticket reply waits
    cases reply <;> simp [StoreSystem.step, StoreSystem.receive, waits, exited]
  · intro stopped client idle
    exact again_of_stopped inv stopped idle

/-- A replace, and a snapshot that is queued behind the marker of another client. -/
theorem store_linearizable_latecomer : ∃ s, StoreSystem.run {} [
      .call (.collector 0) (.replaceSnapshot ["8.8.8.8"]), .shutdown (.collector 1),
      .call .ui .snapshot, .exec ⟨0, by decide, by decide⟩ none, .signal, .reply,
      .receive (.collector 0), .lock (.collector 1), .exec ⟨1, by decide, by decide⟩ none,
      .receive .ui, .join (.collector 1)] = some s ∧
    s.returned.length = 2 ∧ s.stopped = [.collector 1] ∧ StoreLaw {} s := by
  have ends : (StoreSystem.run {} [
      .call (.collector 0) (.replaceSnapshot ["8.8.8.8"]), .shutdown (.collector 1),
      .call .ui .snapshot, .exec ⟨0, by decide, by decide⟩ none, .signal, .reply,
      .receive (.collector 0), .lock (.collector 1), .exec ⟨1, by decide, by decide⟩ none,
      .receive .ui, .join (.collector 1)]).map (fun s => (s.returned.length, s.stopped)) =
      some (2, [.collector 1]) := by decide
  obtain ⟨s, run, counts⟩ := Option.map_eq_some_iff.mp ends
  obtain ⟨returned, stopped⟩ := Prod.mk.inj counts
  exact ⟨s, run, returned, stopped, store_linearizable run⟩

end ChainDash.Geo
