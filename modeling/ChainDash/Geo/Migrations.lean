import ChainDash.Geo.Store
import ChainDash.Lib.Lts

/-!
# Opening the database

`SqlitePeerGeoStore::open` and `run_migrations`, statement by statement, over any number of
starts of the program on one file. A statement can fail and the program can be killed at any
point; what SQLite has committed stays. Every migration is committed once, in order, and is
recorded (`migrations_once`), and a store that serves holds all that was ever written to it
(`store_survives_restarts`).
-/

namespace ChainDash.Geo
set_option autoImplicit false

/-- The tables of the file, `none` where a table was not created. -/
structure Schema where
  currentPeers : Option (Dictionary String Int) := none
  locationCache : Option (Dictionary String LocationRow) := none

/-- The file; `versions` is `schema_migrations` with its `applied_at`. -/
structure Database where
  versions : Option (Dictionary Int Int) := none
  schema : Schema := {}

namespace Schema

def tables? (schema : Schema) : Option Tables := do
  let currentPeers ← schema.currentPeers
  let locationCache ← schema.locationCache
  return { currentPeers, locationCache }

def ofTables (tables : Tables) : Schema := ⟨some tables.currentPeers, some tables.locationCache⟩

@[simp] theorem tables?_ofTables (tables : Tables) : (ofTables tables).tables? = some tables := rfl

/-- A transaction of the worker. -/
def write (schema : Schema) (write : StoreWrite) : Schema :=
  match schema.tables? with
  | some tables => ((write.exec tables).map ofTables).toOption.getD schema
  | none => schema

/-- The two statements `CREATE TABLE IF NOT EXISTS` of the first migration. -/
def createPeerTables (schema : Schema) : Schema :=
  ⟨some (schema.currentPeers.getD ∅), some (schema.locationCache.getD ∅)⟩

end Schema

/-- `MIGRATIONS`. -/
def peerMigrations : List (Schema → Schema) := [Schema.createPeerTables]

/-- `INSERT INTO schema_migrations`. -/
def insertVersion (versions : Dictionary Int Int) (version now : Int) :
    Except String (Dictionary Int Int) :=
  if version ∈ versions then .error "UNIQUE constraint failed: schema_migrations.version"
  else .ok (versions.insert version now)

/-- Where the worker thread stands; the index is that of the migration. A transaction works on a
draft. -/
inductive OpenPhase where
  | closed
  | creating
  | querying (index : Nat)
  | beginning (index : Nat)
  | migrating (index : Nat)
  | recording (index : Nat) (draft : Schema)
  | committing (index : Nat) (draft : Schema) (versions : Dictionary Int Int)
  | serving
  | failed (err : String)

structure StoreFile where
  db : Database := {}
  phase : OpenPhase := .closed

inductive FileEvent where
  | open (outcome : Except String Unit)
  /-- The statements of `run_migrations`. -/
  | createVersions (outcome : Except String Unit)
  | queryVersion (outcome : Except String Unit)
  | begin (outcome : Except String Unit)
  | executeBatch (outcome : Except String Unit)
  | insertVersion (outcome : Except String Int)
  | commit (outcome : Except String Unit)
  /-- A write of the worker, and its end. -/
  | write (write : StoreWrite) (outcome : Except String Unit)
  | close
  | kill

namespace StoreFile

/-- The top of the `for` loop. -/
def loop (migrations : List (Schema → Schema)) (index : Nat) : OpenPhase :=
  if index < migrations.length then .querying index else .serving

def fail (s : StoreFile) (err : String) : StoreFile := { s with phase := .failed (sqliteError err) }

def step (migrations : List (Schema → Schema)) (s : StoreFile) (event : FileEvent) : Option StoreFile :=
  match s.phase, event with
  | .closed, .open (.ok ()) => some { s with phase := .creating }
  | .creating, .createVersions (.ok ()) => some {
      db := { s.db with versions := some (s.db.versions.getD ∅) }
      phase := loop migrations 0 }
  | .querying index, .queryVersion (.ok ()) =>
    if (index : Int) + 1 ∈ s.db.versions.getD ∅ then some { s with phase := loop migrations (index + 1) }
    else some { s with phase := .beginning index }
  | .beginning index, .begin (.ok ()) => some { s with phase := .migrating index }
  | .migrating index, .executeBatch (.ok ()) =>
    migrations[index]?.map fun migration => { s with phase := .recording index (migration s.db.schema) }
  | .recording index draft, .insertVersion (.ok now) =>
    match insertVersion (s.db.versions.getD ∅) (index + 1) now with
    | .ok versions => some { s with phase := .committing index draft versions }
    | .error err => some (s.fail err)
  | .committing index draft versions, .commit (.ok ()) =>
    some { db := { versions := some versions, schema := draft }, phase := loop migrations (index + 1) }
  | .serving, .write write (.ok ()) =>
    some { s with db := { s.db with schema := s.db.schema.write write } }
  | .serving, .write _ (.error _) => some s
  | .closed, .open (.error err) | .creating, .createVersions (.error err)
  | .querying _, .queryVersion (.error err) | .beginning _, .begin (.error err)
  | .migrating _, .executeBatch (.error err) | .recording _ _, .insertVersion (.error err)
  | .committing _ _ _, .commit (.error err) => some (s.fail err)
  | .serving, .close | .failed _, .close | _, .kill => some { s with phase := .closed }
  | _, _ => none

def run (migrations : List (Schema → Schema)) (events : List FileEvent) : Option StoreFile :=
  Lts.run (step migrations) {} events

/-! ## What a step can do -/

inductive Stepped (migrations : List (Schema → Schema)) (s : StoreFile) :
    FileEvent → StoreFile → Prop where
  | opened (phase : s.phase = .closed) :
      Stepped migrations s (.open (.ok ())) { s with phase := .creating }
  | created (phase : s.phase = .creating) : Stepped migrations s (.createVersions (.ok ())) {
      db := { s.db with versions := some (s.db.versions.getD ∅) }
      phase := loop migrations 0 }
  | applied {index : Nat} (phase : s.phase = .querying index)
      (applied : (index : Int) + 1 ∈ s.db.versions.getD ∅) :
      Stepped migrations s (.queryVersion (.ok ())) { s with phase := loop migrations (index + 1) }
  | missing {index : Nat} (phase : s.phase = .querying index)
      (missing : (index : Int) + 1 ∉ s.db.versions.getD ∅) :
      Stepped migrations s (.queryVersion (.ok ())) { s with phase := .beginning index }
  | begun {index : Nat} (phase : s.phase = .beginning index) :
      Stepped migrations s (.begin (.ok ())) { s with phase := .migrating index }
  | migrated {index : Nat} {migration : Schema → Schema} (phase : s.phase = .migrating index)
      (at_ : migrations[index]? = some migration) : Stepped migrations s (.executeBatch (.ok ()))
        { s with phase := .recording index (migration s.db.schema) }
  | recorded {index : Nat} {draft : Schema} {now : Int} (phase : s.phase = .recording index draft)
      (fresh : (index : Int) + 1 ∉ s.db.versions.getD ∅) :
      Stepped migrations s (.insertVersion (.ok now))
        { s with phase := .committing index draft ((s.db.versions.getD ∅).insert (index + 1) now) }
  | committed {index : Nat} {draft : Schema} {versions : Dictionary Int Int}
      (phase : s.phase = .committing index draft versions) : Stepped migrations s (.commit (.ok ()))
        { db := { versions := some versions, schema := draft }, phase := loop migrations (index + 1) }
  | written {write : StoreWrite} (phase : s.phase = .serving) :
      Stepped migrations s (.write write (.ok ()))
        { s with db := { s.db with schema := s.db.schema.write write } }
  | refused {write : StoreWrite} {err : String} : Stepped migrations s (.write write (.error err)) s
  | failed {event : FileEvent} {err : String} (other : ∀ write, event ≠ .write write (.ok ()))
      (uncommitted : event ≠ .commit (.ok ())) : Stepped migrations s event (s.fail err)
  | closed {event : FileEvent} (other : ∀ write, event ≠ .write write (.ok ()))
      (uncommitted : event ≠ .commit (.ok ())) : Stepped migrations s event { s with phase := .closed }

variable {migrations : List (Schema → Schema)} {s s' : StoreFile} {event : FileEvent}
  {events : List FileEvent}

theorem step_cases (stepped : step migrations s event = some s') : Stepped migrations s event s' := by
  unfold step at stepped
  split at stepped
  case h_1 phase => cases stepped; exact .opened phase
  case h_2 phase => cases stepped; exact .created phase
  case h_3 phase =>
    split at stepped <;> cases stepped
    case isTrue applied => exact .applied phase applied
    case isFalse missing => exact .missing phase missing
  case h_4 phase => cases stepped; exact .begun phase
  case h_5 phase =>
    obtain ⟨migration, at_, rfl⟩ := Option.map_eq_some_iff.mp stepped
    exact .migrated phase at_
  case h_6 index draft now phase =>
    by_cases present : (index : Int) + 1 ∈ s.db.versions.getD ∅
    · rw [Geo.insertVersion, if_pos present] at stepped
      cases stepped
      exact .failed (by simp) (by simp)
    · rw [Geo.insertVersion, if_neg present] at stepped
      cases stepped
      exact .recorded phase present
  case h_7 phase => cases stepped; exact .committed phase
  case h_8 phase => cases stepped; exact .written phase
  case h_9 => cases stepped; exact .refused
  all_goals
    cases stepped
    try first | exact .failed (by simp) (by simp) | exact .closed (by simp) (by simp)

/-! ## What is committed -/

/-- A transaction that is committed. -/
inductive Change where
  | migration (index : Nat)
  | write (write : StoreWrite)

def Change.index? : Change → Option Nat
  | .migration index => some index
  | .write _ => none

def Change.write? : Change → Option StoreWrite
  | .migration _ => none
  | .write call => some call

def Change.apply (migrations : List (Schema → Schema)) (schema : Schema) : Change → Schema
  | .migration index => migrations[index]?.elim schema (· schema)
  | .write call => schema.write call

def change? : StoreFile × FileEvent → Option Change
  | (⟨_, .committing index _ _⟩, .commit (.ok ())) => some (.migration index)
  | (⟨_, .serving⟩, .write write (.ok ())) => some (.write write)
  | _ => none

/-- The transactions of a run that were committed, oldest first. -/
def changes (migrations : List (Schema → Schema)) (events : List FileEvent) : List Change :=
  (Lts.visited (step migrations) {} events).filterMap change?

theorem changes_snoc (ran : run migrations events = some s) (event : FileEvent) :
    changes migrations (events ++ [event]) =
      changes migrations events ++ (change? (s, event)).toList := by
  unfold changes
  rw [Lts.visited_snoc event ran, List.filterMap_append]
  cases changed : change? (s, event) <;> simp [changed]

/-- What a phase rests on when the first `applied` migrations are in the file. -/
def PhaseFits (migrations : List (Schema → Schema)) (s : StoreFile) (applied : Nat) : Prop :=
  match s.phase with
  | .querying index => index ≤ applied ∧ index < migrations.length
  | .beginning index | .migrating index => index = applied ∧ index < migrations.length
  | .recording index draft => index = applied ∧ index < migrations.length ∧
      draft = Change.apply migrations s.db.schema (.migration index)
  | .committing index draft versions => index = applied ∧ index < migrations.length ∧
      draft = Change.apply migrations s.db.schema (.migration index) ∧
      ∀ version, version ∈ versions ↔ version = index + 1 ∨ version ∈ s.db.versions.getD ∅
  | .serving => applied = migrations.length
  | .closed | .creating | .failed _ => True

/-- The first `applied` migrations are recorded and committed, each once and in order. -/
structure Migrated (migrations : List (Schema → Schema)) (events : List FileEvent) (s : StoreFile)
    (applied : Nat) : Prop where
  bound : applied ≤ migrations.length
  versions : ∀ version, version ∈ s.db.versions.getD ∅ ↔ 1 ≤ version ∧ version ≤ applied
  once : (changes migrations events).filterMap Change.index? = List.range applied
  schema : s.db.schema = (changes migrations events).foldl (Change.apply migrations) {}
  phase : PhaseFits migrations s applied

theorem phaseFits_loop {db : Database} {index applied : Nat} (reached : index ≤ applied)
    (bound : applied ≤ migrations.length) :
    PhaseFits migrations ⟨db, loop migrations index⟩ applied := by
  unfold loop
  split
  case isTrue more => exact ⟨reached, more⟩
  case isFalse =>
    show applied = migrations.length
    omega

/-- A step that commits nothing. -/
theorem Migrated.quiet {applied : Nat} (migrated : Migrated migrations events s applied)
    (ran : run migrations events = some s) (none_ : change? (s, event) = none)
    (versions : s'.db.versions.getD ∅ = s.db.versions.getD ∅) (schema : s'.db.schema = s.db.schema)
    (phase : PhaseFits migrations s' applied) : Migrated migrations (events ++ [event]) s' applied := by
  have same : changes migrations (events ++ [event]) = changes migrations events := by
    rw [changes_snoc ran, none_, Option.toList_none, List.append_nil]
  refine ⟨migrated.bound, ?_, ?_, ?_, phase⟩
  · rw [versions]
    exact migrated.versions
  · rw [same]
    exact migrated.once
  · rw [same, schema]
    exact migrated.schema

theorem change?_eq_none (uncommitted : event ≠ .commit (.ok ()))
    (other : ∀ write, event ≠ .write write (.ok ())) :
    change? (s, event) = none := by
  unfold change?
  split
  case h_1 same => exact absurd (congrArg Prod.snd same) uncommitted
  case h_2 same => exact absurd (congrArg Prod.snd same) (other _)
  case h_3 => rfl

theorem migrated_step {applied : Nat} (migrated : Migrated migrations events s applied)
    (ran : run migrations events = some s) (stepped : step migrations s event = some s') :
    ∃ applied', Migrated migrations (events ++ [event]) s' applied' := by
  have phaseFits := migrated.phase
  unfold PhaseFits at phaseFits
  cases step_cases stepped with
  | opened phase =>
    exact ⟨applied, migrated.quiet ran (change?_eq_none (by simp) (by simp)) rfl rfl trivial⟩
  | created phase =>
    refine ⟨applied, migrated.quiet ran (change?_eq_none (by simp) (by simp)) ?_ rfl ?_⟩
    · rfl
    · exact phaseFits_loop (Nat.zero_le _) migrated.bound
  | @applied index phase there =>
    refine ⟨applied, migrated.quiet ran (change?_eq_none (by simp) (by simp)) rfl rfl ?_⟩
    have within := ((migrated.versions _).mp there).2
    exact phaseFits_loop (by omega) migrated.bound
  | @missing index phase missing =>
    rw [phase] at phaseFits
    refine ⟨applied, migrated.quiet ran (change?_eq_none (by simp) (by simp)) rfl rfl ⟨?_, phaseFits.2⟩⟩
    rw [migrated.versions] at missing
    omega
  | begun phase =>
    rw [phase] at phaseFits
    exact ⟨applied, migrated.quiet ran (change?_eq_none (by simp) (by simp)) rfl rfl phaseFits⟩
  | @migrated index migration phase at_ =>
    rw [phase] at phaseFits
    refine ⟨applied, migrated.quiet ran (change?_eq_none (by simp) (by simp)) rfl rfl ⟨phaseFits.1,
      phaseFits.2, ?_⟩⟩
    simp [Change.apply, at_]
  | @recorded index draft now phase fresh =>
    rw [phase] at phaseFits
    refine ⟨applied, migrated.quiet ran (change?_eq_none (by simp) (by simp)) rfl rfl
      ⟨phaseFits.1, phaseFits.2.1, phaseFits.2.2, fun version => ?_⟩⟩
    exact AList.mem_insert _
  | @committed index draft versions phase =>
    rw [phase] at phaseFits
    obtain ⟨rfl, more, drafted, recorded⟩ := phaseFits
    have grown : changes migrations (events ++ [.commit (.ok ())]) =
        changes migrations events ++ [.migration index] := by
      obtain ⟨db, at_⟩ := s
      dsimp only at phase
      rw [changes_snoc ran, phase]
      rfl
    refine ⟨index + 1, by omega, fun version => ?_, ?_, ?_, phaseFits_loop (Nat.le_refl _) (by omega)⟩
    · show version ∈ versions ↔ _
      rw [recorded, migrated.versions]
      push_cast
      omega
    · rw [grown, List.filterMap_append, migrated.once, List.range_succ]
      rfl
    · rw [grown, List.foldl_append, ← migrated.schema]
      exact drafted
  | @written write phase =>
    rw [phase] at phaseFits
    have grown : changes migrations (events ++ [.write write (.ok ())]) =
        changes migrations events ++ [.write write] := by
      obtain ⟨db, at_⟩ := s
      dsimp only at phase
      rw [changes_snoc ran, phase]
      rfl
    refine ⟨applied, migrated.bound, migrated.versions, ?_, ?_, ?_⟩
    · rw [grown, List.filterMap_append, migrated.once]
      exact List.append_nil _
    · rw [grown, List.foldl_append, ← migrated.schema]
      rfl
    · show PhaseFits migrations ⟨_, s.phase⟩ applied
      rw [phase]
      exact phaseFits
  | refused =>
    exact ⟨applied, migrated.quiet ran (change?_eq_none (by simp) (by simp)) rfl rfl migrated.phase⟩
  | failed other uncommitted =>
    exact ⟨applied, migrated.quiet ran (change?_eq_none uncommitted other) rfl rfl trivial⟩
  | closed other uncommitted =>
    exact ⟨applied, migrated.quiet ran (change?_eq_none uncommitted other) rfl rfl trivial⟩

theorem migrated_run (ran : run migrations events = some s) :
    ∃ applied, Migrated migrations events s applied := by
  have init : Migrated migrations [] {} 0 := by
    refine ⟨Nat.zero_le _, fun version => ?_, rfl, rfl, trivial⟩
    simp [AList.notMem_empty]
    omega
  refine Lts.run_invariant_reached (I := fun events s => ∃ applied, Migrated migrations events s applied)
    ⟨0, init⟩ ?_ ran
  rintro events before event after ran ⟨applied, migrated⟩ stepped
  exact migrated_step migrated ran stepped

/-- However often the program is started and wherever it fails or is killed: the file is what the
committed transactions make of an empty one, the migrations among them are the first ones of the
list, each once and in order, these are the recorded versions, and a store that serves has them
all. -/
theorem migrations_once (ran : run migrations events = some s) : ∃ applied ≤ migrations.length,
    (∀ version, version ∈ s.db.versions.getD ∅ ↔ 1 ≤ version ∧ version ≤ applied) ∧
    (changes migrations events).filterMap Change.index? = List.range applied ∧
    s.db.schema = (changes migrations events).foldl (Change.apply migrations) {} ∧
    (s.phase = .serving → applied = migrations.length) := by
  obtain ⟨applied, migrated⟩ := migrated_run ran
  refine ⟨applied, migrated.bound, migrated.versions, migrated.once, migrated.schema, ?_⟩
  intro serving
  have fits := migrated.phase
  unfold PhaseFits at fits
  rw [serving] at fits
  exact fits

/-! ## The tables of the store -/

/-- The writes that were committed. -/
def committedWrites (events : List FileEvent) : List StoreWrite :=
  (changes peerMigrations events).filterMap Change.write?

/-- The tables do not exist, or they hold all that was written. -/
def Durable (events : List FileEvent) (s : StoreFile) : Prop :=
  (s.db.schema = {} ∧ committedWrites events = [] ∧ 1 ∉ s.db.versions.getD ∅) ∨
    ∃ tables, s.db.schema = .ofTables tables ∧ replay (committedWrites events) = .ok tables

theorem Durable.quiet (durable : Durable events s) (ran : run peerMigrations events = some s)
    (none_ : change? (s, event) = none) (versions : s'.db.versions.getD ∅ = s.db.versions.getD ∅)
    (schema : s'.db.schema = s.db.schema) : Durable (events ++ [event]) s' := by
  have same : committedWrites (events ++ [event]) = committedWrites events := by
    unfold committedWrites
    rw [changes_snoc ran, none_, Option.toList_none, List.append_nil]
  unfold Durable
  rw [same, versions, schema]
  exact durable

/-- Tables that exist are left as they are. -/
theorem createPeerTables_cases (schema : Schema) :
    (schema = {} → schema.createPeerTables = .ofTables {}) ∧
    ∀ tables, schema = .ofTables tables → schema.createPeerTables = .ofTables tables := by
  constructor
  · rintro rfl
    rfl
  · rintro tables rfl
    rfl

theorem exec_ok (tables : Tables) (write : StoreWrite) : ∃ after, write.exec tables = .ok after := by
  cases write with
  | replacePeerSnapshot ips now =>
    obtain ⟨after, ok, -⟩ := replacePeerSnapshotTx_ok tables ips now
    exact ⟨after, by rw [StoreWrite.exec, ok]; rfl⟩
  | updateLocationCache entries now => exact ⟨_, rfl⟩

theorem durable_step (durable : Durable events s) (ran : run peerMigrations events = some s)
    (stepped : step peerMigrations s event = some s') : Durable (events ++ [event]) s' := by
  obtain ⟨applied, migrated⟩ := migrated_run ran
  have phaseFits := migrated.phase
  unfold PhaseFits at phaseFits
  cases step_cases stepped with
  | @committed index draft versions phase =>
    rw [phase] at phaseFits
    obtain ⟨-, first, rfl, -⟩ := phaseFits
    obtain rfl : index = 0 := Nat.lt_one_iff.mp first
    have same : committedWrites (events ++ [.commit (.ok ())]) = committedWrites events := by
      obtain ⟨db, at_⟩ := s
      dsimp only at phase
      unfold committedWrites
      rw [changes_snoc ran, phase, List.filterMap_append]
      exact List.append_nil _
    obtain ⟨empty, existing⟩ := createPeerTables_cases s.db.schema
    right
    rw [same]
    rcases durable with ⟨none_, nothing, -⟩ | ⟨tables, there, held⟩
    · refine ⟨{}, empty none_, ?_⟩
      rw [nothing]
      rfl
    · exact ⟨tables, existing tables there, held⟩
  | @written write phase =>
    rw [phase] at phaseFits
    have grown : committedWrites (events ++ [.write write (.ok ())]) =
        committedWrites events ++ [write] := by
      obtain ⟨db, at_⟩ := s
      dsimp only at phase
      unfold committedWrites
      rw [changes_snoc ran, phase, List.filterMap_append]
      rfl
    right
    rcases durable with ⟨-, -, missing⟩ | ⟨tables, there, held⟩
    · rw [migrated.versions, phaseFits] at missing
      exact absurd ⟨le_rfl, by decide⟩ missing
    · obtain ⟨after, done⟩ := exec_ok tables write
      refine ⟨after, ?_, ?_⟩
      · show s.db.schema.write write = _
        rw [there, Schema.write, Schema.tables?_ofTables]
        simp [done, Except.map, Except.toOption]
      · rw [grown, replay_snoc, held]
        exact done
  | opened | applied | missing | begun | migrated | recorded | refused =>
    exact durable.quiet ran (change?_eq_none (by simp) (by simp)) rfl rfl
  | created => exact durable.quiet ran (change?_eq_none (by simp) (by simp)) rfl rfl
  | failed other uncommitted | closed other uncommitted =>
    exact durable.quiet ran (change?_eq_none uncommitted other) rfl rfl

/-- A store that serves holds what all writes committed since the file was first opened come to,
however often the program was started and killed since. -/
theorem store_survives_restarts (ran : run peerMigrations events = some s)
    (serving : s.phase = .serving) :
    ∃ tables, s.db.schema.tables? = some tables ∧ replay (committedWrites events) = .ok tables := by
  have durable : Durable events s :=
    Lts.run_invariant_reached (I := Durable) (.inl ⟨rfl, rfl, AList.notMem_empty _⟩)
      (fun _ _ _ _ ran durable stepped => durable_step durable ran stepped) ran
  obtain ⟨applied, migrated⟩ := migrated_run ran
  have fits := migrated.phase
  unfold PhaseFits at fits
  rw [serving] at fits
  rcases durable with ⟨-, -, missing⟩ | ⟨tables, there, held⟩
  · rw [migrated.versions, fits] at missing
    exact absurd ⟨le_rfl, by decide⟩ missing
  · exact ⟨tables, by rw [there, Schema.tables?_ofTables], held⟩

/-- The program is killed before the first commit, then serves, and is killed and started again. -/
def restarts : List FileEvent :=
  let migrate : List FileEvent :=
    [.begin (.ok ()), .executeBatch (.ok ()), .insertVersion (.ok 1767268800)]
  let start : List FileEvent := [.open (.ok ()), .createVersions (.ok ()), .queryVersion (.ok ())]
  start ++ migrate ++ [.kill] ++ start ++ migrate ++ [.commit (.ok ()),
    .write (.replacePeerSnapshot ["1.1.1.1"] ⟨1767355200, by decide, by decide⟩) (.ok ()), .kill] ++
      start

theorem store_survives_restarts_killed : ∃ s, run peerMigrations restarts = some s ∧ s.phase = .serving ∧
    ∃ tables, s.db.schema.tables? = some tables ∧ replay (committedWrites restarts) = .ok tables := by
  have ran : ∃ s, run peerMigrations restarts = some s ∧ s.phase = .serving := ⟨_, rfl, rfl⟩
  obtain ⟨s, ran, serving⟩ := ran
  exact ⟨s, ran, serving, store_survives_restarts ran serving⟩

theorem migrations_once_killed : ∃ s, run peerMigrations restarts = some s ∧
    (changes peerMigrations restarts).filterMap Change.index? = [0] := by
  have ran : ∃ s, run peerMigrations restarts = some s ∧ s.phase = .serving := ⟨_, rfl, rfl⟩
  obtain ⟨s, ran, serving⟩ := ran
  obtain ⟨applied, -, -, once, -, all⟩ := migrations_once ran
  refine ⟨s, ran, ?_⟩
  rw [once, all serving]
  rfl

end StoreFile

end ChainDash.Geo
