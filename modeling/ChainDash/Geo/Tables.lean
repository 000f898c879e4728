import Mathlib.Algebra.Ring.Int.Defs
import ChainDash.Geo.Snapshot
import ChainDash.Lib.Sorting

/-!
# The tables behind the peer-geo store

The two tables of the migrated database and the transactions on them
(`geo::store`), statement by statement. A transaction that fails returns its error and
no tables, so the caller keeps the tables it had. `replay_exact` gives the tables, and
what each replace returns, as a function of the calls made so far.
-/

namespace ChainDash.Geo
set_option autoImplicit false

/-- A clock reading in seconds since the epoch, in the range of `i64` and far enough from
its lower end for `now - LOCATION_CACHE_TTL_SECONDS`; `default_clock` never returns a
negative one. -/
structure UnixSeconds where
  seconds : Int
  lower : -2 ^ 63 + 86400 ≤ seconds
  upper : seconds < 2 ^ 63

def locationCacheTtlSeconds : Int := 24 * 60 * 60

structure LocationEntry where
  ip : String
  country : Option String
  loc : Option String
  error : Option String

/-- A row of `location_cache`, without its key. -/
structure LocationRow where
  country : String
  loc : String
  refreshedAt : Int
  lastError : String
  deriving DecidableEq

/-- `current_peers` maps an IP to `updated_at`; both tables have `ip` as primary key. -/
structure Tables where
  currentPeers : Dictionary String Int := ∅
  locationCache : Dictionary String LocationRow := ∅

/-- `INSERT INTO current_peers`: a second row for an IP breaks the primary key. -/
def insertCurrentPeer (peers : Dictionary String Int) (ip : String) (now : Int) :
    Except String (Dictionary String Int) :=
  if ip ∈ peers then .error "UNIQUE constraint failed: current_peers.ip"
  else .ok (peers.insert ip now)

/-- `SELECT c.ip FROM current_peers c LEFT JOIN location_cache l ON l.ip = c.ip WHERE
l.ip IS NULL OR l.refreshed_at < ?1 ORDER BY c.ip`. -/
def selectNeedsEnrichment (tables : Tables) (before : Int) : List String :=
  (tables.currentPeers.keys.filter fun ip =>
    (tables.locationCache.lookup ip).all (·.refreshedAt < before)).insertionSort (· ≤ ·)

/-- `replace_peer_snapshot_tx`. -/
def replacePeerSnapshotTx (tables : Tables) (ips : List String) (now : UnixSeconds) :
    Except String (List String × Tables) := do
  let uniqueIps := Sorting.sortDedup ips
  let currentPeers ← uniqueIps.foldlM (fun peers ip => insertCurrentPeer peers ip now.seconds) ∅
  let tables := { tables with currentPeers }
  return (selectNeedsEnrichment tables (now.seconds - locationCacheTtlSeconds), tables)

/-- `INSERT … ON CONFLICT(ip) DO UPDATE` for one entry: an error leaves the columns of an
earlier success in place. -/
def upsertLocation (cache : Dictionary String LocationRow) (now : UnixSeconds)
    (entry : LocationEntry) : Dictionary String LocationRow :=
  match entry.error with
  | some error =>
    match cache.lookup entry.ip with
    | none =>
      cache.insert entry.ip { country := "", loc := "", refreshedAt := 0, lastError := error }
    | some row => cache.insert entry.ip { row with lastError := error }
  | none =>
    cache.insert entry.ip {
      country := entry.country.getD ""
      loc := entry.loc.getD ""
      refreshedAt := now.seconds
      lastError := "" }

/-- `update_location_cache_tx`. -/
def updateLocationCacheTx (tables : Tables) (entries : List LocationEntry) (now : UnixSeconds) :
    Except String Tables :=
  .ok { tables with locationCache := entries.foldl (upsertLocation · now) tables.locationCache }

/-- `SELECT p.ip, COALESCE(l.country, '') … ORDER BY p.ip`, assembled. -/
def buildGeoViewSnapshot (tables : Tables) : GeoViewSnapshot :=
  assembleSnapshot ((tables.currentPeers.keys.insertionSort (· ≤ ·)).map fun ip =>
    (ip, ((tables.locationCache.lookup ip).map (·.country)).getD ""))

/-- The assembled snapshot counts every peer of the table once. -/
theorem totalPeers_buildGeoViewSnapshot (tables : Tables) :
    (buildGeoViewSnapshot tables).totalPeers = tables.currentPeers.keys.length := by
  have sorted := List.perm_insertionSort (· ≤ ·) tables.currentPeers.keys
  unfold buildGeoViewSnapshot
  rw [totalPeers_assembleSnapshot, List.length_map, sorted.length_eq]
  rw [List.map_map]
  simpa [Function.comp_def] using sorted.nodup_iff.mpr tables.currentPeers.keys_nodup

/-! ## Replacing the peers -/

theorem insertCurrentPeer_foldlM (ips : List String) (now : Int) (peers : Dictionary String Int)
    (distinct : ips.Nodup) (fresh : ∀ ip ∈ ips, ip ∉ peers) :
    ∃ after, ips.foldlM (fun peers ip => insertCurrentPeer peers ip now) peers = .ok after ∧
      ∀ ip, ip ∈ after ↔ ip ∈ ips ∨ ip ∈ peers := by
  induction ips generalizing peers with
  | nil => exact ⟨peers, rfl, by simp⟩
  | cons ip ips ih =>
    obtain ⟨notIn, rest⟩ := List.nodup_cons.mp distinct
    have free : ip ∉ peers := fresh ip (by simp)
    obtain ⟨after, done, mem⟩ := ih (peers.insert ip now) rest fun other inside => by
      rw [AList.mem_insert]
      rintro (rfl | old)
      · exact notIn inside
      · exact fresh other (List.mem_cons_of_mem _ inside) old
    refine ⟨after, ?_, ?_⟩
    · rw [List.foldlM_cons, insertCurrentPeer, if_neg free]
      exact done
    · intro x
      rw [mem, AList.mem_insert, List.mem_cons]
      tauto

/-- A replace always commits: the new peers are the distinct IPs given, no cache row
changes, and the answer is read off the new peers and the cache. -/
theorem replacePeerSnapshotTx_ok (tables : Tables) (ips : List String) (now : UnixSeconds) :
    ∃ after, replacePeerSnapshotTx tables ips now =
        .ok (selectNeedsEnrichment after (now.seconds - locationCacheTtlSeconds), after) ∧
      (∀ ip, ip ∈ after.currentPeers ↔ ip ∈ ips) ∧ after.locationCache = tables.locationCache := by
  obtain ⟨peers, done, mem⟩ := insertCurrentPeer_foldlM (Sorting.sortDedup ips) now.seconds ∅
    (Sorting.nodup_sortDedup ips) (fun _ _ => AList.notMem_empty _)
  refine ⟨{ tables with currentPeers := peers }, ?_, ?_, rfl⟩
  · rw [replacePeerSnapshotTx, done]
    rfl
  · intro ip
    rw [mem, Sorting.mem_sortDedup]
    simp [AList.notMem_empty]

theorem mem_selectNeedsEnrichment {tables : Tables} {before : Int} {ip : String} :
    ip ∈ selectNeedsEnrichment tables before ↔ ip ∈ tables.currentPeers ∧
      ∀ row, tables.locationCache.lookup ip = some row → row.refreshedAt < before := by
  unfold selectNeedsEnrichment
  rw [List.mem_insertionSort, List.mem_filter, AList.mem_keys]
  cases tables.locationCache.lookup ip <;> simp

theorem pairwise_selectNeedsEnrichment (tables : Tables) (before : Int) :
    (selectNeedsEnrichment tables before).Pairwise (· < ·) :=
  Sorting.pairwise_insertionSort_lt (tables.currentPeers.keys_nodup.filter _)

/-! ## The location cache as a function of what was written -/

/-- An entry and the time of the call it was written by. -/
abbrev Written := LocationEntry × UnixSeconds

/-- What one entry for an IP makes of the row of that IP. -/
def writeRow (row : Option LocationRow) (written : Written) : LocationRow :=
  match written.1.error with
  | some error => { row.getD ⟨"", "", 0, ""⟩ with lastError := error }
  | none => ⟨written.1.country.getD "", written.1.loc.getD "", written.2.seconds, ""⟩

theorem lookup_upsertLocation (cache : Dictionary String LocationRow) (now : UnixSeconds)
    (entry : LocationEntry) (ip : String) :
    (upsertLocation cache now entry).lookup ip =
      if entry.ip = ip then some (writeRow (cache.lookup ip) (entry, now)) else cache.lookup ip := by
  by_cases same : entry.ip = ip
  · subst same
    unfold upsertLocation writeRow
    cases entry.error with
    | none => simp
    | some error => cases cache.lookup entry.ip <;> simp
  · have other : ip ≠ entry.ip := fun eq => same eq.symm
    unfold upsertLocation
    cases entry.error with
    | none => simp [same, AList.lookup_insert_ne other]
    | some error => cases cache.lookup entry.ip <;> simp [same, AList.lookup_insert_ne other]

/-- The row that the entries written for an IP leave: the columns of the last success,
and the error of the last entry. -/
def expectedRow (written : List Written) : Option LocationRow :=
  let success := (written.filter (·.1.error.isNone)).getLast?
  written.getLast?.map fun last =>
    { country := success.elim "" fun entry => entry.1.country.getD ""
      loc := success.elim "" fun entry => entry.1.loc.getD ""
      refreshedAt := success.elim 0 fun entry => entry.2.seconds
      lastError := last.1.error.getD "" }

/-- The same for a row that was there before: without a success its columns stay. -/
def rowAfter (row : Option LocationRow) (written : List Written) : Option LocationRow :=
  let kept := row.getD ⟨"", "", 0, ""⟩
  let success := (written.filter (·.1.error.isNone)).getLast?
  written.getLast?.elim row fun last => some
    { country := success.elim kept.country fun entry => entry.1.country.getD ""
      loc := success.elim kept.loc fun entry => entry.1.loc.getD ""
      refreshedAt := success.elim kept.refreshedAt fun entry => entry.2.seconds
      lastError := last.1.error.getD "" }

theorem rowAfter_none (written : List Written) : rowAfter none written = expectedRow written := by
  unfold rowAfter expectedRow
  cases written.getLast? <;> rfl

theorem rowAfter_nil (row : Option LocationRow) : rowAfter row [] = row := rfl

theorem rowAfter_snoc (row : Option LocationRow) (written : List Written) (last : Written) :
    rowAfter row (written ++ [last]) = some (writeRow (rowAfter row written) last) := by
  unfold rowAfter writeRow
  cases failed : last.1.error with
  | none => simp [List.filter_append, failed]
  | some error =>
    cases before : written.getLast? with
    | none =>
      rw [List.getLast?_eq_none_iff] at before
      subst before
      cases row <;> simp [failed]
    | some entry => simp [List.filter_append, failed]

/-- The entries of a batch for one IP, in order. -/
def batchFor (ip : String) (entries : List LocationEntry) (now : UnixSeconds) : List Written :=
  (entries.filter (·.ip = ip)).map (·, now)

theorem lookup_foldl_upsertLocation (cache : Dictionary String LocationRow) (row : Option LocationRow)
    (written : List Written) (ip : String) (known : cache.lookup ip = rowAfter row written)
    (entries : List LocationEntry) (now : UnixSeconds) :
    (entries.foldl (upsertLocation · now) cache).lookup ip =
      rowAfter row (written ++ batchFor ip entries now) := by
  induction entries generalizing cache written with
  | nil => simpa [batchFor] using known
  | cons entry entries ih =>
    rw [List.foldl_cons]
    have step := lookup_upsertLocation cache now entry ip
    by_cases same : entry.ip = ip
    · rw [if_pos same, known, ← rowAfter_snoc] at step
      simpa [batchFor, same] using ih _ _ step
    · rw [if_neg same, known] at step
      simpa [batchFor, same] using ih _ _ step

/-! ## Histories of calls -/

/-- A write of a client. -/
inductive StoreWrite where
  | replacePeerSnapshot (ips : List String) (now : UnixSeconds)
  | updateLocationCache (entries : List LocationEntry) (now : UnixSeconds)

def StoreWrite.exec (tables : Tables) : StoreWrite → Except String Tables
  | .replacePeerSnapshot ips now => (replacePeerSnapshotTx tables ips now).map (·.2)
  | .updateLocationCache entries now => updateLocationCacheTx tables entries now

/-- The tables after a sequence of calls. -/
def replayFrom (tables : Tables) (calls : List StoreWrite) : Except String Tables :=
  calls.foldlM StoreWrite.exec tables

/-- The tables after a sequence of calls on a migrated empty database. -/
def replay (calls : List StoreWrite) : Except String Tables := calls.foldlM StoreWrite.exec {}

def StoreWrite.peers? : StoreWrite → Option (List String)
  | .replacePeerSnapshot ips _ => some ips
  | .updateLocationCache _ _ => none

/-- The IPs of the last replace, none before the first one. -/
def lastPeers (calls : List StoreWrite) : List String :=
  ((calls.filterMap StoreWrite.peers?).getLast?).getD []

def StoreWrite.writtenFor (ip : String) : StoreWrite → List Written
  | .replacePeerSnapshot _ _ => []
  | .updateLocationCache entries now => batchFor ip entries now

/-- All entries ever written for an IP, oldest first. -/
def writtenFor (ip : String) (calls : List StoreWrite) : List Written :=
  calls.flatMap (StoreWrite.writtenFor ip)

theorem replayFrom_snoc (tables : Tables) (calls : List StoreWrite) (call : StoreWrite) :
    replayFrom tables (calls ++ [call]) = (replayFrom tables calls).bind call.exec := by
  unfold replayFrom
  rw [List.foldlM_append]
  cases calls.foldlM StoreWrite.exec tables with
  | error e => rfl
  | ok tables =>
    simp only [bind, Except.bind, List.foldlM_cons, List.foldlM_nil]
    cases call.exec tables <;> rfl

theorem replay_snoc (calls : List StoreWrite) (call : StoreWrite) :
    replay (calls ++ [call]) = (replay calls).bind call.exec := replayFrom_snoc {} calls call

/-- Every call commits, and the tables are what the history of calls makes of those before. -/
theorem replayFrom_tables (tables : Tables) (calls : List StoreWrite) :
    ∃ after, replayFrom tables calls = .ok after ∧
      (∀ ip, ip ∈ after.currentPeers ↔
        (calls.filterMap StoreWrite.peers?).getLast?.elim (ip ∈ tables.currentPeers) (ip ∈ ·)) ∧
      ∀ ip, after.locationCache.lookup ip =
        rowAfter (tables.locationCache.lookup ip) (writtenFor ip calls) := by
  induction calls using List.reverseRecOn with
  | nil => exact ⟨tables, rfl, fun ip => Iff.rfl, fun ip => (rowAfter_nil _).symm⟩
  | append_singleton calls call ih =>
    obtain ⟨before, done, peers, cache⟩ := ih
    rw [replayFrom_snoc, done]
    cases call with
    | replacePeerSnapshot ips now =>
      obtain ⟨after, ok, newPeers, sameCache⟩ := replacePeerSnapshotTx_ok before ips now
      refine ⟨after, ?_, ?_, ?_⟩
      · simp [Except.bind, StoreWrite.exec, ok, Except.map]
      · intro ip
        rw [newPeers]
        simp [StoreWrite.peers?]
      · intro ip
        rw [sameCache, cache]
        simp [writtenFor, StoreWrite.writtenFor]
    | updateLocationCache entries now =>
      refine ⟨_, rfl, ?_, ?_⟩
      · intro ip
        rw [peers]
        simp [StoreWrite.peers?]
      · intro ip
        rw [lookup_foldl_upsertLocation _ _ _ ip (cache ip)]
        simp [writtenFor, StoreWrite.writtenFor]

theorem replay_tables (calls : List StoreWrite) : ∃ tables, replay calls = .ok tables ∧
    (∀ ip, ip ∈ tables.currentPeers ↔ ip ∈ lastPeers calls) ∧
    ∀ ip, tables.locationCache.lookup ip = expectedRow (writtenFor ip calls) := by
  obtain ⟨tables, done, peers, cache⟩ := replayFrom_tables {} calls
  refine ⟨tables, done, fun ip => ?_, fun ip => ?_⟩
  · rw [peers, lastPeers]
    cases (calls.filterMap StoreWrite.peers?).getLast? with
    | none => simp [AList.notMem_empty]
    | some ips => rfl
  · rw [cache, ← rowAfter_none]
    rfl

/-- The store is the function of its history: its tables, and what a further replace
returns and leaves alone. -/
theorem replay_exact (calls : List StoreWrite) : ∃ tables, replay calls = .ok tables ∧
    (∀ ip, ip ∈ tables.currentPeers ↔ ip ∈ lastPeers calls) ∧
    (∀ ip, tables.locationCache.lookup ip = expectedRow (writtenFor ip calls)) ∧
    ∀ ips now, ∃ needs after, replacePeerSnapshotTx tables ips now = .ok (needs, after) ∧
      after.locationCache = tables.locationCache ∧ needs.Pairwise (· < ·) ∧
      ∀ ip, ip ∈ needs ↔ ip ∈ ips ∧ ∀ row, expectedRow (writtenFor ip calls) = some row →
        row.refreshedAt < now.seconds - 86400 := by
  obtain ⟨tables, done, peers, cache⟩ := replay_tables calls
  refine ⟨tables, done, peers, cache, ?_⟩
  intro ips now
  obtain ⟨after, ok, newPeers, sameCache⟩ := replacePeerSnapshotTx_ok tables ips now
  refine ⟨_, after, ok, sameCache, pairwise_selectNeedsEnrichment _ _, ?_⟩
  intro ip
  rw [mem_selectNeedsEnrichment, newPeers, sameCache, cache]
  rfl

end ChainDash.Geo
