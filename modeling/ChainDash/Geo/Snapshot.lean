import Mathlib.Data.List.Sort
import Mathlib.Data.Prod.Lex
import Mathlib.Data.String.Basic
import ChainDash.Lib.Dictionary
import ChainDash.Lib.Text

/-!
# The Geo View Snapshot

The Peer Country Distribution assembled from `(ip, country)` rows (`geo::snapshot`).
-/

namespace ChainDash.Geo
set_option autoImplicit false

structure CountryCount where
  countryCode : String
  peerCount : Nat
  deriving DecidableEq

structure GeoViewSnapshot where
  totalPeers : Nat := 0
  uniqueCountries : Nat := 0
  countryCounts : List CountryCount := []
  unknownCountryCount : Nat := 0
  deriving DecidableEq

/-- Exactly two ASCII letters after trimming, in upper case. -/
def normalizeCountryCode (country : String) : Option String :=
  let country := Text.trim country
  if country.utf8ByteSize ≠ 2 || !country.toList.all Char.isAlpha then none
  else some (String.ofList (country.toList.map Char.toUpper))

/-- The accumulators of the loop over the rows. -/
structure Tally where
  seenIps : List String := []
  countryTotals : Dictionary String Nat := ∅
  unknownCountryCount : Nat := 0

/-- One row: only the first row of an IP is counted. -/
def Tally.count (tally : Tally) (row : String × String) : Tally :=
  if tally.seenIps.contains row.1 then tally
  else
    let tally := { tally with seenIps := tally.seenIps ++ [row.1] }
    match normalizeCountryCode row.2 with
    | some code =>
      let total := (tally.countryTotals.lookup code).getD 0
      { tally with countryTotals := tally.countryTotals.insert code (total + 1) }
    | none => { tally with unknownCountryCount := tally.unknownCountryCount + 1 }

/-- Descending counts, then ascending codes. -/
def CountryCount.Le (left right : CountryCount) : Prop :=
  right.peerCount < left.peerCount ∨
    right.peerCount = left.peerCount ∧ left.countryCode ≤ right.countryCode

instance : DecidableRel CountryCount.Le := fun _ _ => by unfold CountryCount.Le; infer_instance

def assembleSnapshot (rows : List (String × String)) : GeoViewSnapshot :=
  let tally := rows.foldl Tally.count {}
  let countryCounts := (tally.countryTotals.entries.map fun entry =>
    { countryCode := entry.1, peerCount := entry.2 }).insertionSort CountryCount.Le
  { totalPeers := tally.seenIps.length
    uniqueCountries := countryCounts.length
    countryCounts
    unknownCountryCount := tally.unknownCountryCount }

example : assembleSnapshot [("1.1.1.1", "CN"), ("2.2.2.2", " us "), ("2.2.2.2", "CN"), ("3.3.3.3", "C1")] =
    ⟨3, 2, [⟨"CN", 1⟩, ⟨"US", 1⟩], 1⟩ := by decide

/-! ## The number of peers -/

theorem Tally.seenIps_count {tally : Tally} {row : String × String} (fresh : row.1 ∉ tally.seenIps) :
    (tally.count row).seenIps = tally.seenIps ++ [row.1] := by
  unfold Tally.count
  rw [if_neg (by simpa using fresh)]
  cases normalizeCountryCode row.2 <;> rfl

theorem Tally.seenIps_foldl (rows : List (String × String)) (tally : Tally)
    (distinct : (tally.seenIps ++ rows.map (·.1)).Nodup) :
    (rows.foldl Tally.count tally).seenIps = tally.seenIps ++ rows.map (·.1) := by
  induction rows generalizing tally with
  | nil => simp
  | cons row rows ih =>
    have fresh : row.1 ∉ tally.seenIps := by
      intro seen
      exact (List.nodup_append.mp distinct).2.2 row.1 seen row.1 (by simp) rfl
    have counted := Tally.seenIps_count fresh
    rw [List.foldl_cons, ih, counted]
    · simp
    · rw [counted]
      simpa using distinct

/-- Rows of distinct IPs are all counted. -/
theorem totalPeers_assembleSnapshot {rows : List (String × String)} (distinct : (rows.map (·.1)).Nodup) :
    (assembleSnapshot rows).totalPeers = rows.length := by
  show (rows.foldl Tally.count {}).seenIps.length = rows.length
  rw [Tally.seenIps_foldl rows {} (by simpa using distinct)]
  simp

end ChainDash.Geo
