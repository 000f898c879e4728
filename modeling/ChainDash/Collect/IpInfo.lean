import ChainDash.Collect.PeerGeo
import ChainDash.Geo.Distribution
import ChainDash.Lib.FloatOrder

/-!
# What IPinfo says about an address

`parse_ipinfo_response` and `IpInfoClient::lookup`. Whatever the service sends, an entry holds
a country in its normal form and coordinates that are on the map (`wellFormed_lookup`). The
text of a body is read by `serde_json::from_str`, a parameter here.
-/

namespace ChainDash.Collect
set_option autoImplicit false

open Geo Ieee

/-- `(-limit..=limit).contains(&x)`. -/
def withinDegrees (limit : Nat) (x : F64) : Bool :=
  (ofNat 11 52 limit).neg.le x && x.le (ofNat 11 52 limit)

def parseLoc (loc : String) : Option (F64 × F64) := do
  let (lat, lng) ← Text.splitOnce ',' loc
  let lat ← Ieee.parse 11 52 (Text.trim lat)
  let lng ← Ieee.parse 11 52 (Text.trim lng)
  if !lat.isFinite || !lng.isFinite then none
  else if !withinDegrees 90 lat || !withinDegrees 180 lng then none
  else some (lat, lng)

/-- `.get(name).and_then(Value::as_str).map(str::trim)`. -/
def trimmedField (name : String) (value : Json.Value) : Option String :=
  ((getField name value).bind Json.toString?).map Text.trim

/-- `parse_ipinfo_response` on a body that is JSON. -/
def readIpInfo (value : Json.Value) : Option IpInfoEntry :=
  let rawCountry := (trimmedField "country" value).filter (· ≠ "")
  let country := rawCountry.bind normalizeCountryCode
  let loc := (trimmedField "loc" value).filter fun loc => (parseLoc loc).isSome
  if rawCountry.isNone && loc.isNone then none
  else
    let ip := ((getField "ip" value).bind Json.toString?).getD ""
    some { ip, country, loc }

/-- `from_str` fails with the text of the `serde_json` error. -/
def parseIpinfoResponse (fromStr : String → Except String Json.Value) (body : String) :
    Except String (Option IpInfoEntry) :=
  ((fromStr body).mapError ("JSON parse error: " ++ ·)).map readIpInfo

/-- What comes of a request: an error of the client, or a response, whose body can break off. -/
inductive HttpAnswer where
  | failed (err : String)
  | response (status : Nat) (reason : String) (body : Except String String)

/-- `IpInfoClient::lookup`. -/
def lookup (fromStr : String → Except String Json.Value) (answer : HttpAnswer) :
    Except String (Option IpInfoEntry) := do
  match answer with
  | .failed err => throw ("HTTP error: " ++ err)
  | .response status reason body =>
    if ¬ (200 ≤ status ∧ status < 300) then
      throw ("HTTP error: ipinfo returned " ++ toString status ++ " " ++ reason)
    let body ← body.mapError ("HTTP error: " ++ ·)
    parseIpinfoResponse fromStr body

/-! ## What an entry can hold -/

/-- A `lat,lng` text with coordinates on the map. -/
def IsLocation (text : String) : Prop :=
  ∃ lat lng : F64, ∃ north east : Rat, parseLoc text = some (lat, lng) ∧
    lat.toRat? = some north ∧ lng.toRat? = some east ∧ |north| ≤ 90 ∧ |east| ≤ 180

structure IpInfoEntry.WellFormed (entry : IpInfoEntry) : Prop where
  country : ∀ code ∈ entry.country, IsCountryCode code
  loc : ∀ text ∈ entry.loc, IsLocation text

theorem abs_le_of_withinDegrees {limit : Nat} {x : F64} (some : 0 < limit) (short : limit < 2 ^ 53)
    (within : withinDegrees limit x = true) : ∃ q, x.toRat? = .some q ∧ |q| ≤ limit := by
  have fits : (limit : Rat) < (2 : Rat) ^ bias 11 := word_fits (by omega)
  obtain ⟨exponent, fraction, at_, exact_⟩ := ofNat_exact 52 (by decide) some short fits
  unfold withinDegrees at within
  rw [at_, Bool.and_eq_true] at within
  obtain ⟨low, high⟩ := within
  cases x with
  | nan => cases low
  | inf negative => cases negative <;> simp [Binary.neg, Binary.le, Binary.lt] at low high
  | finite negative e f =>
    refine ⟨_, rfl, abs_le.mpr ?_⟩
    rw [← exact_]
    simp only [Binary.neg, Binary.le, Binary.lt, Binary.toRat?] at low high
    constructor
    · simpa using low
    · simpa using high

theorem isLocation_of_parseLoc {text : String} (parsed : (parseLoc text).isSome) :
    IsLocation text := by
  obtain ⟨⟨lat, lng⟩, parsed⟩ := Option.isSome_iff_exists.mp parsed
  have inRange : withinDegrees 90 lat = true ∧ withinDegrees 180 lng = true := by
    unfold parseLoc at parsed
    simp only [bind, Option.bind_eq_some_iff] at parsed
    obtain ⟨⟨_, _⟩, -, x, -, y, -, checked⟩ := parsed
    split at checked
    · cases checked
    · split at checked
      case isTrue => cases checked
      case isFalse within =>
        cases checked
        simpa using within
  obtain ⟨north, latAt, north90⟩ := abs_le_of_withinDegrees (by decide) (by decide) inRange.1
  obtain ⟨east, lngAt, east180⟩ := abs_le_of_withinDegrees (by decide) (by decide) inRange.2
  exact ⟨lat, lng, north, east, parsed, latAt, lngAt, by simpa using north90, by simpa using east180⟩

theorem wellFormed_readIpInfo {value : Json.Value} {entry : IpInfoEntry}
    (read : readIpInfo value = some entry) : entry.WellFormed := by
  unfold readIpInfo at read
  dsimp only at read
  split at read
  case isTrue => cases read
  case isFalse =>
    cases read
    constructor
    · intro code normalized
      obtain ⟨raw, -, normalized⟩ := Option.bind_eq_some_iff.mp normalized
      exact normalizeCountryCode_isCountryCode normalized
    · intro text kept
      obtain ⟨-, parsed⟩ := Option.filter_eq_some_iff.mp kept
      exact isLocation_of_parseLoc parsed

/-- Whatever the service sends. -/
theorem wellFormed_lookup {fromStr : String → Except String Json.Value} {answer : HttpAnswer}
    {entry : IpInfoEntry} (found : lookup fromStr answer = .ok (some entry)) : entry.WellFormed := by
  cases answer with
  | failed err => cases found
  | response status reason body =>
    simp only [lookup] at found
    split at found
    · cases found
    · cases body with
      | error err => cases found
      | ok body =>
        change parseIpinfoResponse fromStr body = _ at found
        unfold parseIpinfoResponse at found
        cases parsed : fromStr body with
        | error err => simp [parsed, Except.mapError, Except.map] at found
        | ok value =>
          rw [parsed] at found
          exact wellFormed_readIpInfo (Except.ok.inj found)

end ChainDash.Collect
