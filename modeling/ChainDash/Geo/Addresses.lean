import ChainDash.Lib.Json
import ChainDash.Lib.Net
import ChainDash.Lib.Sorting
import ChainDash.Lib.Text

/-!
# Peer addresses

From the `admin_peers` responses of the monitored nodes to the sorted list of IP texts of a
poll round (`geo::peers`), and which addresses are looked up.
-/

namespace ChainDash.Geo
set_option autoImplicit false

open Net

/-- `strip_prefix('[')` and the text up to the first `]`, or else `rsplit_once(':')`. -/
def lenientHost (remoteAddress : List Char) : List Char :=
  match remoteAddress with
  | '[' :: rest => rest.takeWhile (· ≠ ']')
  | _ =>
    match remoteAddress.reverse.dropWhile (· ≠ ':') with
    | _ :: host => host.reverse
    | [] => remoteAddress

def ipFromRemoteAddress (remoteAddress : String) : Option IpAddr :=
  (parseSocketAddr remoteAddress).or <| (IpAddr.parse remoteAddress).or <|
    IpAddr.parse (String.ofList (lenientHost remoteAddress.toList))

example : (ipFromRemoteAddress "39.99.168.168:16789").map IpAddr.display =
    some "39.99.168.168" := by decide

example : ipFromRemoteAddress "peer.example.com:30303" = none := by decide

def isEnrichable : IpAddr → Bool
  | .v4 v4 => !v4.isUnspecified && !v4.isLoopback && !v4.isPrivate && !v4.isLinkLocal &&
      !v4.isMulticast && !v4.isBroadcast
  | .v6 v6 => !v6.isUnspecified && !v6.isLoopback && !v6.isUniqueLocal && !v6.isUnicastLinkLocal &&
      !v6.isMulticast

/-- `Value::get`: of members of one name the map keeps the last. -/
def getField (name : String) : Json.Value → Option Json.Value
  | .object members => (members.reverse.find? (·.1 = name)).map (·.2)
  | _ => none

def peerIp (peer : Json.Value) : Option IpAddr := do
  let network ← getField "network" peer
  let remoteAddress ← getField "remoteAddress" network
  let text ← Json.toString? remoteAddress
  ipFromRemoteAddress text

def parsePeerIps (peers : List Json.Value) : List IpAddr := peers.filterMap peerIp

/-- The loop of `merge_node_results`. -/
def extendIps (ips : List String) (result : Except String (List IpAddr)) :
    Except String (List String) := do
  let nodeIps ← result.mapError ("admin_peers failed: " ++ ·)
  return ips ++ nodeIps.map IpAddr.display

def mergeNodeResults (results : List (Except String (List IpAddr))) : Except String (List String) := do
  let ips ← results.foldlM extendIps []
  return Sorting.sortDedup ips

/-! ## What a round finds -/

/-- The results of the monitored nodes in one poll round: an error, or the peer objects. -/
abbrev Round := List (Except String (List Json.Value))

def Round.results (round : Round) : List (Except String (List IpAddr)) := round.map (·.map parsePeerIps)

def Round.AllOk (round : Round) : Prop := ∀ result ∈ round, ∃ peers, result = .ok peers

instance (round : Round) : Decidable round.AllOk :=
  decidable_of_iff (round.all fun result => result.isOk) <| by
    simp only [Round.AllOk, List.all_eq_true]
    refine forall₂_congr fun result _ => ?_
    cases result <;> simp [Except.isOk, Except.toBool]

/-- All addresses found, with repetitions. -/
def Round.addresses (round : Round) : List IpAddr :=
  round.flatMap fun result => parsePeerIps (result.toOption.getD [])

/-- The list handed to the store, if there is one. -/
def Round.merged (round : Round) : Option (List String) := (mergeNodeResults round.results).toOption

theorem foldlM_extendIps (round : Round) (ips : List String) :
    (round.AllOk → round.results.foldlM extendIps ips =
      .ok (ips ++ round.addresses.map IpAddr.display)) ∧
    (¬ round.AllOk → ∃ err, round.results.foldlM extendIps ips = .error err) := by
  induction round generalizing ips with
  | nil =>
    refine ⟨fun _ => ?_, fun fails => absurd (fun _ mem => nomatch mem) fails⟩
    simp [Round.results, Round.addresses, pure, Except.pure]
  | cons result rest ih =>
    cases result with
    | error err =>
      refine ⟨fun ok => ?_, fun _ => ⟨"admin_peers failed: " ++ err, rfl⟩⟩
      obtain ⟨peers, same⟩ := ok (.error err) (by simp)
      cases same
    | ok peers =>
      have step : (Round.results (.ok peers :: rest)).foldlM extendIps ips =
          (Round.results rest).foldlM extendIps (ips ++ (parsePeerIps peers).map IpAddr.display) := rfl
      have restOk : Round.AllOk (.ok peers :: rest) ↔ Round.AllOk rest := by
        simp [Round.AllOk]
      rw [step, restOk]
      obtain ⟨ok, fails⟩ := ih (ips ++ (parsePeerIps peers).map IpAddr.display)
      refine ⟨fun all => ?_, fails⟩
      rw [ok all, List.append_assoc, ← List.map_append]
      rfl

/-- A round gives a list iff every node has answered: the sorted texts of the addresses,
each once. -/
theorem merged_eq (round : Round) : round.merged =
    if round.AllOk then some (Sorting.sortDedup (round.addresses.map IpAddr.display)) else none := by
  obtain ⟨ok, fails⟩ := foldlM_extendIps round []
  unfold Round.merged mergeNodeResults
  split
  case isTrue all =>
    rw [ok all]
    rfl
  case isFalse some_ =>
    obtain ⟨err, failed⟩ := fails some_
    rw [failed]
    rfl

/-- The addresses of the last round in which every node has answered. -/
def lastFound (rounds : List Round) : List IpAddr :=
  ((rounds.filter (·.AllOk)).getLast?.map Round.addresses).getD []

/-- The last list handed to the store holds exactly the texts of these addresses. -/
theorem mem_lastMerged {rounds : List Round} {text : String} :
    text ∈ (rounds.filterMap Round.merged).getLast?.getD [] ↔
      text ∈ (lastFound rounds).map IpAddr.display := by
  have merged : rounds.filterMap Round.merged = (rounds.filter (·.AllOk)).map fun round =>
      Sorting.sortDedup (round.addresses.map IpAddr.display) := by
    rw [← List.filterMap_eq_map, List.filterMap_filter]
    apply List.filterMap_congr
    intro round _
    simp [merged_eq]
  unfold lastFound
  rw [merged, List.getLast?_map]
  cases (rounds.filter (·.AllOk)).getLast? <;> simp

/-! ## The order of the nodes and of the peers -/

/-- The same answer of a node, with the peers in another order. -/
inductive SameAnswer : Except String (List Json.Value) → Except String (List Json.Value) → Prop where
  | ok {peers peers' : List Json.Value} (perm : peers.Perm peers') : SameAnswer (.ok peers) (.ok peers')
  | error (err : String) : SameAnswer (.error err) (.error err)

/-- Two rounds that find the same. -/
structure Round.SameFindings (round round' : Round) : Prop where
  allOk : round.AllOk ↔ round'.AllOk
  addresses : ∀ ip, ip ∈ round.addresses ↔ ip ∈ round'.addresses

theorem Round.SameFindings.trans {a b c : Round} (first : a.SameFindings b) (second : b.SameFindings c) :
    a.SameFindings c :=
  ⟨first.allOk.trans second.allOk, fun ip => (first.addresses ip).trans (second.addresses ip)⟩

theorem Round.SameFindings.merged_eq {round round' : Round} (same : round.SameFindings round') :
    round.merged = round'.merged := by
  have sorted : Sorting.sortDedup (round.addresses.map IpAddr.display) =
      Sorting.sortDedup (round'.addresses.map IpAddr.display) := by
    apply Sorting.sortDedup_congr
    intro text
    simp only [List.mem_map, same.addresses]
  rw [Geo.merged_eq, Geo.merged_eq, sorted]
  simp only [same.allOk]

theorem sameFindings_of_perm {round round' : Round} (perm : round.Perm round') :
    round.SameFindings round' := by
  constructor
  · simp only [Round.AllOk, perm.mem_iff]
  · intro ip
    simp only [Round.addresses, List.mem_flatMap, perm.mem_iff]

theorem sameFindings_of_forall₂ {round round' : Round} (same : List.Forall₂ SameAnswer round round') :
    round.SameFindings round' := by
  induction same with
  | nil => exact ⟨Iff.rfl, fun _ => Iff.rfl⟩
  | @cons answer answer' rest rest' head _ ih =>
    have found : ∀ ip, ip ∈ parsePeerIps (answer.toOption.getD []) ↔
        ip ∈ parsePeerIps (answer'.toOption.getD []) := by
      intro ip
      cases head with
      | ok perm => exact (perm.filterMap peerIp).mem_iff
      | error err => exact Iff.rfl
    have answered : (∃ peers, answer = .ok peers) ↔ ∃ peers, answer' = .ok peers := by
      cases head <;> simp
    constructor
    · have split (result : Except String (List Json.Value)) (rest : Round) :
          Round.AllOk (result :: rest) ↔ (∃ peers, result = .ok peers) ∧ Round.AllOk rest := List.forall_mem_cons
      rw [split, split, answered, ih.allOk]
    · intro ip
      have split (result : Except String (List Json.Value)) (rest : Round) :
          Round.addresses (result :: rest) =
            parsePeerIps (result.toOption.getD []) ++ Round.addresses rest := rfl
      rw [split, split, List.mem_append, List.mem_append, found, ih.addresses]

/-! ## Public addresses -/

/-- An IPv4-mapped IPv6 address denotes an IPv4 address. -/
def denoted : IpAddr → IpAddr
  | .v4 v4 => .v4 v4
  | .v6 v6 =>
    match v6.toIpv4Mapped with
    | some v4 => .v4 v4
    | none => .v6 v6

/-- Not private or unique-local, loopback, unspecified, link-local, multicast or
broadcast; there is no broadcast in IPv6. -/
def IsPublic : IpAddr → Prop
  | .v4 v4 => v4.isPrivate = false ∧ v4.isLoopback = false ∧ v4.isUnspecified = false ∧
      v4.isLinkLocal = false ∧ v4.isMulticast = false ∧ v4.isBroadcast = false
  | .v6 v6 => v6.isUniqueLocal = false ∧ v6.isLoopback = false ∧ v6.isUnspecified = false ∧
      v6.isUnicastLinkLocal = false ∧ v6.isMulticast = false

instance : DecidablePred IsPublic := fun ip => by cases ip <;> unfold IsPublic <;> infer_instance

theorem isEnrichable_iff (ip : IpAddr) : isEnrichable ip = true ↔ IsPublic ip := by
  cases ip <;> simp [isEnrichable, IsPublic] <;> tauto

/-- An address that passes the filter, though the host it denotes is not public. -/
def Disguised (ip : IpAddr) : Prop := IsPublic ip ∧ ¬ IsPublic (denoted ip)

instance : DecidablePred Disguised := fun ip => by unfold Disguised; infer_instance

theorem exists_mapped_of_disguised {ip : IpAddr} (disguised : Disguised ip) :
    ∃ v6 v4, ip = .v6 v6 ∧ v6.toIpv4Mapped = some v4 ∧ ¬ IsPublic (.v4 v4) := by
  obtain ⟨shown, hidden⟩ := disguised
  cases ip with
  | v4 v4 => exact absurd shown hidden
  | v6 v6 =>
    cases mapped : v6.toIpv4Mapped with
    | none =>
      simp only [denoted, mapped] at hidden
      exact absurd shown hidden
    | some v4 =>
      simp only [denoted, mapped] at hidden
      exact ⟨v6, v4, rfl, mapped, hidden⟩

example : (IpAddr.parse "::ffff:10.0.0.1").any (fun ip => decide (Disguised ip)) = true := by decide

end ChainDash.Geo
