import Mathlib.Algebra.GroupWithZero.Nat
import Mathlib.Algebra.BigOperators.Group.Finset.Basic
import Mathlib.Algebra.BigOperators.Option
import ChainDash.Geo.Snapshot
import ChainDash.Lib.Sorting

/-!
# The Peer Country Distribution conserves peers

Every IP is in one class: the normalized country of its first row, or none. The snapshot
counts the classes, so it depends on the IPs and their classes only (`assembleSnapshot_congr`),
and no peer is lost or counted twice (`distribution_conserves`).
-/

namespace ChainDash.Geo
set_option autoImplicit false

/-! ## What a snapshot should count -/

def ipsOf (rows : List (String × String)) : Finset String := (rows.map Prod.fst).toFinset

/-- The normalized country of the first row of an IP. -/
def countryOf (rows : List (String × String)) (ip : String) : Option String :=
  (rows.lookup ip).bind normalizeCountryCode

/-- The IPs of one class. -/
def peersOf (rows : List (String × String)) (country : Option String) : Finset String :=
  (ipsOf rows).filter (countryOf rows · = country)

/-- The order in which the counts are listed: no two entries of it are level. -/
def CountryCount.Lt (left right : CountryCount) : Prop :=
  right.peerCount < left.peerCount ∨
    right.peerCount = left.peerCount ∧ left.countryCode < right.countryCode

/-- Two ASCII letters in upper case. -/
def IsCountryCode (code : String) : Prop :=
  ∃ first second : Char, code = String.ofList [first, second] ∧ first.isUpper ∧ second.isUpper

/-! ## Country codes -/

/-- The two ranges of letters. -/
theorem isAlpha_cases {c : Char} (letter : c.isAlpha) :
    ('A'.val ≤ c.val ∧ c.val ≤ 'Z'.val) ∨ ('a'.val ≤ c.val ∧ c.val ≤ 'z'.val) := by
  rcases Bool.or_eq_true_iff.mp letter with upper | lower
  · exact .inl (of_decide_eq_true upper)
  · obtain ⟨low, high⟩ := Bool.and_eq_true_iff.mp lower
    exact .inr ⟨of_decide_eq_true low, of_decide_eq_true high⟩

theorem utf8Size_of_isAlpha {c : Char} (letter : c.isAlpha) : c.utf8Size = 1 := by
  rw [Char.utf8Size_eq_one_iff]
  rcases isAlpha_cases letter with ⟨-, upper⟩ | ⟨-, lower⟩
  · exact UInt32.le_trans upper (by decide)
  · exact UInt32.le_trans lower (by decide)

/-- Letters are one byte each. -/
theorem utf8ByteSize_of_letters {s : String} (letters : s.toList.all Char.isAlpha) :
    s.utf8ByteSize = s.toList.length := by
  rw [← String.size_toByteArray, ← String.utf8Encode_toList]
  generalize s.toList = cs at letters ⊢
  induction cs with
  | nil => rfl
  | cons c cs ih =>
    obtain ⟨letter, rest⟩ := Bool.and_eq_true_iff.mp letters
    rw [List.utf8Encode_cons, ByteArray.size_append, ih rest, List.utf8Encode_singleton]
    simp [utf8Size_of_isAlpha letter]
    omega

theorem isUpper_of_range {c : Char} (low : 'A'.val ≤ c.val) (high : c.val ≤ 'Z'.val) : c.isUpper :=
  decide_eq_true ⟨low, high⟩

theorem isUpper_toUpper {c : Char} (letter : c.isAlpha) : c.toUpper.isUpper := by
  unfold Char.toUpper
  split
  case isTrue lower =>
    have a : 'a'.val.toNat = 97 := rfl
    have z : 'z'.val.toNat = 122 := rfl
    have A : 'A'.val.toNat = 65 := rfl
    have Z : 'Z'.val.toNat = 90 := rfl
    have down : ('A'.val - 'a'.val).toNat = 2 ^ 32 - 32 := rfl
    simp only [UInt32.le_iff_toNat_le] at lower
    apply isUpper_of_range
    · rw [UInt32.le_iff_toNat_le, UInt32.toNat_add]
      omega
    · rw [UInt32.le_iff_toNat_le, UInt32.toNat_add]
      omega
  case isFalse notLower =>
    obtain ⟨low, high⟩ := (isAlpha_cases letter).resolve_right notLower
    exact isUpper_of_range low high

theorem normalizeCountryCode_isCountryCode {country code : String}
    (normalized : normalizeCountryCode country = some code) : IsCountryCode code := by
  unfold normalizeCountryCode at normalized
  dsimp only at normalized
  generalize Text.trim country = letters at normalized
  split at normalized
  case isTrue => cases normalized
  case isFalse two =>
    simp only [Bool.or_eq_true, decide_eq_true_eq, not_or, not_not, Bool.not_eq_true',
      Bool.not_eq_false] at two
    obtain ⟨size, alpha⟩ := two
    rw [utf8ByteSize_of_letters alpha] at size
    obtain ⟨first, second, pair⟩ := List.length_eq_two.mp size
    rw [pair] at alpha normalized
    obtain rfl := Option.some.inj normalized
    refine ⟨first.toUpper, second.toUpper, rfl, ?_⟩
    have both : first.isAlpha ∧ second.isAlpha := by simpa using alpha
    exact ⟨isUpper_toUpper both.1, isUpper_toUpper both.2⟩

theorem isWhitespace_of_isUpper {c : Char} (upper : c.isUpper) : Text.isWhitespace c = false := by
  obtain ⟨low, high⟩ := of_decide_eq_true upper
  have a : 'A'.val.toNat = 65 := rfl
  have z : 'Z'.val.toNat = 90 := rfl
  rw [ge_iff_le, UInt32.le_iff_toNat_le] at low
  rw [UInt32.le_iff_toNat_le] at high
  have number : c.toNat = c.val.toNat := rfl
  simp [Text.isWhitespace]
  omega

theorem toUpper_of_isUpper {c : Char} (upper : c.isUpper) : c.toUpper = c := by
  obtain ⟨low, high⟩ := of_decide_eq_true upper
  have z : 'Z'.val.toNat = 90 := rfl
  have a : 'a'.val.toNat = 97 := rfl
  rw [UInt32.le_iff_toNat_le] at high
  unfold Char.toUpper
  rw [dif_neg]
  rintro ⟨lower, -⟩
  rw [UInt32.le_iff_toNat_le] at lower
  omega

/-- A code in its normal form stays as it is. -/
theorem normalizeCountryCode_of_isCountryCode {code : String} (normal : IsCountryCode code) :
    normalizeCountryCode code = some code := by
  obtain ⟨first, second, rfl, upper, upper'⟩ := normal
  have trimmed : Text.trim (String.ofList [first, second]) = String.ofList [first, second] := by
    simp [Text.trim, isWhitespace_of_isUpper upper, isWhitespace_of_isUpper upper']
  have alpha : ∀ c : Char, c.isUpper → c.isAlpha := fun _ upper => Bool.or_eq_true_iff.mpr (.inl upper)
  have letters : (String.ofList [first, second]).toList.all Char.isAlpha := by
    simp [alpha _ upper, alpha _ upper']
  have size : (String.ofList [first, second]).utf8ByteSize = 2 := by
    rw [utf8ByteSize_of_letters letters, String.toList_ofList]
    rfl
  unfold normalizeCountryCode
  dsimp only
  rw [trimmed, size, letters]
  simp [toUpper_of_isUpper upper, toUpper_of_isUpper upper']

/-! ## The classes after one more row -/

variable {rows : List (String × String)} {row : String × String} {ip : String}

theorem mem_ipsOf : ip ∈ ipsOf rows ↔ ∃ country, (ip, country) ∈ rows := by
  simp [ipsOf]

theorem mem_peersOf {country : Option String} :
    ip ∈ peersOf rows country ↔ ip ∈ ipsOf rows ∧ countryOf rows ip = country := Finset.mem_filter

theorem lookup_eq_none_iff : rows.lookup ip = none ↔ ip ∉ ipsOf rows := by
  rw [List.lookup_eq_none_iff, mem_ipsOf]
  constructor
  · rintro other ⟨country, inside⟩
    exact absurd (other _ inside) (by simp)
  · intro fresh row inside
    by_contra same
    obtain rfl : ip = row.1 := by simpa using same
    exact fresh ⟨row.2, inside⟩

theorem mem_of_lookup {country : String} (first : rows.lookup ip = some country) : (ip, country) ∈ rows := by
  obtain ⟨before, after, cut, -⟩ := List.lookup_eq_some_iff.mp first
  simp [cut]

theorem ipsOf_append (rows : List (String × String)) (row : String × String) :
    ipsOf (rows ++ [row]) = insert row.1 (ipsOf rows) := by
  ext ip
  simp [ipsOf]

theorem countryOf_append_of_mem (row : String × String) (seen : ip ∈ ipsOf rows) :
    countryOf (rows ++ [row]) ip = countryOf rows ip := by
  unfold countryOf
  rw [List.lookup_append]
  cases first : rows.lookup ip with
  | some country => rfl
  | none => exact absurd seen (lookup_eq_none_iff.mp first)

theorem countryOf_append_of_notMem (fresh : row.1 ∉ ipsOf rows) :
    countryOf (rows ++ [row]) row.1 = normalizeCountryCode row.2 := by
  unfold countryOf
  rw [List.lookup_append, lookup_eq_none_iff.mpr fresh, List.lookup_cons_self, Option.none_or,
    Option.bind_some]

/-- Only the first row of an IP matters. -/
theorem peersOf_append_of_mem (country : Option String) (seen : row.1 ∈ ipsOf rows) :
    peersOf (rows ++ [row]) country = peersOf rows country := by
  unfold peersOf
  rw [ipsOf_append, Finset.insert_eq_of_mem seen]
  apply Finset.filter_congr
  intro ip inside
  rw [countryOf_append_of_mem row inside]

/-- A new IP is put into its class. -/
theorem peersOf_append_of_notMem (country : Option String) (fresh : row.1 ∉ ipsOf rows) :
    peersOf (rows ++ [row]) country =
      if normalizeCountryCode row.2 = country then insert row.1 (peersOf rows country)
      else peersOf rows country := by
  have others : (ipsOf rows).filter (countryOf (rows ++ [row]) · = country) =
      peersOf rows country := by
    apply Finset.filter_congr
    intro ip inside
    rw [countryOf_append_of_mem row inside]
  unfold peersOf at others ⊢
  rw [ipsOf_append, Finset.filter_insert, countryOf_append_of_notMem fresh, others]

theorem card_peersOf_append (country : Option String) (fresh : row.1 ∉ ipsOf rows) :
    (peersOf (rows ++ [row]) country).card =
      (peersOf rows country).card + if normalizeCountryCode row.2 = country then 1 else 0 := by
  have outside : row.1 ∉ peersOf rows country := fun inside => fresh (mem_peersOf.mp inside).1
  rw [peersOf_append_of_notMem country fresh]
  split
  · exact Finset.card_insert_of_notMem outside
  · rfl

/-! ## The loop over the rows -/

/-- The accumulators count the classes of the rows so far. -/
structure Counted (rows : List (String × String)) (tally : Tally) : Prop where
  seenIps : tally.seenIps.toFinset = ipsOf rows
  distinct : tally.seenIps.Nodup
  countryTotals : ∀ code total, tally.countryTotals.lookup code = some total ↔
    0 < total ∧ total = (peersOf rows (some code)).card
  unknown : tally.unknownCountryCount = (peersOf rows none).card

variable {tally : Tally}

theorem Counted.getD_lookup (counted : Counted rows tally) (code : String) :
    (tally.countryTotals.lookup code).getD 0 = (peersOf rows (some code)).card := by
  cases found : tally.countryTotals.lookup code with
  | some total => exact ((counted.countryTotals code total).mp found).2
  | none =>
    by_contra some
    have positive : 0 < (peersOf rows (.some code)).card := Nat.pos_of_ne_zero (Ne.symm some)
    rw [(counted.countryTotals code _).mpr ⟨positive, rfl⟩] at found
    cases found

/-- A row of an IP seen before changes nothing. -/
theorem Counted.count_seen (counted : Counted rows tally) (seen : row.1 ∈ tally.seenIps) :
    Counted (rows ++ [row]) (tally.count row) := by
  have same : tally.count row = tally := if_pos (List.contains_iff_mem.mpr seen)
  have known : row.1 ∈ ipsOf rows := by rwa [← counted.seenIps, List.mem_toFinset]
  rw [same]
  refine ⟨?_, counted.distinct, fun code total => ?_, ?_⟩
  · rw [ipsOf_append, Finset.insert_eq_of_mem known, counted.seenIps]
  · rw [peersOf_append_of_mem _ known]
    exact counted.countryTotals code total
  · rw [peersOf_append_of_mem _ known]
    exact counted.unknown

/-- The first row of an IP raises the count of its class, and no other. -/
theorem Counted.count_fresh (counted : Counted rows tally) (new : row.1 ∉ tally.seenIps) :
    Counted (rows ++ [row]) (tally.count row) := by
  have fresh : row.1 ∉ ipsOf rows := by rwa [← counted.seenIps, List.mem_toFinset]
  have listed := Tally.seenIps_count new
  have ips : (tally.count row).seenIps.toFinset = ipsOf (rows ++ [row]) := by
    rw [listed, List.toFinset_append, counted.seenIps, ipsOf_append]
    simp [Finset.union_comm]
  have distinct : (tally.count row).seenIps.Nodup := by
    rw [listed, List.nodup_append_comm]
    simpa using ⟨new, counted.distinct⟩
  unfold Tally.count at ips distinct ⊢
  rw [if_neg (by simpa using new)] at ips distinct ⊢
  cases normalized : normalizeCountryCode row.2 with
  | some code =>
    rw [normalized] at ips distinct
    refine ⟨ips, distinct, fun code' total => ?_, ?_⟩
    · rw [card_peersOf_append _ fresh, normalized]
      dsimp only
      rw [Dictionary.lookup_insert_eq, counted.getD_lookup]
      by_cases same : code' = code
      · rw [if_pos same, same, if_pos rfl, Option.some.injEq]
        omega
      · rw [if_neg same, if_neg (by simpa using Ne.symm same)]
        exact counted.countryTotals code' total
    · rw [card_peersOf_append _ fresh, normalized, if_neg (by simp)]
      exact counted.unknown
  | none =>
    rw [normalized] at ips distinct
    refine ⟨ips, distinct, fun code total => ?_, ?_⟩
    · rw [card_peersOf_append _ fresh, normalized, if_neg (by simp)]
      exact counted.countryTotals code total
    · rw [card_peersOf_append _ fresh, normalized, if_pos rfl]
      exact congrArg (· + 1) counted.unknown

theorem counted_foldl (rows : List (String × String)) : Counted rows (rows.foldl Tally.count {}) := by
  induction rows using List.reverseRecOn with
  | nil =>
    refine ⟨rfl, List.nodup_nil, fun code total => ?_, rfl⟩
    show none = some total ↔ 0 < total ∧ total = 0
    simp only [reduceCtorEq, false_iff]
    omega
  | append_singleton rows row ih =>
    rw [List.foldl_append, List.foldl_cons, List.foldl_nil]
    by_cases seen : row.1 ∈ (rows.foldl Tally.count {}).seenIps
    · exact ih.count_seen seen
    · exact ih.count_fresh seen

/-! ## The list of countries -/

/-- The more peers the earlier, then by code. -/
def CountryCount.key (entry : CountryCount) : Lex (ℕᵒᵈ × String) :=
  toLex (OrderDual.toDual entry.peerCount, entry.countryCode)

theorem CountryCount.le_iff (left right : CountryCount) :
    CountryCount.Le left right ↔ left.key ≤ right.key := by
  unfold CountryCount.Le CountryCount.key
  rw [Prod.Lex.toLex_le_toLex, OrderDual.toDual_lt_toDual, OrderDual.toDual_inj,
    @eq_comm _ right.peerCount]

theorem CountryCount.lt_iff (left right : CountryCount) :
    CountryCount.Lt left right ↔ left.key < right.key := by
  unfold CountryCount.Lt CountryCount.key
  rw [Prod.Lex.toLex_lt_toLex, OrderDual.toDual_lt_toDual, OrderDual.toDual_inj,
    @eq_comm _ right.peerCount]

instance : Std.Irrefl CountryCount.Lt := ⟨fun entry => by simp [CountryCount.lt_iff]⟩
instance : Std.Antisymm CountryCount.Lt := ⟨fun left right less more => by
  rw [CountryCount.lt_iff] at less more
  exact absurd more less.asymm⟩

/-- The entries before they are sorted. -/
def countryEntries (rows : List (String × String)) : List CountryCount :=
  (rows.foldl Tally.count {}).countryTotals.entries.map fun entry =>
    { countryCode := entry.1, peerCount := entry.2 }

theorem countryCounts_eq (rows : List (String × String)) :
    (assembleSnapshot rows).countryCounts = (countryEntries rows).insertionSort CountryCount.Le := rfl

theorem nodup_countryEntries (rows : List (String × String)) :
    ((countryEntries rows).map (·.countryCode)).Nodup := by
  unfold countryEntries
  rw [List.map_map]
  exact (rows.foldl Tally.count {}).countryTotals.nodupKeys

/-- The countries with peers are listed, each with the size of its class. -/
theorem mem_countryCounts {entry : CountryCount} :
    entry ∈ (assembleSnapshot rows).countryCounts ↔
      0 < entry.peerCount ∧ entry.peerCount = (peersOf rows (some entry.countryCode)).card := by
  rw [← (counted_foldl rows).countryTotals, countryCounts_eq, List.mem_insertionSort,
    ← Option.mem_def, AList.mem_lookup_iff]
  unfold countryEntries
  rw [List.mem_map]
  constructor
  · rintro ⟨total, inside, rfl⟩
    exact inside
  · intro inside
    exact ⟨_, inside, rfl⟩

theorem pairwise_countryCounts (rows : List (String × String)) :
    (assembleSnapshot rows).countryCounts.Pairwise CountryCount.Lt := by
  have distinct : ((countryEntries rows).map CountryCount.key).Nodup := by
    refine List.Nodup.of_map (fun key => (ofLex key).2) ?_
    rw [List.map_map]
    exact nodup_countryEntries rows
  exact (Sorting.pairwise_insertionSort_key_lt CountryCount.le_iff distinct).imp
    (CountryCount.lt_iff _ _).mpr

theorem nodup_countryCodes (rows : List (String × String)) :
    ((assembleSnapshot rows).countryCounts.map (·.countryCode)).Nodup := by
  rw [countryCounts_eq]
  exact ((List.perm_insertionSort _ _).map _).nodup_iff.mpr (nodup_countryEntries rows)

theorem totalPeers_eq (rows : List (String × String)) :
    (assembleSnapshot rows).totalPeers = (ipsOf rows).card := by
  have counted := counted_foldl rows
  show (rows.foldl Tally.count {}).seenIps.length = _
  rw [← counted.seenIps, List.toFinset_card_of_nodup counted.distinct]

/-- The listed countries and the unknown one are a partition of the IPs. -/
theorem card_ipsOf (rows : List (String × String)) :
    (ipsOf rows).card =
      ((assembleSnapshot rows).countryCounts.map (·.peerCount)).sum + (peersOf rows none).card := by
  have classes : ∀ ip ∈ ipsOf rows, countryOf rows ip ∈
      Finset.insertNone ((assembleSnapshot rows).countryCounts.map (·.countryCode)).toFinset := by
    intro ip inside
    cases country : countryOf rows ip with
    | none => exact Finset.none_mem_insertNone
    | some code =>
      have peer : ip ∈ peersOf rows (some code) := mem_peersOf.mpr ⟨inside, country⟩
      rw [Finset.some_mem_insertNone, List.mem_toFinset, List.mem_map]
      exact ⟨⟨code, _⟩, mem_countryCounts.mpr ⟨Finset.card_pos.mpr ⟨ip, peer⟩, rfl⟩, rfl⟩
  rw [Finset.card_eq_sum_card_fiberwise classes, Finset.sum_insertNone, Nat.add_comm,
    List.sum_toFinset _ (nodup_countryCodes rows), List.map_map]
  congr 2
  apply List.map_congr_left
  intro entry listed
  exact (mem_countryCounts.mp listed).2.symm

/-! ## What the snapshot depends on -/

attribute [ext] GeoViewSnapshot

variable {rows' : List (String × String)}

theorem assembleSnapshot_congr (ips : ipsOf rows = ipsOf rows')
    (countries : ∀ ip ∈ ipsOf rows, countryOf rows ip = countryOf rows' ip) :
    assembleSnapshot rows = assembleSnapshot rows' := by
  have classes : ∀ country, peersOf rows country = peersOf rows' country := by
    intro country
    unfold peersOf
    rw [← ips]
    apply Finset.filter_congr
    intro ip inside
    rw [countries ip inside]
  have counts : (assembleSnapshot rows).countryCounts = (assembleSnapshot rows').countryCounts := by
    apply (pairwise_countryCounts rows).eq_of_mem_iff (pairwise_countryCounts rows')
    intro entry
    rw [mem_countryCounts, mem_countryCounts, classes]
  have total := totalPeers_eq rows
  rw [ips, ← totalPeers_eq rows'] at total
  have unknown := (counted_foldl rows).unknown
  rw [classes, ← (counted_foldl rows').unknown] at unknown
  exact GeoViewSnapshot.ext total (congrArg List.length counts) counts unknown

/-- Where every IP has one row its country does not depend on the order of the rows. -/
theorem countryOf_perm (distinct : (rows.map Prod.fst).Nodup) (perm : rows.Perm rows') (ip : String) :
    countryOf rows ip = countryOf rows' ip := by
  have ips : ipsOf rows = ipsOf rows' := List.toFinset_eq_of_perm _ _ (perm.map Prod.fst)
  unfold countryOf
  congr 1
  cases first : rows.lookup ip with
  | none =>
    rw [lookup_eq_none_iff, ips] at first
    exact (lookup_eq_none_iff.mpr first).symm
  | some country =>
    cases first' : rows'.lookup ip with
    | none =>
      rw [lookup_eq_none_iff, ← ips, ← lookup_eq_none_iff, first] at first'
      cases first'
    | some country' =>
      have inside := mem_of_lookup first
      have inside' := perm.mem_iff.mpr (mem_of_lookup first')
      have same := List.inj_on_of_nodup_map distinct inside inside' rfl
      exact congrArg (some ∘ Prod.snd) same

/-- Every distinct IP is counted once, under the country of its first row or as unknown; the
countries are listed in a strict order. -/
theorem distribution_conserves (rows : List (String × String)) :
    (assembleSnapshot rows).totalPeers = (rows.map Prod.fst).toFinset.card ∧
    (assembleSnapshot rows).totalPeers = ((assembleSnapshot rows).countryCounts.map (·.peerCount)).sum +
      (assembleSnapshot rows).unknownCountryCount ∧
    ((assembleSnapshot rows).countryCounts.map (·.countryCode)).Nodup ∧
    (∀ entry ∈ (assembleSnapshot rows).countryCounts,
      IsCountryCode entry.countryCode ∧ 1 ≤ entry.peerCount) ∧
    (assembleSnapshot rows).uniqueCountries = (assembleSnapshot rows).countryCounts.length ∧
    (assembleSnapshot rows).countryCounts.Pairwise CountryCount.Lt ∧
    (∀ entry ∈ (assembleSnapshot rows).countryCounts,
      entry.peerCount = (peersOf rows (some entry.countryCode)).card) ∧
    ((rows.map Prod.fst).Nodup →
      ∀ rows', rows.Perm rows' → assembleSnapshot rows' = assembleSnapshot rows) := by
  refine ⟨totalPeers_eq rows, ?_, nodup_countryCodes rows, ?_, rfl, pairwise_countryCounts rows,
    fun entry listed => (mem_countryCounts.mp listed).2, ?_⟩
  · have unknown : (assembleSnapshot rows).unknownCountryCount = (peersOf rows none).card :=
      (counted_foldl rows).unknown
    rw [totalPeers_eq, card_ipsOf, unknown]
  · intro entry listed
    obtain ⟨some, size⟩ := mem_countryCounts.mp listed
    refine ⟨?_, some⟩
    rw [size, Finset.card_pos] at some
    obtain ⟨ip, peer⟩ := some
    obtain ⟨country, -, normalized⟩ := Option.bind_eq_some_iff.mp (mem_peersOf.mp peer).2
    exact normalizeCountryCode_isCountryCode normalized
  · intro distinct rows' perm
    apply Eq.symm
    apply assembleSnapshot_congr
    · exact List.toFinset_eq_of_perm _ _ (perm.map Prod.fst)
    · intro ip _
      exact countryOf_perm distinct perm ip

end ChainDash.Geo
