import ChainDash.Lib.Ieee

/-!
# JSON documents

The documents that `serde_json` reads and writes, as trees, and the decoders that
`serde` derives. A number of a document is finite: a float that is not is written as
`null`, which no decoder of a number accepts.
-/

namespace Json
set_option autoImplicit false

open Ieee

/-- `serde_json::Number`; an integer below zero is a `negInt`. -/
inductive Number where
  | posInt (n : UInt64)
  | negInt (n : Int64)
  | float (x : F64) (finite : x.isFinite = true)

inductive Value where
  | null
  | bool (b : Bool)
  | number (n : Number)
  | string (s : String)
  | array (items : List Value)
  | object (members : List (String × Value))

/-! ## Encoding -/

def ofUInt64 (n : UInt64) : Value := .number (.posInt n)

def ofF64 (x : F64) : Value := if finite : x.isFinite = true then .number (.float x finite) else .null

def ofList {α : Type*} (encode : α → Value) (l : List α) : Value := .array (l.map encode)

/-! ## Decoding -/

def toString? : Value → Option String
  | .string s => some s
  | _ => none

def toUInt64? : Value → Option UInt64
  | .number (.posInt n) => some n
  | _ => none

/-- An integer is read as the nearest float. -/
def toF64? : Value → Option F64
  | .number (.posInt n) => some (ofNat 11 52 n.toNat)
  | .number (.negInt n) => some (round 11 52 true n.toInt)
  | .number (.float x _) => some x
  | _ => none

def toList? {α : Type*} (decode : Value → Option α) : Value → Option (List α)
  | .array items => items.mapM decode
  | _ => none

/-- The one member with the given name: a missing and a repeated field are errors. -/
def field? (members : List (String × Value)) (name : String) : Option Value :=
  match members.filter (·.1 = name) with
  | [member] => some member.2
  | _ => none

/-- The fields of a derived struct, from an object with any further members or from an
array of exactly these fields. -/
def fields? (names : List String) : Value → Option (List Value)
  | .object members => names.mapM (field? members)
  | .array items => if items.length = names.length then some items else none
  | _ => none

/-- The member with the given name, if there is one: a repeated field is an error. -/
def optionalField? (members : List (String × Value)) (name : String) : Option (Option Value) :=
  match members.filter (·.1 = name) with
  | [] => some none
  | [member] => some (some member.2)
  | _ => none

/-- The fields of a derived struct in which all have a default: an array may end early. -/
def optionalFields? (names : List String) : Value → Option (List (Option Value))
  | .object members => names.mapM (optionalField? members)
  | .array items =>
    if items.length ≤ names.length then some ((List.range names.length).map (items[·]?)) else none
  | _ => none

/-- No field is repeated. -/
def Distinct (names : List String) (members : List (String × Value)) : Prop :=
  ∀ name ∈ names, (members.filter (·.1 = name)).length ≤ 1

theorem optionalField?_eq {members : List (String × Value)} {name : String} :
    optionalField? members name =
      if (members.filter (·.1 = name)).length ≤ 1 then some (members.lookup name) else none := by
  have first : members.lookup name = ((members.filter (·.1 = name)).head?).map (·.2) := by
    induction members with
    | nil => rfl
    | cons member members ih =>
      obtain ⟨other, value⟩ := member
      by_cases own : other = name
      · subst own
        rw [List.lookup_cons_self, List.filter_cons_of_pos (by simp)]
        rfl
      · have miss : (name == other) = false := by simpa using Ne.symm own
        rw [List.lookup_cons, miss, List.filter_cons_of_neg (by simpa using own)]
        exact ih
  rw [first]
  unfold optionalField?
  split
  case h_1 none_ => simp [none_]
  case h_2 member one => simp [one]
  case h_3 no one =>
    rw [if_neg]
    intro few
    cases found : members.filter (·.1 = name) with
    | nil => exact no found
    | cons member rest =>
      cases rest with
      | nil => exact one member found
      | cons => simp [found] at few

theorem optionalField?_of_field? {members : List (String × Value)} {name : String} {value : Value}
    (one : field? members name = some value) :
    optionalField? members name = some (some value) := by
  unfold field? at one
  unfold optionalField?
  split at one
  case h_1 member only =>
    rw [only, ← Option.some.inj one]
  case h_2 => cases one

theorem field?_eq_some_iff {members : List (String × Value)} {name : String} {value : Value} :
    field? members name = some value ↔ optionalField? members name = some (some value) := by
  refine ⟨optionalField?_of_field?, fun one => ?_⟩
  unfold optionalField? at one
  unfold field?
  split at one
  case h_1 => cases one
  case h_2 member only => rw [only, ← Option.some.inj (Option.some.inj one)]
  case h_3 => cases one

theorem optionalFields?_object {names : List String} {members : List (String × Value)}
    (distinct : Distinct names members) :
    optionalFields? names (.object members) = some (names.map fun name => members.lookup name) := by
  show names.mapM (optionalField? members) = _
  induction names with
  | nil => rfl
  | cons name names ih =>
    rw [List.mapM_cons, optionalField?_eq, if_pos (distinct name List.mem_cons_self),
      ih fun other mem => distinct other (List.mem_cons_of_mem _ mem)]
    rfl

theorem distinct_of_optionalFields? {names : List String} {members : List (String × Value)}
    {fields : List (Option Value)} (read : optionalFields? names (.object members) = some fields) :
    Distinct names members := by
  change names.mapM (optionalField? members) = _ at read
  induction names generalizing fields with
  | nil => exact fun name mem => absurd mem List.not_mem_nil
  | cons name names ih =>
    rw [List.mapM_cons] at read
    obtain ⟨value, one, read⟩ := Option.bind_eq_some_iff.mp read
    obtain ⟨values, rest, -⟩ := Option.bind_eq_some_iff.mp read
    intro other mem
    rcases List.mem_cons.mp mem with rfl | mem
    · by_contra repeated
      rw [optionalField?_eq, if_neg repeated] at one
      cases one
    · exact ih rest other mem

theorem optionalFields?_array {names : List String} (nodup : names.Nodup) {items : List Value}
    (few : items.length ≤ names.length) :
    optionalFields? names (.array items) = some (names.map fun name => items[names.idxOf name]?) := by
  refine (if_pos few).trans (congrArg some (List.ext_getElem (by simp) fun i inRange inNames => ?_))
  rw [List.getElem_map, List.getElem_map, List.getElem_range, nodup.idxOf_getElem]

/-- A value with the given fields: an object that repeats none of them, or an array with the fields
in their order, which may end early. -/
inductive HasFields (names : List String) : Value → (String → Option Value) → Prop where
  | object {members : List (String × Value)} (distinct : Distinct names members) :
    HasFields names (.object members) fun name => members.lookup name
  | array {items : List Value} (few : items.length ≤ names.length) :
    HasFields names (.array items) fun name => items[names.idxOf name]?

theorem HasFields.ne_null {names : List String} {value : Value} {field : String → Option Value}
    (has : HasFields names value field) : value ≠ .null := by
  rintro rfl
  cases has

theorem HasFields.read {names : List String} (nodup : names.Nodup) {value : Value}
    {field : String → Option Value} (has : HasFields names value field) :
    optionalFields? names value = some (names.map field) := by
  cases has with
  | object distinct => exact optionalFields?_object distinct
  | array few => exact optionalFields?_array nodup few

theorem exists_hasFields {names : List String} {value : Value} {fields : List (Option Value)}
    (read : optionalFields? names value = some fields) : ∃ field, HasFields names value field := by
  cases value with
  | object members => exact ⟨_, .object (distinct_of_optionalFields? read)⟩
  | array items =>
    by_cases few : items.length ≤ names.length
    · exact ⟨_, .array few⟩
    · have short : optionalFields? names (.array items) = none := if_neg few
      rw [short] at read
      cases read
  | null | bool | number | string => cases read

/-! ## Round trips -/

@[simp] theorem toUInt64?_ofUInt64 (n : UInt64) : toUInt64? (ofUInt64 n) = some n := rfl

theorem toF64?_ofF64 (x : F64) : toF64? (ofF64 x) = if x.isFinite then some x else none := by
  unfold ofF64
  split <;> rfl

/-- A float that was read is finite, an integer being far inside the range. -/
theorem isFinite_of_toF64? {value : Value} {x : F64} (h : toF64? value = some x) :
    x.isFinite = true := by
  have range : (2 : Rat) ^ 64 < (2 : Rat) ^ bias 11 := by
    rw [← zpow_natCast]
    exact zpow_lt_zpow_right₀ one_lt_two (by decide)
  unfold toF64? at h
  split at h
  case h_1 n =>
    obtain rfl := Option.some.inj h
    refine isFinite_ofNat (by decide) (lt_trans ?_ range)
    exact_mod_cast n.toNat_lt
  case h_2 n =>
    obtain rfl := Option.some.inj h
    refine isFinite_round (by decide) (lt_trans ?_ range)
    have small : |n.toInt| < 2 ^ 64 := by
      have low := n.le_toInt
      have high := n.toInt_lt
      rw [abs_lt]
      omega
    rw [← Int.cast_abs]
    exact_mod_cast small
  case h_3 finite =>
    obtain rfl := Option.some.inj h
    exact finite
  case h_4 => cases h

/-- A list is read back iff each of its items is. -/
theorem toList?_ofList {α : Type*} {encode : α → Value} {decode : Value → Option α} {ok : α → Bool}
    (each : ∀ x, decode (encode x) = if ok x then some x else none) (l : List α) :
    toList? decode (ofList encode l) = if l.all ok then some l else none := by
  change (l.map encode).mapM decode = _
  induction l with
  | nil => rfl
  | cons x l ih =>
    rw [List.map_cons, List.mapM_cons, each, ih, List.all_cons]
    cases ok x <;> cases l.all ok <;> rfl

/-- What was read from an array was read item by item. -/
theorem exists_item_of_toList? {α : Type*} {decode : Value → Option α} {value : Value} {l : List α}
    (h : toList? decode value = some l) : ∀ x ∈ l, ∃ item, decode item = some x := by
  unfold toList? at h
  split at h
  case h_2 => cases h
  case h_1 items =>
    induction items generalizing l with
    | nil =>
      cases h
      simp
    | cons item items ih =>
      simp only [List.mapM_cons, bind, Option.bind_eq_some_iff] at h
      obtain ⟨first, decoded, rest, others, last⟩ := h
      cases last
      intro x mem
      rcases List.mem_cons.mp mem with rfl | inside
      · exact ⟨item, decoded⟩
      · exact ih others x inside

end Json
