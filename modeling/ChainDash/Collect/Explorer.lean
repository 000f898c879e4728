import ChainDash.Lib.Json
import ChainDash.Lib.Shortest
import ChainDash.Collect.NodeDetailRefresh

/-!
# What the Explorer sends

The responses of the Explorer as JSON documents (`collect::types`). A field can be missing, null
or of another type than it should be: a number can come as a text and a text as a number. However
the Explorer writes what it knows about a node, the row shows it (`rows_show_facts`), also the
ranking (`ranking_shown`). Which bodies give a node its row is known exactly (`row_kept_iff`). The
text layer of `serde_json` is a parameter.
-/

namespace ChainDash.Collect
set_option autoImplicit false

open Ieee

/-! ## Lenient fields -/

def saturateI64 (n : Int) : Int64 :=
  if n < -2 ^ 63 then Int64.minValue else if 2 ^ 63 ≤ n then Int64.maxValue else Int64.ofInt n

/-- `x as i64`. -/
def truncToI64 : F64 → Int64
  | .nan => 0
  | .inf negative => if negative then Int64.minValue else Int64.maxValue
  | .finite negative exponent fraction =>
    let whole : Int := ⌊magnitude exponent fraction⌋₊
    saturateI64 (if negative then -whole else whole)

/-- `str::parse::<i64>`. -/
def parseI64 (text : String) : Option Int64 :=
  let (negative, digits) := parseSign text.toList
  if digits = [] ∨ digits.all Char.isDigit = false then none
  else
    let value : Int := if negative then -(digitValue digits : Int) else digitValue digits
    if -2 ^ 63 ≤ value ∧ value < 2 ^ 63 then some (Int64.ofInt value) else none

/-- `deserialize_string_or_default`; a missing field has the default, too. -/
def deserializeStringOrDefault : Option Json.Value → Option String
  | none | some .null => some ""
  | some (.string value) => some value
  | some (.number (.posInt value)) => some (toString value.toNat)
  | some (.number (.negInt value)) => some (toString value.toInt)
  | some (.number (.float value _)) => some value.display
  | some (.bool value) => some (if value then "true" else "false")
  | some (.array _) | some (.object _) => none

/-- `deserialize_i64_or_default`. -/
def deserializeI64OrDefault : Option Json.Value → Option Int64
  | none | some .null => some 0
  | some (.number (.posInt value)) => some (saturateI64 value.toNat)
  | some (.number (.negInt value)) => some value
  | some (.number (.float value _)) => some (truncToI64 value)
  | some (.string value) => some ((parseI64 value).getD 0)
  | some (.bool _) | some (.array _) | some (.object _) => none

/-! ## The documents -/

def nodeDetailFields : List String :=
  ["nodeName", "totalValue", "delegateValue", "delegateQty", "blockQty", "expectBlockQty",
    "genBlocksRate", "rewardPer", "rewardValue", "denefitAddr", "verifierTime"]

/-- `NodeDetail::deserialize`. -/
def readNodeDetail (value : Json.Value) : Option ExplorerNodeDetail := do
  match ← Json.optionalFields? nodeDetailFields value with
  | [nodeName, totalValue, delegateValue, delegateQty, blockQty, expectBlockQty, genBlocksRate,
      rewardPer, rewardValue, benefitAddr, verifierTime] =>
    let nodeName ← deserializeStringOrDefault nodeName
    let _ ← deserializeStringOrDefault totalValue
    let _ ← deserializeStringOrDefault delegateValue
    let _ ← deserializeI64OrDefault delegateQty
    let blockQty ← deserializeI64OrDefault blockQty
    let expectBlockQty ← deserializeI64OrDefault expectBlockQty
    let genBlocksRate ← deserializeStringOrDefault genBlocksRate
    let rewardPer ← deserializeStringOrDefault rewardPer
    let rewardValue ← deserializeStringOrDefault rewardValue
    let benefitAddr ← deserializeStringOrDefault benefitAddr
    let verifierTime ← deserializeI64OrDefault verifierTime
    some { nodeName, blockQty, expectBlockQty, genBlocksRate, rewardPer, rewardValue, benefitAddr,
           verifierTime }
  | _ => none

/-- `NodeInfo::deserialize`. -/
def readNodeInfo (value : Json.Value) : Option NodeInfo := do
  match ← Json.optionalFields? ["nodeId", "ranking"] value with
  | [nodeId, ranking] =>
    let nodeId ← deserializeStringOrDefault nodeId
    let ranking ← deserializeI64OrDefault ranking
    some { nodeId, ranking }
  | _ => none

/-- `NodeDetailResponse` and `NodeListResponse`. -/
structure ExplorerResponse (α : Type) where
  errMsg : String
  code : Int
  data : Option α

def toI32? : Json.Value → Option Int
  | .number (.posInt value) => if value.toNat < 2 ^ 31 then some value.toNat else none
  | .number (.negInt value) =>
    if -2 ^ 31 ≤ value.toInt ∧ value.toInt < 2 ^ 31 then some value.toInt else none
  | _ => none

/-- A missing field of type `Option` is `None`. -/
def readOption {α : Type} (read : Json.Value → Option α) : Option Json.Value → Option (Option α)
  | none | some .null => some none
  | some value => (read value).map some

def readResponse {α : Type} (read : Json.Value → Option α) : Json.Value → Option (ExplorerResponse α)
  | .object members => do
    let errMsg ← (Json.field? members "errMsg").bind Json.toString?
    let code ← (Json.field? members "code").bind toI32?
    let data ← (Json.optionalField? members "data").bind (readOption read)
    some { errMsg, code, data }
  | .array [errMsg, code, data] => do
    let errMsg ← Json.toString? errMsg
    let code ← toI32? code
    let data ← readOption read (some data)
    some { errMsg, code, data }
  | _ => none

def readNodeDetailResponse : Json.Value → Option (ExplorerResponse ExplorerNodeDetail) :=
  readResponse readNodeDetail

def readNodeListResponse : Json.Value → Option (ExplorerResponse (List NodeInfo)) :=
  readResponse (Json.toList? readNodeInfo)

/-- The answer in a body; `mismatch` is the text of `serde_json` for a document of another shape. -/
def answerOfDocument {α : Type} (mismatch : Json.Value → String)
    (read : Json.Value → Option (ExplorerResponse α)) (document : Json.Value) : ExplorerAnswer α :=
  match read document with
  | some response => .response response.code response.errMsg response.data
  | none => .unparsed (mismatch document)

/-- The answer in a body. `fromSlice` is the text layer of `serde_json` under the type that is read:
a body may be no document or have a number out of range, and what the type ignores is skipped. A
float of the document is the one that the digits are read as. -/
def answerOfBody {Body α : Type} (fromSlice : Body → Except String Json.Value)
    (mismatch : Json.Value → String) (read : Json.Value → Option (ExplorerResponse α)) (body : Body) :
    ExplorerAnswer α :=
  match fromSlice body with
  | .ok document => answerOfDocument mismatch read document
  | .error err => .unparsed err

/-! ## Ways of writing -/

/-- A text, or nothing for the empty one. -/
inductive WritesText (text : String) : Option Json.Value → Prop where
  | string : WritesText text (some (.string text))
  | null (empty : text = "") : WritesText text (some .null)
  | missing (empty : text = "") : WritesText text none

/-- A count as a number of JSON of any kind, as digits, or nothing for zero. -/
inductive WritesCount (n : Int64) : Option Json.Value → Prop where
  | posInt {value : UInt64} (same : (value.toNat : Int) = n.toInt) :
      WritesCount n (some (.number (.posInt value)))
  | negInt : WritesCount n (some (.number (.negInt n)))
  | float {value : F64} (finite : value.isFinite = true) (same : value.toRat? = some (n.toInt : Rat)) :
      WritesCount n (some (.number (.float value finite)))
  | digits : WritesCount n (some (.string (toString n.toInt)))
  | null (zero : n = 0) : WritesCount n (some .null)
  | missing (zero : n = 0) : WritesCount n none

/-- An amount as a number, which is rounded if it is whole, as a text, or nothing for zero. -/
inductive WritesAmount (x : F64) : Option Json.Value → Prop where
  | posInt {value : UInt64} (same : x = ofNat 11 52 value.toNat) :
      WritesAmount x (some (.number (.posInt value)))
  | negInt {value : Int64} (same : x = round 11 52 false value.toInt) :
      WritesAmount x (some (.number (.negInt value)))
  | float (finite : x.isFinite = true) : WritesAmount x (some (.number (.float x finite)))
  | text {text : String} (same : Ieee.parse 11 52 text = some x) : WritesAmount x (some (.string text))
  | null (zero : x = .zero) : WritesAmount x (some .null)
  | missing (zero : x = .zero) : WritesAmount x none

theorem toInt_saturateI64 (n : Int64) : saturateI64 n.toInt = n := by
  have low := n.le_toInt
  have high := n.toInt_lt
  unfold saturateI64
  rw [if_neg (by omega), if_neg (by omega), Int64.ofInt_toInt]

theorem parseI64_toString (n : Int64) : parseI64 (toString n.toInt) = some n := by
  have low := n.le_toInt
  have high := n.toInt_lt
  have digits : ¬ (Nat.toDigits 10 n.toInt.natAbs = [] ∨
      (Nat.toDigits 10 n.toInt.natAbs).all Char.isDigit = false) := by
    rintro (none_ | other)
    · exact Nat.toDigits_ne_nil none_
    · rw [List.all_eq_true.mpr fun c mem => isDigit_of_mem_toDigits mem] at other
      cases other
  have value : (if decide (n.toInt < 0) = true then -(n.toInt.natAbs : Int) else n.toInt.natAbs) =
      n.toInt := by
    by_cases negative : n.toInt < 0
    · rw [if_pos (decide_eq_true negative)]
      omega
    · rw [if_neg (by simpa using negative)]
      omega
  unfold parseI64
  rw [parseSign_toString]
  dsimp only
  rw [if_neg digits, digitValue_eq, Nat.ofDigitChars_ten_toDigits, value, if_pos ⟨by omega, by omega⟩,
    Int64.ofInt_toInt]

theorem deserializeStringOrDefault_of_writes {text : String} {value : Option Json.Value}
    (writes : WritesText text value) : deserializeStringOrDefault value = some text := by
  cases writes with
  | string => rfl
  | null empty | missing empty => rw [empty]; rfl

theorem truncToI64_of_toRat? {x : F64} {n : Int64} (same : x.toRat? = some (n.toInt : Rat)) :
    truncToI64 x = n := by
  cases x with
  | nan | inf negative => cases same
  | finite negative exponent fraction =>
    have value := Option.some.inj same
    have abs_ : magnitude exponent fraction = (n.toInt.natAbs : Nat) := by
      have nonneg := magnitude_nonneg exponent fraction
      rw [Nat.cast_natAbs, Int.cast_abs, ← value]
      cases negative with
      | false => exact (abs_of_nonneg nonneg).symm
      | true => rw [if_pos rfl, abs_neg, abs_of_nonneg nonneg]
    unfold truncToI64
    dsimp only
    rw [abs_, Nat.floor_natCast]
    have whole : (if negative = true then -(n.toInt.natAbs : Int) else n.toInt.natAbs) = n.toInt := by
      rw [abs_] at value
      apply Int.cast_injective (α := Rat)
      rw [← value]
      split
      · rw [Int.cast_neg, Int.cast_natCast]
      · rw [Int.cast_natCast]
    rw [whole, toInt_saturateI64]

theorem deserializeI64OrDefault_of_writes {n : Int64} {value : Option Json.Value}
    (writes : WritesCount n value) : deserializeI64OrDefault value = some n := by
  cases writes with
  | posInt same => rw [deserializeI64OrDefault, same, toInt_saturateI64]
  | negInt => rfl
  | float finite same => rw [deserializeI64OrDefault, truncToI64_of_toRat? same]
  | digits => rw [deserializeI64OrDefault, parseI64_toString, Option.getD_some]
  | null zero | missing zero => rw [zero]; rfl

theorem parseOrZero_empty : parseOrZero "" = .zero := by
  have none_ : parse 11 52 "" = none := by simp [parse, parseSign, parseNumber]
  rw [parseOrZero, none_, Option.getD_none]

/-- An amount is read as a text, and that as a float. -/
theorem parseOrZero_of_writes {x : F64} {value : Option Json.Value} (writes : WritesAmount x value) :
    ∃ text, deserializeStringOrDefault value = some text ∧ parseOrZero text = x := by
  have reads : ∀ {text : String}, parse 11 52 text = some x → parseOrZero text = x := by
    intro text read
    rw [parseOrZero, read, Option.getD_some]
  cases writes with
  | @posInt n same =>
    refine ⟨_, rfl, reads ?_⟩
    have text : toString n.toNat = toString (n.toNat : Int) := rfl
    rw [text, parse_toString, same, ofNat, Int.cast_natCast]
  | negInt same =>
    refine ⟨_, rfl, reads ?_⟩
    rw [parse_toString, same]
  | float finite => exact ⟨_, rfl, reads (parse_display finite)⟩
  | text same => exact ⟨_, rfl, reads same⟩
  | null zero | missing zero =>
    refine ⟨_, rfl, ?_⟩
    rw [parseOrZero_empty, zero]

/-! ## What is read of a document -/

/-- A response of code 0 with the given data, whatever else is in it. -/
inductive Responds (data : Json.Value) : Json.Value → Prop where
  | object {members : List (String × Json.Value)} {errMsg : String}
      (message : Json.field? members "errMsg" = some (.string errMsg))
      (code : Json.field? members "code" = some (.number (.posInt 0)))
      (payload : Json.field? members "data" = some data) : Responds data (.object members)
  | array {errMsg : String} : Responds data (.array [.string errMsg, .number (.posInt 0), data])

theorem readOption_of_ne_null {α : Type} (read : Json.Value → Option α) {value : Json.Value}
    (present : value ≠ .null) : readOption read (some value) = (read value).map some := by
  unfold readOption
  split
  case h_1 absent => cases absent
  case h_2 null => exact absurd (Option.some.inj null) present
  case h_3 other same => rw [Option.some.inj same]

theorem readResponse_of_responds {α : Type} (read : Json.Value → Option α)
    {data document : Json.Value} (present : data ≠ .null) (responds : Responds data document) :
    ∃ errMsg, readResponse read document =
      (read data).map fun value => { errMsg, code := 0, data := some value } := by
  cases responds with
  | @object members errMsg message code payload =>
    refine ⟨errMsg, ?_⟩
    rw [readResponse, message, code, Json.optionalField?_of_field? payload]
    simp only [Option.bind_some, Json.toString?, toI32?, readOption_of_ne_null read present]
    cases read data <;> rfl
  | @array errMsg =>
    refine ⟨errMsg, ?_⟩
    rw [readResponse, readOption_of_ne_null read present]
    cases read data <;> rfl

def textFields : List String :=
  ["nodeName", "totalValue", "delegateValue", "genBlocksRate", "rewardPer", "rewardValue",
    "denefitAddr"]

def countFields : List String := ["delegateQty", "blockQty", "expectBlockQty", "verifierTime"]

/-- What a text is read from: everything but lists and objects. -/
def Textual : Option Json.Value → Prop
  | some (.array _) | some (.object _) => False
  | _ => True

/-- What a count is read from. -/
def Countable : Option Json.Value → Prop
  | some (.array _) | some (.object _) | some (.bool _) => False
  | _ => True

theorem textual_iff {value : Option Json.Value} :
    Textual value ↔ ∃ text, deserializeStringOrDefault value = some text := by
  unfold Textual
  split
  case h_1 | h_2 => simp [deserializeStringOrDefault]
  case h_3 noArray noObject =>
    rcases value with _ | _ | b | (n | n | ⟨x, finite⟩) | text | items | members
    case some.array => exact absurd rfl (noArray items)
    case some.object => exact absurd rfl (noObject members)
    all_goals exact ⟨fun _ => ⟨_, rfl⟩, fun _ => trivial⟩

theorem countable_iff {value : Option Json.Value} :
    Countable value ↔ ∃ n, deserializeI64OrDefault value = some n := by
  unfold Countable
  split
  case h_1 | h_2 | h_3 => simp [deserializeI64OrDefault]
  case h_4 noArray noObject noBool =>
    rcases value with _ | _ | b | (n | n | ⟨x, finite⟩) | text | items | members
    case some.bool => exact absurd rfl (noBool b)
    case some.array => exact absurd rfl (noArray items)
    case some.object => exact absurd rfl (noObject members)
    all_goals exact ⟨fun _ => ⟨_, rfl⟩, fun _ => trivial⟩

/-- Fields from which a detail is read. -/
structure Readable (field : String → Option Json.Value) : Prop where
  texts : ∀ name ∈ textFields, Textual (field name)
  counts : ∀ name ∈ countFields, Countable (field name)

/-- A value from which a detail is read. -/
def ReadableDetail (data : Json.Value) : Prop :=
  ∃ field, Json.HasFields nodeDetailFields data field ∧ Readable field

/-- The integer zero; `0.0` is none. -/
inductive IsZero : Json.Value → Prop where
  | posInt : IsZero (.number (.posInt 0))
  | negInt : IsZero (.number (.negInt 0))

/-- A response of code 0 from which a detail is read: its message is there, and is a text. -/
inductive HoldsDetail : Json.Value → Prop where
  | object {members : List (String × Json.Value)} {errMsg : String} {code data : Json.Value}
      (message : Json.field? members "errMsg" = some (.string errMsg))
      (status : Json.field? members "code" = some code) (zero : IsZero code)
      (payload : Json.field? members "data" = some data) (readable : ReadableDetail data) :
      HoldsDetail (.object members)
  | array {errMsg : String} {code data : Json.Value} (zero : IsZero code)
      (readable : ReadableDetail data) : HoldsDetail (.array [.string errMsg, code, data])

/-- What the Explorer knows of a node. -/
structure NodeFacts where
  nodeName : String
  blockQty : Int64
  expectBlockQty : Int64
  genBlocksRate : String
  rewardPer : F64
  rewardValue : F64
  benefitAddr : String
  verifierTime : Int64

/-- Fields that say the facts, each in one of the ways. -/
structure NodeFacts.Writes (facts : NodeFacts) (field : String → Option Json.Value) : Prop extends
    Readable field where
  nodeName : WritesText facts.nodeName (field "nodeName")
  blockQty : WritesCount facts.blockQty (field "blockQty")
  expectBlockQty : WritesCount facts.expectBlockQty (field "expectBlockQty")
  genBlocksRate : WritesText facts.genBlocksRate (field "genBlocksRate")
  rewardPer : WritesAmount facts.rewardPer (field "rewardPer")
  rewardValue : WritesAmount facts.rewardValue (field "rewardValue")
  benefitAddr : WritesText facts.benefitAddr (field "denefitAddr")
  verifierTime : WritesCount facts.verifierTime (field "verifierTime")

def NodeFacts.row (facts : NodeFacts) (nodeId : String) (now : Nat) : NodeDetail where
  nodeId
  nodeName := facts.nodeName
  ranking := 0
  blockQty := tryFromOrZero facts.blockQty
  blockRate := renderBlockRate (tryFromOrZero facts.blockQty) (tryFromOrZero facts.expectBlockQty)
  dailyBlockRate := facts.genBlocksRate
  rewardPer := facts.rewardPer
  rewardValue := facts.rewardValue
  rewardAddress := facts.benefitAddr
  verifierTime := tryFromOrZero facts.verifierTime
  lastUpdatedAt := some now

theorem nodeDetailFields_nodup : nodeDetailFields.Nodup := by decide

theorem read_of_readable {data : Json.Value} {field : String → Option Json.Value}
    (has : Json.HasFields nodeDetailFields data field) (readable : Readable field) :
    ∃ detail, readNodeDetail data = some detail := by
  obtain ⟨texts, counts⟩ := readable
  simp only [textFields, countFields, textual_iff, countable_iff, List.forall_mem_cons] at texts counts
  obtain ⟨⟨_, nodeName⟩, ⟨_, totalValue⟩, ⟨_, delegateValue⟩, ⟨_, genBlocksRate⟩, ⟨_, rewardPer⟩,
    ⟨_, rewardValue⟩, ⟨_, benefitAddr⟩, -⟩ := texts
  obtain ⟨⟨_, delegateQty⟩, ⟨_, blockQty⟩, ⟨_, expectBlockQty⟩, ⟨_, verifierTime⟩, -⟩ := counts
  unfold readNodeDetail
  rw [has.read nodeDetailFields_nodup]
  simp only [nodeDetailFields, List.map_cons, List.map_nil, Option.bind_eq_bind, Option.bind_some,
    nodeName, totalValue, delegateValue, delegateQty, blockQty, expectBlockQty, genBlocksRate,
    rewardPer, rewardValue, benefitAddr, verifierTime]
  exact ⟨_, rfl⟩

theorem readable_of_read {data : Json.Value} {detail : ExplorerNodeDetail}
    (read : readNodeDetail data = some detail) : ReadableDetail data := by
  unfold readNodeDetail at read
  obtain ⟨fields, all, read⟩ := Option.bind_eq_some_iff.mp read
  obtain ⟨field, has⟩ := Json.exists_hasFields all
  obtain rfl := Option.some.inj ((has.read nodeDetailFields_nodup).symm.trans all)
  simp only [nodeDetailFields, List.map_cons, List.map_nil, Option.bind_eq_bind,
    Option.bind_eq_some_iff] at read
  obtain ⟨_, nodeName, _, totalValue, _, delegateValue, _, delegateQty, _, blockQty, _, expectBlockQty,
    _, genBlocksRate, _, rewardPer, _, rewardValue, _, benefitAddr, _, verifierTime, -⟩ := read
  refine ⟨field, has, ?_, ?_⟩
  · simp only [textFields, textual_iff, List.forall_mem_cons]
    exact ⟨⟨_, nodeName⟩, ⟨_, totalValue⟩, ⟨_, delegateValue⟩, ⟨_, genBlocksRate⟩, ⟨_, rewardPer⟩,
      ⟨_, rewardValue⟩, ⟨_, benefitAddr⟩, by simp⟩
  · simp only [countFields, countable_iff, List.forall_mem_cons]
    exact ⟨⟨_, delegateQty⟩, ⟨_, blockQty⟩, ⟨_, expectBlockQty⟩, ⟨_, verifierTime⟩, by simp⟩

theorem readableDetail_iff {data : Json.Value} :
    ReadableDetail data ↔ ∃ detail, readNodeDetail data = some detail := by
  refine ⟨fun ⟨_, has, readable⟩ => read_of_readable has readable, ?_⟩
  rintro ⟨detail, read⟩
  exact readable_of_read read

/-- The row says the facts. -/
theorem parseNodeDetail_of_writes {facts : NodeFacts} {data : Json.Value}
    {field : String → Option Json.Value} (has : Json.HasFields nodeDetailFields data field)
    (writes : facts.Writes field) : ∃ detail, readNodeDetail data = some detail ∧
      ∀ nodeId now, parseNodeDetail nodeId detail now = facts.row nodeId now := by
  obtain ⟨⟨texts, counts⟩, nodeName, blockQty, expectBlockQty, genBlocksRate, rewardPer, rewardValue,
    benefitAddr, verifierTime⟩ := writes
  obtain ⟨_, totalValue⟩ := textual_iff.mp (texts "totalValue" (by simp [textFields]))
  obtain ⟨_, delegateValue⟩ := textual_iff.mp (texts "delegateValue" (by simp [textFields]))
  obtain ⟨_, delegateQty⟩ := countable_iff.mp (counts "delegateQty" (by simp [countFields]))
  obtain ⟨per, perText, perValue⟩ := parseOrZero_of_writes rewardPer
  obtain ⟨value, valueText, valueValue⟩ := parseOrZero_of_writes rewardValue
  have nodeName := deserializeStringOrDefault_of_writes nodeName
  have blockQty := deserializeI64OrDefault_of_writes blockQty
  have expectBlockQty := deserializeI64OrDefault_of_writes expectBlockQty
  have genBlocksRate := deserializeStringOrDefault_of_writes genBlocksRate
  have benefitAddr := deserializeStringOrDefault_of_writes benefitAddr
  have verifierTime := deserializeI64OrDefault_of_writes verifierTime
  unfold readNodeDetail
  rw [has.read nodeDetailFields_nodup]
  simp only [nodeDetailFields, List.map_cons, List.map_nil, Option.bind_eq_bind, Option.bind_some,
    nodeName, totalValue, delegateValue, delegateQty, blockQty, expectBlockQty, genBlocksRate,
    perText, valueText, benefitAddr, verifierTime]
  refine ⟨_, rfl, fun nodeId now => ?_⟩
  simp only [parseNodeDetail, NodeFacts.row, perValue, valueValue]

theorem toI32?_eq_zero_iff {code : Json.Value} : toI32? code = some 0 ↔ IsZero code := by
  constructor
  · intro zero
    unfold toI32? at zero
    split at zero
    case h_1 value =>
      split at zero
      case isTrue =>
        have same : value.toNat = 0 := by simpa using zero
        rw [show value = 0 from UInt64.toNat_inj.mp same]
        exact .posInt
      case isFalse => cases zero
    case h_2 value =>
      split at zero
      case isTrue =>
        have same : value.toInt = 0 := by simpa using zero
        rw [show value = 0 from Int64.toInt_inj.mp same]
        exact .negInt
      case isFalse => cases zero
    case h_3 => cases zero
  · rintro (_ | _) <;> rfl

theorem toString?_eq_some_iff {value : Json.Value} {text : String} :
    Json.toString? value = some text ↔ value = .string text := by
  cases value <;> simp [Json.toString?]

theorem readOption_eq_some_iff {α : Type} {read : Json.Value → Option α}
    (null : read .null = none) {value : Option Json.Value} {x : α} :
    readOption read value = some (some x) ↔ ∃ data, value = some data ∧ read data = some x := by
  unfold readOption
  split
  case h_1 => simp
  case h_2 => simp [null]
  case h_3 data present => simp

theorem readNodeDetail_null : readNodeDetail .null = none := rfl

theorem readResponse_eq_some_iff {document : Json.Value} :
    (∃ errMsg detail, readNodeDetailResponse document = some ⟨errMsg, 0, some detail⟩) ↔
      HoldsDetail document := by
  constructor
  · rintro ⟨errMsg, detail, read⟩
    unfold readNodeDetailResponse readResponse at read
    split at read
    case h_1 members =>
      simp only [Option.bind_eq_bind, Option.bind_eq_some_iff] at read
      obtain ⟨_, ⟨message, one, text⟩, _, ⟨code, status, number⟩, _, ⟨present, payload, optional⟩,
        same⟩ := read
      cases same
      obtain ⟨data, rfl, read⟩ := (readOption_eq_some_iff readNodeDetail_null).mp optional
      obtain rfl := toString?_eq_some_iff.mp text
      exact .object one status (toI32?_eq_zero_iff.mp number) (Json.field?_eq_some_iff.mpr payload)
        (readableDetail_iff.mpr ⟨detail, read⟩)
    case h_2 message code data =>
      simp only [Option.bind_eq_bind, Option.bind_eq_some_iff] at read
      obtain ⟨_, text, _, number, _, optional, same⟩ := read
      cases same
      obtain ⟨_, same, read⟩ := (readOption_eq_some_iff readNodeDetail_null).mp optional
      cases same
      obtain rfl := toString?_eq_some_iff.mp text
      exact .array (toI32?_eq_zero_iff.mp number) (readableDetail_iff.mpr ⟨detail, read⟩)
    case h_3 => cases read
  · intro holds
    cases holds with
    | @object members errMsg code data message status zero payload readable =>
      obtain ⟨detail, read⟩ := readableDetail_iff.mp readable
      have optional := (readOption_eq_some_iff readNodeDetail_null).mpr ⟨data, rfl, read⟩
      refine ⟨errMsg, detail, ?_⟩
      simp only [readNodeDetailResponse, readResponse, message, status,
        Json.field?_eq_some_iff.mp payload, Option.bind_eq_bind, Option.bind_some, Json.toString?,
        toI32?_eq_zero_iff.mpr zero, optional]
    | @array errMsg code data zero readable =>
      obtain ⟨detail, read⟩ := readableDetail_iff.mp readable
      have optional := (readOption_eq_some_iff readNodeDetail_null).mpr ⟨data, rfl, read⟩
      refine ⟨errMsg, detail, ?_⟩
      simp only [readNodeDetailResponse, readResponse, Option.bind_eq_bind, Option.bind_some,
        Json.toString?, toI32?_eq_zero_iff.mpr zero, optional]

/-- An entry of the list of rankings, its fields each in one of the ways. -/
inductive WritesRanking (node : NodeInfo) : Json.Value → Prop where
  | object {members : List (String × Json.Value)}
      (distinct : Json.Distinct ["nodeId", "ranking"] members)
      (nodeId : WritesText node.nodeId (members.lookup "nodeId"))
      (ranking : WritesCount node.ranking (members.lookup "ranking")) :
      WritesRanking node (.object members)

theorem readNodeInfo_of_writes {node : NodeInfo} {item : Json.Value}
    (writes : WritesRanking node item) : readNodeInfo item = some node := by
  obtain ⟨distinct, nodeId, ranking⟩ := writes
  have nodeId := deserializeStringOrDefault_of_writes nodeId
  have ranking := deserializeI64OrDefault_of_writes ranking
  unfold readNodeInfo
  rw [Json.optionalFields?_object distinct]
  simp only [List.map_cons, List.map_nil, Option.bind_eq_bind, Option.bind_some, nodeId, ranking]

theorem readNodes_of_writes {nodes : List NodeInfo} {items : List Json.Value}
    (writes : List.Forall₂ WritesRanking nodes items) :
    Json.toList? readNodeInfo (.array items) = some nodes := by
  change items.mapM readNodeInfo = some nodes
  induction writes with
  | nil => rfl
  | cons first _ ih =>
    rw [List.mapM_cons, readNodeInfo_of_writes first, ih]
    rfl

/-! ## The rows -/

open NodeDetailRefresh

theorem fetchNodeDetail_answerOfDocument {mismatch : Json.Value → String} {data document : Json.Value}
    (present : data ≠ .null) (responds : Responds data document) (nodeId : String) (now : Nat) :
    fetchNodeDetail nodeId now (answerOfDocument mismatch readNodeDetailResponse document) =
      match readNodeDetail data with
      | some detail => .ok (parseNodeDetail nodeId detail now)
      | none =>
        .error ("Failed to parse node detail JSON for " ++ nodeId ++ ": " ++ mismatch document) := by
  obtain ⟨errMsg, read⟩ := readResponse_of_responds readNodeDetail present responds
  unfold answerOfDocument readNodeDetailResponse
  rw [read]
  cases readNodeDetail data <;> rfl

section Bodies

variable {Body : Type} {fromSlice : Body → Except String Json.Value} {mismatch : Json.Value → String}
  {nodeIds : List String} {notifier : Bool} {events : List RefreshEvent} {s : NodeDetailRefresh}
  {nodeId : String} {body : Body} {now : Nat}

/-- However the Explorer writes what it knows about a node, the row shows that. -/
theorem rows_show_facts (ran : run (normalizeNodeIds nodeIds) notifier events = some s)
    (inside : nodeId ∈ normalizeNodeIds nodeIds) {facts : NodeFacts} {data document : Json.Value}
    {field : String → Option Json.Value} (has : Json.HasFields nodeDetailFields data field)
    (writes : facts.Writes field) (responds : Responds data document)
    (parsed : fromSlice body = .ok document)
    (last : lastAnswer (normalizeNodeIds nodeIds) events nodeId = some (requestNodeDetail nodeId now
      (some (answerOfBody fromSlice mismatch readNodeDetailResponse body)))) :
    ∃ ranking, s.data.nodeDetails.get nodeId =
      some { defaulted nodeId (facts.row nodeId now) with ranking } := by
  have rowOf := rowOf_expectedNode (configured_normalizeNodeIds nodeIds) inside events
  obtain ⟨detail, read, shows⟩ := parseNodeDetail_of_writes has writes
  have answer : answerOfBody fromSlice mismatch readNodeDetailResponse body =
      answerOfDocument mismatch readNodeDetailResponse document := by
    rw [answerOfBody, parsed]
  rw [← get_of_run ran inside, last, requestNodeDetail, answer,
    fetchNodeDetail_answerOfDocument has.ne_null responds, read] at rowOf
  dsimp only at rowOf
  rw [shows] at rowOf
  exact rowOf

def sixAndQuarter : F64 := .finite false ⟨1025, by decide⟩ ⟨2533274790395904, by decide⟩

/-- Counts as a number, as digits and as no number, amounts as a float and as a text. -/
def mixedMembers : List (String × Json.Value) :=
  [("nodeName", .string "alpha"), ("blockQty", .number (.posInt 7)), ("expectBlockQty", .string "10"),
    ("rewardPer", .number (.float sixAndQuarter rfl)),
    ("rewardValue", .string "20"), ("denefitAddr", .null), ("delegateQty", .string "?")]

def mixedFacts : NodeFacts where
  nodeName := "alpha"
  blockQty := 7
  expectBlockQty := 10
  genBlocksRate := ""
  rewardPer := sixAndQuarter
  rewardValue := round 11 52 false (20 : Int)
  benefitAddr := ""
  verifierTime := 0

theorem mixed_writes : mixedFacts.Writes fun name => mixedMembers.lookup name where
  texts := by
    simp only [textFields, List.forall_mem_cons]
    exact ⟨trivial, trivial, trivial, trivial, trivial, trivial, trivial, List.forall_mem_nil _⟩
  counts := by
    simp only [countFields, List.forall_mem_cons]
    exact ⟨trivial, trivial, trivial, trivial, List.forall_mem_nil _⟩
  nodeName := .string
  blockQty := .posInt rfl
  expectBlockQty := .digits
  genBlocksRate := .missing rfl
  rewardPer := .float rfl
  rewardValue := by simpa only [mixedFacts] using .text (parse_toString 20)
  benefitAddr := .null rfl
  verifierTime := .missing rfl

def okDocument (data : Json.Value) : Json.Value :=
  .object [("errMsg", .string ""), ("code", .number (.posInt 0)), ("data", data)]

theorem okDocument_responds (data : Json.Value) : Responds data (okDocument data) :=
  .object rfl rfl rfl

def mixedBody : String :=
  "\x7b\"errMsg\":\"\",\"code\":0,\"data\":\x7b\"nodeName\":\"alpha\",\"blockQty\":7," ++
    "\"expectBlockQty\":\"10\",\"rewardPer\":6.25,\"rewardValue\":\"20\",\"denefitAddr\":null," ++
    "\"delegateQty\":\"?\"\x7d\x7d"

def outOfRangeBody : String :=
  "\x7b\"errMsg\":\"\",\"code\":0,\"data\":\x7b\"blockQty\":1e400\x7d\x7d"

/-- The text layer on these two bodies. -/
def mixedSlice (body : String) : Except String Json.Value :=
  if body = mixedBody then .ok (okDocument (.object mixedMembers))
  else .error "number out of range at line 1 column 46"

theorem mixedSlice_mixedBody : mixedSlice mixedBody = .ok (okDocument (.object mixedMembers)) := by
  unfold mixedSlice
  rw [if_pos rfl]

theorem mixedSlice_outOfRangeBody :
    mixedSlice outOfRangeBody = .error "number out of range at line 1 column 46" := by
  have other : outOfRangeBody ≠ mixedBody := by decide +kernel
  unfold mixedSlice
  rw [if_neg other]

/-- One node is asked, and that is the body of its answer. -/
def oneBody (body : String) : List RefreshEvent :=
  [.answered 0 (some (answerOfBody mixedSlice (fun _ => "") readNodeDetailResponse body)) 4]

theorem exists_run_oneBody (body : String) :
    ∃ s, run (normalizeNodeIds ["a"]) true (oneBody body) = some s := ⟨_, rfl⟩

theorem lastAnswer_oneBody (body : String) : lastAnswer (normalizeNodeIds ["a"]) (oneBody body) "a" =
    some (requestNodeDetail "a" 4
      (some (answerOfBody mixedSlice (fun _ => "") readNodeDetailResponse body))) := rfl

theorem mixed_hasFields : Json.HasFields nodeDetailFields (.object mixedMembers)
    fun name => mixedMembers.lookup name :=
  .object (by unfold Json.Distinct; decide)

theorem rows_show_facts_mixed : ∃ s,
    run (normalizeNodeIds ["a"]) true (oneBody mixedBody) = some s ∧
    ∃ ranking, s.data.nodeDetails.get "a" =
      some { defaulted "a" (mixedFacts.row "a" 4) with ranking } := by
  obtain ⟨s, ran⟩ := exists_run_oneBody mixedBody
  have inside : "a" ∈ normalizeNodeIds ["a"] := by decide
  exact ⟨s, ran, rows_show_facts ran inside mixed_hasFields mixed_writes (okDocument_responds _)
    mixedSlice_mixedBody (lastAnswer_oneBody mixedBody)⟩

theorem answerOfBody_eq_response_iff {errMsg : String} {detail : ExplorerNodeDetail} :
    answerOfBody fromSlice mismatch readNodeDetailResponse body = .response 0 errMsg (some detail) ↔
      ∃ document, fromSlice body = .ok document ∧
        readNodeDetailResponse document = some ⟨errMsg, 0, some detail⟩ := by
  unfold answerOfBody
  cases fromSlice body with
  | error err => simp
  | ok document =>
    simp only [Except.ok.injEq, exists_eq_left', answerOfDocument]
    cases readNodeDetailResponse document with
    | none => simp
    | some response =>
      obtain ⟨text, code, data⟩ := response
      simp only [ExplorerAnswer.response.injEq, Option.some.injEq, ExplorerResponse.mk.injEq]
      tauto

theorem fetchNodeDetail_ok_iff {answer : ExplorerAnswer ExplorerNodeDetail} :
    (∃ row, fetchNodeDetail nodeId now answer = .ok row) ↔
      ∃ errMsg detail, answer = .response 0 errMsg (some detail) := by
  constructor
  · rintro ⟨row, kept⟩
    cases answer with
    | response code errMsg data =>
      unfold fetchNodeDetail at kept
      dsimp only at kept
      split at kept
      case isFalse => cases kept
      case isTrue zero =>
        subst zero
        cases data with
        | none => cases kept
        | some detail => exact ⟨errMsg, detail, rfl⟩
    | unsent | refused | unread | unparsed => cases kept
  · rintro ⟨errMsg, detail, rfl⟩
    exact ⟨_, rfl⟩

theorem isSome_iff_of_rowOf {row : Option NodeDetail} {answer : Except String NodeDetail}
    (rowOf : RowOf nodeId row (some answer)) : row.isSome ↔ ∃ detail, answer = .ok detail := by
  cases answer with
  | ok detail =>
    obtain ⟨ranking, rfl⟩ := rowOf
    exact ⟨fun _ => ⟨detail, rfl⟩, fun _ => rfl⟩
  | error err =>
    obtain rfl := show row = none from rowOf
    simp

/-- The body of its last answer gives a node its row exactly if it is read as a document that is a
response of code 0, with a text as its message and with data from which a detail is read. -/
theorem row_kept_iff (ran : run (normalizeNodeIds nodeIds) notifier events = some s)
    (inside : nodeId ∈ normalizeNodeIds nodeIds)
    (last : lastAnswer (normalizeNodeIds nodeIds) events nodeId = some (requestNodeDetail nodeId now
      (some (answerOfBody fromSlice mismatch readNodeDetailResponse body)))) :
    (s.data.nodeDetails.get nodeId).isSome ↔
      ∃ document, fromSlice body = .ok document ∧ HoldsDetail document := by
  have rowOf := rowOf_expectedNode (configured_normalizeNodeIds nodeIds) inside events
  rw [← get_of_run ran inside, last] at rowOf
  rw [isSome_iff_of_rowOf rowOf, requestNodeDetail, fetchNodeDetail_ok_iff]
  simp only [answerOfBody_eq_response_iff, ← readResponse_eq_some_iff]
  constructor
  · rintro ⟨errMsg, detail, document, parsed, read⟩
    exact ⟨document, parsed, errMsg, detail, read⟩
  · rintro ⟨document, parsed, errMsg, detail, read⟩
    exact ⟨errMsg, detail, document, parsed, read⟩

theorem row_kept_iff_outOfRange : ∃ kept lost,
    run (normalizeNodeIds ["a"]) true (oneBody mixedBody) = some kept ∧
      (kept.data.nodeDetails.get "a").isSome ∧
    run (normalizeNodeIds ["a"]) true (oneBody outOfRangeBody) = some lost ∧
      ¬ (lost.data.nodeDetails.get "a").isSome := by
  obtain ⟨kept, ranKept⟩ := exists_run_oneBody mixedBody
  obtain ⟨lost, ranLost⟩ := exists_run_oneBody outOfRangeBody
  have inside : "a" ∈ normalizeNodeIds ["a"] := by decide
  refine ⟨kept, lost, ranKept, ?_, ranLost, fun there => ?_⟩
  · have holds : HoldsDetail (okDocument (.object mixedMembers)) :=
      .object rfl rfl .posInt rfl ⟨_, mixed_hasFields, mixed_writes.toReadable⟩
    exact (row_kept_iff ranKept inside (lastAnswer_oneBody mixedBody)).mpr
      ⟨_, mixedSlice_mixedBody, holds⟩
  · obtain ⟨document, parsed, -⟩ :=
      (row_kept_iff ranLost inside (lastAnswer_oneBody outOfRangeBody)).mp there
    rw [mixedSlice_outOfRangeBody] at parsed
    cases parsed

end Bodies

/-- One node is asked, and that is its answer. -/
def oneAnswer (members : List (String × Json.Value)) : List RefreshEvent :=
  [.answered 0 (some (answerOfDocument (fun _ => "") readNodeDetailResponse
    (okDocument (.object members)))) 4]

theorem fetchNodeRankings_answerOfDocument {mismatch : Json.Value → String} {nodes : List NodeInfo}
    {items : List Json.Value} (writes : List.Forall₂ WritesRanking nodes items) {document : Json.Value}
    (responds : Responds (.array items) document) :
    fetchNodeRankings (answerOfDocument mismatch readNodeListResponse document) = .ok nodes := by
  obtain ⟨errMsg, read⟩ := readResponse_of_responds (Json.toList? readNodeInfo) (by simp) responds
  unfold answerOfDocument readNodeListResponse
  rw [read, readNodes_of_writes writes]
  rfl

theorem filter_rankingOps {nodeIds : List String} (configured : Configured nodeIds) {nodeId : String}
    (inside : nodeId ∈ nodeIds) (nodes : List NodeInfo) :
    (rankingOps nodeIds nodes).filter (·.nodeId = nodeId) =
      [.mergeNodeRankingFor nodeId (parseNodeRanking nodes nodeId)] := by
  have one := List.count_eq_one_of_mem configured.distinct inside
  have own : (fun op : DetailOp => decide (op.nodeId = nodeId)) ∘
      (fun nodeId => .mergeNodeRankingFor nodeId (parseNodeRanking nodes nodeId)) =
        fun other => decide (other = nodeId) := rfl
  rw [rankingOps, List.filter_map, own, List.filter_eq, one]
  rfl

theorem named_of_rowOf {nodeId : String} (nonempty : nodeId ≠ "") {row : NodeDetail}
    {answer : Option (Except String NodeDetail)} (rowOf : RowOf nodeId (some row) answer) :
    Named row := by
  unfold RowOf at rowOf
  split at rowOf
  case h_1 detail =>
    obtain ⟨ranking, same⟩ := rowOf
    obtain rfl := Option.some.inj same
    obtain ⟨ownId, ownName⟩ := defaulted_named detail nonempty
    exact ⟨ownId, ownName⟩
  case h_2 => cases rowOf

/-- A list of rankings, however written, gives each row that is there the ranking of the first entry
with its node's id, if that is an `i32`, and changes nothing else of it. -/
theorem ranking_shown {nodeIds : List String} {notifier : Bool} {events : List RefreshEvent}
    {s : NodeDetailRefresh} {nodes : List NodeInfo} {items : List Json.Value}
    (writes : List.Forall₂ WritesRanking nodes items) {document : Json.Value}
    (responds : Responds (.array items) document) {mismatch : Json.Value → String} {now : Nat}
    (ran : run (normalizeNodeIds nodeIds) notifier
      (events ++ [.ranked (answerOfDocument mismatch readNodeListResponse document) now]) = some s)
    {nodeId : String} (inside : nodeId ∈ normalizeNodeIds nodeIds) :
    ∃ before, run (normalizeNodeIds nodeIds) notifier events = some before ∧
      s.data.nodeDetails.get nodeId = (before.data.nodeDetails.get nodeId).map fun row =>
        { row with ranking := (parseNodeRanking nodes nodeId).getD row.ranking } := by
  have configured := configured_normalizeNodeIds nodeIds
  obtain ⟨before, ranBefore, -⟩ := Lts.run_snoc_split ran
  refine ⟨before, ranBefore, ?_⟩
  have rowOf := rowOf_expectedNode configured inside events
  rw [get_of_run ran inside, get_of_run ranBefore inside, expectedNode_snoc configured,
    RefreshEvent.detailOps, fetchNodeRankings_answerOfDocument writes responds]
  dsimp only
  rw [filter_rankingOps configured inside, List.foldl_cons, List.foldl_nil]
  cases row : expectedNode (normalizeNodeIds nodeIds) events nodeId with
  | none => cases parseNodeRanking nodes nodeId <;> rfl
  | some row =>
    rw [row] at rowOf
    exact updateEntry_ranking_named (named_of_rowOf (configured.nonempty nodeId inside) rowOf) _ _

def twoWrittenRankings : List Json.Value :=
  [.object [("ranking", .string "12"), ("nodeId", .string "a")], .object [("nodeId", .string "a")]]

/-- The node is ranked by the first of two entries. -/
theorem ranking_shown_twoRankings : ∃ s, run (normalizeNodeIds ["a"]) true
    ((oneAnswer mixedMembers ++ [.joined, .loaded]) ++
      [.ranked (answerOfDocument (fun _ => "") readNodeListResponse
        (okDocument (.array twoWrittenRankings))) 6]) = some s ∧
    (s.data.nodeDetails.get "a").map (·.ranking) = some 12 := by
  have writes : List.Forall₂ WritesRanking [⟨"a", 12⟩, ⟨"a", 0⟩] twoWrittenRankings :=
    .cons (.object (by unfold Json.Distinct; decide) .string .digits)
      (.cons (.object (by unfold Json.Distinct; decide) .string (.missing rfl)) .nil)
  obtain ⟨s, ran⟩ : ∃ s, run (normalizeNodeIds ["a"]) true
    ((oneAnswer mixedMembers ++ [.joined, .loaded]) ++
      [.ranked (answerOfDocument (fun _ => "") readNodeListResponse
        (okDocument (.array twoWrittenRankings))) 6]) = some s := ⟨_, rfl⟩
  have inside : "a" ∈ normalizeNodeIds ["a"] := by decide
  obtain ⟨before, ranBefore, row⟩ := ranking_shown writes (okDocument_responds _) ran inside
  have kept : (before.data.nodeDetails.get "a").isSome := by
    obtain rfl := Option.some.inj ((show run (normalizeNodeIds ["a"]) true
      (oneAnswer mixedMembers ++ [.joined, .loaded]) = some _ from rfl).symm.trans ranBefore)
    rfl
  obtain ⟨detail, shown⟩ := Option.isSome_iff_exists.mp kept
  refine ⟨s, ran, ?_⟩
  rw [row, shown]
  rfl

end ChainDash.Collect
