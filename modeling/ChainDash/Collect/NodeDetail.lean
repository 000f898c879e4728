import ChainDash.Lib.Ieee

/-!
# Node details

What the collectors know about a validator node (`collect::data::NodeDetail`), the
row of a daily summary computed from it, and the step from the Explorer's response
to a node detail (`parse_node_detail`). Instants are nanoseconds on the monotonic
clock.
-/

namespace ChainDash.Collect
set_option autoImplicit false

open Ieee

/-- `u64::saturating_sub`. -/
def saturatingSub (a b : UInt64) : UInt64 := if b ≤ a then a - b else 0

@[simp] theorem toNat_saturatingSub (a b : UInt64) :
    (saturatingSub a b).toNat = a.toNat - b.toNat := by
  unfold saturatingSub
  split
  case isTrue le => exact UInt64.toNat_sub_of_le a b le
  case isFalse gt =>
    rw [UInt64.le_iff_toNat_le] at gt
    have zero : (0 : UInt64).toNat = 0 := rfl
    omega

/-- `collect::data::NodeDetail`. -/
structure NodeDetail where
  nodeId : String := ""
  nodeName : String := ""
  ranking : Int := 0
  blockQty : UInt64 := 0
  blockRate : String := ""
  dailyBlockRate : String := ""
  rewardPer : F64 := .zero
  rewardValue : F64 := .zero
  rewardAddress : String := ""
  verifierTime : UInt64 := 0
  lastUpdatedAt : Option Nat := none
  deriving DecidableEq

/-- `collect::daily_snapshot::DailyNodeSummaryDetail`. -/
structure DailyNodeSummaryDetail where
  nodeId : String
  nodeName : String
  ranking : Int
  blockQty : UInt64
  rewardValue : F64
  dailyBlockQty : Option UInt64
  dailyRewardValue : Option F64
  showMonthlyTotals : Bool
  monthlyBlockQty : Option UInt64
  monthlyRewardValue : Option F64
  deriving DecidableEq

/-- `collect::types::NodeDetail`, the fields of the Explorer's answer that are read. -/
structure ExplorerNodeDetail where
  nodeName : String
  blockQty : Int64
  expectBlockQty : Int64
  genBlocksRate : String
  rewardPer : String
  rewardValue : String
  benefitAddr : String
  verifierTime : Int64

/-- `u64::try_from(value).unwrap_or(0)`. -/
def tryFromOrZero (value : Int64) : UInt64 := if 0 ≤ value then value.toUInt64 else 0

/-- `value.parse::<f64>().ok().unwrap_or(0.0)`. -/
def parseOrZero (value : String) : F64 := (parse 11 52 value).getD .zero

/-- The share of the expected blocks that were produced, as a percentage. -/
def renderBlockRate (blockQty expectBlockQty : UInt64) : String :=
  if 0 < expectBlockQty then
    let rate := (ofNat 11 52 blockQty.toNat).div (ofNat 11 52 expectBlockQty.toNat)
    (rate.mul (ofNat 11 52 100)).formatFixed 2 ++ "%"
  else "0.00%"

/-- `parse_node_detail`, run at the instant `now`. -/
def parseNodeDetail (nodeId : String) (nodeDetail : ExplorerNodeDetail) (now : Nat) : NodeDetail :=
  let blockQty := tryFromOrZero nodeDetail.blockQty
  let expectBlockQty := tryFromOrZero nodeDetail.expectBlockQty
  { nodeId
    nodeName := nodeDetail.nodeName
    ranking := 0
    blockQty
    blockRate := renderBlockRate blockQty expectBlockQty
    dailyBlockRate := nodeDetail.genBlocksRate
    rewardPer := parseOrZero nodeDetail.rewardPer
    rewardValue := parseOrZero nodeDetail.rewardValue
    rewardAddress := nodeDetail.benefitAddr
    verifierTime := tryFromOrZero nodeDetail.verifierTime
    lastUpdatedAt := some now }

end ChainDash.Collect
