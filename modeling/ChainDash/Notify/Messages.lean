import Mathlib.Data.Prod.Lex
import Mathlib.Data.List.Sort
import ChainDash.Collect.NodeDetail
import ChainDash.Lib.Calendar
import ChainDash.Lib.Text
import ChainDash.Notify.State

/-!
# Message texts

The messages of the Telegram notifier, rendered from the configured templates, and the
detail block of the daily summary.
-/

namespace ChainDash.Notify
set_option autoImplicit false

open Calendar Collect Ieee

def telegramMessagePrefix : String := "[chaindash]"

structure TelegramTemplates where
  connectionFailed : String
  connectionRecovered : String
  rankingChanged : String
  quietSummary : String
  dailySummary : String

/-- The templates used where the command line names none. -/
def defaultTemplates : TelegramTemplates where
  connectionFailed := "🚨 节点连接异常\n🔹 节点：{node}\n📝 原因：{reason}"
  connectionRecovered := "✅ 节点连接已恢复\n🔹 节点：{node}"
  rankingChanged :=
    "{icon} 节点排名变动\n🔹 节点：{node}\n📍 排名：{previous} → {current}（{delta_text}）"
  quietSummary := "🌙 静默期摘要\n🧾 共 {count} 条\n{details}"
  dailySummary := "{title}（{date}）\n🧾 节点数：{count}\n{details}"

/-- One `str::replace` for each pair, in order. -/
def renderTemplate (template : String) (replacements : List (String × String)) : String :=
  replacements.foldl (fun rendered (key, value) =>
    Text.replace rendered ("\x7b" ++ key ++ "\x7d") value) template

def displayNodeName (nodeName : String) : String :=
  if (Text.trim nodeName).isEmpty then "未命名节点" else nodeName

/-- Pop zeros off the end of a text with a decimal point; the text is reversed. -/
def popZeros : List Char → List Char
  | '0' :: rest => if rest.contains '.' then popZeros rest else '0' :: rest
  | text => text

def popPoint : List Char → List Char
  | '.' :: rest => rest
  | text => text

def formatRewardValue (value : F64) : String :=
  String.ofList (popPoint (popZeros (value.formatFixed 4).toList.reverse)).reverse

def formatOptionalDailyCount (value : Option UInt64) : String := (value.map toString).getD "-"

def formatOptionalRewardValue (value : Option F64) : String := (value.map formatRewardValue).getD "-"

def resolveDailySummaryTitle (date : String) (nodeDetails : List DailyNodeSummaryDetail) : String :=
  if nodeDetails.any (·.showMonthlyTotals) || (NaiveDate.parseIso date).any (·.day = 1) then
    "📅 月度节点简报"
  else
    "📊 每日节点快照"

def renderDailySummaryDetail (detail : DailyNodeSummaryDetail) : String :=
  let lines := [
    "🔹 " ++ displayNodeName detail.nodeName,
    "  🧱 累计出块：" ++ toString detail.blockQty,
    "  💰 累计系统奖励：" ++ formatRewardValue detail.rewardValue,
    "  📅 当天出块：" ++ formatOptionalDailyCount detail.dailyBlockQty,
    "  🎁 当天系统奖励：" ++ formatOptionalRewardValue detail.dailyRewardValue]
  let monthly := if detail.showMonthlyTotals then [
    "  🗓️ 上月总出块：" ++ formatOptionalDailyCount detail.monthlyBlockQty,
    "  🏆 上月总系统奖励：" ++ formatOptionalRewardValue detail.monthlyRewardValue] else []
  "\n".intercalate (lines ++ monthly)

/-- The order of the daily summary: by name, then id, then ranking. -/
def SummaryLe (left right : DailyNodeSummaryDetail) : Prop :=
  toLex (left.nodeName, toLex (left.nodeId, left.ranking)) ≤
    toLex (right.nodeName, toLex (right.nodeId, right.ranking))

instance : DecidableRel SummaryLe := fun _ _ => by unfold SummaryLe; infer_instance

namespace TelegramTemplates

variable (templates : TelegramTemplates)

def renderConnectionFailedMessage (nodeName reason : String) : String :=
  renderTemplate templates.connectionFailed
    [("prefix", telegramMessagePrefix), ("node", displayNodeName nodeName), ("reason", reason)]

def renderConnectionRecoveredMessage (nodeName : String) : String :=
  renderTemplate templates.connectionRecovered
    [("prefix", telegramMessagePrefix), ("node", displayNodeName nodeName)]

def renderRankingChangedMessage (nodeName : String) (change : RankingChange) : String :=
  let delta := toString (change.previous - change.current).natAbs
  let (icon, direction, deltaText) :=
    if change.current < change.previous then ("📈", "up", "+" ++ delta)
    else ("📉", "down", "-" ++ delta)
  renderTemplate templates.rankingChanged
    [("prefix", telegramMessagePrefix), ("icon", icon), ("node", displayNodeName nodeName),
      ("previous", toString change.previous), ("current", toString change.current),
      ("delta", delta), ("delta_text", deltaText), ("direction", direction)]

def renderQuietSummaryMessage (summary : QuietSummarySnapshot) : String :=
  renderTemplate templates.quietSummary
    [("prefix", telegramMessagePrefix), ("count", toString summary.totalCount),
      ("details", summary.details)]

def renderDailySummaryMessage (date : String) (nodeDetails : List DailyNodeSummaryDetail) : String :=
  let details :=
    if nodeDetails.isEmpty then "📭 暂无可用节点详情"
    else "\n\n".intercalate ((nodeDetails.insertionSort SummaryLe).map renderDailySummaryDetail)
  renderTemplate templates.dailySummary
    [("prefix", telegramMessagePrefix), ("title", resolveDailySummaryTitle date nodeDetails),
      ("date", date), ("count", toString nodeDetails.length), ("details", details)]

end TelegramTemplates

end ChainDash.Notify
