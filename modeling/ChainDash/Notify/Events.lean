/-!
# Notification events, their filter and quiet hours

Which events the Telegram notifier reports (`notify::TelegramNotificationFilter`) and
when it stays quiet (`opts::TelegramQuietHours`). `fromOpts_allows` says that the
filter is the union of the groups named on the command line.
-/

namespace ChainDash.Notify
set_option autoImplicit false

inductive NotificationEventKind where
  | connectionFailed
  | connectionRecovered
  | rankingChanged
  | dailySummary
  deriving DecidableEq, Repr

/-- A value of `--telegram-notify-events`. -/
inductive TelegramNotifyEvent where
  | all
  | connection
  | connectionFailed
  | connectionRecovered
  | ranking
  | rankingChanged
  | daily
  | dailySummary
  deriving DecidableEq, Repr

structure TelegramNotificationFilter where
  connectionFailed : Bool
  connectionRecovered : Bool
  rankingChanged : Bool
  dailySummary : Bool
  deriving DecidableEq

namespace TelegramNotificationFilter

def all : TelegramNotificationFilter := ⟨true, true, true, true⟩

def none : TelegramNotificationFilter := ⟨false, false, false, false⟩

/-- One round of the loop in `from_opts`. -/
def enable (filter : TelegramNotificationFilter) : TelegramNotifyEvent → TelegramNotificationFilter
  | .all => all
  | .connection => { filter with connectionFailed := true, connectionRecovered := true }
  | .connectionFailed => { filter with connectionFailed := true }
  | .connectionRecovered => { filter with connectionRecovered := true }
  | .ranking | .rankingChanged => { filter with rankingChanged := true }
  | .daily | .dailySummary => { filter with dailySummary := true }

/-- `TelegramNotificationFilter::from_opts`: no event named means every event. -/
def fromOpts (events : List TelegramNotifyEvent) : TelegramNotificationFilter :=
  if events.isEmpty then all else events.foldl enable none

def allows (filter : TelegramNotificationFilter) : NotificationEventKind → Bool
  | .connectionFailed => filter.connectionFailed
  | .connectionRecovered => filter.connectionRecovered
  | .rankingChanged => filter.rankingChanged
  | .dailySummary => filter.dailySummary

@[simp] theorem all_allows (kind : NotificationEventKind) : all.allows kind = true := by
  cases kind <;> rfl

@[simp] theorem none_allows (kind : NotificationEventKind) : none.allows kind = false := by
  cases kind <;> rfl

end TelegramNotificationFilter

/-- The group of event kinds that a command-line value stands for. -/
def TelegramNotifyEvent.names : TelegramNotifyEvent → NotificationEventKind → Bool
  | .all, _ => true
  | .connection, kind => kind = .connectionFailed || kind = .connectionRecovered
  | .connectionFailed, kind => kind = .connectionFailed
  | .connectionRecovered, kind => kind = .connectionRecovered
  | .ranking, kind | .rankingChanged, kind => kind = .rankingChanged
  | .daily, kind | .dailySummary, kind => kind = .dailySummary

namespace TelegramNotificationFilter

theorem enable_allows (filter : TelegramNotificationFilter) (event : TelegramNotifyEvent)
    (kind : NotificationEventKind) :
    (filter.enable event).allows kind = (filter.allows kind || event.names kind) := by
  cases event <;> cases kind <;> simp [enable, allows, TelegramNotifyEvent.names, all]

theorem foldl_enable_allows (filter : TelegramNotificationFilter)
    (events : List TelegramNotifyEvent) (kind : NotificationEventKind) :
    (events.foldl enable filter).allows kind =
      (filter.allows kind || events.any (·.names kind)) := by
  induction events generalizing filter with
  | nil => simp
  | cons event events ih => rw [List.foldl_cons, ih, enable_allows, List.any_cons, Bool.or_assoc]

/-- The filter allows what some value names, and everything when there is no value. -/
theorem fromOpts_allows (events : List TelegramNotifyEvent) (kind : NotificationEventKind) :
    (fromOpts events).allows kind = (events.isEmpty || events.any (·.names kind)) := by
  unfold fromOpts
  split
  case isTrue empty => simp [empty]
  case isFalse some => simp [some, foldl_enable_allows]

end TelegramNotificationFilter

/-- `opts::TelegramQuietHours`, as `parse_telegram_quiet_hours` admits it: two different
minutes of the day. -/
structure TelegramQuietHours where
  startMinutes : Nat
  endMinutes : Nat
  startRange : startMinutes < 24 * 60
  endRange : endMinutes < 24 * 60
  distinct : startMinutes ≠ endMinutes

/-- The window is half open and may wrap around midnight. -/
def TelegramQuietHours.containsMinutesSinceMidnight (quietHours : TelegramQuietHours)
    (minutesSinceMidnight : Nat) : Bool :=
  if quietHours.startMinutes < quietHours.endMinutes then
    quietHours.startMinutes ≤ minutesSinceMidnight && minutesSinceMidnight < quietHours.endMinutes
  else
    quietHours.startMinutes ≤ minutesSinceMidnight || minutesSinceMidnight < quietHours.endMinutes

end ChainDash.Notify
