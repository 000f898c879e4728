import ChainDash.Notify.Notifier

/-!
# The Telegram options

From the command line to the configuration of the notifier (`opts`, `TelegramConfig::from_opts`).
Every quiet-hours window can be written as an option and is read back, and covers the minutes from
its start up to its end around the clock (`quiet_hours_round_trip`); every template text can be
written on one line (`template_round_trip`).
-/

namespace ChainDash.Notify
set_option autoImplicit false

/-! ## Times of day -/

/-- The digits of `u16::from_str`. -/
def parseDigits (number : Nat) : List Char → Except String Nat
  | [] => .ok number
  | c :: rest =>
    if !c.isDigit then .error "invalid digit found in string"
    else
      let next := 10 * number + (c.toNat - '0'.toNat)
      if 2 ^ 16 ≤ next then .error "number too large to fit in target type" else parseDigits next rest

/-- `u16::from_str`. -/
def parseU16 (text : String) : Except String Nat :=
  match text.toList with
  | [] => .error "cannot parse integer from empty string"
  | ['+'] => .error "invalid digit found in string"
  | '+' :: digits => parseDigits 0 digits
  | digits => parseDigits 0 digits

/-- A time of day is its minute. -/
def parseTelegramTimeOfDay (value : String) : Except String (Fin (24 * 60)) :=
  match Text.splitOnce ':' (Text.trim value) with
  | none => .error ("invalid time-of-day: " ++ value ++ ". expected HH:MM format, e.g. 23:00")
  | some (hour, minute) => do
    let hour ← parseU16 hour
    let minute ← parseU16 minute
    if outside : 24 ≤ hour ∨ 60 ≤ minute then
      .error ("invalid time-of-day: " ++ value ++ ". hour must be 0-23 and minute must be 0-59")
    else .ok ⟨hour * 60 + minute, by omega⟩

def parseTelegramQuietHours (value : String) : Except String TelegramQuietHours :=
  match Text.splitOnce '-' (Text.trim value) with
  | none => .error ("invalid telegram quiet hours: " ++ value ++ ". expected HH:MM-HH:MM format")
  | some (start, end_) => do
    let start ← parseTelegramTimeOfDay start
    let end_ ← parseTelegramTimeOfDay end_
    if same : start = end_ then .error "telegram quiet hours must have different start and end times"
    else .ok {
      startMinutes := start
      endMinutes := end_
      startRange := start.isLt
      endRange := end_.isLt
      distinct := fun equal => same (Fin.ext equal) }

/-- A number below 100. -/
def twoDigits (n : Nat) : List Char := [Nat.digitChar (n / 10), Nat.digitChar (n % 10)]

/-- `HH:MM`. -/
def timeText (minutes : Nat) : List Char := twoDigits (minutes / 60) ++ ':' :: twoDigits (minutes % 60)

/-- The option that names a window. -/
def TelegramQuietHours.text (quietHours : TelegramQuietHours) : String :=
  String.ofList (timeText quietHours.startMinutes ++ '-' :: timeText quietHours.endMinutes)

theorem parseU16_twoDigits {n : Nat} (small : n < 100) :
    parseU16 (String.ofList (twoDigits n)) = .ok n := by
  have all : ∀ n : Fin 100, parseU16 (String.ofList (twoDigits n)) = .ok n.val := by decide
  exact all ⟨n, small⟩

/-- A digit is neither a space nor one of the separators. -/
theorem digitChar_solid {d : Nat} (digit : d < 10) : Text.isWhitespace d.digitChar = false ∧
    d.digitChar ≠ ':' ∧ d.digitChar ≠ '-' := by
  have all : ∀ d : Fin 10, Text.isWhitespace d.val.digitChar = false ∧ d.val.digitChar ≠ ':' ∧
      d.val.digitChar ≠ '-' := by decide
  exact all ⟨d, digit⟩

theorem mem_twoDigits {n : Nat} (small : n < 100) {c : Char} (mem : c ∈ twoDigits n) :
    Text.isWhitespace c = false ∧ c ≠ ':' ∧ c ≠ '-' := by
  rcases List.mem_cons.mp mem with rfl | mem
  · exact digitChar_solid (by omega)
  · rw [List.mem_singleton.mp mem]
    exact digitChar_solid (by omega)

theorem parseTelegramTimeOfDay_timeText (minutes : Fin (24 * 60)) :
    parseTelegramTimeOfDay (String.ofList (timeText minutes)) = .ok minutes := by
  have hour : minutes.val / 60 < 24 := by omega
  have minute : minutes.val % 60 < 60 := by omega
  have solid := fun c mem => (mem_twoDigits (n := minutes.val / 60) (by omega) mem : _ ∧ c ≠ ':' ∧ _)
  have solid' := fun c mem => (mem_twoDigits (n := minutes.val % 60) (by omega) mem : _ ∧ c ≠ ':' ∧ _)
  have trimmed : Text.trim (String.ofList (timeText minutes)) = String.ofList (timeText minutes) := by
    exact Text.trim_of_solid [_, ':', _] (solid _ (by simp [twoDigits])).1
      (solid' _ (by simp [twoDigits])).1
  have cut : Text.splitOnce ':' (String.ofList (timeText minutes)) =
      some (String.ofList (twoDigits (minutes / 60)), String.ofList (twoDigits (minutes % 60))) :=
    Text.splitOnce_append (fun mem => (solid _ mem).2.1 rfl) _
  unfold parseTelegramTimeOfDay
  rw [trimmed, cut]
  simp only [parseU16_twoDigits (show minutes.val / 60 < 100 by omega),
    parseU16_twoDigits (show minutes.val % 60 < 100 by omega), bind, Except.bind]
  rw [dif_neg (by omega)]
  congr 1
  ext
  show minutes.val / 60 * 60 + minutes.val % 60 = minutes.val
  omega

theorem mem_timeText {minutes : Nat} (day : minutes < 24 * 60) {c : Char} (mem : c ∈ timeText minutes) :
    Text.isWhitespace c = false ∧ c ≠ '-' := by
  unfold timeText at mem
  rw [List.mem_append, List.mem_cons] at mem
  rcases mem with hour | rfl | minute
  · exact (mem_twoDigits (by omega) hour).imp id And.right
  · decide
  · exact (mem_twoDigits (by omega) minute).imp id And.right

theorem parseTelegramQuietHours_text (quietHours : TelegramQuietHours) :
    parseTelegramQuietHours quietHours.text = .ok quietHours := by
  obtain ⟨start, end_, startRange, endRange, distinct⟩ := quietHours
  have trimmed : Text.trim (TelegramQuietHours.text ⟨start, end_, startRange, endRange, distinct⟩) =
      TelegramQuietHours.text ⟨start, end_, startRange, endRange, distinct⟩ :=
    Text.trim_of_solid [_, ':', _, _, '-', _, _, ':', _]
      (mem_timeText startRange (by simp [timeText, twoDigits])).1
      (mem_timeText endRange (by simp [timeText, twoDigits])).1
  have cut : Text.splitOnce '-' (TelegramQuietHours.text ⟨start, end_, startRange, endRange, distinct⟩) =
      some (String.ofList (timeText start), String.ofList (timeText end_)) :=
    Text.splitOnce_append (fun mem => (mem_timeText startRange mem).2 rfl) _
  unfold parseTelegramQuietHours
  rw [trimmed, cut]
  simp only [parseTelegramTimeOfDay_timeText ⟨start, startRange⟩,
    parseTelegramTimeOfDay_timeText ⟨end_, endRange⟩, bind, Except.bind]
  rw [dif_neg]
  intro same
  exact distinct (Fin.ext_iff.mp same)

/-- How many minutes `later` comes after `earlier` on the clock. -/
def minutesAfter (earlier later : Nat) : Nat := (later + 24 * 60 - earlier) % (24 * 60)

theorem containsMinutesSinceMidnight_iff (quietHours : TelegramQuietHours) {minute : Nat}
    (day : minute < 24 * 60) : quietHours.containsMinutesSinceMidnight minute = true ↔
      minutesAfter quietHours.startMinutes minute <
        minutesAfter quietHours.startMinutes quietHours.endMinutes := by
  have startRange := quietHours.startRange
  have endRange := quietHours.endRange
  have distinct := quietHours.distinct
  unfold TelegramQuietHours.containsMinutesSinceMidnight minutesAfter
  split
  case isTrue ordered =>
    rw [Bool.and_eq_true, decide_eq_true_eq, decide_eq_true_eq]
    omega
  case isFalse wraps =>
    rw [Bool.or_eq_true, decide_eq_true_eq, decide_eq_true_eq]
    omega

/-- A window is read back from its text, and it is quiet from the start of the window until as many
minutes have gone as to its end, which is less than a day and more than none. -/
theorem quiet_hours_round_trip (quietHours : TelegramQuietHours) :
    parseTelegramQuietHours quietHours.text = .ok quietHours ∧
    (∀ minute < 24 * 60, quietHours.containsMinutesSinceMidnight minute = true ↔
      minutesAfter quietHours.startMinutes minute <
        minutesAfter quietHours.startMinutes quietHours.endMinutes) ∧
    quietHours.containsMinutesSinceMidnight quietHours.startMinutes = true ∧
    quietHours.containsMinutesSinceMidnight quietHours.endMinutes = false := by
  have startRange := quietHours.startRange
  have endRange := quietHours.endRange
  have distinct := quietHours.distinct
  refine ⟨parseTelegramQuietHours_text quietHours,
    fun minute day => containsMinutesSinceMidnight_iff quietHours day, ?_, ?_⟩
  · rw [containsMinutesSinceMidnight_iff quietHours startRange]
    unfold minutesAfter
    omega
  · rw [← Bool.not_eq_true, containsMinutesSinceMidnight_iff quietHours endRange]
    omega

/-! ## Templates -/

def normalizeChars : List Char → List Char
  | [] => []
  | '\\' :: 'n' :: rest => '\n' :: normalizeChars rest
  | '\\' :: 'r' :: rest => '\r' :: normalizeChars rest
  | '\\' :: 't' :: rest => '\t' :: normalizeChars rest
  | '\\' :: '\\' :: rest => '\\' :: normalizeChars rest
  | '\\' :: other :: rest => '\\' :: other :: normalizeChars rest
  | c :: rest => c :: normalizeChars rest

def normalizeTemplate (template : String) : String := String.ofList (normalizeChars template.toList)

/-- How a character is written in an option. -/
def escapeChar : Char → List Char
  | '\n' => ['\\', 'n']
  | '\r' => ['\\', 'r']
  | '\t' => ['\\', 't']
  | '\\' => ['\\', '\\']
  | c => [c]

def escapeTemplate (template : String) : String := String.ofList (template.toList.flatMap escapeChar)

theorem normalizeChars_cons {c : Char} (plain : c ≠ '\\') (rest : List Char) :
    normalizeChars (c :: rest) = c :: normalizeChars rest := by
  conv_lhs => unfold normalizeChars
  split <;> simp_all

theorem normalizeChars_escapeChar (c : Char) (rest : List Char) :
    normalizeChars (escapeChar c ++ rest) = c :: normalizeChars rest := by
  unfold escapeChar
  split
  case h_5 notN notR notT plain => exact normalizeChars_cons plain rest
  all_goals
    rw [List.cons_append, List.cons_append, List.nil_append]
    rfl

/-- Every template can be given as an option without control characters. -/
theorem template_round_trip (template : String) :
    normalizeTemplate (escapeTemplate template) = template ∧
      ∀ c ∈ (escapeTemplate template).toList, c ≠ '\n' ∧ c ≠ '\r' ∧ c ≠ '\t' := by
  constructor
  · have chars : ∀ text, normalizeChars (text.flatMap escapeChar) = text := by
      intro text
      induction text with
      | nil => rfl
      | cons c text ih => rw [List.flatMap_cons, normalizeChars_escapeChar, ih]
    unfold normalizeTemplate escapeTemplate
    rw [String.toList_ofList, chars, String.ofList_toList]
  · intro c mem
    unfold escapeTemplate at mem
    rw [String.toList_ofList, List.mem_flatMap] at mem
    obtain ⟨source, -, mem⟩ := mem
    unfold escapeChar at mem
    split at mem
    case h_5 notN notR notT _ =>
      rw [List.mem_singleton.mp mem]
      exact ⟨notN, notR, notT⟩
    all_goals
      simp only [List.mem_cons, List.not_mem_nil, or_false] at mem
      rcases mem with rfl | rfl <;> decide

/-! ## The configuration -/

/-- The fields of `Opts` that `from_opts` reads. -/
structure TelegramOpts where
  telegramBotToken : Option String := none
  telegramChatId : List String := []
  telegramNotifyEvents : List TelegramNotifyEvent := []
  telegramQuietHours : Option TelegramQuietHours := none
  telegramRateLimitSeconds : UInt64 := 0
  telegramTemplateConnectionFailed : Option String := none
  telegramTemplateConnectionRecovered : Option String := none
  telegramTemplateRankingChanged : Option String := none
  telegramTemplateQuietSummary : Option String := none
  telegramTemplateDailySummary : Option String := none
  telegramApiUrl : String := "https://api.telegram.org"

def trimmedOption (value : Option String) : Option String := (value.map Text.trim).filter (· ≠ "")

def trimmedValues (values : List String) : List String :=
  values.foldl (fun trimmed value =>
    let value := Text.trim value
    if value = "" || trimmed.contains value then trimmed else trimmed ++ [value]) []

/-- `trim_end_matches('/')`. -/
def trimEndSlashes (text : String) : String :=
  String.ofList (text.toList.reverse.dropWhile (· = '/')).reverse

def TelegramTemplates.fromOpts (opts : TelegramOpts) : TelegramTemplates where
  connectionFailed :=
    normalizeTemplate (opts.telegramTemplateConnectionFailed.getD defaultTemplates.connectionFailed)
  connectionRecovered :=
    normalizeTemplate (opts.telegramTemplateConnectionRecovered.getD defaultTemplates.connectionRecovered)
  rankingChanged :=
    normalizeTemplate (opts.telegramTemplateRankingChanged.getD defaultTemplates.rankingChanged)
  quietSummary := normalizeTemplate
    (opts.telegramTemplateQuietSummary.getD defaultTemplates.quietSummary)
  dailySummary := normalizeTemplate
    (opts.telegramTemplateDailySummary.getD defaultTemplates.dailySummary)

def TelegramConfig.fromOpts (opts : TelegramOpts) : Except String (Option TelegramConfig) :=
  let chatIds := trimmedValues opts.telegramChatId
  match trimmedOption opts.telegramBotToken, chatIds.isEmpty with
  | none, true => .ok none
  | some _, true => .error "at least one telegram chat id is required when telegram bot token is set"
  | none, false => .error "telegram bot token is required when telegram chat id is set"
  | some botToken, false =>
    let apiUrl := trimEndSlashes (Text.trim opts.telegramApiUrl)
    if apiUrl = "" then
      .error "telegram api url cannot be empty when telegram notifications are enabled"
    else .ok (some {
      botToken
      chatIds
      enabledEvents := .fromOpts opts.telegramNotifyEvents
      quietHours := opts.telegramQuietHours
      rateLimit := opts.telegramRateLimitSeconds.toNat * 10 ^ 9
      templates := .fromOpts opts
      apiUrl })

/-- A chat is named by an option that is not blank. -/
def Named (opts : TelegramOpts) (chatId : String) : Prop :=
  chatId ≠ "" ∧ ∃ value ∈ opts.telegramChatId, Text.trim value = chatId

theorem trimmedValues_spec (values : List String) : (trimmedValues values).Nodup ∧
    ∀ text, text ∈ trimmedValues values ↔ text ≠ "" ∧ ∃ value ∈ values, Text.trim value = text := by
  unfold trimmedValues
  induction values using List.reverseRecOn with
  | nil => simp
  | append_singleton values value ih =>
    obtain ⟨distinct, mem⟩ := ih
    rw [List.foldl_append, List.foldl_cons, List.foldl_nil]
    dsimp only
    split
    case isTrue known =>
      refine ⟨distinct, fun text => ?_⟩
      rw [mem]
      constructor
      · rintro ⟨nonempty, value', inside, same⟩
        exact ⟨nonempty, value', List.mem_append_left _ inside, same⟩
      · rintro ⟨nonempty, value', inside, rfl⟩
        rcases List.mem_append.mp inside with old | last
        · exact ⟨nonempty, value', old, rfl⟩
        · obtain rfl := List.mem_singleton.mp last
          have there := (mem (Text.trim value')).mp (by simpa [nonempty] using known)
          exact there
    case isFalse fresh =>
      rw [Bool.or_eq_true, decide_eq_true_eq, List.contains_iff_mem, not_or] at fresh
      refine ⟨List.nodup_append.mpr ⟨distinct, List.nodup_singleton _, ?_⟩, fun text => ?_⟩
      · intro a old b last same
        rw [List.mem_singleton.mp last] at same
        exact fresh.2 (same ▸ old)
      · rw [List.mem_append, mem, List.mem_singleton]
        constructor
        · rintro (⟨nonempty, value', inside, same⟩ | rfl)
          · exact ⟨nonempty, value', List.mem_append_left _ inside, same⟩
          · exact ⟨fresh.1, value, by simp, rfl⟩
        · rintro ⟨nonempty, value', inside, same⟩
          rcases List.mem_append.mp inside with old | last
          · exact .inl ⟨nonempty, value', old, same⟩
          · rw [List.mem_singleton.mp last] at same
            exact .inr same.symm

theorem chatIds_fromOpts {opts : TelegramOpts} {config : TelegramConfig}
    (configured : TelegramConfig.fromOpts opts = .ok (some config)) :
    config.chatIds.Nodup ∧ ∀ chatId, chatId ∈ config.chatIds ↔ Named opts chatId := by
  unfold TelegramConfig.fromOpts at configured
  dsimp only at configured
  split at configured
  case h_4 =>
    split at configured <;> cases configured
    exact trimmedValues_spec opts.telegramChatId
  all_goals cases configured

end ChainDash.Notify
