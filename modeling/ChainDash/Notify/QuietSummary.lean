import Mathlib.Data.List.Induction
import Mathlib.Data.List.ReduceOption
import ChainDash.Notify.Events

/-!
# The quiet-hours buffer

Notifications that fall into quiet hours are counted in a `QuietSummaryBuffer`, with
one bucket for each kind, until the buffer is taken as a `QuietSummarySnapshot`.
`recordAll_eq` gives the buffer as a function of the events recorded, and
`takeSnapshot_recordAll` the snapshot taken after them.
-/

namespace ChainDash.Notify
set_option autoImplicit false

def quietSummaryPreviewLimit : Nat := 3

structure QuietSummaryBucket where
  count : Nat := 0
  names : List String := []
  deriving DecidableEq

/-- Count a notification, and keep its name if it is new and there is room. -/
def QuietSummaryBucket.record (bucket : QuietSummaryBucket) (name : String) : QuietSummaryBucket :=
  let count := bucket.count + 1
  if quietSummaryPreviewLimit ≤ bucket.names.length || bucket.names.contains name then
    { bucket with count }
  else
    { count, names := bucket.names ++ [name] }

def QuietSummaryBucket.renderLine (bucket : QuietSummaryBucket) (label : String) : Option String :=
  if bucket.count = 0 then none
  else if bucket.names.isEmpty then
    some (label ++ " " ++ toString bucket.count ++ " 次")
  else
    some (label ++ " " ++ toString bucket.count ++ " 次：" ++ ", ".intercalate bucket.names)

structure QuietSummarySnapshot where
  totalCount : Nat
  details : String
  deriving DecidableEq

structure QuietSummaryBuffer where
  totalCount : Nat := 0
  connectionFailed : QuietSummaryBucket := {}
  connectionRecovered : QuietSummaryBucket := {}
  rankingChanged : QuietSummaryBucket := {}
  deriving DecidableEq

namespace QuietSummaryBuffer

def record (buffer : QuietSummaryBuffer) (event : NotificationEventKind) (subject : String) :
    QuietSummaryBuffer :=
  let totalCount := buffer.totalCount + 1
  match event with
  | .connectionFailed =>
    { buffer with totalCount, connectionFailed := buffer.connectionFailed.record subject }
  | .connectionRecovered =>
    { buffer with totalCount, connectionRecovered := buffer.connectionRecovered.record subject }
  | .rankingChanged =>
    { buffer with totalCount, rankingChanged := buffer.rankingChanged.record subject }
  | .dailySummary => { buffer with totalCount }

def renderSnapshot (buffer : QuietSummaryBuffer) : Option QuietSummarySnapshot :=
  if buffer.totalCount = 0 then none
  else
    let lines := [buffer.connectionFailed.renderLine "连接失败",
      buffer.connectionRecovered.renderLine "连接恢复",
      buffer.rankingChanged.renderLine "排名变化"].reduceOption
    some { totalCount := buffer.totalCount, details := "\n".intercalate lines }

/-- The snapshot, and the buffer left behind (`std::mem::take`). -/
def takeSnapshot (buffer : QuietSummaryBuffer) : Option QuietSummarySnapshot × QuietSummaryBuffer :=
  (buffer.renderSnapshot, {})

end QuietSummaryBuffer

/-! ## The buffer as a function of the events recorded -/

/-- The names a preview of the events' subjects shows. -/
def firstDistinct (subjects : List String) : List String :=
  subjects.eraseDups.take quietSummaryPreviewLimit

theorem eraseDups_snoc {α : Type*} [DecidableEq α] (xs : List α) (x : α) :
    (xs ++ [x]).eraseDups = if x ∈ xs then xs.eraseDups else xs.eraseDups ++ [x] := by
  rw [List.eraseDups_append]
  by_cases h : x ∈ xs
  · simp [List.removeAll, h]
  · simp [List.removeAll, h, List.eraseDups_cons]

/-- A full preview, and one that shows the name already, take no further name. -/
theorem firstDistinct_snoc (subjects : List String) (name : String) :
    firstDistinct (subjects ++ [name]) =
      if quietSummaryPreviewLimit ≤ (firstDistinct subjects).length ∨ name ∈ firstDistinct subjects
      then firstDistinct subjects else firstDistinct subjects ++ [name] := by
  unfold firstDistinct
  rw [eraseDups_snoc, List.length_take]
  by_cases full : quietSummaryPreviewLimit ≤ subjects.eraseDups.length
  · rw [if_pos (Or.inl (by omega))]
    split
    · rfl
    · rw [List.take_append_of_le_length full]
  · rw [List.take_of_length_le (l := subjects.eraseDups) (by omega)]
    simp only [List.mem_eraseDups]
    by_cases old : name ∈ subjects
    · simp only [old, if_true, or_true]
      exact List.take_of_length_le (by omega)
    · rw [if_neg old, if_neg (by simp only [old, or_false]; omega)]
      exact List.take_of_length_le (by simp; omega)

/-- A bucket after the given notifications. -/
def QuietSummaryBucket.ofSubjects (subjects : List String) : QuietSummaryBucket :=
  { count := subjects.length, names := firstDistinct subjects }

theorem QuietSummaryBucket.record_ofSubjects (subjects : List String) (name : String) :
    (ofSubjects subjects).record name = ofSubjects (subjects ++ [name]) := by
  unfold record ofSubjects
  rw [firstDistinct_snoc, List.length_append, List.length_singleton]
  by_cases keep : quietSummaryPreviewLimit ≤ (firstDistinct subjects).length ∨
      name ∈ firstDistinct subjects
  · rw [if_pos keep, if_pos (by simpa using keep)]
  · rw [if_neg keep, if_neg (by simpa using keep)]

/-- A buffered notification: its kind and its subject. -/
abbrev Buffered := NotificationEventKind × String

/-- The subjects of one kind, in order of arrival. -/
def subjectsOf (kind : NotificationEventKind) (events : List Buffered) : List String :=
  (events.filter (·.1 = kind)).map (·.2)

@[simp] theorem subjectsOf_nil (kind : NotificationEventKind) : subjectsOf kind [] = [] := rfl

theorem subjectsOf_snoc (kind : NotificationEventKind) (events : List Buffered) (event : Buffered) :
    subjectsOf kind (events ++ [event]) =
      if event.1 = kind then subjectsOf kind events ++ [event.2] else subjectsOf kind events := by
  unfold subjectsOf
  rw [List.filter_append, List.map_append]
  by_cases same : event.1 = kind
  · simp [same]
  · simp [same]

namespace QuietSummaryBuffer

/-- The buffer after the given events. -/
def recordAll (events : List Buffered) : QuietSummaryBuffer :=
  events.foldl (fun buffer event => buffer.record event.1 event.2) {}

@[simp] theorem recordAll_nil : recordAll [] = {} := rfl

theorem recordAll_snoc (events : List Buffered) (event : Buffered) :
    recordAll (events ++ [event]) = (recordAll events).record event.1 event.2 := by
  simp [recordAll]

theorem recordAll_eq (events : List Buffered) :
    recordAll events =
      { totalCount := events.length
        connectionFailed := .ofSubjects (subjectsOf .connectionFailed events)
        connectionRecovered := .ofSubjects (subjectsOf .connectionRecovered events)
        rankingChanged := .ofSubjects (subjectsOf .rankingChanged events) } := by
  induction events using List.reverseRecOn with
  | nil => rfl
  | append_singleton events event ih =>
    obtain ⟨kind, subject⟩ := event
    rw [recordAll_snoc, ih]
    simp only [subjectsOf_snoc, List.length_append, List.length_singleton]
    cases kind <;> simp [record, QuietSummaryBucket.record_ofSubjects]

end QuietSummaryBuffer

theorem firstDistinct_eq_nil {subjects : List String} : firstDistinct subjects = [] ↔ subjects = [] := by
  cases subjects with
  | nil => simp [firstDistinct]
  | cons s rest => simp [firstDistinct, List.eraseDups_cons, quietSummaryPreviewLimit]

/-- The line of a kind in the summary of the given events, if there is one. -/
def summaryLine (events : List Buffered) (kind : NotificationEventKind) (label : String) :
    Option String :=
  let subjects := subjectsOf kind events
  if subjects = [] then none
  else some (label ++ " " ++ toString subjects.length ++ " 次：" ++
    ", ".intercalate (firstDistinct subjects))

theorem QuietSummaryBucket.renderLine_ofSubjects (events : List Buffered)
    (kind : NotificationEventKind) (label : String) :
    (ofSubjects (subjectsOf kind events)).renderLine label = summaryLine events kind label := by
  unfold renderLine summaryLine ofSubjects
  simp only [List.length_eq_zero_iff, List.isEmpty_iff, firstDistinct_eq_nil]
  split <;> rfl

/-- The summary of the given events: one line for each kind that occurs. -/
def summaryOf (events : List Buffered) : QuietSummarySnapshot :=
  { totalCount := events.length
    details := "\n".intercalate
      [summaryLine events .connectionFailed "连接失败", summaryLine events .connectionRecovered "连接恢复",
        summaryLine events .rankingChanged "排名变化"].reduceOption }

/-- A snapshot is taken of a buffer that is not empty, and it is the summary of the
events recorded. -/
theorem QuietSummaryBuffer.takeSnapshot_recordAll (events : List Buffered) :
    (recordAll events).takeSnapshot = (if events = [] then none else some (summaryOf events), {}) := by
  rw [recordAll_eq]
  unfold takeSnapshot renderSnapshot summaryOf
  simp only [QuietSummaryBucket.renderLine_ofSubjects, List.length_eq_zero_iff]

example : (QuietSummaryBuffer.recordAll [(.connectionFailed, "main"), (.connectionFailed, "backup"),
    (.rankingChanged, "验证节点A")]).takeSnapshot.1 =
    some ⟨3, "连接失败 2 次：main, backup\n排名变化 1 次：验证节点A"⟩ := by decide

end ChainDash.Notify
