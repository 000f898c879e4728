import ChainDash.App.Widgets
import ChainDash.Lib.DirtyWake
import ChainDash.Lib.Lts

/-!
# The UI loop and its wake-ups

The collectors' operations on the shared data interleaved with the UI thread: it
receives a wake token, takes the dirty flags and updates the flagged widgets one by one,
or handles a Tab key. The loop is an instance of dirty flags behind a one-slot channel
(`UiLoop.abs`, `UiLoop.step_sim`), and what holds of those holds of it
(`no_lost_wakeup`).
-/

namespace ChainDash.App
set_option autoImplicit false

open Collect

/-- Where the UI thread stands; `updating` holds the widgets still to update. -/
inductive UiPhase where
  | idle
  | woken
  | updating (rest : List WidgetName)
  deriving DecidableEq

structure UiLoop where
  data : Data
  widgets : Widgets
  phase : UiPhase

/-- The widgets that `refresh_dirty_widgets` updates, in order. -/
def dirtyWidgets (dirty : UiDirtyState) : List WidgetName :=
  (if dirty.chain then [.txs, .time] else []) ++ (if dirty.nodeState then [.node] else []) ++
    (if dirty.nodeDetails then [.nodeDetails] else []) ++
    (if dirty.system then [.systemSummary, .diskList] else [])

/-- `switch_disk_selection` under the lock: the data with another disk selected, or
`none` when the selection stays. -/
def switchDiskSelection (data : Data) (nextIndex : Nat → Nat → Nat) : Option Data :=
  let diskCount := data.system.stats.diskDetails.length
  if diskCount ≤ 1 then none
  else
    let currentIndex := data.system.stats.currentDiskIndex
    let next := nextIndex currentIndex diskCount
    if next = currentIndex then none else some (data.updateDiskIndex next)

def handleTabKey (data : Data) : Option Data :=
  switchDiskSelection data fun currentIndex diskCount => (currentIndex + 1) % diskCount

def handleShiftTabKey (data : Data) : Option Data :=
  switchDiskSelection data fun currentIndex diskCount =>
    if currentIndex = 0 then diskCount - 1 else currentIndex - 1

/-- A step of a collector (`produce`), or of the UI thread at one lock section. A redraw
ends a round of updates or comes on its own, and expires the status message. -/
inductive Event where
  | produce (op : DataOp)
  | receive
  | take
  | update
  | redraw (now : Nat)
  | tab
  | shiftTab

namespace UiLoop

/-- The UI thread after a key press: the disk list is refreshed if the selection moved. -/
def select (loop : UiLoop) (switched : Option Data) : UiLoop :=
  match switched with
  | none => loop
  | some data => { loop with data, phase := .updating [.diskList] }

def step (loop : UiLoop) : Event → Option UiLoop
  | .produce op => some { loop with data := op.apply loop.data }
  | .receive =>
    match loop.phase, loop.data.uiWaker with
    | .idle, some true =>
      some { loop with data := { loop.data with uiWaker := some false }, phase := .woken }
    | _, _ => none
  | .take =>
    match loop.phase with
    | .woken =>
      let (dirty, data) := loop.data.takeUiDirty
      some { loop with data, phase := .updating (dirtyWidgets dirty) }
    | _ => none
  | .update =>
    match loop.phase with
    | .updating (name :: rest) =>
      let (widgets, data) := loop.widgets.update loop.data name
      some { data, widgets, phase := .updating rest }
    | _ => none
  | .redraw now =>
    match loop.phase with
    | .idle => some { loop with data := loop.data.expireStatusMessageIfNeeded now }
    | .updating [] =>
      some { loop with data := loop.data.expireStatusMessageIfNeeded now, phase := .idle }
    | _ => none
  | .tab =>
    match loop.phase with
    | .idle => some (loop.select (handleTabKey loop.data))
    | _ => none
  | .shiftTab =>
    match loop.phase with
    | .idle => some (loop.select (handleShiftTabKey loop.data))
    | _ => none

/-- New widgets and data, the waker installed, and the initial `update_widgets` ahead:
every widget is due at second 0. -/
def start : UiLoop where
  data := ({} : Data).setUiWaker
  widgets := {}
  phase := .updating [.txs, .time, .node, .nodeDetails, .systemSummary, .diskList]

end UiLoop

/-! ## The loop as an instance of dirty flags behind a channel -/

/-- What the screen shows: the widgets, and the status bar, which is drawn straight from
the data. -/
inductive View where
  | widget (name : WidgetName)
  | statusBar
  deriving DecidableEq

def View.part : View → Part
  | .widget name => name.part
  | .statusBar => .status

def UiPhase.abs : UiPhase → DirtyWake.Phase View
  | .idle => .idle
  | .woken => .woken
  | .updating rest => .refreshing {view | ∃ name ∈ rest, view = .widget name}

def staleViews (widgets : Widgets) (data : Data) : Set View :=
  {view | ∃ name, view = .widget name ∧ ¬ widgets.Fresh data name}

def UiLoop.abs (loop : UiLoop) : DirtyWake.State View where
  stale := staleViews loop.widgets loop.data
  dirty := {view | loop.data.uiDirty.get view.part = true}
  token := loop.data.uiWaker = some true
  phase := loop.phase.abs

/-- A flagged part means its widgets are updated. -/
theorem mem_dirtyWidgets {dirty : UiDirtyState} {name : WidgetName} :
    name ∈ dirtyWidgets dirty ↔ dirty.get name.part = true := by
  cases name <;> simp [dirtyWidgets, UiDirtyState.get, WidgetName.part]

/-- A write of one part makes stale at most the widgets of that part. -/
theorem staleViews_rest {widgets : Widgets} {data data' : Data} {part : Part}
    (rest : ∀ part', part' ≠ part → data.SameIn data' part') :
    staleViews widgets data' ⊆ staleViews widgets data ∪ {view | view.part = part} := by
  rintro _ ⟨name, rfl, stale⟩
  by_cases own : name.part = part
  · exact .inr own
  · exact .inl ⟨name, rfl, fun fresh => stale ((Widgets.fresh_congr (rest _ own)).mpr fresh)⟩

/-- A change of the status message alone makes nothing stale. -/
theorem staleViews_status {widgets : Widgets} {data data' : Data}
    (rest : ∀ part', part' ≠ .status → data.SameIn data' part') :
    staleViews widgets data' = staleViews widgets data := by
  ext view
  have keep (name : WidgetName) : widgets.Fresh data' name ↔ widgets.Fresh data name :=
    Widgets.fresh_congr (rest _ (by cases name <;> decide))
  simp only [staleViews, keep, Set.mem_ofPred_eq]

/-- Every part is shown by some view. -/
theorem exists_view (part : Part) : ∃ view : View, view.part = part := by
  cases part
  · exact ⟨.widget .txs, rfl⟩
  · exact ⟨.widget .node, rfl⟩
  · exact ⟨.widget .nodeDetails, rfl⟩
  · exact ⟨.statusBar, rfl⟩
  · exact ⟨.widget .diskList, rfl⟩

namespace UiLoop

variable {loop loop' : UiLoop}

theorem produce_sim (installed : loop.data.uiWaker.isSome) (op : DataOp) :
    let data := op.apply loop.data
    { loop with data } = loop ∨ DirtyWake.Step loop.abs { loop with data }.abs := by
  rcases op.apply_cases loop.data with same | ⟨part, marked⟩
  · left
    rw [same]
  · right
    refine .write {view | view.part = part} (staleViews_rest marked.rest) ?_ ?_ rfl
    · ext view
      simp [abs, marked.flag]
    · intro _
      obtain ⟨pending, found⟩ := Option.isSome_iff_exists.mp installed
      simp [abs, marked.waker, found]

theorem update_sim {name : WidgetName} {rest : List WidgetName}
    (at_ : loop.phase = .updating (name :: rest)) :
    let after := loop.widgets.update loop.data name
    DirtyWake.Step loop.abs (abs ⟨after.2, after.1, .updating rest⟩) := by
  obtain ⟨dirty, waker⟩ := @Widgets.update_data loop.widgets loop.data name
  refine .refresh (.widget name) {view | ∃ name ∈ rest, view = .widget name} ?_ ?_ ?_ ?_ rfl
  · simp only [abs, at_, UiPhase.abs, DirtyWake.Phase.refreshing.injEq]
    ext view
    simp [or_and_right, exists_or]
  · rintro _ ⟨other, rfl, stale⟩
    have different : other ≠ name := by
      rintro rfl
      exact stale (Widgets.fresh_update _)
    constructor
    · refine ⟨other, rfl, ?_⟩
      intro fresh
      exact stale ((Widgets.fresh_update_other different).mpr fresh)
    · simpa using different
  · simp only [abs, dirty]
  · simp only [abs, waker]
    exact id

/-- Another disk selected: the disk list is stale, and the summary does not show it. -/
theorem select_sim (rests : loop.phase = .idle) {switched : Option Data} {data : Data} {index : Nat}
    (h : switched = some data) (moved : data = loop.data.updateDiskIndex index) :
    DirtyWake.Step loop.abs (loop.select switched).abs := by
  subst h moved
  refine .select {.widget .diskList} ?_ ?_ rfl id ?_
  · simp [abs, rests, UiPhase.abs]
  · rintro _ ⟨name, rfl, stale⟩
    by_cases own : name = .diskList
    · right
      simp [own]
    · left
      refine ⟨name, rfl, ?_⟩
      intro fresh
      apply stale
      cases name <;> first | exact absurd rfl own | exact fresh
  · simp [abs, select, UiPhase.abs]

theorem switch_cases {data data' : Data} {nextIndex : Nat → Nat → Nat}
    (h : switchDiskSelection data nextIndex = some data') :
    ∃ index, data' = data.updateDiskIndex index := by
  simp only [switchDiskSelection] at h
  split at h
  · cases h
  · split at h
    · cases h
    · exact ⟨_, (Option.some.inj h).symm⟩

theorem receive_sim (rests : loop.phase = .idle) (token : loop.data.uiWaker = some true) :
    DirtyWake.Step loop.abs
      { loop with data := { loop.data with uiWaker := some false }, phase := .woken }.abs := by
  refine .receive ?_ token ?_ rfl rfl
  · simp [abs, rests, UiPhase.abs]
  · ext view
    have keep (name : WidgetName) : loop.widgets.Fresh { loop.data with uiWaker := some false } name ↔
        loop.widgets.Fresh loop.data name := Widgets.fresh_congr (by cases name <;> rfl)
    simp only [abs, staleViews, keep]

theorem take_sim (holds : loop.phase = .woken) :
    DirtyWake.Step loop.abs { loop with
      data := loop.data.takeUiDirty.2
      phase := .updating (dirtyWidgets loop.data.takeUiDirty.1) }.abs := by
  refine .take {view | ∃ name ∈ dirtyWidgets loop.data.uiDirty, view = .widget name} ?_ ?_ ?_ ?_ rfl
  · simp [abs, holds, UiPhase.abs]
  · rintro _ ⟨⟨name, rfl, -⟩, marked⟩
    exact ⟨name, mem_dirtyWidgets.mpr marked, rfl⟩
  · ext view
    have keep (name : WidgetName) : loop.widgets.Fresh loop.data.takeUiDirty.2 name ↔
        loop.widgets.Fresh loop.data name := Widgets.fresh_congr (by cases name <;> rfl)
    simp only [abs, staleViews, keep]
  · ext view
    simp [abs, Data.takeUiDirty]

/-- An expired status message leaves every view as it was. -/
theorem expire_abs (now : Nat) :
    { loop with data := loop.data.expireStatusMessageIfNeeded now }.abs = loop.abs := by
  have stale : staleViews loop.widgets (loop.data.expireStatusMessageIfNeeded now) =
      staleViews loop.widgets loop.data :=
    staleViews_status fun part other => by cases part <;> first | exact absurd rfl other | rfl
  simp only [abs, stale]
  rfl

theorem finish_sim (done : loop.phase = .updating []) (now : Nat) :
    DirtyWake.Step loop.abs
      { loop with data := loop.data.expireStatusMessageIfNeeded now, phase := .idle }.abs := by
  have same := congrArg DirtyWake.State.stale (@expire_abs loop now)
  refine .finish ?_ same rfl id rfl
  simp [abs, done, UiPhase.abs]

/-- A key press leaves the loop as it is, or selects another disk. -/
theorem key_sim (rests : loop.phase = .idle) (nextIndex : Nat → Nat → Nat) :
    (loop.select (switchDiskSelection loop.data nextIndex)).abs = loop.abs ∨
      DirtyWake.Step loop.abs (loop.select (switchDiskSelection loop.data nextIndex)).abs := by
  cases switched : switchDiskSelection loop.data nextIndex with
  | none => exact .inl rfl
  | some data =>
    obtain ⟨index, moved⟩ := switch_cases switched
    exact .inr (select_sim rests rfl moved)

/-- Every step of the loop is one of the abstract system, or shows nothing there. -/
theorem step_sim (installed : loop.data.uiWaker.isSome) {event : Event}
    (h : loop.step event = some loop') :
    loop'.abs = loop.abs ∨ DirtyWake.Step loop.abs loop'.abs := by
  cases event with
  | produce op =>
    cases h
    exact (produce_sim installed op).imp (congrArg abs) id
  | receive =>
    simp only [step] at h
    split at h
    case h_1 rests token =>
      cases h
      exact .inr (receive_sim rests token)
    case h_2 => cases h
  | take =>
    simp only [step] at h
    split at h
    case h_1 holds =>
      cases h
      exact .inr (take_sim holds)
    case h_2 => cases h
  | update =>
    simp only [step] at h
    split at h
    case h_1 name rest at_ =>
      cases h
      exact .inr (update_sim at_)
    case h_2 => cases h
  | redraw now =>
    simp only [step] at h
    split at h
    case h_1 rests =>
      cases h
      exact .inl (expire_abs now)
    case h_2 done =>
      cases h
      exact .inr (finish_sim done now)
    case h_3 => cases h
  | tab =>
    simp only [step] at h
    split at h
    case h_1 rests =>
      cases h
      exact key_sim rests _
    case h_2 => cases h
  | shiftTab =>
    simp only [step] at h
    split at h
    case h_1 rests =>
      cases h
      exact key_sim rests _
    case h_2 => cases h

/-- An installed waker stays installed. -/
theorem step_installed (installed : loop.data.uiWaker.isSome) {event : Event}
    (h : loop.step event = some loop') : loop'.data.uiWaker.isSome := by
  have key (nextIndex : Nat → Nat → Nat) :
      (loop.select (switchDiskSelection loop.data nextIndex)).data.uiWaker.isSome := by
    cases switched : switchDiskSelection loop.data nextIndex with
    | none => exact installed
    | some data =>
      obtain ⟨index, rfl⟩ := switch_cases switched
      exact installed
  cases event with
  | produce op =>
    cases h
    rcases op.apply_cases loop.data with same | ⟨part, marked⟩
    · rwa [same]
    · simpa [marked.waker] using installed
  | receive =>
    simp only [step] at h
    split at h <;> cases h
    rfl
  | take =>
    simp only [step] at h
    split at h <;> cases h
    exact installed
  | update =>
    simp only [step] at h
    split at h <;> cases h
    simpa [(Widgets.update_data _).2] using installed
  | redraw now =>
    simp only [step] at h
    split at h <;> cases h <;> exact installed
  | tab =>
    simp only [step] at h
    split at h <;> cases h
    exact key _
  | shiftTab =>
    simp only [step] at h
    split at h <;> cases h
    exact key _

theorem start_inv : DirtyWake.Inv start.abs := by
  constructor
  · rintro ⟨view, marked⟩
    simp [start, abs, Data.setUiWaker] at marked
  · rintro _ ⟨name, rfl, -⟩
    right
    simp only [start, abs, UiPhase.abs, DirtyWake.Phase.pending_refreshing, Set.mem_ofPred_eq]
    exact ⟨name, by cases name <;> decide, rfl⟩

theorem inv_of_run {events : List Event} (run : Lts.run step start events = some loop) :
    loop.data.uiWaker.isSome ∧ DirtyWake.Inv loop.abs := by
  refine Lts.run_invariant (I := fun _ loop => loop.data.uiWaker.isSome ∧ DirtyWake.Inv loop.abs)
    ⟨rfl, start_inv⟩ ?_ run
  rintro _ before event after ⟨installed, inv⟩ stepped
  refine ⟨step_installed installed stepped, ?_⟩
  rcases step_sim installed stepped with same | moved
  · rwa [same]
  · exact inv.step moved

/-- In every interleaving of collectors and UI, a dirty flag has a wake token pending or
received, and at rest with no token pending every widget holds what it would load. -/
theorem no_lost_wakeup {events : List Event} (run : Lts.run step start events = some loop) :
    (loop.data.uiDirty.any = true → loop.data.uiWaker = some true ∨ loop.phase = .woken) ∧
    (loop.phase = .idle → loop.data.uiWaker ≠ some true →
      ∀ name, loop.widgets.Fresh loop.data name) := by
  obtain ⟨-, inv⟩ := inv_of_run run
  constructor
  · intro flagged
    obtain ⟨part, flag⟩ := (UiDirtyState.any_iff _).mp flagged
    obtain ⟨view, rfl⟩ := exists_view part
    rcases inv.wake ⟨view, flag⟩ with token | woken
    · exact .inl token
    · right
      cases phase : loop.phase <;> simp [abs, phase, UiPhase.abs] at woken ⊢
  · intro rests empty name
    have fresh := inv.quiescent (by simp [abs, rests, UiPhase.abs]) empty
    by_contra stale
    have inside : View.widget name ∈ loop.abs.stale := ⟨name, rfl, stale⟩
    rw [fresh] at inside
    exact inside

/-- A block sample recorded between the updates of the two charts. -/
theorem no_lost_wakeup_sample : ∃ loop,
    Lts.run step start [.update, .update, .update, .update, .update, .update, .redraw 0,
      .produce (.recordBlockSample 1 100 5), .receive, .take, .update,
      .produce (.recordBlockSample 2 101 7), .update, .redraw 0,
      .receive, .take, .update, .update, .redraw 0] = some loop ∧
    loop.data.chain.maxTxs = 7 ∧ ∀ name, loop.widgets.Fresh loop.data name := by
  have ends : (Lts.run step start [.update, .update, .update, .update, .update, .update, .redraw 0,
      .produce (.recordBlockSample 1 100 5), .receive, .take, .update,
      .produce (.recordBlockSample 2 101 7), .update, .redraw 0,
      .receive, .take, .update, .update, .redraw 0]).map
        (fun loop => (loop.phase, loop.data.uiWaker, loop.data.chain.maxTxs)) =
      some (.idle, some false, 7) := by decide
  obtain ⟨loop, run, final⟩ := Option.map_eq_some_iff.mp ends
  simp only [Prod.mk.injEq] at final
  obtain ⟨rests, empty, peak⟩ := final
  exact ⟨loop, run, peak, (no_lost_wakeup run).2 rests (by simp [empty])⟩

end UiLoop

end ChainDash.App
