import ChainDash.App.UiLoop

/-!
# The event loop and the screen

The event loop of `main`: the wake-ups of the collectors, the ticks, the keys and the news of
the geo store, each followed by a draw where something changed. A draw expires the status
message under the lock and paints what the widgets hold, with the status message as it is by
then; the collectors run in between. At rest with no wake-up pending the screen shows the
shared data (`screen_current`), and no draw shows a message that had expired when the draw
began (`shown_unexpired`). The panel of the countries is none of the widgets here: it loads from
the geo store, not from the shared data, and after a failed read shows what it had.
-/

namespace ChainDash.App
set_option autoImplicit false

open Collect

/-- The keys that the loop tells apart. -/
inductive KeyCode where
  | char (c : Char)
  | tab
  | backTab
  | other
  deriving DecidableEq

structure KeyModifiers where
  shift : Bool := false
  control : Bool := false
  alt : Bool := false
  superKey : Bool := false
  hyper : Bool := false
  metaKey : Bool := false
  deriving DecidableEq

structure KeyEvent where
  code : KeyCode
  modifiers : KeyModifiers := {}

inductive TerminalEvent where
  | key (keyEvent : KeyEvent)
  | resize
  | other

def isQuitKey (keyEvent : KeyEvent) : Bool :=
  keyEvent.code = .char 'q' && keyEvent.modifiers = {}

def isCtrlC (keyEvent : KeyEvent) : Bool :=
  keyEvent.code = .char 'c' && keyEvent.modifiers = { control := true }

def isTab (keyEvent : KeyEvent) : Bool := keyEvent.code = .tab && keyEvent.modifiers = {}

def isShiftTab (keyEvent : KeyEvent) : Bool :=
  keyEvent.code = .backTab || keyEvent.code = .tab && keyEvent.modifiers = { shift := true }

/-- `UiAction`; a redraw after the selection moved comes with the data. -/
inductive UiAction where
  | none
  | select (data : Data)
  | redraw
  | exit

def UiAction.ofSwitch (switched : Option Data) : UiAction := switched.elim .none .select

def handleUiEvent (data : Data) : TerminalEvent → UiAction
  | .key keyEvent =>
    if isShiftTab keyEvent then .ofSwitch (handleShiftTabKey data)
    else if isQuitKey keyEvent then .exit
    else if isTab keyEvent then .ofSwitch (handleTabKey data)
    else if isCtrlC keyEvent then .exit
    else .none
  | .resize => .redraw
  | .other => .none

/-- What the terminal shows, from a draw that began at `measuredAt`. -/
structure DrawnScreen where
  widgets : Widgets
  status : Option StatusMessage
  measuredAt : Nat

/-- Where `draw_app` stands: before its first lock section, or before the second, with the screen
to be cleared or not. -/
inductive Drawing where
  | none
  | measuring
  | painting (clearBeforeDraw : Bool) (now : Nat)
  deriving DecidableEq

/-- `redraw` is the `should_redraw` of the updates under way, `drawState` the visibility of the
status bar that the last draw found, and `ended` the exit error, once the loop has ended. -/
structure MainLoop where
  ui : UiLoop := .start
  redraw : Bool := true
  drawing : Drawing := .none
  drawState : Option Bool := none
  geoSnapshotRetry : Bool := false
  screen : Option DrawnScreen := none
  ended : Option (Option String) := none

inductive MainEvent where
  /-- A collector changes the shared data. -/
  | produce (op : DataOp)
  /-- The UI thread at one of its lock sections. -/
  | receive
  | take
  | update
  | measure (now : Nat)
  | paint (outcome : Except String Unit)
  /-- What `select!` receives otherwise: a Ctrl-C or the end of a channel, a tick, a terminal
  event, and the geo ticks and news with the outcome of the read that they cause. -/
  | interrupt
  | tick
  | terminal (event : TerminalEvent)
  | geoRetry (read : Bool)
  | geoUpdate (read : Bool)

/-- `App::needs_periodic_redraw`. -/
def needsPeriodicRedraw (ui : UiLoop) : Bool :=
  !ui.widgets.nodeDetails.nodeDetails.isEmpty || ui.data.status.statusMessage.isSome

namespace MainLoop

/-- In the `select!`. -/
def atRest (s : MainLoop) : Prop := s.ui.phase = .idle ∧ s.drawing = .none ∧ s.ended = none

instance (s : MainLoop) : Decidable s.atRest := by unfold atRest; infer_instance

/-- After the last update `refresh_dirty_widgets` returns whether to draw. -/
def settle (s : MainLoop) : MainLoop :=
  match s.ui.phase with
  | .updating [] =>
    if s.redraw then { s with drawing := .measuring } else { s with ui := { s.ui with phase := .idle } }
  | _ => s

def refreshGeoSnapshot (s : MainLoop) (read : Bool) : MainLoop :=
  { s with geoSnapshotRetry := !read, drawing := .measuring }

/-- An event that `select!` receives; it is woken by `receive`. -/
def select (s : MainLoop) : MainEvent → Option MainLoop
  | .interrupt => some { s with ended := some none }
  | .tick => some (if needsPeriodicRedraw s.ui then { s with drawing := .measuring } else s)
  | .geoRetry read => some (if s.geoSnapshotRetry then s.refreshGeoSnapshot read else s)
  | .geoUpdate read => some (s.refreshGeoSnapshot read)
  | .terminal event =>
    match handleUiEvent s.ui.data event with
    | .none => some s
    | .select data => some { s with ui := s.ui.select (some data), redraw := true }
    | .redraw => some { s with drawing := .measuring }
    | .exit => some { s with ended := some none }
  | .receive => (s.ui.step .receive).map fun ui => { s with ui }
  | _ => none

def step (s : MainLoop) (event : MainEvent) : Option MainLoop :=
  match event, s.drawing with
  | .produce op, _ => some { s with ui := { s.ui with data := op.apply s.ui.data } }
  | .take, .none =>
    (s.ui.step .take).map fun ui => settle { s with ui, redraw := s.ui.data.uiDirty.any }
  | .update, .none => (s.ui.step .update).map fun ui => settle { s with ui }
  | .measure now, .measuring =>
    let data := s.ui.data.expireStatusMessageIfNeeded now
    let visible := data.status.statusMessage.isSome
    some { s with
      ui := { s.ui with data, phase := .idle }
      drawState := some visible
      drawing := .painting (s.drawState.any (· ≠ visible)) now }
  | .paint (.ok ()), .painting _ now =>
    some { s with
      drawing := .none
      screen := some ⟨s.ui.widgets, s.ui.data.status.statusMessage, now⟩ }
  | .paint (.error err), .painting _ _ => some { s with drawing := .none, ended := some (some err) }
  | event, _ => if s.atRest then s.select event else none

/-- The widgets are updated and drawn before the loop. -/
def start (geoSnapshotRetry : Bool) : MainLoop := { geoSnapshotRetry }

def run (geoSnapshotRetry : Bool) (events : List MainEvent) : Option MainLoop :=
  Lts.run step (start geoSnapshotRetry) events

/-! ## One step -/

/-- Every way the loop can step. -/
inductive Stepped (s : MainLoop) : MainEvent → MainLoop → Prop
  | produced {op : DataOp} :
      Stepped s (.produce op) { s with ui := { s.ui with data := op.apply s.ui.data } }
  | taken {ui : UiLoop} (drawing : s.drawing = .none) (moved : s.ui.step .take = some ui) :
      Stepped s .take (settle { s with ui, redraw := s.ui.data.uiDirty.any })
  | updated {ui : UiLoop} (drawing : s.drawing = .none) (moved : s.ui.step .update = some ui) :
      Stepped s .update (settle { s with ui })
  | measured {now : Nat} {data : Data} {visible : Bool} (drawing : s.drawing = .measuring)
      (expired : data = s.ui.data.expireStatusMessageIfNeeded now)
      (found : visible = data.status.statusMessage.isSome) : Stepped s (.measure now) { s with
        ui := { s.ui with data, phase := .idle }
        drawState := some visible
        drawing := .painting (s.drawState.any (· ≠ visible)) now }
  | painted {clear : Bool} {now : Nat} (drawing : s.drawing = .painting clear now) :
      Stepped s (.paint (.ok ())) { s with
        drawing := .none
        screen := some ⟨s.ui.widgets, s.ui.data.status.statusMessage, now⟩ }
  | failed {clear : Bool} {now : Nat} {err : String} (drawing : s.drawing = .painting clear now) :
      Stepped s (.paint (.error err)) { s with drawing := .none, ended := some (some err) }
  | received {ui : UiLoop} (rests : s.atRest) (moved : s.ui.step .receive = some ui) :
      Stepped s .receive { s with ui }
  | selected {event : MainEvent} {data : Data} {nextIndex : Nat → Nat → Nat} (rests : s.atRest)
      (switched : switchDiskSelection s.ui.data nextIndex = some data) :
      Stepped s event { s with ui := s.ui.select (some data), redraw := true }
  /-- A draw begins, after an attempt to read the geo snapshot in some cases. -/
  | begun {event : MainEvent} {geoSnapshotRetry : Bool} (rests : s.atRest) :
      Stepped s event { s with drawing := .measuring, geoSnapshotRetry }
  | ignored {event : MainEvent} (rests : s.atRest) : Stepped s event s
  | exited {event : MainEvent} (rests : s.atRest) : Stepped s event { s with ended := some none }

variable {s s' : MainLoop} {event : MainEvent}

theorem handleUiEvent_select {data moved : Data} {event : TerminalEvent}
    (handled : handleUiEvent data event = .select moved) :
    ∃ nextIndex, switchDiskSelection data nextIndex = some moved := by
  have of_switch : ∀ switched, UiAction.ofSwitch switched = .select moved → switched = some moved := by
    intro switched same
    cases switched <;> cases same
    rfl
  unfold handleUiEvent at handled
  split at handled
  case h_1 =>
    split at handled
    · exact ⟨_, of_switch _ handled⟩
    · split at handled
      · cases handled
      · split at handled
        · exact ⟨_, of_switch _ handled⟩
        · split at handled <;> cases handled
  case h_2 | h_3 => cases handled

theorem select_cases (rests : s.atRest) (selected : s.select event = some s') :
    Stepped s event s' := by
  unfold select at selected
  split at selected
  case h_1 =>
    cases selected
    exact .exited rests
  case h_2 =>
    obtain rfl := Option.some.inj selected
    split
    · exact .begun rests
    · exact .ignored rests
  case h_3 read =>
    obtain rfl := Option.some.inj selected
    split
    · exact .begun rests
    · exact .ignored rests
  case h_4 read =>
    cases selected
    exact .begun rests
  case h_5 event =>
    split at selected
    case h_1 =>
      cases selected
      exact .ignored rests
    case h_2 data handled =>
      cases selected
      obtain ⟨nextIndex, switched⟩ := handleUiEvent_select handled
      exact .selected rests switched
    case h_3 =>
      cases selected
      exact .begun rests
    case h_4 =>
      cases selected
      exact .exited rests
  case h_6 =>
    obtain ⟨ui, moved, rfl⟩ := Option.map_eq_some_iff.mp selected
    exact .received rests moved
  case h_7 => cases selected

theorem step_cases (stepped : step s event = some s') : Stepped s event s' := by
  unfold step at stepped
  split at stepped
  case h_1 =>
    cases stepped
    exact .produced
  case h_2 drawing =>
    obtain ⟨ui, moved, rfl⟩ := Option.map_eq_some_iff.mp stepped
    exact .taken drawing moved
  case h_3 drawing =>
    obtain ⟨ui, moved, rfl⟩ := Option.map_eq_some_iff.mp stepped
    exact .updated drawing moved
  case h_4 now drawing =>
    cases stepped
    exact .measured drawing rfl rfl
  case h_5 clear now drawing =>
    cases stepped
    exact .painted drawing
  case h_6 err clear now drawing =>
    cases stepped
    exact .failed drawing
  case h_7 =>
    split at stepped
    case isTrue rests => exact select_cases rests stepped
    case isFalse => cases stepped

end MainLoop

namespace UiLoop

variable {loop loop' : UiLoop}

theorem step_receive (moved : loop.step .receive = some loop') :
    loop.phase = .idle ∧ loop' =
      { loop with data := { loop.data with uiWaker := some false }, phase := .woken } := by
  simp only [step] at moved
  split at moved <;> cases moved
  case h_1 rests token => exact ⟨rests, rfl⟩

theorem step_take (moved : loop.step .take = some loop') : loop.phase = .woken ∧ loop' =
    { loop with
      data := loop.data.takeUiDirty.2, phase := .updating (dirtyWidgets loop.data.uiDirty) } := by
  simp only [step] at moved
  split at moved <;> cases moved
  case h_1 holds => exact ⟨holds, rfl⟩

theorem step_update (moved : loop.step .update = some loop') :
    ∃ name rest, loop.phase = .updating (name :: rest) ∧ loop' =
      ⟨(loop.widgets.update loop.data name).2, (loop.widgets.update loop.data name).1,
        .updating rest⟩ := by
  simp only [step] at moved
  split at moved <;> cases moved
  case h_1 name rest at_ => exact ⟨name, rest, at_, rfl⟩

end UiLoop

/-! ## The screen shows the data -/

/-- A write that leaves the mark of the status unset leaves the status alone. -/
theorem status_of_unmarked {op : DataOp} {data : Data}
    (unmarked : (op.apply data).uiDirty.status = false) :
    data.uiDirty.status = false ∧ (op.apply data).status = data.status := by
  rcases op.apply_cases data with same | ⟨part, marked⟩
  · rw [same] at unmarked ⊢
    exact ⟨unmarked, rfl⟩
  · have flag := marked.flag .status
    rw [UiDirtyState.get, UiDirtyState.get, unmarked] at flag
    obtain ⟨before, other⟩ := Bool.or_eq_false_iff.mp flag.symm
    exact ⟨before, marked.rest .status (by simpa using other)⟩

theorem dirtyWidgets_of_unmarked {dirty : UiDirtyState} (unmarked : dirty.any = false) :
    dirtyWidgets dirty = [] := by
  simp only [UiDirtyState.any, Bool.or_eq_false_iff] at unmarked
  obtain ⟨⟨⟨⟨chain, nodeState⟩, nodeDetails⟩, -⟩, system⟩ := unmarked
  simp [dirtyWidgets, chain, nodeState, nodeDetails, system]

/-- What the screen shows of the data, unless a collector has changed the status since. -/
structure ShowsData (s : MainLoop) (screen : DrawnScreen) : Prop where
  widgets : screen.widgets = s.ui.widgets
  status : s.ui.data.uiDirty.status = false →
    screen.status = s.ui.data.status.statusMessage ∧ s.drawState = some screen.status.isSome

/-- Whenever no refresh and no draw is under way the screen shows what the widgets hold, and the
status message but for one whose mark is set. -/
structure Current (s : MainLoop) : Prop where
  installed : s.ui.data.uiWaker.isSome
  wakes : DirtyWake.Inv s.ui.abs
  redraws : ∀ rest, s.ui.phase = .updating rest → s.redraw = true
  drawing : s.drawing ≠ .none → s.ui.phase = .idle ∨ s.ui.phase = .updating []
  painting : ∀ clear now, s.drawing = .painting clear now → s.ui.phase = .idle ∧
    (s.ui.data.uiDirty.status = false → s.drawState = some s.ui.data.status.statusMessage.isSome)
  shown : s.ended = none → s.drawing = .none → (∀ rest, s.ui.phase ≠ .updating rest) →
    ∃ screen, s.screen = some screen ∧ ShowsData s screen

namespace MainLoop

variable {s s' : MainLoop} {event : MainEvent}

theorem Current.of_produce (current : Current s) (op : DataOp) :
    Current { s with ui := { s.ui with data := op.apply s.ui.data } } := by
  obtain ⟨installed, wakes, redraws, drawing, painting, shown⟩ := current
  have moved : s.ui.step (.produce op) = some { s.ui with data := op.apply s.ui.data } := rfl
  refine ⟨UiLoop.step_installed installed moved, ?_, redraws, drawing, ?_, ?_⟩
  · rcases UiLoop.step_sim installed moved with same | step
    · rwa [same]
    · exact wakes.step step
  · intro clear now at_
    obtain ⟨rests, noted⟩ := painting clear now at_
    refine ⟨rests, fun unmarked => ?_⟩
    obtain ⟨before, same⟩ := status_of_unmarked unmarked
    rw [noted before, same]
  · intro running none calm
    obtain ⟨screen, at_, widgets, status⟩ := shown running none calm
    refine ⟨screen, at_, widgets, fun unmarked => ?_⟩
    obtain ⟨before, same⟩ := status_of_unmarked unmarked
    rw [same]
    exact status before

/-- A refresh that something was marked for goes on, or goes on to a draw. -/
theorem Current.of_refresh (installed : s.ui.data.uiWaker.isSome) (wakes : DirtyWake.Inv s.ui.abs)
    (drawing : s.drawing = .none) {rest : List WidgetName} (phase : s.ui.phase = .updating rest)
    (redraw : s.redraw = true) : Current s.settle := by
  unfold settle
  rw [phase]
  cases rest with
  | cons name rest =>
    refine ⟨installed, wakes, fun _ _ => redraw, fun draws => absurd drawing draws, ?_, ?_⟩
    · intro clear now at_
      rw [drawing] at at_
      cases at_
    · exact fun _ _ calm => absurd phase (calm _)
  | nil =>
    dsimp only
    rw [if_pos redraw]
    refine ⟨installed, wakes, fun _ _ => redraw, fun _ => .inr phase, ?_, ?_⟩
    · exact fun _ _ at_ => by cases at_
    · exact fun _ none => by cases none

/-- A wake-up that nothing was marked for any more. -/
theorem Current.of_unmarked (installed : s.ui.data.uiWaker.isSome) (wakes : DirtyWake.Inv s.ui.abs)
    (drawing : s.drawing = .none) (phase : s.ui.phase = .updating []) (redraw : s.redraw = false)
    (shown : s.ended = none → ∃ screen, s.screen = some screen ∧ ShowsData s screen) :
    Current s.settle := by
  unfold settle
  rw [phase]
  dsimp only
  rw [if_neg (by simp [redraw])]
  refine ⟨installed, ?_, ?_, fun draws => absurd drawing draws, ?_, fun running _ _ => ?_⟩
  · refine wakes.step (.finish ?_ rfl rfl id rfl)
    simp [UiLoop.abs, phase, UiPhase.abs]
  · exact fun _ at_ => by cases at_
  · intro clear now at_
    rw [drawing] at at_
    cases at_
  · obtain ⟨screen, at_, widgets, status⟩ := shown running
    exact ⟨screen, at_, widgets, status⟩

theorem Current.of_take (current : Current s) {ui : UiLoop} (drawing : s.drawing = .none)
    (moved : s.ui.step .take = some ui) :
    Current (settle { s with ui, redraw := s.ui.data.uiDirty.any }) := by
  have installed := UiLoop.step_installed current.installed moved
  have wakes : DirtyWake.Inv ui.abs := by
    rcases UiLoop.step_sim current.installed moved with same | step
    · rw [same]
      exact current.wakes
    · exact current.wakes.step step
  obtain ⟨woken, rfl⟩ := UiLoop.step_take moved
  cases marked : s.ui.data.uiDirty.any with
  | true => exact of_refresh installed wakes drawing rfl rfl
  | false =>
    refine of_unmarked installed wakes drawing ?_ rfl fun running => ?_
    · exact congrArg UiPhase.updating (dirtyWidgets_of_unmarked marked)
    · obtain ⟨screen, at_, widgets, status⟩ := current.shown running drawing (by simp [woken])
      have unmarked : s.ui.data.uiDirty.status = false := by
        simp only [UiDirtyState.any, Bool.or_eq_false_iff] at marked
        exact marked.1.2
      exact ⟨screen, at_, widgets, fun _ => status unmarked⟩

theorem Current.of_update (current : Current s) {ui : UiLoop} (drawing : s.drawing = .none)
    (moved : s.ui.step .update = some ui) : Current (settle { s with ui }) := by
  have installed := UiLoop.step_installed current.installed moved
  have wakes : DirtyWake.Inv ui.abs := by
    rcases UiLoop.step_sim current.installed moved with same | step
    · rw [same]
      exact current.wakes
    · exact current.wakes.step step
  obtain ⟨name, rest, phase, rfl⟩ := UiLoop.step_update moved
  exact of_refresh installed wakes drawing rfl (current.redraws _ phase)

/-- The first lock section of a draw. -/
theorem Current.of_measure (current : Current s) {now : Nat} (drawing : s.drawing = .measuring) :
    let data := s.ui.data.expireStatusMessageIfNeeded now
    Current { s with
      ui := { s.ui with data, phase := .idle }
      drawState := some data.status.statusMessage.isSome
      drawing := .painting (s.drawState.any (· ≠ data.status.statusMessage.isSome)) now } := by
  obtain ⟨installed, wakes, redraws, during, painting, shown⟩ := current
  refine ⟨installed, ?_, fun _ at_ => (by cases at_), fun _ => .inl rfl, ?_, ?_⟩
  · rcases during (by simp [drawing]) with rests | done
    · have same := @UiLoop.expire_abs s.ui now
      rw [← same] at wakes
      have phase : { s.ui with data := s.ui.data.expireStatusMessageIfNeeded now, phase := .idle } =
          { s.ui with data := s.ui.data.expireStatusMessageIfNeeded now } := by rw [← rests]
      rwa [phase]
    · exact wakes.step (UiLoop.finish_sim done now)
  · exact fun _ _ _ => ⟨rfl, fun _ => rfl⟩
  · exact fun _ none => by cases none

theorem Current.of_paint (current : Current s) {clear : Bool} {now : Nat}
    (drawing : s.drawing = .painting clear now) : Current { s with
      drawing := .none
      screen := some ⟨s.ui.widgets, s.ui.data.status.statusMessage, now⟩ } := by
  obtain ⟨installed, wakes, redraws, during, painting, shown⟩ := current
  obtain ⟨rests, noted⟩ := painting clear now drawing
  refine ⟨installed, wakes, redraws, fun draws => absurd rfl draws, fun _ _ at_ => (by cases at_), ?_⟩
  exact fun _ _ _ => ⟨_, rfl, rfl, fun unmarked => ⟨rfl, noted unmarked⟩⟩

/-- At rest a draw begins, or the loop ends or goes on. -/
theorem Current.of_rest (current : Current s) (rests : s.atRest) (ui : s'.ui = s.ui)
    (screen : s'.screen = s.screen) (drawState : s'.drawState = s.drawState)
    (drawing : s'.drawing = .none ∨ s'.drawing = .measuring) : Current s' := by
  obtain ⟨idle, none, running⟩ := rests
  have idle' : s'.ui.phase = .idle := by rw [ui, idle]
  refine ⟨by rw [ui]; exact current.installed, by rw [ui]; exact current.wakes, ?_,
    fun _ => .inl idle', ?_, ?_⟩
  · intro rest at_
    rw [idle'] at at_
    cases at_
  · intro clear now at_
    rcases drawing with drawing | drawing <;> rw [drawing] at at_ <;> cases at_
  · intro _ _ _
    obtain ⟨shown, at_, widgets, status⟩ := current.shown running none (by simp [idle])
    rw [screen]
    refine ⟨shown, at_, by rw [ui]; exact widgets, ?_⟩
    rw [ui, drawState]
    exact status

theorem Current.of_receive (current : Current s) (rests : s.atRest) {ui : UiLoop}
    (moved : s.ui.step .receive = some ui) : Current { s with ui } := by
  have installed := UiLoop.step_installed current.installed moved
  have wakes : DirtyWake.Inv ui.abs := by
    rcases UiLoop.step_sim current.installed moved with same | step
    · rw [same]
      exact current.wakes
    · exact current.wakes.step step
  obtain ⟨idle, none, running⟩ := rests
  obtain ⟨-, rfl⟩ := UiLoop.step_receive moved
  refine ⟨installed, wakes, fun _ at_ => (by cases at_), fun draws => absurd none draws, ?_, ?_⟩
  · intro clear now at_
    rw [none] at at_
    cases at_
  · intro _ _ _
    obtain ⟨screen, at_, widgets, status⟩ := current.shown running none (by simp [idle])
    exact ⟨screen, at_, widgets, status⟩

/-- Another disk is selected, which its list is updated for. -/
theorem Current.of_select (current : Current s) (rests : s.atRest) {data : Data}
    {nextIndex : Nat → Nat → Nat} (switched : switchDiskSelection s.ui.data nextIndex = some data) :
    Current { s with ui := s.ui.select (some data), redraw := true } := by
  obtain ⟨idle, none, -⟩ := rests
  obtain ⟨index, rfl⟩ := UiLoop.switch_cases switched
  refine ⟨current.installed, ?_, fun _ _ => rfl, fun draws => absurd none draws, ?_, ?_⟩
  · exact current.wakes.step (UiLoop.select_sim idle rfl rfl)
  · intro clear now at_
    rw [none] at at_
    cases at_
  · exact fun _ _ calm => absurd rfl (calm [.diskList])

theorem current_step (current : Current s) (stepped : step s event = some s') : Current s' := by
  cases step_cases stepped with
  | produced => exact Current.of_produce current _
  | taken drawing moved => exact Current.of_take current drawing moved
  | updated drawing moved => exact Current.of_update current drawing moved
  | measured drawing expired found =>
    subst expired found
    exact Current.of_measure current drawing
  | painted drawing => exact Current.of_paint current drawing
  | failed drawing =>
    obtain ⟨installed, wakes, redraws, -, -, -⟩ := current
    exact ⟨installed, wakes, redraws, fun draws => absurd rfl draws, fun _ _ at_ => (by cases at_),
      fun running => by cases running⟩
  | received rests moved => exact Current.of_receive current rests moved
  | selected rests switched => exact Current.of_select current rests switched
  | begun rests => exact Current.of_rest current rests rfl rfl rfl (.inr rfl)
  | ignored rests => exact current
  | exited rests => exact Current.of_rest current rests rfl rfl rfl (.inl rests.2.1)

theorem current_run {geoSnapshotRetry : Bool} {events : List MainEvent}
    (ran : run geoSnapshotRetry events = some s) : Current s := by
  refine Lts.run_invariant (I := fun _ => Current) ?_
    (fun _ _ _ _ current stepped => current_step current stepped) ran
  exact ⟨rfl, UiLoop.start_inv, fun _ _ => rfl, fun draws => absurd rfl draws,
    fun _ _ at_ => (by cases at_), fun _ _ calm => absurd rfl (calm _)⟩

/-- In every interleaving of the collectors and the event loop: at rest with no wake-up pending,
the screen shows what the widgets of the shared data (not the countries) would load now and the
status message of the data, and the next draw clears the screen exactly if the status bar comes
or goes. -/
theorem screen_current {geoSnapshotRetry : Bool} {events : List MainEvent}
    (ran : run geoSnapshotRetry events = some s) (rests : s.atRest)
    (empty : s.ui.data.uiWaker ≠ some true) : ∃ screen, s.screen = some screen ∧
      (∀ name, screen.widgets.Fresh s.ui.data name) ∧
      screen.status = s.ui.data.status.statusMessage ∧ s.drawState = some screen.status.isSome := by
  have current := current_run ran
  obtain ⟨idle, none, running⟩ := rests
  obtain ⟨screen, at_, widgets, status⟩ := current.shown running none (by simp [idle])
  have calm : s.ui.abs.phase = .idle := by simp [UiLoop.abs, idle, UiPhase.abs]
  have unmarked : s.ui.data.uiDirty.status = false := by
    by_contra marked
    have dirty : s.ui.data.uiDirty.status = true := by simpa using marked
    exact empty (current.wakes.token_of_dirty ⟨.statusBar, dirty⟩ (by simp [calm]))
  refine ⟨screen, at_, fun name => ?_, status unmarked⟩
  have fresh := current.wakes.quiescent calm empty
  rw [widgets]
  by_contra stale
  have inside : View.widget name ∈ s.ui.abs.stale := ⟨name, rfl, stale⟩
  rw [fresh] at inside
  exact inside

/-- A warning arrives between the two lock sections of a draw, which paints it without having
cleared the screen; the wake-up it sent leads to another draw, which clears it. -/
def warned : List MainEvent :=
  [.update, .update, .update, .update, .update, .update, .measure 0,
    .produce (.setStatusMessage .warn "stream ended" 1), .paint (.ok ()), .receive, .take,
    .measure 2, .paint (.ok ())]

theorem screen_current_warned : ∃ s, run false warned = some s ∧ s.atRest ∧
    ∃ screen, s.screen = some screen ∧ screen.status = s.ui.data.status.statusMessage ∧
      screen.status.map (·.text) = some "stream ended" := by
  have ends : (run false warned).map (fun s => (s.ui.phase, s.drawing, s.ended.isNone,
      s.ui.data.uiWaker, s.ui.data.status.statusMessage.map (·.text))) =
        some (.idle, .none, true, some false, some "stream ended") := by decide
  obtain ⟨s, ran, final⟩ := Option.map_eq_some_iff.mp ends
  simp only [Prod.mk.injEq, Option.isNone_iff_eq_none] at final
  obtain ⟨idle, none, running, empty, text⟩ := final
  obtain ⟨screen, at_, -, status, -⟩ := screen_current ran ⟨idle, none, running⟩ (by simp [empty])
  exact ⟨s, ran, ⟨idle, none, running⟩, screen, at_, status, by rw [status, text]⟩

/-! ## Messages that have expired -/

end MainLoop

/-- The instant at which a step reads the clock. -/
def MainEvent.time? : MainEvent → Option Nat
  | .produce (.setStatusMessage _ _ now) => some now
  | .measure now => some now
  | _ => none

def MainEvent.measure? : MainEvent → Option Nat
  | .measure now => some now
  | _ => none

/-- The message is to be shown after the instant. -/
def Unexpired (now : Nat) (message : Option StatusMessage) : Prop :=
  ∀ shown ∈ message, ∀ expiresAt ∈ shown.expiresAt, now < expiresAt

theorem unexpired_expireIfNeeded (store : UiStatusStore) (now : Nat) :
    Unexpired now (store.expireIfNeeded now).statusMessage := by
  unfold UiStatusStore.expireIfNeeded
  split
  case isTrue => exact fun _ none => by cases none
  case isFalse kept =>
    intro shown at_ expiresAt until_
    rw [Option.mem_def] at at_ until_
    simpa [at_, until_] using kept

/-- A message that is set later is shown for some time. -/
theorem unexpired_set {store : UiStatusStore} {now later : Nat} (le : now ≤ later)
    (unexpired : Unexpired now store.statusMessage) (level : StatusLevel) (text : String) :
    Unexpired now (store.set level text later).2.statusMessage := by
  unfold UiStatusStore.set
  dsimp only
  split
  case isTrue => exact unexpired
  case isFalse =>
    intro shown at_ expiresAt until_
    obtain rfl := Option.some.inj at_
    cases level with
    | info | warn =>
      obtain rfl := Option.some.inj until_
      dsimp only [second]
      omega
    | error => cases until_

/-- What the screen shows had not expired when its draw began, and neither has what is about to
be painted. -/
structure Timely (events : List MainEvent) (s : MainLoop) : Prop where
  painting : ∀ clear now, s.drawing = .painting clear now → now ∈ events.filterMap MainEvent.time? ∧
    Unexpired now s.ui.data.status.statusMessage
  shown : ∀ screen, s.screen = some screen → Unexpired screen.measuredAt screen.status

namespace MainLoop

variable {s s' : MainLoop} {event : MainEvent} {events : List MainEvent}

theorem timely_of_frame (timely : Timely events s) (screen : s'.screen = s.screen)
    (drawing : ∀ clear now, s'.drawing ≠ .painting clear now) : Timely (events ++ [event]) s' := by
  refine ⟨fun clear now at_ => absurd at_ (drawing clear now), ?_⟩
  rw [screen]
  exact timely.shown

theorem settle_screen (s : MainLoop) : s.settle.screen = s.screen := by
  unfold settle
  split
  · split <;> rfl
  · rfl

theorem settle_not_painting (s : MainLoop) (none : s.drawing = .none) (clear : Bool) (now : Nat) :
    s.settle.drawing ≠ .painting clear now := by
  unfold settle
  split
  · split <;> simp [none]
  · simp [none]

/-- A collector writes while a draw is about to paint. -/
theorem timely_of_produce (timely : Timely events s) (op : DataOp)
    (ordered : ∀ now ∈ (MainEvent.produce op).time?, ∀ earlier ∈ events.filterMap MainEvent.time?,
      earlier ≤ now) :
    Timely (events ++ [.produce op]) { s with ui := { s.ui with data := op.apply s.ui.data } } := by
  refine ⟨fun clear now at_ => ?_, timely.shown⟩
  obtain ⟨past, unexpired⟩ := timely.painting clear now at_
  refine ⟨by rw [List.filterMap_append]; exact List.mem_append_left _ past, ?_⟩
  show Unexpired now (op.apply s.ui.data).status.statusMessage
  rw [DataOp.status_apply]
  cases op with
  | setStatusMessage level text later =>
    exact unexpired_set (ordered later rfl now past) unexpired level text
  | clearStatusMessage => exact fun _ none => by cases none
  | _ => exact unexpired

theorem timely_step (timely : Timely events s)
    (ordered : ∀ now ∈ event.time?, ∀ earlier ∈ events.filterMap MainEvent.time?, earlier ≤ now)
    (stepped : step s event = some s') : Timely (events ++ [event]) s' := by
  cases step_cases stepped with
  | produced => exact timely_of_produce timely _ ordered
  | taken drawing moved =>
    exact timely_of_frame timely (settle_screen _) (settle_not_painting _ drawing)
  | updated drawing moved =>
    exact timely_of_frame timely (settle_screen _) (settle_not_painting _ drawing)
  | measured drawing expired found =>
    rename_i instant data visible
    refine ⟨fun clear now at_ => ?_, timely.shown⟩
    cases at_
    refine ⟨by simp [MainEvent.time?], ?_⟩
    rw [expired]
    exact unexpired_expireIfNeeded s.ui.data.status instant
  | painted drawing =>
    refine ⟨fun _ _ at_ => (by cases at_), fun screen at_ => ?_⟩
    obtain rfl := Option.some.inj at_
    exact (timely.painting _ _ drawing).2
  | failed drawing => exact timely_of_frame timely rfl fun _ _ => by simp
  | received rests | selected rests | ignored rests | exited rests =>
    exact timely_of_frame timely rfl fun _ _ => by simp [rests.2.1]
  | begun rests => exact timely_of_frame timely rfl fun _ _ => by simp

theorem timely_run {geoSnapshotRetry : Bool} (ran : run geoSnapshotRetry events = some s)
    (ordered : (events.filterMap MainEvent.time?).Pairwise (· ≤ ·)) : Timely events s := by
  refine Lts.run_invariant (I := fun events s =>
    (events.filterMap MainEvent.time?).Pairwise (· ≤ ·) → Timely events s) ?_ ?_ ran ordered
  · exact fun _ => ⟨fun _ _ at_ => (by cases at_), fun _ none => by cases none⟩
  · intro events s event s' timely stepped ordered
    rw [List.filterMap_append, List.pairwise_append] at ordered
    refine timely_step (timely ordered.1) (fun now at_ earlier past => ?_) stepped
    exact ordered.2.2 earlier past now (by simpa using at_)

/-- Since the events before `mid`, which ended in a draw or led to none, a screen that is at rest
was painted by a draw of `mid`. -/
structure DrawnSince (mid : List MainEvent) (s : MainLoop) : Prop where
  painting : ∀ clear now, s.drawing = .painting clear now → now ∈ mid.filterMap MainEvent.measure?
  shown : s.drawing ≠ .none ∨ s.ended ≠ none ∨
    ∃ screen, s.screen = some screen ∧ screen.measuredAt ∈ mid.filterMap MainEvent.measure?

theorem mem_measures_snoc {mid : List MainEvent} {now : Nat}
    (mem : now ∈ mid.filterMap MainEvent.measure?) (event : MainEvent) :
    now ∈ (mid ++ [event]).filterMap MainEvent.measure? := by
  rw [List.filterMap_append]
  exact List.mem_append_left _ mem

theorem DrawnSince.of_frame {mid : List MainEvent} (since : DrawnSince mid s)
    (calm : s.drawing = .none) (screen : s'.screen = s.screen)
    (ended : s.ended ≠ none → s'.ended ≠ none)
    (drawing : ∀ clear now, s'.drawing ≠ .painting clear now) : DrawnSince (mid ++ [event]) s' := by
  refine ⟨fun clear now at_ => absurd at_ (drawing clear now), .inr ?_⟩
  rw [screen]
  rcases since.shown with draws | finished | ⟨shown, at_, measured⟩
  · exact absurd calm draws
  · exact .inl (ended finished)
  · exact .inr ⟨shown, at_, mem_measures_snoc measured event⟩

theorem settle_ended (s : MainLoop) : s.settle.ended = s.ended := by
  unfold settle
  split
  · split <;> rfl
  · rfl

theorem drawnSince_step {mid : List MainEvent} (since : DrawnSince mid s)
    (stepped : step s event = some s') : DrawnSince (mid ++ [event]) s' := by
  cases step_cases stepped with
  | produced =>
    refine ⟨fun clear now at_ => mem_measures_snoc (since.painting clear now at_) _, ?_⟩
    rcases since.shown with draws | finished | ⟨shown, at_, measured⟩
    · exact .inl draws
    · exact .inr (.inl finished)
    · exact .inr (.inr ⟨shown, at_, mem_measures_snoc measured _⟩)
  | taken drawing moved | updated drawing moved =>
    exact since.of_frame drawing (settle_screen _) (by rw [settle_ended]; exact id)
      (settle_not_painting _ drawing)
  | measured drawing expired found =>
    refine ⟨fun clear now at_ => ?_, .inl (by simp)⟩
    cases at_
    simp [MainEvent.measure?]
  | painted drawing =>
    refine ⟨fun _ _ at_ => (by cases at_), .inr (.inr ⟨_, rfl, ?_⟩)⟩
    exact mem_measures_snoc (since.painting _ _ drawing) _
  | failed drawing => exact ⟨fun _ _ at_ => (by cases at_), .inr (.inl (by simp))⟩
  | received rests | selected rests | ignored rests =>
    exact since.of_frame rests.2.1 rfl id fun _ _ => by simp [rests.2.1]
  | exited rests => exact since.of_frame rests.2.1 rfl (fun _ => by simp) fun _ _ => by simp [rests.2.1]
  | begun rests => exact ⟨fun _ _ at_ => (by cases at_), .inl (by simp)⟩

/-- A tick while the status bar is shown, or a node detail, leads to a draw: whatever happens until
the loop is at rest again, the screen then shows no message that had expired at an instant after
the tick. -/
theorem shown_unexpired {geoSnapshotRetry : Bool} {before mid : List MainEvent} {s₁ s₂ : MainLoop}
    (ran : run geoSnapshotRetry before = some s) (rests : s.atRest)
    (shows : needsPeriodicRedraw s.ui = true) (ticked : step s .tick = some s₁)
    (rest : Lts.run step s₁ mid = some s₂) (rests₂ : s₂.atRest)
    (ordered : ((before ++ .tick :: mid).filterMap MainEvent.time?).Pairwise (· ≤ ·)) :
    ∃ screen, s₂.screen = some screen ∧ screen.measuredAt ∈ mid.filterMap MainEvent.measure? ∧
      Unexpired screen.measuredAt screen.status := by
  obtain rfl : { s with drawing := .measuring } = s₁ := by
    obtain ⟨idle, none, running⟩ := rests
    simpa [step, none, atRest, idle, running, select, shows] using ticked
  have since : DrawnSince mid s₂ := by
    refine Lts.run_invariant (I := DrawnSince) ?_ ?_ rest
    · exact ⟨fun _ _ at_ => (by cases at_), .inl (by simp)⟩
    · exact fun _ _ _ _ since stepped => drawnSince_step since stepped
  have whole : run geoSnapshotRetry (before ++ .tick :: mid) = some s₂ := by
    rw [run, Lts.run_append, show Lts.run _ _ before = _ from ran, Option.bind_some, Lts.run_cons,
      ticked, Option.bind_some, rest]
  rcases since.shown with draws | finished | ⟨screen, at_, measured⟩
  · exact absurd rests₂.2.1 draws
  · exact absurd rests₂.2.2 finished
  · exact ⟨screen, at_, measured, (timely_run whole ordered).shown screen at_⟩

/-- The warning is gone with the first tick after its fifteen seconds. -/
theorem shown_unexpired_warned : ∃ s s₁ s₂ screen, run false warned = some s ∧
    step s .tick = some s₁ ∧
    Lts.run step s₁ [.measure (15 * second + 1), .paint (.ok ())] = some s₂ ∧
    s₂.screen = some screen ∧ Unexpired (15 * second + 1) screen.status := by
  have ends : (run false warned).map (fun s => (decide s.atRest, needsPeriodicRedraw s.ui,
      (step s .tick).map fun s₁ => (Lts.run step s₁
        [.measure (15 * second + 1), .paint (.ok ())]).map (decide ·.atRest))) =
      some (true, true, some (some true)) := by decide
  obtain ⟨s, ran, final⟩ := Option.map_eq_some_iff.mp ends
  simp only [Prod.mk.injEq, decide_eq_true_eq] at final
  obtain ⟨rests, shows, final⟩ := final
  obtain ⟨s₁, ticked, final⟩ := Option.map_eq_some_iff.mp final
  obtain ⟨s₂, rest, rests₂⟩ := Option.map_eq_some_iff.mp final
  obtain ⟨screen, at_, measured, unexpired⟩ :=
    shown_unexpired ran rests shows ticked rest (of_decide_eq_true rests₂) (by decide)
  simp only [List.filterMap_cons, MainEvent.measure?, List.filterMap_nil, List.mem_singleton] at measured
  rw [measured] at unexpired
  exact ⟨s, s₁, s₂, screen, ran, ticked, rest, at_, unexpired⟩

end MainLoop

end ChainDash.App
