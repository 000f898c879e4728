import ChainDash.App.UiLoop
import Mathlib.Data.Int.ModEq

/-!
# The selected disk

The collectors replace the list of disks while Tab and Shift-Tab move the selection. The
index stays in the range of the list, and as long as the number of disks is the same it
moves around a cycle (`disk_selection_cycles`).
-/

namespace ChainDash.App
set_option autoImplicit false

open Collect

/-- An operation of the collectors, or a key press. -/
inductive SelectionEvent where
  | produce (op : DataOp)
  | tab
  | shiftTab

/-- Whether a redraw is reported, and the data afterwards: `handle_tab_key` and
`handle_shift_tab_key` return what `switch_disk_selection` says. -/
def SelectionEvent.apply (data : Data) : SelectionEvent → Bool × Data
  | .produce op => (false, op.apply data)
  | .tab => ((handleTabKey data).isSome, (handleTabKey data).getD data)
  | .shiftTab => ((handleShiftTabKey data).isSome, (handleShiftTabKey data).getD data)

def runSelection (data : Data) (events : List SelectionEvent) : Data :=
  events.foldl (fun data event => (event.apply data).2) data

def diskCount (data : Data) : ℕ := data.system.stats.diskDetails.length

def diskIndex (data : Data) : ℕ := data.system.stats.currentDiskIndex

/-- The index is 0 without disks, and in the range of the list with some. -/
def SelectionValid (data : Data) : Prop :=
  if diskCount data = 0 then diskIndex data = 0 else diskIndex data < diskCount data

/-- A refresh of the disks finds as many of them again. -/
def SelectionEvent.KeepsCount (count : ℕ) : SelectionEvent → Prop
  | .produce (.replaceSystemStats stats) => stats.diskDetails.length = count
  | _ => True

def SelectionEvent.isTab : SelectionEvent → Bool
  | .tab => true
  | _ => false

def SelectionEvent.isShiftTab : SelectionEvent → Bool
  | .shiftTab => true
  | _ => false

/-! ## Clamping -/

theorem clampIndex_empty (index : ℕ) : SystemState.clampIndex [] index = 0 := rfl

theorem clampIndex_eq_min {disks : List DiskDetail} (some : 0 < disks.length) (index : ℕ) :
    SystemState.clampIndex disks index = min index (disks.length - 1) := by
  cases disks with
  | nil => exact absurd some (by simp)
  | cons disk disks => rfl

theorem clampIndex_lt {disks : List DiskDetail} (some : 0 < disks.length) (index : ℕ) :
    SystemState.clampIndex disks index < disks.length := by
  rw [clampIndex_eq_min some]
  omega

theorem clampIndex_of_lt {disks : List DiskDetail} {index : ℕ} (inside : index < disks.length) :
    SystemState.clampIndex disks index = index := by
  rw [clampIndex_eq_min (by omega)]
  omega

/-- Whatever index is asked for, the clamped one is valid. -/
theorem selectionValid_of_clamped {data : Data} {index : ℕ}
    (clamped : diskIndex data = SystemState.clampIndex data.system.stats.diskDetails index) :
    SelectionValid data := by
  unfold SelectionValid
  split
  case isTrue none =>
    rw [clamped, List.length_eq_zero_iff.mp none, clampIndex_empty]
  case isFalse some =>
    rw [clamped]
    exact clampIndex_lt (Nat.pos_of_ne_zero some) index

/-! ## Operations of the collectors -/

/-- Only a refresh touches the disks; it keeps the index, clamped. -/
theorem stats_apply (op : DataOp) (data : Data) :
    (∃ stats, op = .replaceSystemStats stats ∧
      (op.apply data).system.stats = { stats with
        currentDiskIndex := SystemState.clampIndex stats.diskDetails (diskIndex data) }) ∨
    (op.apply data).system = data.system := by
  have applied := op.system_apply data
  cases op with
  | replaceSystemStats stats => exact .inl ⟨stats, rfl, congrArg SystemState.stats applied⟩
  | _ => exact .inr applied

/-- The operations keep the selection valid. -/
theorem selectionValid_apply {op : DataOp} {data : Data} (valid : SelectionValid data) :
    SelectionValid (op.apply data) := by
  rcases stats_apply op data with ⟨stats, -, replaced⟩ | same
  · have clamped : diskIndex (op.apply data) =
        SystemState.clampIndex (op.apply data).system.stats.diskDetails (diskIndex data) := by
      show (op.apply data).system.stats.currentDiskIndex = _
      rw [replaced]
    exact selectionValid_of_clamped clamped
  · unfold SelectionValid diskCount diskIndex
    rw [same]
    exact valid

/-- A valid index stays where it is, while the number of disks does. -/
theorem apply_same {op : DataOp} {data : Data} (inside : diskIndex data < diskCount data)
    (keeps : SelectionEvent.KeepsCount (diskCount data) (.produce op)) :
    diskCount (op.apply data) = diskCount data ∧ diskIndex (op.apply data) = diskIndex data := by
  rcases stats_apply op data with ⟨stats, rfl, replaced⟩ | same
  · have count : stats.diskDetails.length = diskCount data := keeps
    unfold diskCount diskIndex at *
    rw [replaced]
    exact ⟨count, clampIndex_of_lt (by rw [count]; exact inside)⟩
  · unfold diskCount diskIndex
    rw [same]
    exact ⟨rfl, rfl⟩

/-! ## Key presses -/

section Switch

variable {data : Data} {nextIndex : ℕ → ℕ → ℕ}

theorem diskCount_updateDiskIndex (index : ℕ) :
    diskCount (data.updateDiskIndex index) = diskCount data := rfl

theorem diskIndex_updateDiskIndex (index : ℕ) :
    diskIndex (data.updateDiskIndex index) =
      SystemState.clampIndex data.system.stats.diskDetails index := rfl

/-- The selection stays, with one disk at most or at the index itself, or another index is
set. -/
theorem switchDiskSelection_cases (data : Data) (nextIndex : ℕ → ℕ → ℕ) :
    (diskCount data ≤ 1 ∨ nextIndex (diskIndex data) (diskCount data) = diskIndex data) ∧
        switchDiskSelection data nextIndex = none ∨
      1 < diskCount data ∧ nextIndex (diskIndex data) (diskCount data) ≠ diskIndex data ∧
        switchDiskSelection data nextIndex =
          some (data.updateDiskIndex (nextIndex (diskIndex data) (diskCount data))) := by
  unfold switchDiskSelection
  by_cases few : data.system.stats.diskDetails.length ≤ 1
  · exact Or.inl ⟨Or.inl few, if_pos few⟩
  · simp only [if_neg few]
    by_cases stays : nextIndex (diskIndex data) (diskCount data) = diskIndex data
    · exact Or.inl ⟨Or.inr stays, if_pos stays⟩
    · exact Or.inr ⟨Nat.not_le.mp few, stays, if_neg stays⟩

theorem diskCount_switch :
    diskCount ((switchDiskSelection data nextIndex).getD data) = diskCount data := by
  rcases switchDiskSelection_cases data nextIndex with ⟨-, stays⟩ | ⟨-, -, moves⟩
  · rw [stays, Option.getD_none]
  · rw [moves, Option.getD_some, diskCount_updateDiskIndex]

/-- From a valid index to one in range. -/
theorem diskIndex_switch (inside : diskIndex data < diskCount data)
    (bounded : nextIndex (diskIndex data) (diskCount data) < diskCount data) :
    diskIndex ((switchDiskSelection data nextIndex).getD data) =
      nextIndex (diskIndex data) (diskCount data) := by
  rcases switchDiskSelection_cases data nextIndex with ⟨few | same, stays⟩ | ⟨-, -, moves⟩
  · rw [stays, Option.getD_none]
    omega
  · rw [stays, Option.getD_none, same]
  · rw [moves, Option.getD_some, diskIndex_updateDiskIndex]
    exact clampIndex_of_lt bounded

theorem selectionValid_switch (valid : SelectionValid data) :
    SelectionValid ((switchDiskSelection data nextIndex).getD data) := by
  rcases switchDiskSelection_cases data nextIndex with ⟨-, stays⟩ | ⟨-, -, moves⟩
  · rwa [stays]
  · rw [moves]
    exact selectionValid_of_clamped (diskIndex_updateDiskIndex _)

/-- A redraw is reported where the index changes: the new one is in range, or below the old. -/
theorem isSome_switch_iff
    (bounded : 1 < diskCount data → nextIndex (diskIndex data) (diskCount data) < diskCount data ∨
      nextIndex (diskIndex data) (diskCount data) < diskIndex data) :
    (switchDiskSelection data nextIndex).isSome = true ↔
      diskIndex ((switchDiskSelection data nextIndex).getD data) ≠ diskIndex data := by
  rcases switchDiskSelection_cases data nextIndex with ⟨-, stays⟩ | ⟨many, other, moves⟩
  · rw [stays]
    simp
  · rw [moves, Option.getD_some, diskIndex_updateDiskIndex]
    refine iff_of_true rfl ?_
    have bounds := bounded many
    rw [clampIndex_eq_min (by unfold diskCount at many; omega)]
    unfold diskCount at many bounds
    unfold diskCount at other ⊢
    omega

end Switch

/-- The index after Tab, around the cycle. -/
theorem tab_next (i n : ℕ) :
    (((i + 1) % n : ℕ) : ℤ) = ((i : ℤ) + 1) % n := by
  rw [Int.natCast_mod, Nat.cast_add, Nat.cast_one]

/-- The index after Shift-Tab. -/
theorem shiftTab_next {i n : ℕ} (inside : i < n) :
    ((if i = 0 then n - 1 else i - 1 : ℕ) : ℤ) = ((i : ℤ) - 1) % n := by
  split
  case isTrue first =>
    have wrapped : ((i : ℤ) - 1) % n = ((i : ℤ) - 1 + n) % n := (Int.add_emod_right _ _).symm
    rw [wrapped, Int.emod_eq_of_lt (by omega) (by omega)]
    omega
  case isFalse later =>
    rw [Int.emod_eq_of_lt (by omega) (by omega)]
    omega

/-! ## Runs -/

theorem selectionValid_event {data : Data} (event : SelectionEvent) (valid : SelectionValid data) :
    SelectionValid (event.apply data).2 := by
  cases event with
  | produce op => exact selectionValid_apply valid
  | tab => exact selectionValid_switch valid
  | shiftTab => exact selectionValid_switch valid

theorem selectionValid_run {data : Data} (valid : SelectionValid data) (events : List SelectionEvent) :
    SelectionValid (runSelection data events) := by
  induction events generalizing data with
  | nil => exact valid
  | cons event events ih => exact ih (selectionValid_event event valid)

theorem selectionValid_start : SelectionValid {} := rfl

/-- A step of the user interface is one of these events, or leaves the disks alone. -/
theorem UiLoop.step_system {loop loop' : UiLoop} {event : Event}
    (stepped : UiLoop.step loop event = some loop') :
    loop'.data.system = loop.data.system ∨
      ∃ event : SelectionEvent, loop'.data = (event.apply loop.data).2 := by
  have selected (switched : Option Data) :
      (loop.select switched).data = switched.getD loop.data := by
    cases switched <;> rfl
  cases event
  case produce op =>
    cases stepped
    exact Or.inr ⟨.produce op, rfl⟩
  case tab =>
    simp only [UiLoop.step] at stepped
    split at stepped <;> cases stepped
    exact Or.inr ⟨.tab, selected _⟩
  case shiftTab =>
    simp only [UiLoop.step] at stepped
    split at stepped <;> cases stepped
    exact Or.inr ⟨.shiftTab, selected _⟩
  case update =>
    simp only [UiLoop.step] at stepped
    split at stepped
    case h_1 name rest _ =>
      cases stepped
      refine Or.inl ?_
      cases name <;> rfl
    case h_2 => cases stepped
  all_goals
    simp only [UiLoop.step] at stepped
    split at stepped <;> cases stepped <;> exact Or.inl rfl

/-- The same in every state that the loop of the user interface reaches. -/
theorem UiLoop.selectionValid {t : List Event} {loop : UiLoop}
    (reached : Lts.run UiLoop.step UiLoop.start t = some loop) : SelectionValid loop.data := by
  refine @Lts.run_invariant _ _ UiLoop.step (fun _ loop => SelectionValid loop.data)
    UiLoop.start selectionValid_start ?_ _ _ reached
  intro t loop event loop' valid stepped
  rcases UiLoop.step_system stepped with same | ⟨event, applied⟩
  · unfold SelectionValid diskCount diskIndex
    rw [same]
    exact valid
  · rw [applied]
    exact selectionValid_event event valid

theorem lt_of_selectionValid {data : Data} (valid : SelectionValid data) (some : 1 ≤ diskCount data) :
    diskIndex data < diskCount data := by
  unfold SelectionValid at valid
  rwa [if_neg (by omega)] at valid

/-- One event around the cycle. -/
theorem diskIndex_event {data : Data} (inside : diskIndex data < diskCount data)
    {event : SelectionEvent} (keeps : event.KeepsCount (diskCount data)) :
    diskCount (event.apply data).2 = diskCount data ∧
      (diskIndex (event.apply data).2 : ℤ) =
        ((diskIndex data : ℤ) + (if event.isTab then 1 else 0) -
          (if event.isShiftTab then 1 else 0)) % diskCount data := by
  cases event with
  | produce op =>
    obtain ⟨count, index⟩ := apply_same inside keeps
    refine ⟨count, ?_⟩
    show (diskIndex (op.apply data) : ℤ) = ((diskIndex data : ℤ) + 0 - 0) % diskCount data
    rw [index, Int.emod_eq_of_lt (by omega) (by omega)]
    omega
  | tab =>
    refine ⟨diskCount_switch, ?_⟩
    have bounded := Nat.mod_lt (diskIndex data + 1) (show diskCount data > 0 by omega)
    show (diskIndex ((handleTabKey data).getD data) : ℤ) = ((diskIndex data : ℤ) + 1 - 0) % diskCount data
    rw [handleTabKey, diskIndex_switch inside bounded, tab_next, Int.sub_zero]
  | shiftTab =>
    refine ⟨diskCount_switch, ?_⟩
    have bounded : (if diskIndex data = 0 then diskCount data - 1 else diskIndex data - 1) <
        diskCount data := by
      split <;> omega
    show (diskIndex ((handleShiftTabKey data).getD data) : ℤ) =
      ((diskIndex data : ℤ) + 0 - 1) % diskCount data
    rw [handleShiftTabKey, diskIndex_switch inside bounded, shiftTab_next inside, Int.add_zero]

theorem diskIndex_run {data : Data} (inside : diskIndex data < diskCount data)
    {events : List SelectionEvent} (keeps : ∀ event ∈ events, event.KeepsCount (diskCount data)) :
    (diskIndex (runSelection data events) : ℤ) =
      ((diskIndex data : ℤ) + events.countP SelectionEvent.isTab -
        events.countP SelectionEvent.isShiftTab) % diskCount data := by
  induction events generalizing data with
  | nil =>
    show (diskIndex data : ℤ) = ((diskIndex data : ℤ) + 0 - 0) % diskCount data
    rw [Int.emod_eq_of_lt (by omega) (by omega)]
    omega
  | cons event events ih =>
    obtain ⟨count, index⟩ := diskIndex_event inside (keeps event List.mem_cons_self)
    have inside' : diskIndex (event.apply data).2 < diskCount (event.apply data).2 := by
      have below := Int.emod_lt_of_pos ((diskIndex data : ℤ) + (if event.isTab then 1 else 0) -
        (if event.isShiftTab then 1 else 0)) (show (0 : ℤ) < diskCount data by omega)
      omega
    have rest := ih inside' (by rw [count]; exact fun e mem => keeps e (List.mem_cons_of_mem _ mem))
    rw [count, index] at rest
    show (diskIndex (runSelection (event.apply data).2 events) : ℤ) = _
    rw [rest, Int.add_sub_assoc, Int.emod_add_emod, List.countP_cons, List.countP_cons]
    congr 1
    push_cast
    omega

/-- A press reports a redraw exactly when it moves the selection. -/
theorem redraw_iff (data : Data) :
    ((SelectionEvent.tab.apply data).1 = true ↔
      diskIndex (SelectionEvent.tab.apply data).2 ≠ diskIndex data) ∧
    ((SelectionEvent.shiftTab.apply data).1 = true ↔
      diskIndex (SelectionEvent.shiftTab.apply data).2 ≠ diskIndex data) := by
  constructor
  · apply isSome_switch_iff
    exact fun many => Or.inl (Nat.mod_lt _ (by omega))
  · apply isSome_switch_iff
    intro many
    split <;> omega

/-- The selected index is valid after every history. From there on, while the number of disks
stays the same, it moves around the cycle by the presses of Tab and back by those of Shift-Tab;
a press reports a redraw exactly when it moves the index. -/
theorem disk_selection_cycles (history : List SelectionEvent) :
    SelectionValid (runSelection {} history) ∧
    (∀ events, 1 ≤ diskCount (runSelection {} history) →
      (∀ event ∈ events, event.KeepsCount (diskCount (runSelection {} history))) →
      (diskIndex (runSelection (runSelection {} history) events) : ℤ) =
        ((diskIndex (runSelection {} history) : ℤ) + events.countP SelectionEvent.isTab -
          events.countP SelectionEvent.isShiftTab) % diskCount (runSelection {} history)) ∧
    ((SelectionEvent.tab.apply (runSelection {} history)).1 = true ↔
      diskIndex (SelectionEvent.tab.apply (runSelection {} history)).2 ≠
        diskIndex (runSelection {} history)) ∧
    ((SelectionEvent.shiftTab.apply (runSelection {} history)).1 = true ↔
      diskIndex (SelectionEvent.shiftTab.apply (runSelection {} history)).2 ≠
        diskIndex (runSelection {} history)) := by
  have valid := selectionValid_run selectionValid_start history
  refine ⟨valid, ?_, redraw_iff _⟩
  intro events some keeps
  exact diskIndex_run (lt_of_selectionValid valid some) keeps

end ChainDash.App
