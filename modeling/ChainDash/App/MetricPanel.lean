import ChainDash.Lib.Rounding
import ChainDash.Lib.Screen

/-!
# Drawing a metric panel

`render_metric_panel` (`widgets/chart.rs`) inside its outer block. Styles are left out, but for
the one that the plot picks. What `unicode-width` says of a text and what `set_stringn` writes of
it are a parameter, `TextDisplay`: it writes the graphemes one after the other, and their widths
need not add up to that of the text. The plot and the fallback grid are drawn inside their area
without a step out of the coordinates, and the labels as long as their texts are written in it.
-/

namespace ChainDash.App
set_option autoImplicit false

open Screen Ieee

/-- The width of a text in columns, and how many columns `set_stringn` writes of it, starting at
`x` and up to a limit. -/
structure TextDisplay where
  displayWidth : String → ℕ
  written (x : ℕ) (text : String) (limit : ℕ) : ℕ
  written_le_limit (x : ℕ) (text : String) (limit : ℕ) : written x text limit ≤ limit

/-- A symbol set in one cell, a dot of the plot, or a text from a cell on (`set_stringn`). -/
inductive Write
  | cell (x y : ℕ) (symbol : String)
  | dots (x y : ℕ) (symbol : String) (crest : Bool)
  | text (x y : ℕ) (string : String) (limit : ℕ)
  deriving DecidableEq

/-- The cells written. -/
def Write.place (display : TextDisplay) : Write → Rect
  | .cell x y _ => ⟨x, y, 1, 1⟩
  | .dots x y _ _ => ⟨x, y, 1, 1⟩
  | .text x y string limit => ⟨x, y, display.written x string limit, 1⟩

/-- The cell indexed and all cells written lie in the area. -/
def Write.Inside (display : TextDisplay) (area : Rect) (write : Write) : Prop :=
  area.Holds (write.place display).x (write.place display).y ∧ (write.place display).Within area

structure LabeledBoxRow where
  label : String
  value : List String
  deriving DecidableEq

abbrev SegmentGridRow := List (List String)

structure LabeledBoxOptions where
  startYOffset : ℕ
  title : String
  columnGap : ℕ
  rightInset : ℕ
  deriving DecidableEq

structure MetricPanel where
  yMax : F64
  topLabel : String
  boxRows : List LabeledBoxRow
  boxOptions : LabeledBoxOptions
  fallbackRows : List SegmentGridRow
  bandRows : Option ℕ

def inlineFrameWidth : ℕ := 2

def lowerBandRows (areaHeight : ℕ) : ℕ := max (saturateU16 (areaHeight * 3) / 4) 2

def clearArea (area : Rect) : Draw Write Unit := do
  let bottom ← addU16 area.y area.height
  (span area.y bottom).forM fun y => do
    let right ← addU16 area.x area.width
    (span area.x right).forM fun x => draw (.cell x y " ")

/-! ## The plot -/

def brailleFillSymbol (filledRows : ℕ) : String :=
  match filledRows with
  | 0 => " "
  | 1 => "⣀"
  | 2 => "⣤"
  | 3 => "⣶"
  | _ => "⣿"

/-- How far up a column of the plot is filled, in quarters of a cell. -/
def filledUnits (prev value next yMax : F64) (bandUnits : ℕ) : ℕ :=
  let sum := (prev.add (value.mul (ofNat 11 52 2))).add next
  let smoothedValue := ((sum.div (ofNat 11 52 4)).maxNum .zero).minNum yMax
  let ratio := (smoothedValue.div yMax).clamp .zero (ofNat 11 52 1)
  let filledUnits := (ratio.mul (ofNat 11 52 bandUnits)).roundToU16.toNat
  if Binary.zero.lt smoothedValue ∧ filledUnits = 0 then 1 else filledUnits

/-- The point in a neighbouring column, or the column's own where there is none. -/
def neighbour (visibleData : List (F64 × F64)) (point : F64 × F64) (there : Bool) (columnIndex : ℕ) :
    Draw Write (F64 × F64) :=
  if there then index visibleData columnIndex else pure point

/-- One cell of a column. -/
def renderPlotCell (area : Rect) (x filledUnits cellOffset : ℕ) : Draw Write Unit := do
  let below ← addU16 area.y area.height
  let bottom ← subUnsigned below 1
  let y ← subUnsigned bottom cellOffset
  let cellStart := saturateU16 (cellOffset * 4)
  let filledRows := min (filledUnits - cellStart) 4
  if 0 < filledRows then
    if cellStart < filledUnits then do
      let cellEnd ← addU16 cellStart 4
      draw (.dots x y (brailleFillSymbol filledRows) (filledUnits ≤ cellEnd))
    else draw (.dots x y (brailleFillSymbol filledRows) false)
  else pure ()

def renderBottomBandDottedPlot (area : Rect) (data : List (F64 × F64)) (yMax : F64) (bandRows : ℕ) :
    Draw Write Unit :=
  if area.width = 0 ∨ area.height = 0 ∨ data = [] ∨ yMax.le .zero then pure ()
  else do
    let visibleCount := min area.width data.length
    let startIndex := data.length - visibleCount
    let startX ← addU16 area.x (area.width - asU16 visibleCount)
    let bandRows := max 1 (min bandRows area.height)
    let bandUnits := saturateU16 (bandRows * 4)
    let visibleData := data.drop startIndex
    (span 0 visibleData.length).forM fun columnIndex => do
      let point ← index visibleData columnIndex
      let x ← addU16 startX (asU16 columnIndex)
      let prev ← neighbour visibleData point (0 < columnIndex) (columnIndex - 1)
      let next ← neighbour visibleData point (columnIndex + 1 < visibleData.length) (columnIndex + 1)
      (span 0 bandRows).forM fun cellOffset =>
        renderPlotCell area x (filledUnits prev.2 point.2 next.2 yMax bandUnits) cellOffset

variable (display : TextDisplay)

/-! ## The labels of the axis -/

def renderLeftAxisLabels (area : Rect) (topLabel bottomLabel : String) : Draw Write Rect :=
  if area.width = 0 ∨ area.height = 0 then pure area
  else
    let labelWidth := asU16 (max (display.displayWidth topLabel) (display.displayWidth bottomLabel))
    let gutterWidth := saturateU16 (labelWidth + 1)
    if labelWidth = 0 ∨ area.width - gutterWidth < 4 then pure area
    else do
      let labelAreaWidth := gutterWidth - 1
      let topX ← addU16 area.x (asU16 (labelAreaWidth - display.displayWidth topLabel))
      draw (.text topX area.y topLabel labelAreaWidth)
      renderBottomLabel labelAreaWidth
      let plotX ← addU16 area.x gutterWidth
      pure (Rect.new plotX area.y (area.width - gutterWidth) area.height)
where
  renderBottomLabel (labelAreaWidth : ℕ) : Draw Write Unit :=
    if 1 < area.height then do
      let below ← addU16 area.y area.height
      let bottomY ← subUnsigned below 1
      let bottomX ← addU16 area.x (asU16 (labelAreaWidth - display.displayWidth bottomLabel))
      draw (.text bottomX bottomY bottomLabel labelAreaWidth)
    else pure ()

/-! ## The segments of a value -/

def segmentsWidth (segments : List String) : ℕ := (segments.map display.displayWidth).sum

/-- One segment after the other. -/
def renderSegments (y : ℕ) : ℕ → List String → Draw Write Unit
  | _, [] => pure ()
  | textX, text :: segments => do
    draw (.text textX y text (display.displayWidth text))
    let next ← addU16 textX (asU16 (display.displayWidth text))
    renderSegments y next segments

/-! ## The grid -/

def inlineFrameSymbols (rowIndex rowCount : ℕ) : String × String :=
  if rowCount ≤ 1 then ("[", "]")
  else if rowIndex = 0 then ("┌", "┐")
  else if rowIndex + 1 = rowCount then ("└", "┘")
  else ("│", "│")

def widenColumn (columnWidths : List ℕ) (cell : List String × ℕ) : List ℕ :=
  columnWidths.modify cell.2 (max · (segmentsWidth display cell.1))

/-- The widest cell of each column. -/
def columnWidths (rows : List SegmentGridRow) (columnCount : ℕ) : List ℕ :=
  rows.foldl (fun columnWidths row => row.zipIdx.foldl (widenColumn display) columnWidths)
    (List.replicate columnCount 0)

/-- The cells of a row, from the last column to the first. -/
def renderGridCells (columnWidths : List ℕ) (row : SegmentGridRow) (columnGap y : ℕ) :
    ℕ → ℕ → Draw Write Unit
  | 0, _ => pure ()
  | columnIndex + 1, cursorX => do
    let columnWidth ← index columnWidths columnIndex
    let width := asU16 columnWidth
    let cellStart := cursorX - width
    renderGridCell cellStart width row[columnIndex]?
    renderGridCells columnWidths row columnGap y columnIndex (cellStart - columnGap)
where
  renderGridCell (cellStart width : ℕ) : Option (List String) → Draw Write Unit
    | none => pure ()
    | some cell => do
      let textX ← addU16 cellStart (width - asU16 (segmentsWidth display cell))
      renderSegments display y textX cell

/-- The blank and the frame of a row. -/
def renderGridFrame (boxX totalWidth y rowIndex rowCount : ℕ) (hasFrame : Bool) : Draw Write Unit := do
  let right ← addU16 boxX totalWidth
  (span boxX right).forM fun x => draw (.cell x y " ")
  if hasFrame then do
    let symbols := inlineFrameSymbols rowIndex rowCount
    draw (.cell boxX y symbols.1)
    let past ← addU16 boxX totalWidth
    let last ← subUnsigned past 1
    draw (.cell last y symbols.2)
  else pure ()

structure GridLayout where
  columnWidths : List ℕ
  columnGap : ℕ
  startYOffset : ℕ
  maxYOffset : ℕ
  hasFrame : Bool
  boxX : ℕ
  contentX : ℕ
  contentWidth : ℕ
  totalWidth : ℕ
  rowCount : ℕ

def renderGridRows (area : Rect) (layout : GridLayout) : ℕ → List SegmentGridRow → Draw Write Unit
  | _, [] => pure ()
  | rowIndex, row :: rows => do
    let yOffset ← addU16 layout.startYOffset (asU16 rowIndex)
    if layout.maxYOffset ≤ yOffset then pure ()
    else do
      let y ← addU16 area.y yOffset
      renderGridFrame layout.boxX layout.totalWidth y rowIndex layout.rowCount layout.hasFrame
      let cursorX ← addU16 layout.contentX (asU16 layout.contentWidth)
      renderGridCells display layout.columnWidths row layout.columnGap y layout.columnWidths.length cursorX
      renderGridRows area layout (rowIndex + 1) rows

def renderRightAlignedSegmentGrid (area : Rect) (startYOffset : ℕ) (rows : List SegmentGridRow)
    (columnGap : ℕ) : Draw Write Unit :=
  let innerWidth := area.width - 2
  if innerWidth = 0 ∨ rows = [] then pure ()
  else
    let columnCount := (rows.map List.length).max?.getD 0
    if columnCount = 0 then pure ()
    else
      let columnWidths := columnWidths display rows columnCount
      let contentWidth := columnWidths.sum + columnGap * (columnCount - 1)
      if contentWidth = 0 then pure ()
      else
        let hasFrame : Bool := inlineFrameWidth < innerWidth
        let availableContentWidth := innerWidth - if hasFrame then inlineFrameWidth else 0
        if availableContentWidth < contentWidth then pure ()
        else do
          let totalWidth ← addU16 (asU16 contentWidth) (if hasFrame then inlineFrameWidth else 0)
          let rightWidth ← addU16 totalWidth 1
          let boxX ← addU16 area.x (area.width - rightWidth)
          let contentX ← addU16 boxX (if hasFrame then 1 else 0)
          renderGridRows display area
            { columnWidths, columnGap, startYOffset, maxYOffset := area.height - 1, hasFrame, boxX
              contentX, contentWidth, totalWidth, rowCount := rows.length } 0 rows

/-! ## Everything is inside -/

section Inside

variable {display} {area : Rect}

theorem Write.inside_cell {x y : ℕ} (symbol : String) (holds : area.Holds x y) :
    (Write.cell x y symbol).Inside display area := by
  refine ⟨holds, ?_⟩
  unfold Rect.Holds at holds
  simp only [place, Rect.Within]
  omega

theorem Write.inside_dots {x y : ℕ} (symbol : String) (crest : Bool) (holds : area.Holds x y) :
    (Write.dots x y symbol crest).Inside display area := by
  refine ⟨holds, ?_⟩
  unfold Rect.Holds at holds
  simp only [place, Rect.Within]
  omega

theorem Write.inside_text {x y : ℕ} {string : String} {limit : ℕ} (holds : area.Holds x y)
    (fits : x + display.written x string limit ≤ area.x + area.width) :
    (Write.text x y string limit).Inside display area := by
  refine ⟨holds, ?_⟩
  unfold Rect.Holds at holds
  simp only [place, Rect.Within]
  omega

theorem Write.Inside.mono {outer : Rect} {write : Write} (inside : write.Inside display area)
    (within : area.Within outer) : write.Inside display outer :=
  ⟨within.holds inside.1, inside.2.trans within⟩

theorem clearArea_inside (representable : area.Representable) :
    DrawsOnly (Write.Inside display area) (clearArea area) fun _ => True := by
  obtain ⟨right, bottom⟩ := representable
  unfold clearArea
  apply Draws.add_bind bottom
  apply DrawsOnly.forM_
  intro y in_column
  apply Draws.add_bind right
  apply DrawsOnly.forM_
  intro x in_row
  apply DrawsOnly.draw_
  rw [mem_span] at in_column in_row
  exact Write.inside_cell " " ⟨in_row.1, in_row.2, in_column.1, in_column.2⟩

/-! ### The labels -/

/-- There is room for the labels and four columns of the plot. -/
def LabelsDrawn (display : TextDisplay) (area : Rect) (topLabel bottomLabel : String) : Prop :=
  let width := max (display.displayWidth topLabel) (display.displayWidth bottomLabel)
  0 < area.height ∧ 0 < width ∧ width + 5 ≤ area.width

instance (display : TextDisplay) (area : Rect) (topLabel bottomLabel : String) :
    Decidable (LabelsDrawn display area topLabel bottomLabel) := by
  unfold LabelsDrawn
  infer_instance

/-- A label ends where the longer one does, if it is as wide as its characters say. -/
def labelWrite (display : TextDisplay) (area : Rect) (width y : ℕ) (label : String) : Write :=
  .text (area.x + (width - display.displayWidth label)) y label width

def labelWrites (display : TextDisplay) (area : Rect) (topLabel bottomLabel : String) : List Write :=
  let width := max (display.displayWidth topLabel) (display.displayWidth bottomLabel)
  if LabelsDrawn display area topLabel bottomLabel then
    labelWrite display area width area.y topLabel ::
      if 1 < area.height then
        [labelWrite display area width (area.y + area.height - 1) bottomLabel]
      else []
  else []

/-- A label is written inside the area. -/
def LabelFits (display : TextDisplay) (area : Rect) (width : ℕ) (label : String) : Prop :=
  let start := width - display.displayWidth label
  start + display.written (area.x + start) label width ≤ area.width

/-- The labels are not drawn, or written inside the area. -/
def LabelsFit (display : TextDisplay) (area : Rect) (topLabel bottomLabel : String) : Prop :=
  let width := max (display.displayWidth topLabel) (display.displayWidth bottomLabel)
  LabelsDrawn display area topLabel bottomLabel → LabelFits display area width topLabel ∧
    (1 < area.height → LabelFits display area width bottomLabel)

theorem bottomLabel_draws (representable : area.Representable) {bottomLabel : String}
    {labelAreaWidth : ℕ} (fits : labelAreaWidth < area.width) :
    Draws (renderLeftAxisLabels.renderBottomLabel display area bottomLabel labelAreaWidth) fun _ drawn =>
      drawn = if 1 < area.height then
        [labelWrite display area labelAreaWidth (area.y + area.height - 1) bottomLabel] else [] := by
  obtain ⟨right, bottom⟩ := representable
  unfold renderLeftAxisLabels.renderBottomLabel
  split
  next tall =>
    rw [asU16_of_lt (n := labelAreaWidth - _) (by omega)]
    apply Draws.add_bind bottom
    apply Draws.sub_bind (by omega)
    apply Draws.add_bind (by omega)
    exact Draws.draw_ rfl
  next => exact Draws.pure_ rfl

/-- The labels leave the columns right of them to the plot. -/
theorem leftAxisLabels_draws (representable : area.Representable) {topLabel bottomLabel : String}
    (topShort : display.displayWidth topLabel < 2 ^ 16)
    (bottomShort : display.displayWidth bottomLabel < 2 ^ 16) :
    Draws (renderLeftAxisLabels display area topLabel bottomLabel) fun plotArea drawn =>
      (plotArea.Within area ∧ plotArea.height = area.height) ∧
        drawn = labelWrites display area topLabel bottomLabel := by
  obtain ⟨right, bottom⟩ := representable
  have whole : area.Within area ∧ area.height = area.height := by
    unfold Rect.Within
    omega
  unfold renderLeftAxisLabels labelWrites
  generalize width_eq : max (display.displayWidth topLabel) (display.displayWidth bottomLabel) = width
  have drawn_iff : LabelsDrawn display area topLabel bottomLabel ↔
      0 < area.height ∧ 0 < width ∧ width + 5 ≤ area.width := by
    unfold LabelsDrawn
    rw [width_eq]
  split
  next none =>
    rw [if_neg (drawn_iff.not.mpr (by omega))]
    exact Draws.pure_ ⟨whole, rfl⟩
  next some =>
  dsimp only
  rw [asU16_of_lt (n := width) (by omega)]
  split
  next none =>
    rw [if_neg]
    · exact Draws.pure_ ⟨whole, rfl⟩
    · intro drawn
      have room := drawn_iff.mp drawn
      rw [saturateU16_of_lt (n := width + 1) (by omega)] at none
      omega
  next fits =>
  have room : width + 1 + 4 ≤ area.width :=
    add_le_of_le_sub_saturateU16 (by omega) (by omega) (Nat.not_lt.mp fun narrow => fits (Or.inr narrow))
  have drawn : LabelsDrawn display area topLabel bottomLabel := drawn_iff.mpr (by omega)
  rw [saturateU16_of_lt (n := width + 1) (by omega), Nat.add_sub_cancel,
    asU16_of_lt (n := width - _) (by omega), if_pos drawn]
  apply Draws.add_bind (by omega)
  apply Draws.draw_bind
  apply Draws.bind (bottomLabel_draws ⟨right, bottom⟩ (by omega))
  rintro _ _ rfl
  apply Draws.add_bind (by omega)
  apply Draws.pure_
  have fits' : Rect.Representable ⟨area.x + (width + 1), area.y, area.width - (width + 1), area.height⟩ := by
    constructor <;> dsimp only <;> omega
  rw [Rect.new_eq fits', List.append_nil]
  refine ⟨⟨?_, rfl⟩, rfl⟩
  unfold Rect.Within
  dsimp only
  omega

theorem labelWrite_inside_iff {width y : ℕ} {label : String} (narrow : width < area.width)
    (line : area.y ≤ y ∧ y < area.y + area.height) :
    (labelWrite display area width y label).Inside display area ↔ LabelFits display area width label := by
  unfold LabelFits
  constructor
  · rintro ⟨-, -, right, -⟩
    have right : area.x + (width - display.displayWidth label) +
        display.written (area.x + (width - display.displayWidth label)) label width ≤
          area.x + area.width := right
    dsimp only
    omega
  · intro fits
    apply Write.inside_text
    · unfold Rect.Holds
      omega
    · omega

theorem labelWrites_inside_iff {topLabel bottomLabel : String} :
    (∀ write ∈ labelWrites display area topLabel bottomLabel, write.Inside display area) ↔
      LabelsFit display area topLabel bottomLabel := by
  unfold labelWrites LabelsFit
  by_cases drawn : LabelsDrawn display area topLabel bottomLabel
  case neg => simp [drawn]
  obtain ⟨height, wide, room⟩ := drawn
  have top := @labelWrite_inside_iff display area _ area.y topLabel
    (show max (display.displayWidth topLabel) (display.displayWidth bottomLabel) < area.width by omega)
    (by omega)
  have bottom (tall : 1 < area.height) := @labelWrite_inside_iff display area _
    (area.y + area.height - 1) bottomLabel
    (show max (display.displayWidth topLabel) (display.displayWidth bottomLabel) < area.width by omega)
    (by omega)
  dsimp only
  rw [if_pos ⟨height, wide, room⟩, List.forall_mem_cons, top]
  simp only [show LabelsDrawn display area topLabel bottomLabel from ⟨height, wide, room⟩, true_implies]
  apply and_congr_right
  intro _
  by_cases tall : 1 < area.height
  · simp [tall, bottom tall]
  · simp [tall]

/-! ### The plot -/

theorem plotCell_inside (representable : area.Representable) (low : area.height ≤ 16383)
    {x cellOffset : ℕ} (filledUnits : ℕ) (left : area.x ≤ x) (before : x < area.x + area.width)
    (up : cellOffset < area.height) :
    DrawsOnly (Write.Inside display area) (renderPlotCell area x filledUnits cellOffset)
      fun _ => True := by
  obtain ⟨right, bottom⟩ := representable
  have holds : area.Holds x (area.y + area.height - 1 - cellOffset) := by
    unfold Rect.Holds
    omega
  unfold renderPlotCell
  apply Draws.add_bind bottom
  apply Draws.sub_bind (by omega)
  apply Draws.sub_bind (by omega)
  dsimp only
  split
  next =>
    split
    next =>
      -- Four more units than the start of the highest cell are still a word.
      have cellEnd : saturateU16 (cellOffset * 4) + 4 < 2 ^ 16 := by
        unfold saturateU16
        omega
      apply Draws.add_bind cellEnd
      exact DrawsOnly.draw_ (Write.inside_dots _ _ holds)
    next => exact DrawsOnly.draw_ (Write.inside_dots _ _ holds)
  next => exact DrawsOnly.pure_ trivial

theorem neighbour_inside {visibleData : List (F64 × F64)} {there : Bool} {columnIndex : ℕ}
    (point : F64 × F64) (lt : there = true → columnIndex < visibleData.length) :
    DrawsOnly (Write.Inside display area) (neighbour visibleData point there columnIndex)
      fun _ => True := by
  unfold neighbour
  split
  next holds =>
    rw [index, List.getElem?_eq_getElem (lt holds)]
    exact DrawsOnly.pure_ trivial
  next => exact DrawsOnly.pure_ trivial

theorem bottomBandDottedPlot_inside (representable : area.Representable) (low : area.height ≤ 16383)
    (data : List (F64 × F64)) (yMax : F64) (bandRows : ℕ) :
    DrawsOnly (Write.Inside display area) (renderBottomBandDottedPlot area data yMax bandRows)
      fun _ => True := by
  have right := representable.1
  unfold renderBottomBandDottedPlot
  apply DrawsOnly.return_early trivial
  intro some
  dsimp only
  rw [asU16_of_lt (n := min area.width data.length) (by omega)]
  apply Draws.add_bind (by omega)
  have visible : (data.drop (data.length - min area.width data.length)).length =
      min area.width data.length := by
    rw [List.length_drop]
    omega
  rw [visible]
  apply DrawsOnly.forM_
  intro columnIndex in_range
  have before := (mem_span.mp in_range).2
  apply Draws.index_bind (by rwa [visible])
  rw [asU16_of_lt (by omega)]
  apply Draws.add_bind (by omega)
  apply DrawsOnly.bind (neighbour_inside _ fun there => by
    rw [visible]
    omega)
  intro prev _
  apply DrawsOnly.bind (neighbour_inside _ fun there => by
    rw [visible]
    simpa using there)
  intro next _
  apply DrawsOnly.forM_
  intro cellOffset in_band
  have up := (mem_span.mp in_band).2
  exact plotCell_inside representable low _ (by omega) (by omega) (by omega)

/-! ### The segments -/

@[simp] theorem segmentsWidth_cons (text : String) (segments : List String) :
    segmentsWidth display (text :: segments) =
      display.displayWidth text + segmentsWidth display segments := by
  simp [segmentsWidth]

/-- What `renderSegments` draws. -/
def segmentWrites (display : TextDisplay) (y : ℕ) : ℕ → List String → List Write
  | _, [] => []
  | textX, text :: segments =>
    .text textX y text (display.displayWidth text) ::
      segmentWrites display y (textX + display.displayWidth text) segments

theorem segments_draws (y : ℕ) {textX : ℕ} {segments : List String}
    (fits : textX + segmentsWidth display segments < 2 ^ 16) :
    Draws (renderSegments display y textX segments) fun _ drawn =>
      drawn = segmentWrites display y textX segments := by
  induction segments generalizing textX with
  | nil => exact Draws.pure_ rfl
  | cons text segments ih =>
    rw [segmentsWidth_cons] at fits
    unfold renderSegments
    apply Draws.draw_bind
    rw [asU16_of_lt (by omega)]
    apply Draws.add_bind (by omega)
    apply (ih (by omega)).mono
    rintro _ _ rfl
    rfl

/-- Each segment lies between the start of the first and the end of the last. -/
theorem segmentWrites_between {y textX : ℕ} {segments : List String} {write : Write}
    (mem : write ∈ segmentWrites display y textX segments) :
    ∃ x string, write = .text x y string (display.displayWidth string) ∧
      textX ≤ x ∧ x + display.displayWidth string ≤ textX + segmentsWidth display segments := by
  induction segments generalizing textX with
  | nil => cases mem
  | cons text segments ih =>
    rw [segmentsWidth_cons]
    rcases List.mem_cons.mp mem with rfl | mem
    · exact ⟨textX, text, rfl, by omega, by omega⟩
    · obtain ⟨x, string, rfl, after, before⟩ := ih mem
      exact ⟨x, string, rfl, by omega, by omega⟩

theorem segments_inside (representable : area.Representable) {y textX : ℕ} {segments : List String}
    (row : area.y ≤ y ∧ y < area.y + area.height) (left : area.x ≤ textX)
    (fits : textX + segmentsWidth display segments < area.x + area.width) :
    DrawsOnly (Write.Inside display area) (renderSegments display y textX segments)
      fun _ => True := by
  have right := representable.1
  apply (segments_draws y (by omega)).mono
  rintro _ _ rfl
  refine ⟨trivial, fun write mem => ?_⟩
  obtain ⟨x, string, rfl, after, before⟩ := segmentWrites_between mem
  have columns := display.written_le_limit x string (display.displayWidth string)
  apply Write.inside_text
  · unfold Rect.Holds
    omega
  · omega

/-! ### The grid -/

/-- A fold that reaches a property at one element and then keeps it. -/
theorem foldl_reaches {α β : Type} {step : β → α → β} (inv : β → Prop) {reached : β → Prop}
    (invariant : ∀ b a, inv b → inv (step b a)) (kept : ∀ b a, reached b → reached (step b a))
    {l : List α} {a : α} (mem : a ∈ l) (reaches : ∀ b, inv b → reached (step b a)) {b : β}
    (holds : inv b) : reached (l.foldl step b) := by
  obtain ⟨before, after, rfl⟩ := List.append_of_mem mem
  rw [List.foldl_append, List.foldl_cons]
  apply List.foldlRecOn after step
  · exact reaches _ (List.foldlRecOn before step holds fun b holds a _ => invariant b a holds)
  · intro b holds a _
    exact kept b a holds

/-- A column has at least this width. -/
def WideColumn (columnIndex width : ℕ) (columnWidths : List ℕ) : Prop :=
  ∃ columnWidth, columnWidths[columnIndex]? = some columnWidth ∧ width ≤ columnWidth

theorem length_widenColumn (columnWidths : List ℕ) (cell : List String × ℕ) :
    (widenColumn display columnWidths cell).length = columnWidths.length :=
  List.length_modify _ _ _

theorem WideColumn.widenColumn {columnIndex width : ℕ} {columnWidths : List ℕ}
    (wide : WideColumn columnIndex width columnWidths) (cell : List String × ℕ) :
    WideColumn columnIndex width (widenColumn display columnWidths cell) := by
  obtain ⟨columnWidth, at_column, le⟩ := wide
  unfold App.widenColumn WideColumn
  rw [List.getElem?_modify, at_column]
  refine ⟨_, rfl, ?_⟩
  dsimp only
  split <;> omega

theorem wideColumn_widenColumn {columnIndex : ℕ} {columnWidths : List ℕ} (segments : List String)
    (lt : columnIndex < columnWidths.length) :
    WideColumn columnIndex (segmentsWidth display segments)
      (widenColumn display columnWidths (segments, columnIndex)) := by
  unfold widenColumn WideColumn
  rw [List.getElem?_modify, List.getElem?_eq_getElem lt]
  refine ⟨_, rfl, ?_⟩
  dsimp only
  rw [if_pos rfl]
  omega

theorem length_widenColumns (widths : List ℕ) (cells : List (List String × ℕ)) :
    (cells.foldl (widenColumn display) widths).length = widths.length := by
  induction cells generalizing widths with
  | nil => rfl
  | cons cell cells ih => rw [List.foldl_cons, ih, length_widenColumn]

theorem length_columnWidths (rows : List SegmentGridRow) (columnCount : ℕ) :
    (columnWidths display rows columnCount).length = columnCount := by
  unfold columnWidths
  apply List.foldlRecOn (motive := fun widths : List ℕ => widths.length = columnCount)
  · exact List.length_replicate
  · intro widths same row _
    rw [length_widenColumns, same]

/-- Each column has room for each of its cells. -/
theorem wideColumn_columnWidths {rows : List SegmentGridRow} {columnCount columnIndex : ℕ}
    {row : SegmentGridRow} {cell : List String} (mem : row ∈ rows)
    (at_column : row[columnIndex]? = some cell) (lt : columnIndex < columnCount) :
    WideColumn columnIndex (segmentsWidth display cell) (columnWidths display rows columnCount) := by
  unfold columnWidths
  apply foldl_reaches (fun widths => widths.length = columnCount) _ _ mem _ List.length_replicate
  · intro widths row same
    rw [length_widenColumns, same]
  · intro widths row wide
    exact List.foldlRecOn row.zipIdx (widenColumn display) wide fun _ wide cell _ =>
      wide.widenColumn cell
  · intro widths same
    have mem : (cell, columnIndex) ∈ row.zipIdx := List.mem_zipIdx_iff_getElem?.mpr at_column
    apply foldl_reaches (fun widths => widths.length = columnCount) _ _ mem _ same
    · intro widths cell same
      rw [length_widenColumn, same]
    · intro widths cell wide
      exact wide.widenColumn cell
    · intro widths same
      exact wideColumn_widenColumn cell (by omega)

/-- Where the box of a grid lies. -/
structure GridLayout.Fits (area : Rect) (layout : GridLayout) : Prop where
  left : area.x ≤ layout.boxX
  right : layout.boxX + layout.totalWidth < area.x + area.width
  start : layout.boxX ≤ layout.contentX
  stop : layout.contentX + layout.contentWidth ≤ layout.boxX + layout.totalWidth
  frame : layout.hasFrame = true → 2 ≤ layout.totalWidth
  bottom : layout.maxYOffset ≤ area.height
  columns : layout.contentWidth =
    layout.columnWidths.sum + layout.columnGap * (layout.columnWidths.length - 1)

theorem gridFrame_inside (representable : area.Representable) {layout : GridLayout}
    (fits : layout.Fits area) {y : ℕ} (row : area.y ≤ y ∧ y < area.y + area.height) (rowIndex : ℕ) :
    DrawsOnly (Write.Inside display area)
      (renderGridFrame layout.boxX layout.totalWidth y rowIndex layout.rowCount layout.hasFrame)
      fun _ => True := by
  have coordinate := representable.1
  have left := fits.left
  have right := fits.right
  unfold renderGridFrame
  apply Draws.add_bind (by omega)
  apply DrawsOnly.then_
  · apply DrawsOnly.forM_
    intro x in_box
    rw [mem_span] at in_box
    apply DrawsOnly.draw_
    apply Write.inside_cell
    unfold Rect.Holds
    omega
  split
  next framed =>
    have wide := fits.frame framed
    apply DrawsOnly.draw_bind
    · apply Write.inside_cell
      unfold Rect.Holds
      omega
    apply Draws.add_bind (by omega)
    apply Draws.sub_bind (by omega)
    apply DrawsOnly.draw_
    apply Write.inside_cell
    unfold Rect.Holds
    omega
  next => exact DrawsOnly.pure_ trivial

/-- The cells of a row, from the cursor right of the columns that are left to draw. -/
theorem gridCells_inside (representable : area.Representable) {layout : GridLayout}
    (fits : layout.Fits area) {row : SegmentGridRow} {y : ℕ}
    (line : area.y ≤ y ∧ y < area.y + area.height)
    (wide : ∀ columnIndex cell, row[columnIndex]? = some cell →
      WideColumn columnIndex (segmentsWidth display cell) layout.columnWidths)
    (columns cursorX : ℕ) (le : columns ≤ layout.columnWidths.length)
    (cursor : columns = 0 ∨ cursorX = layout.contentX + (layout.columnWidths.take columns).sum +
      layout.columnGap * (columns - 1)) :
    DrawsOnly (Write.Inside display area)
      (renderGridCells display layout.columnWidths row layout.columnGap y columns cursorX)
      fun _ => True := by
  induction columns generalizing cursorX with
  | zero => exact DrawsOnly.pure_ trivial
  | succ columnIndex ih =>
    have coordinate := representable.1
    obtain ⟨left, right, start, stop, -, -, content⟩ := fits
    rcases cursor with none | cursor
    · cases none
    have lt : columnIndex < layout.columnWidths.length := by omega
    have sum := List.sum_take_add_sum_drop layout.columnWidths (columnIndex + 1)
    rw [List.sum_take_succ _ _ lt] at cursor sum
    rw [Nat.add_sub_cancel] at cursor
    have gaps : layout.columnGap * columnIndex ≤
        layout.columnGap * (layout.columnWidths.length - 1) := Nat.mul_le_mul_left _ (by omega)
    unfold renderGridCells
    apply Draws.index_bind lt
    dsimp only
    rw [asU16_of_lt (n := layout.columnWidths[columnIndex]) (by omega)]
    apply DrawsOnly.then_
    · cases at_column : row[columnIndex]? with
      | none => exact DrawsOnly.pure_ trivial
      | some cell =>
        obtain ⟨width, at_width, room⟩ := wide columnIndex cell at_column
        rw [List.getElem?_eq_getElem lt] at at_width
        cases at_width
        unfold renderGridCells.renderGridCell
        dsimp only
        rw [asU16_of_lt (n := segmentsWidth display cell) (by omega)]
        apply Draws.add_bind (by omega)
        exact segments_inside representable line (by omega) (by omega)
    · apply ih _ (by omega)
      rcases Nat.eq_zero_or_pos columnIndex with zero | positive
      · left
        exact zero
      · right
        have gap : layout.columnGap * columnIndex =
            layout.columnGap * (columnIndex - 1) + layout.columnGap := by
          rw [← Nat.mul_succ]
          congr 1
          omega
        omega

/-- The rows from one on, down to the last line but one of the area. -/
theorem gridRows_inside (representable : area.Representable) {layout : GridLayout}
    (fits : layout.Fits area) {rows : List SegmentGridRow}
    (wide : ∀ row ∈ rows, ∀ columnIndex cell, row[columnIndex]? = some cell →
      WideColumn columnIndex (segmentsWidth display cell) layout.columnWidths)
    (rowIndex : ℕ) (offset : layout.startYOffset + rowIndex < 2 ^ 16) :
    DrawsOnly (Write.Inside display area) (renderGridRows display area layout rowIndex rows)
      fun _ => True := by
  induction rows generalizing rowIndex with
  | nil => exact DrawsOnly.pure_ trivial
  | cons row rows ih =>
    obtain ⟨coordinate, coordinate'⟩ := representable
    have bottom := fits.bottom
    have right := fits.right
    have stop := fits.stop
    unfold renderGridRows
    rw [asU16_of_lt (n := rowIndex) (by omega)]
    apply Draws.add_bind offset
    split
    next => exact DrawsOnly.pure_ trivial
    next above =>
      apply Draws.add_bind (by omega)
      apply DrawsOnly.then_
      · exact gridFrame_inside ⟨coordinate, coordinate'⟩ fits (by omega) rowIndex
      rw [asU16_of_lt (n := layout.contentWidth) (by omega)]
      apply Draws.add_bind (by omega)
      apply DrawsOnly.then_
      · apply gridCells_inside ⟨coordinate, coordinate'⟩ fits (by omega) (wide row List.mem_cons_self) _ _
          (Nat.le_refl _)
        right
        rw [List.take_length, fits.columns]
        omega
      · exact ih (fun row mem => wide row (List.mem_cons_of_mem _ mem)) (rowIndex + 1) (by omega)

theorem rightAlignedSegmentGrid_inside (representable : area.Representable) {startYOffset : ℕ}
    (offset : startYOffset < 2 ^ 16) (rows : List SegmentGridRow) (columnGap : ℕ) :
    DrawsOnly (Write.Inside display area)
      (renderRightAlignedSegmentGrid display area startYOffset rows columnGap) fun _ => True := by
  obtain ⟨right, bottom⟩ := representable
  unfold renderRightAlignedSegmentGrid
  dsimp only
  generalize framed_eq : decide (inlineFrameWidth < area.width - 2) = hasFrame
  -- The frame takes a column on each side of the content, if there is one.
  generalize frame_eq : (if hasFrame = true then inlineFrameWidth else 0) = frameWidth
  generalize shift_eq : (if hasFrame = true then 1 else 0) = shift
  have frame : frameWidth = 2 * shift ∧ (hasFrame = true → frameWidth = 2 ∧ 2 < area.width - 2) := by
    subst frame_eq shift_eq
    cases hasFrame with
    | false => simp
    | true => exact ⟨rfl, fun _ => ⟨rfl, of_decide_eq_true framed_eq⟩⟩
  generalize count_eq : (rows.map List.length).max?.getD 0 = columnCount
  generalize content_eq : (columnWidths display rows columnCount).sum +
    columnGap * (columnCount - 1) = contentWidth
  apply DrawsOnly.return_early trivial
  intro some
  apply DrawsOnly.return_early trivial
  intro _
  apply DrawsOnly.return_early trivial
  intro _
  apply DrawsOnly.return_early trivial
  intro room
  rw [asU16_of_lt (n := contentWidth) (by omega)]
  apply Draws.add_bind (by omega)
  apply Draws.add_bind (by omega)
  apply Draws.add_bind (by omega)
  apply Draws.add_bind (by omega)
  apply gridRows_inside ⟨right, bottom⟩
  · refine { left := ?_, right := ?_, start := ?_, stop := ?_, frame := ?_, bottom := ?_, columns := ?_ }
    all_goals dsimp only
    · omega
    · omega
    · omega
    · omega
    · intro framed
      have wide := frame.2 framed
      omega
    · omega
    · rw [length_columnWidths]
      exact content_eq.symm
  · intro row mem columnIndex cell at_column
    have longest : row.length ≤ columnCount := by
      rw [← count_eq]
      exact List.le_max?_getD_of_mem (List.mem_map_of_mem mem)
    have lt := (List.getElem?_eq_some_iff.mp at_column).1
    exact wideColumn_columnWidths mem at_column (by omega)
  · exact offset

end Inside

end ChainDash.App
