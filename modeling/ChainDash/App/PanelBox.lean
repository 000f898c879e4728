import ChainDash.App.MetricPanel

/-!
# The labeled box of a metric panel

`render_right_aligned_labeled_box` draws nothing when the content has no room, else a frame with
every row inside: what it draws is listed in order (`boxWrites`), and nothing later in the list
covers a row. The title is limited by its bytes, not by its columns, and is all that can cover a
corner of the frame, or leave the area; so the frame is whole (`BoxComplete`) exactly when the
title ends in front of the corner (`metric_panel_stays_inside_iff`).
-/

namespace ChainDash.App
set_option autoImplicit false

open Screen Ieee

/-- `box_x + total_width - 1`. -/
def lastColumn (boxX totalWidth : ℕ) : Draw Write ℕ := do
  let past ← addU16 boxX totalWidth
  subUnsigned past 1

/-- The first or the last line of the frame. -/
def renderEdge (boxX totalWidth y : ℕ) (left right : String) : Draw Write Unit := do
  draw (.cell boxX y left)
  let last ← lastColumn boxX totalWidth
  draw (.cell last y right)
  let first ← addU16 boxX 1
  let last ← lastColumn boxX totalWidth
  (span first last).forM fun x => draw (.cell x y "─")

variable (display : TextDisplay)

def renderBoxRow (boxX totalWidth contentX contentWidth labelWidth topY : ℕ)
    (entry : LabeledBoxRow × ℕ) : Draw Write Unit := do
  let above ← addU16 topY (asU16 entry.2)
  let y ← addU16 above 1
  draw (.cell boxX y "│")
  let last ← lastColumn boxX totalWidth
  draw (.cell last y "│")
  draw (.text contentX y entry.1.label labelWidth)
  let rowWidth := min (segmentsWidth display entry.1.value) contentWidth
  let textX ← addU16 contentX (contentWidth - asU16 rowWidth)
  renderSegments display y textX entry.1.value

/-- `format!(" {} ", options.title)`. -/
def titleText (options : LabeledBoxOptions) : String := " " ++ options.title ++ " "

/-- What is drawn once the content has room. -/
def drawLabeledBox (area : Rect) (rows : List LabeledBoxRow) (options : LabeledBoxOptions)
    (contentWidth labelWidth totalRows : ℕ) : Draw Write Unit := do
  let totalWidth := saturateU16 (contentWidth + 2)
  let boxX ← addU16 area.x (area.width - saturateU16 (totalWidth + options.rightInset))
  let contentX := saturateU16 (boxX + 1)
  let topY ← addU16 area.y options.startYOffset
  let below ← addU16 topY totalRows
  let bottomY ← subUnsigned below 1
  (span topY (bottomY + 1)).forM fun y => do
    let right ← addU16 boxX totalWidth
    (span boxX right).forM fun x => draw (.cell x y " ")
  renderEdge boxX totalWidth topY "╭" "╮"
  let titleWidth := asU16 (display.displayWidth (titleText options))
  let titleX ← addU16 contentX (if titleWidth < contentWidth then 1 else 0)
  draw (.text titleX topY (titleText options) (titleText options).utf8ByteSize)
  rows.zipIdx.forM (renderBoxRow display boxX totalWidth contentX contentWidth labelWidth topY)
  renderEdge boxX totalWidth bottomY "╰" "╯"

def boxLabelWidth (rows : List LabeledBoxRow) : ℕ :=
  (rows.map fun row => display.displayWidth row.label).max?.getD 0

def boxContentWidth (rows : List LabeledBoxRow) (options : LabeledBoxOptions) : ℕ :=
  let valueWidth := (rows.map fun row => segmentsWidth display row.value).max?.getD 0
  max (boxLabelWidth display rows + options.columnGap + valueWidth) (display.displayWidth options.title + 2)

def renderRightAlignedLabeledBox (area : Rect) (rows : List LabeledBoxRow)
    (options : LabeledBoxOptions) : Draw Write Bool :=
  let innerWidth := area.width - 2
  if innerWidth = 0 ∨ rows = [] then pure false
  else
    let labelWidth := boxLabelWidth display rows
    let contentWidth := boxContentWidth display rows options
    if contentWidth = 0 then pure false
    else
      let availableContentWidth := innerWidth - 2
      if availableContentWidth < contentWidth then pure false
      else
        let totalRows := asU16 (rows.length + 2)
        let availableRows := area.height - saturateU16 (options.startYOffset + 1)
        if totalRows = 0 ∨ availableRows < totalRows then pure false
        else do
          drawLabeledBox display area rows options (asU16 contentWidth) (asU16 labelWidth) totalRows
          pure true

/-- `render_metric_panel` inside its outer block. -/
def renderMetricPanel (inner : Rect) (data : List (F64 × F64)) (panel : MetricPanel) :
    Draw Write Unit :=
  if inner.width = 0 ∨ inner.height = 0 then pure ()
  else do
    clearArea inner
    let plotArea ← renderLeftAxisLabels display inner panel.topLabel "0"
    let bandRows := panel.bandRows.getD (lowerBandRows plotArea.height)
    renderBottomBandDottedPlot plotArea data panel.yMax bandRows
    let boxed ← renderRightAlignedLabeledBox display inner panel.boxRows panel.boxOptions
    if boxed then pure ()
    else renderRightAlignedSegmentGrid display inner 0 panel.fallbackRows 2

/-! ## What is drawn, in order -/

def edgeWrites (box : Rect) (y : ℕ) (left right : String) : List Write :=
  .cell box.x y left :: .cell (box.x + box.width - 1) y right ::
    (span (box.x + 1) (box.x + box.width - 1)).map fun x => .cell x y "─"

/-- Where the value of a row starts: it ends at the frame. -/
def valueX (display : TextDisplay) (box : Rect) (row : LabeledBoxRow) : ℕ :=
  box.x + box.width - 1 - segmentsWidth display row.value

def boxRowWrites (display : TextDisplay) (box : Rect) (labelWidth : ℕ) (entry : LabeledBoxRow × ℕ) :
    List Write :=
  let y := box.y + entry.2 + 1
  .cell box.x y "│" :: .cell (box.x + box.width - 1) y "│" ::
    .text (box.x + 1) y entry.1.label labelWidth ::
      segmentWrites display y (valueX display box entry.1) entry.1.value

def backgroundWrites (box : Rect) : List Write :=
  (span box.y (box.y + box.height)).flatMap fun y =>
    (span box.x (box.x + box.width)).map fun x => .cell x y " "

def boxWrites (display : TextDisplay) (box : Rect) (rows : List LabeledBoxRow)
    (options : LabeledBoxOptions) (labelWidth titleX : ℕ) : List Write :=
  backgroundWrites box ++ (edgeWrites box box.y "╭" "╮" ++
    (.text titleX box.y (titleText options) (titleText options).utf8ByteSize ::
      (rows.zipIdx.flatMap (boxRowWrites display box labelWidth) ++
        edgeWrites box (box.y + box.height - 1) "╰" "╯")))

/-- The box lies in the area, and its content between the sides. -/
structure BoxFits (display : TextDisplay) (area box : Rect) (rows : List LabeledBoxRow)
    (options : LabeledBoxOptions) (labelWidth titleX : ℕ) : Prop where
  inside : box.Within area
  height : box.height = rows.length + 2
  width : 4 ≤ box.width
  titleLeft : box.x < titleX
  titleStarts : titleX + 1 < box.x + box.width
  label : ∀ row ∈ rows, display.displayWidth row.label ≤ labelWidth
  value : ∀ row ∈ rows, labelWidth + segmentsWidth display row.value + 2 ≤ box.width

section Drawing

variable {display} {area box : Rect}

theorem lastColumn_draws (coordinate : box.x + box.width < 2 ^ 16) (wide : 4 ≤ box.width) :
    Draws (lastColumn box.x box.width) fun last drawn =>
      last = box.x + box.width - 1 ∧ drawn = [] := by
  unfold lastColumn
  apply Draws.add_bind coordinate
  rw [subUnsigned, if_pos (by omega)]
  exact Draws.pure_ ⟨rfl, rfl⟩

theorem edge_draws (coordinate : box.x + box.width < 2 ^ 16) (wide : 4 ≤ box.width) (y : ℕ)
    (left right : String) :
    Draws (renderEdge box.x box.width y left right) fun _ drawn => drawn = edgeWrites box y left right := by
  unfold renderEdge
  apply Draws.draw_bind
  apply Draws.bind (lastColumn_draws coordinate wide)
  rintro _ _ ⟨rfl, rfl⟩
  apply Draws.draw_bind
  apply Draws.add_bind (by omega)
  apply Draws.bind (lastColumn_draws coordinate wide)
  rintro _ _ ⟨rfl, rfl⟩
  apply (Draws.forM_draw _ _).mono
  rintro _ _ rfl
  rfl

theorem background_draws (coordinate : box.x + box.width < 2 ^ 16) :
    Draws ((span box.y (box.y + box.height)).forM fun y => do
      let right ← addU16 box.x box.width
      (span box.x right).forM fun x => draw (.cell x y " ")) fun _ drawn =>
      drawn = backgroundWrites box := by
  apply Draws.forM_
  intro y _
  apply Draws.add_bind coordinate
  exact Draws.forM_draw _ _

variable {rows : List LabeledBoxRow} {options : LabeledBoxOptions} {labelWidth titleX : ℕ}

/-- A row of the box: its value ends at the frame. -/
theorem boxRow_draws (representable : area.Representable)
    (fits : BoxFits display area box rows options labelWidth titleX)
    {entry : LabeledBoxRow × ℕ} (mem : entry ∈ rows.zipIdx) :
    Draws (renderBoxRow display box.x box.width (box.x + 1) (box.width - 2) labelWidth box.y entry)
      fun _ drawn => drawn = boxRowWrites display box labelWidth entry := by
  obtain ⟨right, bottom⟩ := representable
  obtain ⟨row, index⟩ := entry
  have lt := (List.getElem?_eq_some_iff.mp (List.mem_zipIdx_iff_getElem?.mp mem)).1
  have value := fits.value row (List.fst_mem_of_mem_zipIdx mem)
  have inside := fits.inside
  have height := fits.height
  have width := fits.width
  unfold Rect.Within at inside
  dsimp only at lt
  unfold renderBoxRow
  dsimp only
  rw [asU16_of_lt (n := index) (by omega), Nat.min_eq_left (by omega),
    asU16_of_lt (n := segmentsWidth display row.value) (by omega)]
  apply Draws.add_bind (by omega)
  apply Draws.add_bind (by omega)
  apply Draws.draw_bind
  apply Draws.bind (lastColumn_draws (by omega) width)
  rintro _ _ ⟨rfl, rfl⟩
  apply Draws.draw_bind
  apply Draws.draw_bind
  apply Draws.add_bind (by omega)
  have start : box.x + 1 + (box.width - 2 - segmentsWidth display row.value) = valueX display box row := by
    unfold valueX
    omega
  rw [start]
  have fits' : valueX display box row + segmentsWidth display row.value < 2 ^ 16 := by omega
  apply (segments_draws (box.y + index + 1) fits').mono
  rintro _ _ rfl
  rfl

/-- The box at the right of the area. -/
def labeledBox (area : Rect) (options : LabeledBoxOptions) (contentWidth rowCount : ℕ) : Rect :=
  ⟨area.x + (area.width - saturateU16 (contentWidth + 2 + options.rightInset)),
    area.y + options.startYOffset, contentWidth + 2, rowCount + 2⟩

/-- The title stands one column in where there is room for it. -/
def titleStart (display : TextDisplay) (box : Rect) (options : LabeledBoxOptions) (contentWidth : ℕ) : ℕ :=
  box.x + 1 + if asU16 (display.displayWidth (titleText options)) < contentWidth then 1 else 0

theorem labeledBox_fits (representable : area.Representable) {contentWidth : ℕ}
    (roomX : contentWidth + 4 ≤ area.width)
    (roomY : options.startYOffset + 1 + (rows.length + 2) ≤ area.height) (title : 2 ≤ contentWidth)
    (label : ∀ row ∈ rows, display.displayWidth row.label ≤ labelWidth)
    (value : ∀ row ∈ rows, labelWidth + segmentsWidth display row.value ≤ contentWidth) :
    BoxFits display area (labeledBox area options contentWidth rows.length) rows options labelWidth
      (titleStart display (labeledBox area options contentWidth rows.length) options contentWidth) := by
  have right := representable.1
  unfold labeledBox titleStart
  generalize inset_eq : area.width - saturateU16 (contentWidth + 2 + options.rightInset) = inset
  have inset_fits : inset + contentWidth + 2 ≤ area.width := by
    subst inset_eq
    unfold saturateU16
    omega
  refine { inside := ?_, height := rfl, width := ?_, titleLeft := ?_, titleStarts := ?_,
           label := label, value := ?_ }
  · unfold Rect.Within
    dsimp only
    omega
  · dsimp only
    omega
  · dsimp only
    omega
  · dsimp only
    split <;> omega
  · intro row mem
    have room := value row mem
    dsimp only
    omega

/-- Once the content has room, the box is drawn. -/
theorem drawLabeledBox_draws (representable : area.Representable) {contentWidth : ℕ}
    (fits : BoxFits display area (labeledBox area options contentWidth rows.length) rows options labelWidth
      (titleStart display (labeledBox area options contentWidth rows.length) options contentWidth)) :
    Draws (drawLabeledBox display area rows options contentWidth labelWidth (rows.length + 2))
      fun _ drawn => drawn = boxWrites display (labeledBox area options contentWidth rows.length) rows
        options labelWidth
        (titleStart display (labeledBox area options contentWidth rows.length) options contentWidth) := by
  have edge := (fits.inside.representable representable).1
  have titleStarts := fits.titleStarts
  obtain ⟨left, right, top, bottom⟩ := fits.inside
  obtain ⟨coordinate, coordinate'⟩ := representable
  unfold titleStart at titleStarts
  unfold labeledBox at left right top bottom titleStarts
  dsimp only at left right top bottom titleStarts
  unfold drawLabeledBox
  dsimp only
  rw [saturateU16_of_lt (n := contentWidth + 2) (by omega)]
  apply Draws.add_bind (by omega)
  apply Draws.add_bind (by omega)
  apply Draws.add_bind (by omega)
  apply Draws.sub_bind (by omega)
  rw [saturateU16_of_lt (n := _ + _ + 1) (by omega)]
  apply Draws.bind (@background_draws _ edge)
  rintro _ _ rfl
  apply Draws.bind (@edge_draws _ edge fits.width (area.y + options.startYOffset) "╭" "╮")
  rintro _ _ rfl
  apply Draws.add_bind (by omega)
  apply Draws.draw_bind
  apply Draws.bind (Draws.forM_ fun entry mem => boxRow_draws ⟨coordinate, coordinate'⟩ fits mem)
  rintro _ _ rfl
  apply (@edge_draws _ edge fits.width _ "╰" "╯").mono
  rintro _ _ rfl
  rfl

/-! ## Everything is inside -/

@[simp] theorem Write.place_height (display : TextDisplay) (write : Write) :
    (write.place display).height = 1 := by
  cases write <;> rfl

/-- Two writes on different lines. -/
theorem Write.disjoint_of_line {write write' : Write}
    (apart : (write.place display).y ≠ (write'.place display).y) :
    (write.place display).Disjoint (write'.place display) := by
  apply Rect.disjoint_of_apart
  rw [Write.place_height, Write.place_height]
  omega

theorem mem_backgroundWrites {write : Write} (mem : write ∈ backgroundWrites box) :
    write.Inside display box := by
  obtain ⟨y, in_column, mem⟩ := List.mem_flatMap.mp mem
  obtain ⟨x, in_row, rfl⟩ := List.mem_map.mp mem
  rw [mem_span] at in_column in_row
  exact Write.inside_cell " " ⟨in_row.1, in_row.2, in_column.1, in_column.2⟩

theorem mem_edgeWrites (wide : 4 ≤ box.width) {y : ℕ} {left right : String} {write : Write}
    (mem : write ∈ edgeWrites box y left right) :
    ∃ x symbol, write = .cell x y symbol ∧ box.x ≤ x ∧ x < box.x + box.width := by
  unfold edgeWrites at mem
  rcases List.mem_cons.mp mem with rfl | mem
  · exact ⟨box.x, left, rfl, by omega, by omega⟩
  rcases List.mem_cons.mp mem with rfl | mem
  · exact ⟨box.x + box.width - 1, right, rfl, by omega, by omega⟩
  · obtain ⟨x, in_edge, rfl⟩ := List.mem_map.mp mem
    rw [mem_span] at in_edge
    exact ⟨x, "─", rfl, by omega, by omega⟩

/-- A row is drawn on its own line. -/
theorem mem_boxRowWrites (fits : BoxFits display area box rows options labelWidth titleX)
    {entry : LabeledBoxRow × ℕ} (mem : entry ∈ rows.zipIdx) {write : Write}
    (drawn : write ∈ boxRowWrites display box labelWidth entry) :
    (write.place display).y = box.y + entry.2 + 1 ∧ write.Inside display box := by
  obtain ⟨row, index⟩ := entry
  have lt : index < rows.length := (List.getElem?_eq_some_iff.mp (List.mem_zipIdx_iff_getElem?.mp mem)).1
  have value := fits.value row (List.fst_mem_of_mem_zipIdx mem)
  have height := fits.height
  have width := fits.width
  have line : box.y ≤ box.y + index + 1 ∧ box.y + index + 1 < box.y + box.height := by omega
  unfold boxRowWrites at drawn
  dsimp only at drawn
  rcases List.mem_cons.mp drawn with rfl | drawn
  · exact ⟨rfl, Write.inside_cell _ ⟨by omega, by omega, line⟩⟩
  rcases List.mem_cons.mp drawn with rfl | drawn
  · exact ⟨rfl, Write.inside_cell _ ⟨by omega, by omega, line⟩⟩
  rcases List.mem_cons.mp drawn with rfl | drawn
  · have columns := display.written_le_limit (box.x + 1) row.label labelWidth
    exact ⟨rfl, Write.inside_text ⟨by omega, by omega, line⟩ (by omega)⟩
  · obtain ⟨x, string, rfl, after, before⟩ := segmentWrites_between drawn
    have columns := display.written_le_limit x string (display.displayWidth string)
    dsimp only [valueX] at after before
    exact ⟨rfl, Write.inside_text ⟨by omega, by omega, line⟩ (by omega)⟩

/-- The columns in which the title is written. -/
def titleColumns (display : TextDisplay) (options : LabeledBoxOptions) (titleX : ℕ) : ℕ :=
  display.written titleX (titleText options) (titleText options).utf8ByteSize

theorem boxWrites_inside (fits : BoxFits display area box rows options labelWidth titleX)
    (ends : titleX + titleColumns display options titleX < box.x + box.width) {write : Write}
    (mem : write ∈ boxWrites display box rows options labelWidth titleX) :
    write.Inside display area := by
  apply Write.Inside.mono _ fits.inside
  have height := fits.height
  have left := fits.titleLeft
  have right := fits.titleStarts
  unfold boxWrites at mem
  rcases List.mem_append.mp mem with mem | mem
  · exact mem_backgroundWrites mem
  rcases List.mem_append.mp mem with mem | mem
  · obtain ⟨x, symbol, rfl, after, before⟩ := mem_edgeWrites fits.width mem
    exact Write.inside_cell _ ⟨after, before, by omega, by omega⟩
  rcases List.mem_cons.mp mem with rfl | mem
  · exact Write.inside_text ⟨by omega, by omega, by omega, by omega⟩ ends.le
  rcases List.mem_append.mp mem with mem | mem
  · obtain ⟨entry, in_rows, mem⟩ := List.mem_flatMap.mp mem
    exact (mem_boxRowWrites fits in_rows mem).2
  · obtain ⟨x, symbol, rfl, after, before⟩ := mem_edgeWrites fits.width mem
    exact Write.inside_cell _ ⟨after, before, by omega, by omega⟩

/-! ## Nothing is covered -/

theorem segmentWrites_apart (y textX : ℕ) (segments : List String) :
    (segmentWrites display y textX segments).Pairwise fun write write' =>
      (write.place display).Disjoint (write'.place display) := by
  induction segments generalizing textX with
  | nil => exact List.Pairwise.nil
  | cons text segments ih =>
    refine List.Pairwise.cons ?_ (ih _)
    intro write mem
    obtain ⟨x, string, rfl, after, before⟩ := segmentWrites_between mem
    have columns := display.written_le_limit textX text (display.displayWidth text)
    apply Rect.disjoint_of_apart
    left
    left
    show textX + display.written textX text _ ≤ x
    omega

theorem edgeWrites_apart (wide : 4 ≤ box.width) (y : ℕ) (left right : String) :
    (edgeWrites box y left right).Pairwise fun write write' =>
      (write.place display).Disjoint (write'.place display) := by
  unfold edgeWrites
  refine List.Pairwise.cons ?_ (List.Pairwise.cons ?_ ?_)
  · intro write mem
    apply Rect.disjoint_of_apart
    left
    left
    rcases List.mem_cons.mp mem with rfl | mem
    · show box.x + 1 ≤ box.x + box.width - 1
      omega
    · obtain ⟨x, in_edge, rfl⟩ := List.mem_map.mp mem
      exact (mem_span.mp in_edge).1
  · intro write mem
    obtain ⟨x, in_edge, rfl⟩ := List.mem_map.mp mem
    apply Rect.disjoint_of_apart
    left
    right
    exact (mem_span.mp in_edge).2
  · have ordered : (span (box.x + 1) (box.x + box.width - 1)).Pairwise (· < ·) := List.pairwise_lt_range'
    apply List.pairwise_map.mpr
    apply ordered.imp
    intro x x' lt
    apply Rect.disjoint_of_apart
    left
    left
    exact lt

/-- The sides, the label and the segments of a row. -/
theorem boxRowWrites_apart (fits : BoxFits display area box rows options labelWidth titleX)
    {entry : LabeledBoxRow × ℕ} (mem : entry ∈ rows.zipIdx) :
    (boxRowWrites display box labelWidth entry).Pairwise fun write write' =>
      (write.place display).Disjoint (write'.place display) := by
  obtain ⟨row, index⟩ := entry
  have value := fits.value row (List.fst_mem_of_mem_zipIdx mem)
  have width := fits.width
  have start : valueX display box row = box.x + box.width - 1 - segmentsWidth display row.value := rfl
  have columns := display.written_le_limit (box.x + 1) row.label labelWidth
  unfold boxRowWrites
  dsimp only
  refine List.Pairwise.cons ?_ (List.Pairwise.cons ?_ (List.Pairwise.cons ?_ ?_))
  · intro write mem
    apply Rect.disjoint_of_apart
    left
    left
    show box.x + 1 ≤ (write.place display).x
    rcases List.mem_cons.mp mem with rfl | mem
    · show box.x + 1 ≤ box.x + box.width - 1
      omega
    rcases List.mem_cons.mp mem with rfl | mem
    · exact Nat.le_refl _
    · obtain ⟨x, string, rfl, after, -⟩ := segmentWrites_between mem
      show box.x + 1 ≤ x
      omega
  · intro write mem
    apply Rect.disjoint_of_apart
    left
    right
    show (write.place display).x + (write.place display).width ≤ box.x + box.width - 1
    rcases List.mem_cons.mp mem with rfl | mem
    · show box.x + 1 + display.written (box.x + 1) row.label labelWidth ≤ _
      omega
    · obtain ⟨x, string, rfl, after, before⟩ := segmentWrites_between mem
      have columns := display.written_le_limit x string (display.displayWidth string)
      show x + display.written x string _ ≤ _
      omega
  · intro write mem
    obtain ⟨x, string, rfl, after, -⟩ := segmentWrites_between mem
    apply Rect.disjoint_of_apart
    left
    left
    show box.x + 1 + display.written (box.x + 1) row.label labelWidth ≤ x
    omega
  · exact segmentWrites_apart _ _ _

theorem boxRows_apart (fits : BoxFits display area box rows options labelWidth titleX) :
    (rows.zipIdx.flatMap (boxRowWrites display box labelWidth)).Pairwise fun write write' =>
      (write.place display).Disjoint (write'.place display) := by
  have ordered : (rows.zipIdx.map Prod.snd).Pairwise (· < ·) := by
    rw [List.zipIdx_map_snd]
    exact List.pairwise_lt_range'
  refine List.pairwise_flatMap.mpr ⟨fun entry mem => boxRowWrites_apart fits mem, ?_⟩
  apply (List.pairwise_map.mp ordered).imp_of_mem
  intro entry entry' mem mem' lt write drawn write' drawn'
  have line := (mem_boxRowWrites fits mem drawn).1
  have line' := (mem_boxRowWrites fits mem' drawn').1
  apply Write.disjoint_of_line
  omega

/-- The whole frame and all rows, in a box inside the area; the title is all that covers
a part of the frame. -/
structure BoxComplete (display : TextDisplay) (area box : Rect) (rows : List LabeledBoxRow)
    (options : LabeledBoxOptions) (labelWidth titleX : ℕ) (drawn : List Write) : Prop where
  fits : BoxFits display area box rows options labelWidth titleX
  corners : ∀ corner ∈ [Write.cell box.x box.y "╭", .cell (box.x + box.width - 1) box.y "╮",
    .cell box.x (box.y + box.height - 1) "╰",
    .cell (box.x + box.width - 1) (box.y + box.height - 1) "╯"],
    Visible (Write.place display) drawn corner
  topEdge : ∀ x, box.x < x → x + 1 < box.x + box.width →
    Visible (Write.place display) drawn (.cell x box.y "─") ∨
      titleX ≤ x ∧ x < titleX + titleColumns display options titleX
  bottomEdge : ∀ x, box.x < x → x + 1 < box.x + box.width →
    Visible (Write.place display) drawn (.cell x (box.y + box.height - 1) "─")
  title : Visible (Write.place display) drawn
    (.text titleX box.y (titleText options) (titleText options).utf8ByteSize)
  row : ∀ index (lt : index < rows.length),
    ∀ write ∈ boxRowWrites display box labelWidth (rows[index], index),
      Visible (Write.place display) drawn write

/-- The lines of the rows and the last line of the frame are below the first. -/
theorem below_top (fits : BoxFits display area box rows options labelWidth titleX) {write : Write}
    (mem : write ∈ rows.zipIdx.flatMap (boxRowWrites display box labelWidth) ++
      edgeWrites box (box.y + box.height - 1) "╰" "╯") : box.y < (write.place display).y := by
  have height := fits.height
  rcases List.mem_append.mp mem with mem | mem
  · obtain ⟨entry, in_rows, mem⟩ := List.mem_flatMap.mp mem
    have line := (mem_boxRowWrites fits in_rows mem).1
    omega
  · obtain ⟨x, symbol, rfl, -⟩ := mem_edgeWrites fits.width mem
    show box.y < box.y + box.height - 1
    omega

/-- Only the title is drawn over the first line of the frame. -/
theorem topEdge_visible (fits : BoxFits display area box rows options labelWidth titleX) {x : ℕ}
    {symbol : String} (mem : Write.cell x box.y symbol ∈ edgeWrites box box.y "╭" "╮")
    (apart : x < titleX ∨ titleX + titleColumns display options titleX ≤ x) :
    Visible (Write.place display) (boxWrites display box rows options labelWidth titleX)
      (.cell x box.y symbol) := by
  apply Visible.append_left
  apply (visible_of_pairwise (edgeWrites_apart fits.width _ _ _) mem).append_right
  intro later mem'
  rcases List.mem_cons.mp mem' with rfl | mem'
  · apply Rect.disjoint_of_apart
    left
    show x + 1 ≤ titleX ∨ titleX + titleColumns display options titleX ≤ x
    omega
  · apply Write.disjoint_of_line
    exact Nat.ne_of_lt (below_top fits mem')

theorem bottomEdge_visible (fits : BoxFits display area box rows options labelWidth titleX)
    {write : Write} (mem : write ∈ edgeWrites box (box.y + box.height - 1) "╰" "╯") :
    Visible (Write.place display) (boxWrites display box rows options labelWidth titleX) write := by
  apply Visible.append_left
  apply Visible.append_left
  rw [← List.singleton_append]
  apply Visible.append_left
  apply Visible.append_left
  exact visible_of_pairwise (edgeWrites_apart fits.width _ _ _) mem

theorem boxRow_visible (fits : BoxFits display area box rows options labelWidth titleX) {index : ℕ}
    (lt : index < rows.length) {write : Write}
    (mem : write ∈ boxRowWrites display box labelWidth (rows[index], index)) :
    Visible (Write.place display) (boxWrites display box rows options labelWidth titleX) write := by
  have height := fits.height
  have in_rows : (rows[index], index) ∈ rows.zipIdx :=
    List.mem_zipIdx_iff_getElem?.mpr (List.getElem?_eq_getElem lt)
  apply Visible.append_left
  apply Visible.append_left
  rw [← List.singleton_append]
  apply Visible.append_left
  apply (visible_of_pairwise (boxRows_apart fits) (List.mem_flatMap.mpr ⟨_, in_rows, mem⟩)).append_right
  intro later mem'
  have line := (mem_boxRowWrites fits in_rows mem).1
  obtain ⟨x, symbol, rfl, -⟩ := mem_edgeWrites fits.width mem'
  apply Write.disjoint_of_line
  show (write.place display).y ≠ box.y + box.height - 1
  omega

/-- A cell between the corners. -/
theorem mem_edgeWrites_between {x : ℕ} (after : box.x < x) (before : x + 1 < box.x + box.width) (y : ℕ)
    (left right : String) : Write.cell x y "─" ∈ edgeWrites box y left right := by
  have in_edge : x ∈ span (box.x + 1) (box.x + box.width - 1) := mem_span.mpr (by omega)
  exact List.mem_cons_of_mem _ (List.mem_cons_of_mem _ (List.mem_map_of_mem in_edge))

theorem boxWrites_complete (fits : BoxFits display area box rows options labelWidth titleX)
    (ends : titleX + titleColumns display options titleX < box.x + box.width) :
    BoxComplete display area box rows options labelWidth titleX
      (boxWrites display box rows options labelWidth titleX) := by
  have left := fits.titleLeft
  refine { fits := fits, corners := ?_, topEdge := ?_, bottomEdge := ?_, title := ?_, row := ?_ }
  · intro corner mem
    simp only [List.mem_cons, List.not_mem_nil, or_false] at mem
    rcases mem with rfl | rfl | rfl | rfl
    · exact topEdge_visible fits List.mem_cons_self (by omega)
    · exact topEdge_visible fits (List.mem_cons_of_mem _ List.mem_cons_self) (by omega)
    · exact bottomEdge_visible fits List.mem_cons_self
    · exact bottomEdge_visible fits (List.mem_cons_of_mem _ List.mem_cons_self)
  · intro x after before
    by_cases covered : titleX ≤ x ∧ x < titleX + titleColumns display options titleX
    · right
      exact covered
    · left
      exact topEdge_visible fits (mem_edgeWrites_between after before _ _ _) (by omega)
  · intro x after before
    exact bottomEdge_visible fits (mem_edgeWrites_between after before _ _ _)
  · apply Visible.append_left
    apply Visible.append_left
    refine ⟨[], _, rfl, fun later mem => ?_⟩
    apply Write.disjoint_of_line
    exact Nat.ne_of_lt (below_top fits mem)
  · intro index lt write mem
    exact boxRow_visible fits lt mem

/-- A title that goes on to the corner covers it. -/
theorem title_ends (fits : BoxFits display area box rows options labelWidth titleX)
    (corner : Visible (Write.place display) (boxWrites display box rows options labelWidth titleX)
      (.cell (box.x + box.width - 1) box.y "╮")) :
    titleX + titleColumns display options titleX < box.x + box.width := by
  have left := fits.titleLeft
  have starts := fits.titleStarts
  by_contra covered
  obtain ⟨before, after, split, apart⟩ := corner
  unfold boxWrites at split
  rw [← List.append_assoc] at split
  -- the corner is drawn before the title, or among what is drawn below the first line
  rcases List.append_eq_append_iff.mp split with ⟨middle, -, rest⟩ | ⟨middle, -, rest⟩
  · cases middle with
    | nil => cases rest
    | cons title middle =>
      obtain ⟨-, rest⟩ := List.cons.inj rest
      have inside : Write.cell (box.x + box.width - 1) box.y "╮" ∈
          middle.append (.cell (box.x + box.width - 1) box.y "╮" :: after) :=
        List.mem_append_right middle List.mem_cons_self
      rw [← rest] at inside
      exact (below_top fits inside).false
  · cases middle with
    | nil => cases rest
    | cons corner middle =>
      obtain ⟨-, rfl⟩ := List.cons.inj rest
      have title := apart _ (List.mem_append_right middle List.mem_cons_self)
      refine title (box.x + box.width - 1) box.y ⟨by exact Nat.le_refl _, by exact Nat.lt_succ_self _,
        by exact Nat.le_refl _, by exact Nat.lt_succ_self _⟩ ?_
      show titleX ≤ box.x + box.width - 1 ∧
        box.x + box.width - 1 < titleX + titleColumns display options titleX ∧
        box.y ≤ box.y ∧ box.y < box.y + 1
      omega

/-! ## The panel -/

/-- The box has content and room. -/
def BoxDrawn (display : TextDisplay) (area : Rect) (rows : List LabeledBoxRow)
    (options : LabeledBoxOptions) : Prop :=
  rows ≠ [] ∧ boxContentWidth display rows options + 4 ≤ area.width ∧
    options.startYOffset + 1 + (rows.length + 2) ≤ area.height

def panelBox (display : TextDisplay) (area : Rect) (rows : List LabeledBoxRow)
    (options : LabeledBoxOptions) : Rect :=
  labeledBox area options (boxContentWidth display rows options) rows.length

def panelTitleX (display : TextDisplay) (area : Rect) (rows : List LabeledBoxRow)
    (options : LabeledBoxOptions) : ℕ :=
  titleStart display (panelBox display area rows options) options (boxContentWidth display rows options)

/-- The box is not drawn, or its title ends in front of the right side of the frame. -/
def TitleFits (display : TextDisplay) (area : Rect) (rows : List LabeledBoxRow)
    (options : LabeledBoxOptions) : Prop :=
  let box := panelBox display area rows options
  let titleX := panelTitleX display area rows options
  BoxDrawn display area rows options →
    titleX + titleColumns display options titleX < box.x + box.width

theorem panelBox_fits (representable : area.Representable) (drawn : BoxDrawn display area rows options) :
    BoxFits display area (panelBox display area rows options) rows options (boxLabelWidth display rows)
      (panelTitleX display area rows options) := by
  obtain ⟨-, roomX, roomY⟩ := drawn
  have content : boxContentWidth display rows options =
      max (boxLabelWidth display rows + options.columnGap +
        (rows.map fun row => segmentsWidth display row.value).max?.getD 0)
        (display.displayWidth options.title + 2) := rfl
  apply labeledBox_fits representable roomX roomY
  · omega
  · intro row mem
    exact List.le_max?_getD_of_mem (List.mem_map_of_mem mem)
  · intro row mem
    have widest : segmentsWidth display row.value ≤
        (rows.map fun row => segmentsWidth display row.value).max?.getD 0 :=
      List.le_max?_getD_of_mem (List.mem_map_of_mem mem)
    omega

/-- The box is drawn where there is room for it. -/
theorem labeledBox_draws (representable : area.Representable) (few : rows.length + 2 < 2 ^ 16) :
    Draws (renderRightAlignedLabeledBox display area rows options) fun boxed drawn =>
      ¬BoxDrawn display area rows options ∧ boxed = false ∧ drawn = [] ∨
        BoxDrawn display area rows options ∧ boxed = true ∧
          drawn = boxWrites display (panelBox display area rows options) rows options
            (boxLabelWidth display rows) (panelTitleX display area rows options) := by
  obtain ⟨right, bottom⟩ := representable
  have wide : 2 ≤ boxContentWidth display rows options :=
    (Nat.le_add_left 2 _).trans (Nat.le_max_right _ _)
  have labels : boxLabelWidth display rows ≤ boxContentWidth display rows options :=
    (Nat.le_add_right _ _).trans ((Nat.le_add_right _ _).trans (Nat.le_max_left _ _))
  unfold renderRightAlignedLabeledBox
  dsimp only
  split
  next none =>
    refine Draws.pure_ (.inl ⟨?_, rfl, rfl⟩)
    rintro ⟨some, roomX, -⟩
    rcases none with narrow | empty
    · omega
    · exact some empty
  next some =>
  split
  next none => omega
  split
  next narrow =>
    refine Draws.pure_ (.inl ⟨?_, rfl, rfl⟩)
    rintro ⟨-, roomX, -⟩
    omega
  next room =>
  rw [asU16_of_lt few, asU16_of_lt (n := boxContentWidth display rows options) (by omega),
    asU16_of_lt (n := boxLabelWidth display rows) (by omega)]
  split
  next short =>
    refine Draws.pure_ (.inl ⟨?_, rfl, rfl⟩)
    rintro ⟨-, -, roomY⟩
    rw [saturateU16_of_lt (by omega)] at short
    omega
  next rest =>
    have roomY : options.startYOffset + 1 + (rows.length + 2) ≤ area.height :=
      add_le_of_le_sub_saturateU16 (by omega) (by omega) (Nat.not_lt.mp fun short => rest (Or.inr short))
    have drawn : BoxDrawn display area rows options :=
      ⟨fun empty => some (Or.inr empty), by omega, roomY⟩
    apply (drawLabeledBox_draws ⟨right, bottom⟩ (panelBox_fits ⟨right, bottom⟩ drawn)).bind
    rintro _ _ rfl
    apply Draws.pure_
    rw [List.append_nil]
    exact .inr ⟨drawn, rfl, rfl⟩

/-- A call of `render_right_aligned_labeled_box` that draws nothing, or a whole box inside the area. -/
def BoxWhole (display : TextDisplay) (area : Rect) (rows : List LabeledBoxRow)
    (options : LabeledBoxOptions) : Prop :=
  Draws (renderRightAlignedLabeledBox display area rows options) fun boxed drawn =>
    boxed = false ∧ drawn = [] ∨
      boxed = true ∧ (∀ write ∈ drawn, write.Inside display area) ∧
        BoxComplete display area (panelBox display area rows options) rows options
          (boxLabelWidth display rows) (panelTitleX display area rows options) drawn

theorem boxWhole_iff (representable : area.Representable) (few : rows.length + 2 < 2 ^ 16) :
    BoxWhole display area rows options ↔ TitleFits display area rows options := by
  constructor
  · intro whole room
    obtain ⟨boxed, drawn, ⟨none, -, -⟩ | ⟨-, rfl, rfl⟩, ⟨unboxed, -⟩ | ⟨-, -, complete⟩⟩ :=
      (labeledBox_draws representable few).and whole
    · exact absurd room none
    · exact absurd room none
    · cases unboxed
    · exact title_ends (panelBox_fits representable room)
        (complete.corners _ (List.mem_cons_of_mem _ List.mem_cons_self))
  · intro titleFits
    apply (labeledBox_draws representable few).mono
    rintro boxed drawn (⟨-, unboxed, nothing⟩ | ⟨room, rfl, rfl⟩)
    · exact .inl ⟨unboxed, nothing⟩
    · have fits := panelBox_fits representable room
      have ends := titleFits room
      exact .inr ⟨rfl, fun write mem => boxWrites_inside fits ends mem, boxWrites_complete fits ends⟩

theorem labeledBox_inside (representable : area.Representable) (few : rows.length + 2 < 2 ^ 16)
    (titleFits : TitleFits display area rows options) :
    DrawsOnly (Write.Inside display area) (renderRightAlignedLabeledBox display area rows options)
      fun _ => True := by
  apply ((boxWhole_iff representable few).mpr titleFits).mono
  rintro boxed drawn (⟨-, rfl⟩ | ⟨-, inside, -⟩)
  · simp
  · exact ⟨trivial, inside⟩

theorem leftAxisLabels_inside_iff (representable : area.Representable) {topLabel bottomLabel : String}
    (topShort : display.displayWidth topLabel < 2 ^ 16)
    (bottomShort : display.displayWidth bottomLabel < 2 ^ 16) :
    DrawsOnly (Write.Inside display area) (renderLeftAxisLabels display area topLabel bottomLabel)
      (fun plotArea => plotArea.Within area ∧ plotArea.height = area.height) ↔
        LabelsFit display area topLabel bottomLabel := by
  have draws := @leftAxisLabels_draws display area representable _ _ topShort bottomShort
  rw [← labelWrites_inside_iff]
  constructor
  · intro inside
    obtain ⟨plotArea, drawn, ⟨-, rfl⟩, ⟨-, all⟩⟩ := draws.and inside
    exact all
  · intro all
    apply draws.mono
    rintro plotArea drawn ⟨within, rfl⟩
    exact ⟨within, all⟩

/-- The whole panel, with labels and a title that fit. -/
theorem metricPanel_inside (representable : area.Representable) (low : area.height ≤ 16383)
    (data : List (F64 × F64)) {panel : MetricPanel}
    (topShort : display.displayWidth panel.topLabel < 2 ^ 16) (bottomShort : display.displayWidth "0" < 2 ^ 16)
    (few : panel.boxRows.length + 2 < 2 ^ 16) (labelsFit : LabelsFit display area panel.topLabel "0")
    (titleFits : TitleFits display area panel.boxRows panel.boxOptions) :
    DrawsOnly (Write.Inside display area) (renderMetricPanel display area data panel) fun _ => True := by
  unfold renderMetricPanel
  apply DrawsOnly.return_early trivial
  intro _
  apply (clearArea_inside representable).then_
  apply DrawsOnly.bind ((leftAxisLabels_inside_iff representable topShort bottomShort).mpr labelsFit)
  rintro plotArea ⟨within, height⟩
  apply DrawsOnly.then_
  · apply (bottomBandDottedPlot_inside (within.representable representable) (by omega) data panel.yMax _).mono
    intro write inside
    exact inside.mono within
  apply DrawsOnly.bind (labeledBox_inside representable few titleFits)
  intro boxed _
  apply DrawsOnly.return_early trivial
  intro _
  exact rightAlignedSegmentGrid_inside representable (by omega) panel.fallbackRows 2

end Drawing

/-- What the four routines of a metric panel draw from. -/
structure PanelInput where
  topLabel : String
  bottomLabel : String
  data : List (F64 × F64)
  yMax : F64
  bandRows : ℕ
  boxRows : List LabeledBoxRow
  boxOptions : LabeledBoxOptions
  startYOffset : ℕ
  fallbackRows : List SegmentGridRow
  columnGap : ℕ

/-- Widths, row counts and offsets that are words. -/
structure PanelInput.Short (input : PanelInput) (display : TextDisplay) : Prop where
  topLabel : display.displayWidth input.topLabel < 2 ^ 16
  bottomLabel : display.displayWidth input.bottomLabel < 2 ^ 16
  boxRows : input.boxRows.length + 2 < 2 ^ 16
  startYOffset : input.startYOffset < 2 ^ 16

/-- The four routines draw inside the area without a step out of the coordinates, and the box is
whole or not there. -/
structure PanelInside (display : TextDisplay) (area : Rect) (input : PanelInput) : Prop where
  labels : DrawsOnly (Write.Inside display area)
    (renderLeftAxisLabels display area input.topLabel input.bottomLabel)
    fun plotArea => plotArea.Within area ∧ plotArea.height = area.height
  plot : DrawsOnly (Write.Inside display area)
    (renderBottomBandDottedPlot area input.data input.yMax input.bandRows) fun _ => True
  box : BoxWhole display area input.boxRows input.boxOptions
  grid : DrawsOnly (Write.Inside display area)
    (renderRightAlignedSegmentGrid display area input.startYOffset input.fallbackRows input.columnGap)
    fun _ => True

/-- Drawing a metric panel stays inside its area, with a whole box or none, exactly when the labels
are written in the area and the title ends in front of the corner. -/
theorem metric_panel_stays_inside_iff (display : TextDisplay) (buffer area : Rect)
    (representable : buffer.Representable) (inside : area.Within buffer) (low : area.height ≤ 16383)
    (input : PanelInput) (short : input.Short display) :
    PanelInside display area input ↔
      LabelsFit display area input.topLabel input.bottomLabel ∧
        TitleFits display area input.boxRows input.boxOptions := by
  have representable : area.Representable := inside.representable representable
  constructor
  · intro panel
    exact ⟨(leftAxisLabels_inside_iff representable short.topLabel short.bottomLabel).mp panel.labels,
      (boxWhole_iff representable short.boxRows).mp panel.box⟩
  · rintro ⟨labelsFit, titleFits⟩
    refine { labels := ?_, plot := ?_, box := ?_, grid := ?_ }
    · exact (leftAxisLabels_inside_iff representable short.topLabel short.bottomLabel).mpr labelsFit
    · exact bottomBandDottedPlot_inside representable low input.data input.yMax input.bandRows
    · exact (boxWhole_iff representable short.boxRows).mpr titleFits
    · exact rightAlignedSegmentGrid_inside representable short.startYOffset input.fallbackRows
        input.columnGap

/-- No text is written in more columns than its width, and a space is a column. -/
structure TextDisplay.Additive (display : TextDisplay) : Prop where
  written_le_width (x : ℕ) (text : String) (limit : ℕ) :
    display.written x text limit ≤ display.displayWidth text
  displayWidth_spaced (text : String) :
    display.displayWidth (" " ++ text ++ " ") = display.displayWidth text + 2

theorem labelsFit_of_additive {display : TextDisplay} {area : Rect} (additive : display.Additive)
    (topLabel bottomLabel : String) : LabelsFit display area topLabel bottomLabel := by
  rintro ⟨-, -, room⟩
  generalize width_eq : max (display.displayWidth topLabel) (display.displayWidth bottomLabel) = width
    at room ⊢
  have top := additive.written_le_width (area.x + (width - display.displayWidth topLabel)) topLabel width
  have bottom := additive.written_le_width (area.x + (width - display.displayWidth bottomLabel))
    bottomLabel width
  unfold LabelFits
  dsimp only
  omega

theorem titleFits_of_additive {display : TextDisplay} {area : Rect} (additive : display.Additive)
    (representable : area.Representable) (rows : List LabeledBoxRow) (options : LabeledBoxOptions) :
    TitleFits display area rows options := by
  rintro ⟨-, room, -⟩
  have right := representable.1
  have spaced : display.displayWidth (titleText options) = display.displayWidth options.title + 2 :=
    additive.displayWidth_spaced options.title
  have columns : titleColumns display options (panelTitleX display area rows options) ≤
      display.displayWidth (titleText options) := additive.written_le_width _ _ _
  have content : display.displayWidth options.title + 2 ≤ boxContentWidth display rows options :=
    Nat.le_max_right _ _
  have start : panelTitleX display area rows options = (panelBox display area rows options).x + 1 +
      if asU16 (display.displayWidth (titleText options)) < boxContentWidth display rows options then 1
      else 0 := rfl
  have width : (panelBox display area rows options).width = boxContentWidth display rows options + 2 := rfl
  rw [asU16_of_lt (n := display.displayWidth (titleText options)) (by omega)] at start
  split at start <;> omega

/-- The columns of a text of narrow characters: Lam and Alef make a ligature of one column. -/
def ligatureColumns : List Char → ℕ
  | 'ل' :: 'ا' :: rest => ligatureColumns rest + 1
  | _ :: rest => ligatureColumns rest + 1
  | [] => 0

/-- Narrow characters, written one in each column as long as the buffer goes on. -/
def ligatureDisplay (bufferRight : ℕ) : TextDisplay where
  displayWidth text := ligatureColumns text.toList
  written x text limit := min limit (min (bufferRight - x) text.toList.length)
  written_le_limit _ _ _ := Nat.min_le_left _ _

/-- A panel with one row in its box, under a title. -/
def titledInput (title : String) : PanelInput where
  topLabel := "12"
  bottomLabel := "0"
  data := [(.zero, .zero)]
  yMax := ofNat 11 52 12
  bandRows := 2
  boxRows := [⟨"C", ["5"]⟩]
  boxOptions := ⟨2, title, 2, 2⟩
  startYOffset := 0
  fallbackRows := [[["5"]]]
  columnGap := 2

theorem short_titledInput (title : String) : (titledInput title).Short (ligatureDisplay 40) := by
  have top : (ligatureDisplay 40).displayWidth "12" < 2 ^ 16 := by decide
  have bottom : (ligatureDisplay 40).displayWidth "0" < 2 ^ 16 := by decide
  exact ⟨top, bottom, by show 1 + 2 < 2 ^ 16; omega, by show 0 < 2 ^ 16; omega⟩

theorem metric_panel_stays_inside_txs :
    PanelInside (ligatureDisplay 40) ⟨1, 1, 38, 10⟩ (titledInput "txs") := by
  refine (metric_panel_stays_inside_iff (ligatureDisplay 40) ⟨0, 0, 40, 12⟩ ⟨1, 1, 38, 10⟩ (by decide)
    (by decide) (by decide) (titledInput "txs") (short_titledInput "txs")).mpr ⟨?_, ?_⟩
  · intro _
    unfold LabelFits
    decide
  · intro _
    decide

/-- A title of four ligatures is as wide as four columns and takes eight: with its spaces it goes
over the frame, and one column out of the area. -/
theorem title_leaves_area :
    ¬PanelInside (ligatureDisplay 40) ⟨1, 1, 38, 10⟩ (titledInput "لالالالا") ∧
    ¬DrawsOnly (Write.Inside (ligatureDisplay 40) ⟨1, 1, 38, 10⟩)
      (renderRightAlignedLabeledBox (ligatureDisplay 40) ⟨1, 1, 38, 10⟩ (titledInput "لالالالا").boxRows
        (titledInput "لالالالا").boxOptions) fun _ => True := by
  have room : BoxDrawn (ligatureDisplay 40) ⟨1, 1, 38, 10⟩ (titledInput "لالالالا").boxRows
      (titledInput "لالالالا").boxOptions := ⟨by decide, by decide, by decide⟩
  constructor
  · intro panel
    have ends := (boxWhole_iff (by decide) (by decide)).mp panel.box room
    exact absurd ends (by decide)
  · intro inside
    obtain ⟨boxed, drawn, ⟨none, -, -⟩ | ⟨-, rfl, rfl⟩, -, all⟩ :=
      (labeledBox_draws (by decide) (by decide)).and inside
    · exact none room
    · have title := all (.text 30 3 " لالالالا " 18) (by
        refine List.mem_append_right _ (List.mem_append_right _ ?_)
        exact List.mem_cons_self)
      exact absurd title.2 (by decide)

end ChainDash.App
