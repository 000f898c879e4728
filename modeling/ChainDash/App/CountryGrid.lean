import ChainDash.App.GeoLoop
import ChainDash.Lib.Screen

/-!
# The country grid

`PeerCountriesWidget::render_content` (`widgets/countries.rs`). The columns are as wide as the
widest row that may have to be shown, so every row has room, the Unknown row too, and the
summary accounts for the countries left out (`country_grid_lossless`). The display width of a
line is a parameter, a function of the texts of its spans.
-/

namespace ChainDash.App
set_option autoImplicit false

open Screen ChainDash.Geo

def unknownCountryFlag : String := "🌐"
def unknownCountryCode : String := "--"
def contentRowCount : ℕ := 4
def summaryRowIndex : ℕ := contentRowCount - 1
def countryColumnGap : ℕ := 2
def maxCountryColumns : ℕ := 5

inductive CountryRowMode
  | flagAndCode
  | codeAndCount
  | summaryOnly
  deriving DecidableEq

structure CountryRow where
  flag : String
  countryCode : String
  peerCount : ℕ
  mode : CountryRowMode
  deriving DecidableEq

/-- The widget with all that it draws from. -/
structure CountriesWidget extends PeerCountriesWidget where
  showCountryFlags : Bool

/-- A text from a cell on, in at most so many columns if there is a bound (`set_stringn`), or a
line in a rectangle. -/
inductive Drawn
  | text (x y : ℕ) (text : String) (columns : Option ℕ)
  | line (area : Rect) (spans : List String)
  deriving DecidableEq

/-- Two regional indicators for two capital letters. -/
def countryFlag (countryCode : String) : String :=
  if countryCode.utf8ByteSize ≠ 2 || !countryCode.toList.all Char.isUpper then ""
  else String.ofList (countryCode.toList.map fun letter => Char.ofNat (0x1F1E6 + (letter.toNat - 'A'.toNat)))

/-- The spans of the line with the flag and of the line without it. -/
def fullSpans (flag countryCode : String) (peerCount : ℕ) : List String :=
  [flag, " ", countryCode, " [", toString peerCount, "]"]

def codeOnlySpans (countryCode : String) (peerCount : ℕ) : List String :=
  [countryCode, " [", toString peerCount, "]"]

def countryRowLine (row : CountryRow) : List String :=
  match row.mode with
  | .flagAndCode => fullSpans row.flag row.countryCode row.peerCount
  | .codeAndCount => codeOnlySpans row.countryCode row.peerCount
  | .summaryOnly => []

def summaryTexts (knownCountryCount hiddenKnownCountryCount totalPeerCount : ℕ) : String × String :=
  let displayedCountryCount :=
    if 0 < hiddenKnownCountryCount then hiddenKnownCountryCount else knownCountryCount
  let sign := if 0 < hiddenKnownCountryCount then "+" else ""
  let countryLabel := if displayedCountryCount = 1 then "country" else "countries"
  let peerLabel := if totalPeerCount = 1 then "peer" else "peers"
  (s!"{sign}{displayedCountryCount} {countryLabel} · {totalPeerCount} {peerLabel}",
    s!"{sign}{displayedCountryCount}c · {totalPeerCount}p")

def countryColumnCount (areaWidth columnWidth : ℕ) : ℕ :=
  if columnWidth = 0 then 1
  else max 1 (min ((areaWidth + countryColumnGap) / (columnWidth + countryColumnGap)) maxCountryColumns)

/-- The rectangle of the `index`-th row, as the two loops of `render_content` compute it. -/
def rowArea (area : Rect) (columnCount columnWidth index : ℕ) : Draw Drawn Rect := do
  let row := index / columnCount
  let column := index % columnCount
  let x ← addU16 area.x (asU16 (column * (columnWidth + countryColumnGap)))
  let y ← addU16 area.y (asU16 row)
  let space ← subUnsigned area.right x
  return ⟨x, y, min space (asU16 columnWidth), 1⟩

/-- The larger widths. -/
def widen (widths row : ℕ × ℕ) : ℕ × ℕ := (max widths.1 row.1, max widths.2 row.2)

variable (lineWidth : List String → ℕ)

def countryRowWidths (flag countryCode : String) (peerCount : ℕ) : ℕ × ℕ :=
  (lineWidth (fullSpans flag countryCode peerCount), lineWidth (codeOnlySpans countryCode peerCount))

def renderCountryRow (area : Rect) (row : CountryRow) : Draw Drawn Unit :=
  if area.width = 0 ∨ area.height = 0 then pure ()
  else
    let widths := countryRowWidths lineWidth row.flag row.countryCode row.peerCount
    match row.mode with
    | .summaryOnly => pure ()
    | .flagAndCode =>
      if area.width < widths.1 then pure () else draw (.line area (countryRowLine row))
    | .codeAndCount =>
      if area.width < widths.2 then pure () else draw (.line area (countryRowLine row))

def renderSummary (area : Rect)
    (knownCountryCount hiddenKnownCountryCount totalPeerCount : ℕ) : Draw Drawn Unit :=
  if area.width = 0 ∨ area.height = 0 then pure ()
  else
    let texts := summaryTexts knownCountryCount hiddenKnownCountryCount totalPeerCount
    if lineWidth [texts.1] ≤ area.width then draw (.text area.x area.y texts.1 none)
    else if lineWidth [texts.2] ≤ area.width then draw (.text area.x area.y texts.2 none)
    else pure ()

def knownCountryRow (country : CountryCount) (mode : CountryRowMode) : CountryRow :=
  ⟨countryFlag country.countryCode, country.countryCode, country.peerCount, mode⟩

def unknownCountryRow (unknownCountryCount : ℕ) (mode : CountryRowMode) : CountryRow :=
  ⟨unknownCountryFlag, unknownCountryCode, unknownCountryCount, mode⟩

def renderKnownCountryRow (area : Rect) (country : CountryCount) (mode : CountryRowMode) :
    Draw Drawn Unit :=
  renderCountryRow lineWidth area (knownCountryRow country mode)

namespace CountriesWidget

variable (self : CountriesWidget)

def countryWidths : ℕ × ℕ :=
  let widths := self.snapshot.countryCounts.foldl (fun widths country =>
    widen widths (countryRowWidths lineWidth (countryFlag country.countryCode) country.countryCode
      country.peerCount)) (0, 0)
  if 0 < self.snapshot.unknownCountryCount then
    widen widths (countryRowWidths lineWidth unknownCountryFlag unknownCountryCode
      self.snapshot.unknownCountryCount)
  else widths

def countryRowMode (areaWidth : ℕ) : CountryRowMode :=
  let widths := self.countryWidths lineWidth
  if self.showCountryFlags ∧ 0 < widths.1 ∧ widths.1 ≤ areaWidth then .flagAndCode
  else if 0 < widths.2 ∧ widths.2 ≤ areaWidth then .codeAndCount
  else .summaryOnly

def countryRowWidth (mode : CountryRowMode) : ℕ :=
  match mode with
  | .flagAndCode => (self.countryWidths lineWidth).1
  | .codeAndCount => (self.countryWidths lineWidth).2
  | .summaryOnly => 0

/-- What `render_content` computes before it draws the grid. -/
def dataRows (area : Rect) : ℕ :=
  let contentRows := min area.height contentRowCount
  if summaryRowIndex < contentRows then summaryRowIndex else contentRows

def unknownPresent : ℕ := if 0 < self.snapshot.unknownCountryCount then 1 else 0

def columnWidth (area : Rect) : ℕ :=
  self.countryRowWidth lineWidth (self.countryRowMode lineWidth area.width)

def columnCount (area : Rect) : ℕ := countryColumnCount area.width (self.columnWidth lineWidth area)

def knownRows (area : Rect) : ℕ :=
  let dataCapacity := dataRows area * self.columnCount lineWidth area
  let knownRowsLimit := dataCapacity - self.unknownPresent
  if self.countryRowMode lineWidth area.width = .summaryOnly then 0
  else min self.snapshot.countryCounts.length knownRowsLimit

/-- The loop of `render_content` over the known countries. -/
def renderKnownRows (area : Rect) : Draw Drawn Unit :=
  (self.snapshot.countryCounts.take (self.knownRows lineWidth area)).zipIdx.forM fun entry => do
    let cell ← rowArea area (self.columnCount lineWidth area) (self.columnWidth lineWidth area) entry.2
    renderKnownCountryRow lineWidth cell entry.1 (self.countryRowMode lineWidth area.width)

/-- Its Unknown row. -/
def renderUnknownRow (area : Rect) : Draw Drawn Unit :=
  let rowMode := self.countryRowMode lineWidth area.width
  if 0 < self.unknownPresent ∧ rowMode ≠ .summaryOnly then do
    let cell ← rowArea area (self.columnCount lineWidth area) (self.columnWidth lineWidth area)
      (self.knownRows lineWidth area)
    renderCountryRow lineWidth cell (unknownCountryRow self.snapshot.unknownCountryCount rowMode)
  else pure ()

/-- Its summary. -/
def renderGridSummary (area : Rect) : Draw Drawn Unit :=
  if summaryRowIndex < min area.height contentRowCount then do
    let hiddenKnownCountryCount ←
      subUnsigned self.snapshot.countryCounts.length (self.knownRows lineWidth area)
    let y ← addU16 area.y (asU16 summaryRowIndex)
    renderSummary lineWidth ⟨area.x, y, area.width, 1⟩ self.snapshot.countryCounts.length
      hiddenKnownCountryCount self.snapshot.totalPeers
  else pure ()

def renderContent (area : Rect) : Draw Drawn Unit :=
  if area.width = 0 ∨ area.height = 0 then pure ()
  else if self.snapshotLoaded = false then
    draw (.text area.x area.y "Geo data unavailable" area.width)
  else if self.snapshot.totalPeers = 0 then do
    draw (.text area.x area.y "No peers" area.width)
    if summaryRowIndex < area.height then do
      let y ← addU16 area.y (asU16 summaryRowIndex)
      renderSummary lineWidth ⟨area.x, y, area.width, 1⟩ 0 0 0
    else pure ()
  else do
    self.renderKnownRows lineWidth area
    self.renderUnknownRow lineWidth area
    self.renderGridSummary lineWidth area

end CountriesWidget

/-! ## The widths fit -/

theorem le_widen_left (widths row : ℕ × ℕ) : widths ≤ widen widths row := le_sup_left

theorem le_widen_right (widths row : ℕ × ℕ) : row ≤ widen widths row := le_sup_right

theorem le_foldl_widen {α : Type} (width : α → ℕ × ℕ) (l : List α) (widths : ℕ × ℕ) :
    let widest := l.foldl (fun widths a => widen widths (width a)) widths
    widths ≤ widest ∧ ∀ a ∈ l, width a ≤ widest := by
  induction l generalizing widths with
  | nil => simp
  | cons a l ih =>
    obtain ⟨start, rest⟩ := ih (widen widths (width a))
    refine ⟨le_trans (le_widen_left _ _) start, ?_⟩
    intro b mem
    rcases List.mem_cons.mp mem with rfl | mem
    · exact le_trans (le_widen_right _ _) start
    · exact rest b mem

namespace CountriesWidget

variable {lineWidth} {self : CountriesWidget}

theorem countryRowWidths_le_known {country : CountryCount}
    (mem : country ∈ self.snapshot.countryCounts) :
    countryRowWidths lineWidth (countryFlag country.countryCode) country.countryCode
      country.peerCount ≤ self.countryWidths lineWidth := by
  have known := (le_foldl_widen (fun country : CountryCount => countryRowWidths lineWidth
    (countryFlag country.countryCode) country.countryCode country.peerCount)
    self.snapshot.countryCounts (0, 0)).2 country mem
  unfold countryWidths
  split
  · exact le_trans known (le_widen_left _ _)
  · exact known

theorem countryRowWidths_le_unknown (present : 0 < self.snapshot.unknownCountryCount) :
    countryRowWidths lineWidth unknownCountryFlag unknownCountryCode
      self.snapshot.unknownCountryCount ≤ self.countryWidths lineWidth := by
  unfold countryWidths
  rw [if_pos present]
  exact le_widen_right _ _

/-- The width of a row's line in the grid's mode. -/
theorem lineWidth_le {row : CountryRow}
    (le : countryRowWidths lineWidth row.flag row.countryCode row.peerCount ≤
      self.countryWidths lineWidth) (shown : row.mode ≠ .summaryOnly) :
    lineWidth (countryRowLine row) ≤ self.countryRowWidth lineWidth row.mode := by
  obtain ⟨flag, countryCode, peerCount, mode⟩ := row
  cases mode with
  | flagAndCode => exact le.1
  | codeAndCount => exact le.2
  | summaryOnly => exact absurd rfl shown

theorem columnWidth_le (area : Rect) : self.columnWidth lineWidth area ≤ area.width := by
  unfold columnWidth countryRowMode
  dsimp only
  split
  next fits => exact fits.2.2
  next =>
    split
    next fits => exact fits.2
    next => exact Nat.zero_le _

end CountriesWidget

theorem countryColumnCount_pos (areaWidth columnWidth : ℕ) :
    0 < countryColumnCount areaWidth columnWidth := by
  unfold countryColumnCount
  split <;> omega

/-- The columns and the gaps between them have room. -/
theorem countryColumnCount_fits {areaWidth columnWidth : ℕ} (le : columnWidth ≤ areaWidth) :
    countryColumnCount areaWidth columnWidth * (columnWidth + countryColumnGap) ≤
      areaWidth + countryColumnGap := by
  unfold countryColumnCount
  split
  · omega
  · have one : 1 ≤ (areaWidth + countryColumnGap) / (columnWidth + countryColumnGap) := by
      rw [Nat.le_div_iff_mul_le (by simp [countryColumnGap])]
      omega
    have most : max 1 (min ((areaWidth + countryColumnGap) / (columnWidth + countryColumnGap))
        maxCountryColumns) ≤ (areaWidth + countryColumnGap) / (columnWidth + countryColumnGap) := by
      omega
    exact le_trans (Nat.mul_le_mul_right _ most) (Nat.div_mul_le_self _ _)

/-! ## What is drawn -/

section Drawing

variable {lineWidth} {area : Rect} {columnCount columnWidth index : ℕ}

theorem dataRows_le : CountriesWidget.dataRows area ≤ area.height := by
  unfold CountriesWidget.dataRows
  dsimp only
  split <;> omega

/-- The rectangle of a row is the cell of the grid: no sum overflows and no cast cuts. -/
theorem rowArea_draws {rows : ℕ} (representable : area.Representable)
    (fits : columnCount * (columnWidth + countryColumnGap) ≤ area.width + countryColumnGap)
    (le : columnWidth ≤ area.width) (lines : rows ≤ area.height) (room : index < rows * columnCount) :
    Draws (rowArea area columnCount columnWidth index) fun cell drawn =>
      cell = area.gridCell columnCount columnWidth countryColumnGap index ∧ drawn = [] := by
  have column := Rect.column_le index fits (Nat.pos_of_lt_mul_left room)
  have row := Rect.row_lt room
  have edge := Rect.right_eq representable
  obtain ⟨right, bottom⟩ := representable
  unfold rowArea
  dsimp only
  rw [asU16_of_lt (n := index % columnCount * (columnWidth + countryColumnGap)) (by omega),
    asU16_of_lt (n := index / columnCount) (by omega), asU16_of_lt (n := columnWidth) (by omega)]
  generalize line_eq : index / columnCount = line at row ⊢
  apply Draws.add_bind (by omega)
  apply Draws.add_bind (by omega)
  apply Draws.sub_bind (by omega)
  apply Draws.pure_
  refine ⟨?_, rfl⟩
  rw [Rect.gridCell, line_eq, edge, Nat.min_eq_right (by omega)]

theorem renderCountryRow_draws {row : CountryRow} (width : 0 < area.width) (height : 0 < area.height)
    (shown : row.mode ≠ .summaryOnly) (fits : lineWidth (countryRowLine row) ≤ area.width) :
    Draws (renderCountryRow lineWidth area row) fun _ drawn =>
      drawn = [.line area (countryRowLine row)] := by
  obtain ⟨flag, countryCode, peerCount, mode⟩ := row
  unfold renderCountryRow
  rw [if_neg (by omega)]
  cases mode with
  | summaryOnly => exact absurd rfl shown
  | flagAndCode =>
    have fits : ¬area.width < (countryRowWidths lineWidth flag countryCode peerCount).1 :=
      Nat.not_lt.mpr fits
    dsimp only
    rw [if_neg fits]
    exact Draws.draw_ rfl
  | codeAndCount =>
    have fits : ¬area.width < (countryRowWidths lineWidth flag countryCode peerCount).2 :=
      Nat.not_lt.mpr fits
    dsimp only
    rw [if_neg fits]
    exact Draws.draw_ rfl

/-- The first of the two texts that fits. -/
def fittingText (lineWidth : List String → ℕ) (width : ℕ) (texts : String × String) : Option String :=
  [texts.1, texts.2].find? fun text => lineWidth [text] ≤ width

theorem renderSummary_draws {known hidden total : ℕ} (width : 0 < area.width) (height : 0 < area.height) :
    Draws (renderSummary lineWidth area known hidden total) fun _ drawn =>
      drawn = (fittingText lineWidth area.width (summaryTexts known hidden total)).toList.map fun text =>
        .text area.x area.y text none := by
  unfold renderSummary
  rw [if_neg (by omega)]
  dsimp only
  split
  next full =>
    apply Draws.draw_
    rw [fittingText, List.find?_cons_of_pos (by simpa using full)]
    rfl
  next full =>
    split
    next compact =>
      apply Draws.draw_
      rw [fittingText, List.find?_cons_of_neg (by simpa using full),
        List.find?_cons_of_pos (by simpa using compact)]
      rfl
    next compact =>
      apply Draws.pure_
      rw [fittingText, List.find?_cons_of_neg (by simpa using full),
        List.find?_cons_of_neg (by simpa using compact)]
      rfl

end Drawing

/-! ## The grid -/

/-- A row of the grid, at its place. -/
def rowDrawn (cells : ℕ → Rect) (entry : CountryRow × ℕ) : Drawn :=
  .line (cells entry.2) (countryRowLine entry.1)

namespace CountriesWidget

/-- The first `shown` countries, and the Unknown row if there are unknown ones. -/
def gridRows (self : CountriesWidget) (mode : CountryRowMode) (shown : ℕ) : List CountryRow :=
  (self.snapshot.countryCounts.take shown).map (fun country => knownCountryRow country mode) ++
    if 0 < self.snapshot.unknownCountryCount ∧ mode ≠ .summaryOnly then
      [unknownCountryRow self.snapshot.unknownCountryCount mode]
    else []

/-- The summary line, with the number of hidden countries. -/
def summaryDrawn (self : CountriesWidget) (lineWidth : List String → ℕ) (area : Rect) (hidden : ℕ) :
    List Drawn :=
  if summaryRowIndex < area.height then
    let texts := summaryTexts self.snapshot.countryCounts.length hidden self.snapshot.totalPeers
    (fittingText lineWidth area.width texts).toList.map fun text =>
      .text area.x (area.y + summaryRowIndex) text none
  else []

/-- The cells of the grid. -/
def gridCells (self : CountriesWidget) (lineWidth : List String → ℕ) (area : Rect) : ℕ → Rect :=
  area.gridCell (self.columnCount lineWidth area) (self.columnWidth lineWidth area) countryColumnGap

/-- What a summary says: how many countries are left out, or how many there are if none is, and
the number of peers, in words or with two letters. -/
inductive SummaryTells (known hidden total : ℕ) : String → Prop
  | hiddenInWords (left : 0 < hidden) : SummaryTells known hidden total
      ("+" ++ toString hidden ++ (if hidden = 1 then " country" else " countries") ++ " · " ++
        toString total ++ (if total = 1 then " peer" else " peers"))
  | hiddenInLetters (left : 0 < hidden) : SummaryTells known hidden total
      ("+" ++ toString hidden ++ "c · " ++ toString total ++ "p")
  | allInWords (all : hidden = 0) : SummaryTells known hidden total
      (toString known ++ (if known = 1 then " country" else " countries") ++ " · " ++
        toString total ++ (if total = 1 then " peer" else " peers"))
  | allInLetters (all : hidden = 0) : SummaryTells known hidden total
      (toString known ++ "c · " ++ toString total ++ "p")

/-- What is drawn is a grid with these rows in these cells, and a summary that accounts for the
countries not `shown`. -/
structure GridShown (self : CountriesWidget) (lineWidth : List String → ℕ) (area : Rect)
    (shown hidden : ℕ) (cells : ℕ → Rect) (rows : List CountryRow) (drawn : List Drawn) : Prop where
  drawn_eq : drawn = rows.zipIdx.map (rowDrawn cells) ++ self.summaryDrawn lineWidth area hidden
  listed : rows.map (fun row => (row.countryCode, row.peerCount)) =
    (self.snapshot.countryCounts.take shown).map (fun country => (country.countryCode, country.peerCount)) ++
      if 0 < self.snapshot.unknownCountryCount ∧
        self.countryRowMode lineWidth area.width ≠ .summaryOnly then
        [("--", self.snapshot.unknownCountryCount)]
      else []
  rowTells : ∀ row ∈ rows, countryRowLine row =
    (if row.mode = .flagAndCode then [row.flag, " "] else []) ++
      [row.countryCode, " [", toString row.peerCount, "]"]
  summaryTells : ∀ x y text columns, .text x y text columns ∈ drawn →
    SummaryTells self.snapshot.countryCounts.length hidden self.snapshot.totalPeers text
  counted : shown + hidden = self.snapshot.countryCounts.length
  inside : ∀ i < rows.length, (cells i).Within area
  disjoint : ∀ i j, i < j → j < rows.length → (cells i).Disjoint (cells j)
  rowMajor : ∀ i j, i < j → j < rows.length →
    (cells i).y < (cells j).y ∨ (cells i).y = (cells j).y ∧ (cells i).x + (cells i).width ≤ (cells j).x
  wide : ∀ entry ∈ rows.zipIdx, lineWidth (countryRowLine entry.1) ≤ (cells entry.2).width
  summaryClear : summaryRowIndex < area.height →
    ∀ i < rows.length, (cells i).y + (cells i).height ≤ area.y + summaryRowIndex

variable {lineWidth} {self : CountriesWidget} {area : Rect}

theorem columnWidth_pos (shown : self.countryRowMode lineWidth area.width ≠ .summaryOnly) :
    0 < self.columnWidth lineWidth area := by
  revert shown
  unfold columnWidth countryRowMode
  dsimp only
  split
  next fits =>
    intro _
    exact fits.2.1
  next =>
    split
    next fits =>
      intro _
      exact fits.1
    next =>
      intro shown
      exact absurd rfl shown

theorem dataRows_pos (height : 1 ≤ area.height) : 0 < dataRows area := by
  have four : contentRowCount = 4 := rfl
  have three : summaryRowIndex = 3 := rfl
  unfold dataRows
  dsimp only
  split <;> omega

theorem knownRows_le : self.knownRows lineWidth area ≤ self.snapshot.countryCounts.length := by
  unfold knownRows
  dsimp only
  split <;> omega

/-- The Unknown row has its slot. -/
theorem length_gridRows_le (height : 1 ≤ area.height) :
    (self.gridRows (self.countryRowMode lineWidth area.width) (self.knownRows lineWidth area)).length ≤
      dataRows area * self.columnCount lineWidth area := by
  have capacity : 0 < dataRows area * self.columnCount lineWidth area :=
    Nat.mul_pos (dataRows_pos height) (countryColumnCount_pos _ _)
  generalize capacity_eq : dataRows area * self.columnCount lineWidth area = n at capacity ⊢
  have unknown : (if 0 < self.snapshot.unknownCountryCount ∧
      self.countryRowMode lineWidth area.width ≠ .summaryOnly then
      [unknownCountryRow self.snapshot.unknownCountryCount (self.countryRowMode lineWidth area.width)]
      else []).length ≤ self.unknownPresent := by
    unfold unknownPresent
    split
    next present => rw [if_pos present.1, List.length_singleton]
    next => exact Nat.zero_le _
  have known : self.knownRows lineWidth area ≤ n - self.unknownPresent := by
    unfold knownRows
    dsimp only
    rw [capacity_eq]
    split <;> omega
  have one : self.unknownPresent ≤ 1 := by
    unfold unknownPresent
    split <;> omega
  rw [gridRows, List.length_append, List.length_map, List.length_take]
  omega

/-- Every row is drawn in the grid's mode and has room in its column. -/
theorem gridRows_fit {row : CountryRow}
    (mem : row ∈ self.gridRows (self.countryRowMode lineWidth area.width)
      (self.knownRows lineWidth area)) :
    row.mode = self.countryRowMode lineWidth area.width ∧ row.mode ≠ .summaryOnly ∧
      lineWidth (countryRowLine row) ≤ self.columnWidth lineWidth area := by
  unfold columnWidth
  generalize mode_eq : self.countryRowMode lineWidth area.width = mode at mem ⊢
  rcases List.mem_append.mp mem with mem | mem
  · obtain ⟨country, taken, rfl⟩ := List.mem_map.mp mem
    have shown : mode ≠ .summaryOnly := by
      rintro rfl
      rw [knownRows, if_pos mode_eq] at taken
      simp at taken
    exact ⟨rfl, shown, lineWidth_le (countryRowWidths_le_known (List.mem_of_mem_take taken)) shown⟩
  · split at mem
    next present =>
      rw [List.mem_singleton.mp mem]
      exact ⟨rfl, present.2, lineWidth_le (countryRowWidths_le_unknown present.1) present.2⟩
    next => cases mem

/-- The row is drawn in its cell. -/
theorem row_draws (representable : area.Representable) (height : 1 ≤ area.height)
    (row : CountryRow) (index : ℕ)
    (mem : (row, index) ∈ (self.gridRows (self.countryRowMode lineWidth area.width)
      (self.knownRows lineWidth area)).zipIdx) :
    Draws (do
      let cell ← rowArea area (self.columnCount lineWidth area) (self.columnWidth lineWidth area) index
      renderCountryRow lineWidth cell row) fun _ drawn =>
      drawn = [rowDrawn (self.gridCells lineWidth area) (row, index)] := by
  have at_index := List.mem_zipIdx_iff_getElem?.mp mem
  have room : index < dataRows area * self.columnCount lineWidth area :=
    Nat.lt_of_lt_of_le (List.getElem?_eq_some_iff.mp at_index).1 (length_gridRows_le height)
  obtain ⟨mode, shown, fits⟩ := gridRows_fit (List.mem_of_getElem? at_index)
  apply Draws.bind (rowArea_draws representable (countryColumnCount_fits (columnWidth_le area))
    (columnWidth_le area) dataRows_le room)
  rintro cell drawn ⟨rfl, rfl⟩
  exact renderCountryRow_draws (columnWidth_pos (mode ▸ shown)) Nat.one_pos shown fits

theorem known_draws (representable : area.Representable) (height : 1 ≤ area.height) :
    Draws (self.renderKnownRows lineWidth area) fun _ drawn =>
      drawn = ((self.snapshot.countryCounts.take (self.knownRows lineWidth area)).map fun country =>
        knownCountryRow country (self.countryRowMode lineWidth area.width)).zipIdx.map
          (rowDrawn (self.gridCells lineWidth area)) := by
  unfold renderKnownRows
  generalize mode_eq : self.countryRowMode lineWidth area.width = mode
  refine (Draws.forM_ (fun entry mem => (?_ : Draws _ fun _ drawn => drawn =
    [rowDrawn (self.gridCells lineWidth area) (knownCountryRow entry.1 mode, entry.2)]))).mono ?_
  · apply row_draws representable height
    have at_index := List.mem_zipIdx_iff_getElem?.mp mem
    apply List.mem_zipIdx_iff_getElem?.mpr
    rw [mode_eq, gridRows, List.getElem?_append_left, List.getElem?_map, at_index]
    · rfl
    · rw [List.length_map]
      exact (List.getElem?_eq_some_iff.mp at_index).1
  · rintro _ _ rfl
    rw [List.zipIdx_map, List.map_map, List.map_eq_flatMap]
    rfl

/-- It comes after the known countries. -/
theorem unknown_draws (representable : area.Representable) (height : 1 ≤ area.height) :
    let mode := self.countryRowMode lineWidth area.width
    Draws (self.renderUnknownRow lineWidth area) fun _ drawn =>
      drawn = ((if 0 < self.snapshot.unknownCountryCount ∧ mode ≠ .summaryOnly then
        [unknownCountryRow self.snapshot.unknownCountryCount mode]
        else []).zipIdx (self.knownRows lineWidth area)).map (rowDrawn (self.gridCells lineWidth area)) := by
  intro mode
  have present : 0 < self.unknownPresent ↔ 0 < self.snapshot.unknownCountryCount := by
    unfold unknownPresent
    split <;> omega
  unfold renderUnknownRow
  dsimp only
  by_cases unknown : 0 < self.snapshot.unknownCountryCount ∧ mode ≠ .summaryOnly
  · rw [if_pos ⟨present.mpr unknown.1, unknown.2⟩, if_pos unknown]
    apply row_draws representable height
    apply List.mem_zipIdx_iff_getElem?.mpr
    have length : ((self.snapshot.countryCounts.take (self.knownRows lineWidth area)).map fun country =>
        knownCountryRow country mode).length = self.knownRows lineWidth area := by
      rw [List.length_map, List.length_take, Nat.min_eq_left knownRows_le]
    rw [gridRows, if_pos unknown, List.getElem?_append_right (by rw [length]), length, Nat.sub_self]
    rfl
  · rw [if_neg unknown, if_neg fun shown => unknown ⟨present.mp shown.1, shown.2⟩]
    exact Draws.pure_ rfl

theorem summary_draws (representable : area.Representable) (width : 1 ≤ area.width) :
    Draws (self.renderGridSummary lineWidth area) fun _ drawn =>
      drawn = self.summaryDrawn lineWidth area
        (self.snapshot.countryCounts.length - self.knownRows lineWidth area) := by
  have four : contentRowCount = 4 := rfl
  have three : summaryRowIndex = 3 := rfl
  have bottom := representable.2
  unfold renderGridSummary summaryDrawn
  by_cases tall : summaryRowIndex < area.height
  · rw [if_pos (by omega), if_pos tall]
    apply Draws.sub_bind knownRows_le
    rw [asU16_of_lt (n := summaryRowIndex) (by omega)]
    apply Draws.add_bind (by omega)
    exact renderSummary_draws width Nat.one_pos
  · rw [if_neg (by omega), if_neg tall]
    exact Draws.pure_ rfl

theorem summaryTexts_tell (known hidden total : ℕ) :
    SummaryTells known hidden total (summaryTexts known hidden total).1 ∧
      SummaryTells known hidden total (summaryTexts known hidden total).2 := by
  have words (number : ℕ) : (if number = 1 then " country" else " countries") =
      " " ++ if number = 1 then "country" else "countries" := by split <;> rfl
  have peers : (if total = 1 then " peer" else " peers") =
      " " ++ if total = 1 then "peer" else "peers" := by split <;> rfl
  simp only [summaryTexts, toString, String.append_assoc]
  by_cases left : 0 < hidden
  · simp only [if_pos left]
    constructor
    · have told := @SummaryTells.hiddenInWords known hidden total left
      rw [words, peers] at told
      simpa only [toString, String.append_assoc] using told
    · have told := @SummaryTells.hiddenInLetters known hidden total left
      simpa only [toString, String.append_assoc] using told
  · simp only [if_neg left]
    constructor
    · have told := @SummaryTells.allInWords known hidden total (by omega)
      rw [words, peers] at told
      simpa only [toString, String.append_assoc, String.empty_append] using told
    · have told := @SummaryTells.allInLetters known hidden total (by omega)
      simpa only [toString, String.append_assoc, String.empty_append] using told

/-- Of all that is drawn only the summary is a text. -/
theorem summaryTells_of_mem {hidden x y : ℕ} {text : String} {columns : Option ℕ} {cells : ℕ → Rect}
    {rows : List CountryRow} (mem : .text x y text columns ∈
      rows.zipIdx.map (rowDrawn cells) ++ self.summaryDrawn lineWidth area hidden) :
    SummaryTells self.snapshot.countryCounts.length hidden self.snapshot.totalPeers text := by
  obtain ⟨words, letters⟩ := summaryTexts_tell self.snapshot.countryCounts.length hidden
    self.snapshot.totalPeers
  rcases List.mem_append.mp mem with mem | mem
  · obtain ⟨entry, -, line⟩ := List.mem_map.mp mem
    cases line
  · unfold summaryDrawn at mem
    split at mem
    case isFalse => cases mem
    case isTrue =>
      obtain ⟨found, chosen, same⟩ := List.mem_map.mp mem
      cases same
      have inside := List.mem_of_find?_eq_some (Option.mem_toList.mp chosen)
      rcases List.mem_cons.mp inside with rfl | inside
      · exact words
      · obtain rfl := List.mem_singleton.mp inside
        exact letters

/-- What `render_content` draws of a loaded snapshot with peers. -/
theorem renderContent_draws (representable : area.Representable) (width : 1 ≤ area.width)
    (height : 1 ≤ area.height) (loaded : self.snapshotLoaded = true)
    (peers : self.snapshot.totalPeers ≠ 0) :
    Draws (self.renderContent lineWidth area) fun _ drawn =>
      drawn = (self.gridRows (self.countryRowMode lineWidth area.width)
          (self.knownRows lineWidth area)).zipIdx.map (rowDrawn (self.gridCells lineWidth area)) ++
        self.summaryDrawn lineWidth area
          (self.snapshot.countryCounts.length - self.knownRows lineWidth area) := by
  unfold renderContent
  rw [if_neg (by omega), if_neg (by simp [loaded]), if_neg peers]
  apply Draws.bind (known_draws representable height)
  rintro _ _ rfl
  apply Draws.bind (unknown_draws representable height)
  rintro _ _ rfl
  apply (summary_draws representable width).mono
  rintro _ _ rfl
  rw [gridRows, List.zipIdx_append, List.map_append, List.length_map, List.length_take,
    Nat.min_eq_left knownRows_le, Nat.zero_add, List.append_assoc]

end CountriesWidget

/-- The country grid loses nothing and stays in bounds. -/
theorem country_grid_lossless (lineWidth : List String → ℕ) (self : CountriesWidget)
    (buffer area : Rect) (representable : buffer.Representable) (inside : area.Within buffer)
    (width : 1 ≤ area.width) (height : 1 ≤ area.height) (loaded : self.snapshotLoaded = true)
    (peers : self.snapshot.totalPeers ≠ 0) :
    Draws (self.renderContent lineWidth area) fun _ drawn =>
      let columnWidth := self.columnWidth lineWidth area
      let columnCount := countryColumnCount area.width columnWidth
      let shown := self.knownRows lineWidth area
      self.GridShown lineWidth area shown (self.snapshot.countryCounts.length - shown)
        (fun index => ⟨area.x + index % columnCount * (columnWidth + countryColumnGap),
          area.y + index / columnCount, columnWidth, 1⟩)
        (self.gridRows (self.countryRowMode lineWidth area.width) shown) drawn := by
  have representable : area.Representable := Rect.Within.representable inside representable
  apply (CountriesWidget.renderContent_draws representable width height loaded peers).mono
  intro _ drawn drawn_eq
  have fits : self.columnCount lineWidth area * (self.columnWidth lineWidth area + countryColumnGap) ≤
      area.width + countryColumnGap := countryColumnCount_fits (self.columnWidth_le area)
  have length := @CountriesWidget.length_gridRows_le lineWidth self area height
  have room := Nat.le_trans length (Nat.mul_le_mul_right _ dataRows_le)
  refine { drawn_eq := drawn_eq, listed := ?_, rowTells := ?_, summaryTells := ?_, counted := ?_,
           inside := ?_, disjoint := ?_, rowMajor := ?_, wide := ?_, summaryClear := ?_ }
  · rw [CountriesWidget.gridRows, List.map_append, List.map_map]
    congr 1
    split <;> rfl
  · intro row mem
    obtain ⟨-, shown, -⟩ := CountriesWidget.gridRows_fit mem
    obtain ⟨flag, countryCode, peerCount, mode⟩ := row
    cases mode with
    | flagAndCode | codeAndCount => rfl
    | summaryOnly => exact absurd rfl shown
  · intro x y text columns mem
    rw [drawn_eq] at mem
    exact CountriesWidget.summaryTells_of_mem mem
  · exact Nat.add_sub_cancel' CountriesWidget.knownRows_le
  · intro i lt
    exact Rect.gridCell_within fits (Nat.lt_of_lt_of_le lt room)
  · intro i j lt _
    exact Rect.gridCell_disjoint lt
  · intro i j lt _
    exact Rect.gridCell_order lt
  · rintro ⟨row, index⟩ mem
    exact (CountriesWidget.gridRows_fit (List.fst_mem_of_mem_zipIdx mem)).2.2
  · intro tall i lt
    have row := Rect.row_lt (Nat.lt_of_lt_of_le lt length)
    have three : CountriesWidget.dataRows area = summaryRowIndex :=
      if_pos (Nat.lt_min.mpr ⟨tall, by decide⟩)
    rw [three] at row
    exact Nat.add_le_add_left row area.y

/-- Three lines of two columns hold five of seven countries and the Unknown row. -/
theorem country_grid_lossless_two_columns :
    let self : CountriesWidget :=
      { snapshot := ⟨20, 7, [⟨"CN", 7⟩, ⟨"US", 3⟩, ⟨"DE", 2⟩, ⟨"FR", 2⟩, ⟨"GB", 1⟩, ⟨"JP", 1⟩, ⟨"NL", 1⟩], 3⟩
        snapshotLoaded := true
        showCountryFlags := false }
    Draws (self.renderContent (fun spans => (spans.map String.length).sum) ⟨1, 1, 14, 4⟩) fun _ drawn =>
      self.GridShown (fun spans => (spans.map String.length).sum) ⟨1, 1, 14, 4⟩ 5 2
        (fun index => ⟨1 + index % 2 * 8, 1 + index / 2, 6, 1⟩) (self.gridRows .codeAndCount 5) drawn :=
  country_grid_lossless (fun spans => (spans.map String.length).sum) _ ⟨0, 0, 16, 6⟩ ⟨1, 1, 14, 4⟩
    (by decide) (by decide) (by decide) (by decide) rfl (by decide)

end ChainDash.App
