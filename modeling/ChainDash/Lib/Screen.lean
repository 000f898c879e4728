import Mathlib.Algebra.GroupWithZero.Nat
import Mathlib.Data.List.Basic

/-!
# Drawing on a screen

Coordinates are 16-bit words, and plain addition and subtraction stop the program when the
result is not one. A drawing program (`Draw`) yields a result and what it draws, in order, or
stops; `Draws` says of a program that it does not stop and what it yields.
-/

namespace Screen
set_option autoImplicit false

structure Rect where
  x : ℕ
  y : ℕ
  width : ℕ
  height : ℕ
  deriving DecidableEq, Repr

namespace Rect

/-- `Rect::new`: a width or height past the last coordinate is cut. -/
def new (x y width height : ℕ) : Rect :=
  ⟨x, y, min width (2 ^ 16 - 1 - x), min height (2 ^ 16 - 1 - y)⟩

/-- The first column to the right; `saturating_add`. -/
def right (area : Rect) : ℕ := min (area.x + area.width) (2 ^ 16 - 1)

/-- The right and the bottom edge are coordinates. -/
def Representable (area : Rect) : Prop :=
  area.x + area.width < 2 ^ 16 ∧ area.y + area.height < 2 ^ 16

def Holds (area : Rect) (x y : ℕ) : Prop :=
  area.x ≤ x ∧ x < area.x + area.width ∧ area.y ≤ y ∧ y < area.y + area.height

def Within (area outer : Rect) : Prop :=
  outer.x ≤ area.x ∧ area.x + area.width ≤ outer.x + outer.width ∧
    outer.y ≤ area.y ∧ area.y + area.height ≤ outer.y + outer.height

instance (area : Rect) : Decidable area.Representable := by
  unfold Representable
  infer_instance

instance (area outer : Rect) : Decidable (area.Within outer) := by
  unfold Within
  infer_instance

/-- No cell in common. -/
def Disjoint (area area' : Rect) : Prop := ∀ x y, area.Holds x y → ¬area'.Holds x y

theorem right_eq {area : Rect} (fits : area.Representable) : area.right = area.x + area.width := by
  have bound := fits.1
  unfold right
  omega

theorem new_eq {x y width height : ℕ} (fits : Representable ⟨x, y, width, height⟩) :
    new x y width height = ⟨x, y, width, height⟩ := by
  obtain ⟨right, bottom⟩ := fits
  dsimp only at right bottom
  rw [new, Nat.min_eq_left (by omega), Nat.min_eq_left (by omega)]

theorem Within.holds {area outer : Rect} (within : area.Within outer) {x y : ℕ}
    (holds : area.Holds x y) : outer.Holds x y := by
  unfold Within at within
  unfold Holds at *
  omega

theorem Within.trans {area outer outer' : Rect} (within : area.Within outer)
    (within' : outer.Within outer') : area.Within outer' := by
  unfold Within at *
  omega

theorem Within.representable {area outer : Rect} (within : area.Within outer)
    (fits : outer.Representable) : area.Representable := by
  unfold Within at within
  unfold Representable at *
  omega

/-- One is left of the other, or above it. -/
theorem disjoint_of_apart {area area' : Rect}
    (apart : (area.x + area.width ≤ area'.x ∨ area'.x + area'.width ≤ area.x) ∨
      area.y + area.height ≤ area'.y ∨ area'.y + area'.height ≤ area.y) :
    area.Disjoint area' := by
  intro x y here there
  unfold Holds at here there
  omega

/-! ## Grids -/

/-- The `index`-th cell of a grid, row by row: cells of one line and one width, with a gap
between the columns. -/
def gridCell (area : Rect) (columns width gap index : ℕ) : Rect :=
  ⟨area.x + index % columns * (width + gap), area.y + index / columns, width, 1⟩

section Grid

variable {area : Rect} {columns width gap index : ℕ}

theorem column_le (index : ℕ) (fits : columns * (width + gap) ≤ area.width + gap) (some : 0 < columns) :
    index % columns * (width + gap) + width ≤ area.width := by
  have column : index % columns + 1 ≤ columns := Nat.mod_lt index some
  have most := Nat.mul_le_mul_right (width + gap) column
  rw [Nat.add_mul] at most
  omega

theorem row_lt {lines : ℕ} (room : index < lines * columns) : index / columns < lines :=
  Nat.div_lt_of_lt_mul (by rwa [Nat.mul_comm])

theorem gridCell_within (fits : columns * (width + gap) ≤ area.width + gap)
    (room : index < area.height * columns) : (area.gridCell columns width gap index).Within area := by
  have column := column_le index fits (Nat.pos_of_lt_mul_left room)
  have row := row_lt room
  show area.x ≤ area.x + index % columns * (width + gap) ∧
    area.x + index % columns * (width + gap) + width ≤ area.x + area.width ∧
    area.y ≤ area.y + index / columns ∧ area.y + index / columns + 1 ≤ area.y + area.height
  generalize index / columns = line at row ⊢
  omega

/-- Row by row, and from left to right. -/
theorem gridCell_order {later : ℕ} (lt : index < later) :
    let cell := area.gridCell columns width gap index
    let cell' := area.gridCell columns width gap later
    cell.y < cell'.y ∨ cell.y = cell'.y ∧ cell.x + cell.width ≤ cell'.x := by
  intro cell cell'
  show area.y + index / columns < area.y + later / columns ∨
    area.y + index / columns = area.y + later / columns ∧
      area.x + index % columns * (width + gap) + width ≤ area.x + later % columns * (width + gap)
  have le : index / columns ≤ later / columns := Nat.div_le_div_right (Nat.le_of_lt lt)
  rcases Nat.lt_or_eq_of_le le with below | same
  · left
    omega
  · right
    have whole := Nat.div_add_mod index columns
    have whole' := Nat.div_add_mod later columns
    rw [same] at whole
    have next : index % columns + 1 ≤ later % columns := by omega
    have step := Nat.mul_le_mul_right (width + gap) next
    rw [Nat.add_mul] at step
    omega

theorem gridCell_disjoint {later : ℕ} (lt : index < later) :
    (area.gridCell columns width gap index).Disjoint (area.gridCell columns width gap later) := by
  apply disjoint_of_apart
  rcases @gridCell_order area columns width gap index later lt with below | ⟨-, beside⟩
  · right
    left
    exact below
  · left
    left
    exact beside

end Grid

end Rect

/-! ## Programs -/

/-- A program that draws `ω`s: from what is drawn before to its result and what is drawn after
it, unless it stops. -/
abbrev Draw (ω : Type) := StateT (List ω) Option

variable {ω α β : Type}

/-- Draw one thing. -/
def draw (w : ω) : Draw ω Unit := modify (· ++ [w])

/-- `a + b` on `u16`. -/
def addU16 (a b : ℕ) : Draw ω ℕ := if a + b < 2 ^ 16 then pure (a + b) else failure

/-- `a - b` on an unsigned type. -/
def subUnsigned (a b : ℕ) : Draw ω ℕ := if b ≤ a then pure (a - b) else failure

/-- `n as u16`. -/
def asU16 (n : ℕ) : ℕ := n % 2 ^ 16

/-- `u16::saturating_add` and `u16::saturating_mul` of results that may be too large. -/
def saturateU16 (n : ℕ) : ℕ := min n (2 ^ 16 - 1)

/-- `l[i]`. -/
def index (l : List α) (i : ℕ) : Draw ω α :=
  match l[i]? with
  | some a => pure a
  | none => failure

/-- The range `a..b`. -/
def span (a b : ℕ) : List ℕ := List.range' a (b - a)

theorem asU16_of_lt {n : ℕ} (small : n < 2 ^ 16) : asU16 n = n := Nat.mod_eq_of_lt small

theorem saturateU16_of_lt {n : ℕ} (small : n < 2 ^ 16) : saturateU16 n = n := by
  unfold saturateU16
  omega

/-- Room beyond a saturated offset is room beyond the offset itself. -/
theorem add_le_of_le_sub_saturateU16 {n k room : ℕ} (coordinate : room < 2 ^ 16) (some : 0 < k)
    (fits : k ≤ room - saturateU16 n) : n + k ≤ room := by
  unfold saturateU16 at fits
  omega

theorem mem_span {a b x : ℕ} : x ∈ span a b ↔ a ≤ x ∧ x < b := by
  rw [span, List.mem_range'_1]
  omega

/-- The program does not stop, and its result and what it draws are as said. -/
def Draws (program : Draw ω α) (yields : α → List ω → Prop) : Prop :=
  ∀ before, ∃ a drawn, program before = some (a, before ++ drawn) ∧ yields a drawn

namespace Draws

variable {program : Draw ω α} {yields yields' : α → List ω → Prop}

theorem mono (draws : Draws program yields) (weaker : ∀ a drawn, yields a drawn → yields' a drawn) :
    Draws program yields' := by
  intro before
  obtain ⟨a, drawn, run, holds⟩ := draws before
  exact ⟨a, drawn, run, weaker a drawn holds⟩

/-- A program has one result, and draws one thing. -/
theorem and (draws : Draws program yields) (draws' : Draws program yields') :
    ∃ a drawn, yields a drawn ∧ yields' a drawn := by
  obtain ⟨a, drawn, run, holds⟩ := draws []
  obtain ⟨a', drawn', run', holds'⟩ := draws' []
  rw [run] at run'
  simp only [List.nil_append, Option.some.injEq, Prod.mk.injEq] at run'
  obtain ⟨rfl, rfl⟩ := run'
  exact ⟨a, drawn, holds, holds'⟩

theorem pure_ {a : α} (holds : yields a []) : Draws (pure a : Draw ω α) yields := by
  intro before
  refine ⟨a, [], ?_, holds⟩
  rw [List.append_nil]
  rfl

theorem bind {next : α → Draw ω β} {result : β → List ω → Prop} (first : Draws program yields)
    (second : ∀ a drawn, yields a drawn → Draws (next a) fun b more => result b (drawn ++ more)) :
    Draws (program >>= next) result := by
  intro before
  obtain ⟨a, drawn, run, holds⟩ := first before
  obtain ⟨b, more, run', holds'⟩ := second a drawn holds (before ++ drawn)
  refine ⟨b, drawn ++ more, ?_, holds'⟩
  rw [← List.append_assoc, ← run']
  show (program before).bind (fun entry => next entry.1 entry.2) = _
  rw [run]
  rfl

/-- An early return. -/
theorem return_early {c : Prop} [Decidable c] {a : α} {rest : Draw ω α} (early : yields a [])
    (otherwise : ¬c → Draws rest yields) : Draws (if c then pure a else rest) yields := by
  split
  next => exact pure_ early
  next holds => exact otherwise holds

theorem draw_ {w : ω} {yields : Unit → List ω → Prop} (holds : yields () [w]) :
    Draws (draw w) yields :=
  fun _ => ⟨(), [w], rfl, holds⟩

/-- A sum that is a word is computed, and the program goes on. -/
theorem add_bind {a b : ℕ} {next : ℕ → Draw ω β} {result : β → List ω → Prop}
    (fits : a + b < 2 ^ 16) (rest : Draws (next (a + b)) result) :
    Draws (addU16 a b >>= next) result := by
  rw [addU16, if_pos fits]
  exact rest

theorem sub_bind {a b : ℕ} {next : ℕ → Draw ω β} {result : β → List ω → Prop}
    (le : b ≤ a) (rest : Draws (next (a - b)) result) :
    Draws (subUnsigned a b >>= next) result := by
  rw [subUnsigned, if_pos le]
  exact rest

theorem index_bind {l : List α} {i : ℕ} {next : α → Draw ω β} {result : β → List ω → Prop}
    (lt : i < l.length) (rest : Draws (next l[i]) result) : Draws (index l i >>= next) result := by
  rw [index, List.getElem?_eq_getElem lt]
  exact rest

theorem draw_bind {w : ω} {next : Unit → Draw ω β} {result : β → List ω → Prop}
    (rest : Draws (next ()) fun b more => result b (w :: more)) :
    Draws (draw w >>= next) result :=
  @bind ω Unit β (draw w) (fun _ drawn => drawn = [w]) next result (draw_ rfl) fun _ _ same => by
    subst same
    exact rest

/-- A loop draws what its rounds draw, one after the other. -/
theorem forM_ {l : List α} {body : α → Draw ω Unit} {parts : α → List ω}
    (each : ∀ a ∈ l, Draws (body a) fun _ drawn => drawn = parts a) :
    Draws (l.forM body) fun _ drawn => drawn = l.flatMap parts := by
  induction l with
  | nil => exact pure_ rfl
  | cons a l ih =>
    refine bind (each a List.mem_cons_self) fun _ drawn first => ?_
    refine (ih fun b mem => each b (List.mem_cons_of_mem _ mem)).mono fun _ more rest => ?_
    rw [first, rest, List.flatMap_cons]

theorem forM_draw (l : List α) (write : α → ω) :
    Draws (l.forM fun a => draw (write a)) fun _ drawn => drawn = l.map write := by
  rw [List.map_eq_flatMap]
  exact forM_ fun a _ => draw_ rfl

end Draws

/-- The program does not stop, and all that it draws is allowed. -/
abbrev DrawsOnly (ok : ω → Prop) (program : Draw ω α) (result : α → Prop) : Prop :=
  Draws program fun a drawn => result a ∧ ∀ w ∈ drawn, ok w

namespace DrawsOnly

variable {ok : ω → Prop} {program : Draw ω α} {result : α → Prop}

theorem pure_ {a : α} (holds : result a) : DrawsOnly ok (pure a) result :=
  Draws.pure_ ⟨holds, by simp⟩

theorem return_early {c : Prop} [Decidable c] {a : α} {rest : Draw ω α} (early : result a)
    (otherwise : ¬c → DrawsOnly ok rest result) : DrawsOnly ok (if c then pure a else rest) result :=
  Draws.return_early ⟨early, by simp⟩ otherwise

theorem mono {ok' : ω → Prop} (drawsOnly : DrawsOnly ok program result)
    (weaker : ∀ w, ok w → ok' w) : DrawsOnly ok' program result := by
  apply Draws.mono drawsOnly
  rintro a drawn ⟨holds, all⟩
  exact ⟨holds, fun w mem => weaker w (all w mem)⟩

theorem draw_ {w : ω} (allowed : ok w) : DrawsOnly ok (draw w) fun _ => True :=
  Draws.draw_ ⟨trivial, by simpa using allowed⟩

theorem bind {next : α → Draw ω β} {result' : β → Prop} (first : DrawsOnly ok program result)
    (second : ∀ a, result a → DrawsOnly ok (next a) result') :
    DrawsOnly ok (program >>= next) result' := by
  apply Draws.bind first
  rintro a drawn ⟨holds, all⟩
  apply Draws.mono (second a holds)
  rintro b more ⟨holds', all'⟩
  refine ⟨holds', fun w mem => ?_⟩
  rcases List.mem_append.mp mem with mem | mem
  · exact all w mem
  · exact all' w mem

theorem then_ {first : Draw ω Unit} {next : Unit → Draw ω β} {result' : β → Prop}
    (allowed : DrawsOnly ok first fun _ => True) (rest : DrawsOnly ok (next ()) result') :
    DrawsOnly ok (first >>= next) result' :=
  allowed.bind fun _ _ => rest

theorem draw_bind {w : ω} {next : Unit → Draw ω β} {result' : β → Prop} (allowed : ok w)
    (rest : DrawsOnly ok (next ()) result') : DrawsOnly ok (draw w >>= next) result' :=
  (draw_ allowed).then_ rest

theorem forM_ {l : List α} {body : α → Draw ω Unit}
    (each : ∀ a ∈ l, DrawsOnly ok (body a) fun _ => True) :
    DrawsOnly ok (l.forM body) fun _ => True := by
  induction l with
  | nil => exact pure_ trivial
  | cons a l ih =>
    exact (each a List.mem_cons_self).bind fun _ _ => ih fun b mem => each b (List.mem_cons_of_mem _ mem)

end DrawsOnly

/-! ## What stays visible -/

section Visible

variable {place : ω → Rect} {drawn : List ω} {w : ω}

/-- It is drawn, and nothing drawn later has a cell in common with it. -/
def Visible (place : ω → Rect) (drawn : List ω) (w : ω) : Prop :=
  ∃ before after, drawn = before ++ w :: after ∧ ∀ w' ∈ after, (place w).Disjoint (place w')

theorem Visible.append_left (visible : Visible place drawn w) (before : List ω) :
    Visible place (before ++ drawn) w := by
  obtain ⟨earlier, after, rfl, apart⟩ := visible
  exact ⟨before ++ earlier, after, by rw [List.append_assoc], apart⟩

theorem Visible.append_right (visible : Visible place drawn w) {after : List ω}
    (apart : ∀ w' ∈ after, (place w).Disjoint (place w')) : Visible place (drawn ++ after) w := by
  obtain ⟨before, later, rfl, apart'⟩ := visible
  refine ⟨before, later ++ after, by rw [List.append_assoc, List.cons_append], fun w' mem => ?_⟩
  rcases List.mem_append.mp mem with mem | mem
  · exact apart' w' mem
  · exact apart w' mem

/-- All of it is visible when no two have a cell in common. -/
theorem visible_of_pairwise (apart : drawn.Pairwise fun w w' => (place w).Disjoint (place w'))
    (mem : w ∈ drawn) : Visible place drawn w := by
  obtain ⟨before, after, rfl⟩ := List.append_of_mem mem
  refine ⟨before, after, rfl, ?_⟩
  exact (List.pairwise_cons.mp (List.pairwise_append.mp apart).2.1).1

end Visible

end Screen
