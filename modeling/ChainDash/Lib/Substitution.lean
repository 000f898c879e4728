import Mathlib.Data.List.Find
import Mathlib.Data.List.Infix
import ChainDash.Lib.Lts

/-!
# Substituting texts for patterns

A pass over a text, left to right, writes a value for each match of a pattern and copies the
rest. Symbols that carry the place they were read from tell the matches of the text's own
symbols from those that written values have a part in. Replacing the own matches of one
pattern after another is the substitution of all patterns at once (`substitute_snoc`), and
replacing all matches of a pattern is the same exactly where all of them are own
(`replaceAll_eq_iff`).
-/

namespace Substitution
set_option autoImplicit false

variable {α β : Type*}

/-! ## One pass -/

/-- Where the rule applies, write what it says and pass over what it matched. -/
def scan (rule : List β → Option (List β × Nat)) : Nat → List β → List β
  | _, [] => []
  | skip + 1, _ :: rest => scan rule skip rest
  | 0, x :: rest =>
    match rule (x :: rest) with
    | some (out, width) => out ++ scan rule (width - 1) rest
    | none => x :: scan rule 0 rest

section Scan

variable {rule : List β → Option (List β × Nat)}

theorem scan_skip (skip : Nat) (text : List β) : scan rule skip text = scan rule 0 (text.drop skip) := by
  induction text generalizing skip with
  | nil => simp [scan]
  | cons x rest ih =>
    cases skip with
    | zero => rfl
    | succ skip => exact ih skip

theorem scan_of_some {text out : List β} {width : Nat} (applies : rule text = some (out, width))
    (wide : 0 < width) (nonempty : text ≠ []) :
    scan rule 0 text = out ++ scan rule 0 (text.drop width) := by
  obtain ⟨x, rest, rfl⟩ := List.exists_cons_of_ne_nil nonempty
  obtain ⟨width, rfl⟩ := Nat.exists_eq_succ_of_ne_zero wide.ne'
  rw [scan, applies]
  dsimp only
  rw [scan_skip, Nat.succ_sub_one, List.drop_succ_cons]

theorem scan_of_none {x : β} {rest : List β} (applies : rule (x :: rest) = none) :
    scan rule 0 (x :: rest) = x :: scan rule 0 rest := by
  rw [scan, applies]

/-- What no match begins in is copied. -/
theorem scan_append_of_none {s t : List β}
    (none : ∀ s', s' <:+ s → s' ≠ [] → rule (s' ++ t) = none) :
    scan rule 0 (s ++ t) = s ++ scan rule 0 t := by
  induction s with
  | nil => rfl
  | cons x s ih =>
    have here := none (x :: s) List.suffix_rfl (by simp)
    rw [List.cons_append] at here ⊢
    rw [scan_of_none here, ih fun s' inside => none s' (inside.trans (List.suffix_cons x s)),
      List.cons_append]

end Scan

/-! ## Patterns and their values -/

/-- A pattern that begins with a symbol of its own: its matches do not overlap. -/
def Heads (head : α) (pattern : List α) : Prop := ∃ tail, pattern = head :: tail ∧ head ∉ tail

theorem Heads.length_pos {head : α} {pattern : List α} (heads : Heads head pattern) :
    0 < pattern.length := by
  obtain ⟨tail, rfl, -⟩ := heads
  exact Nat.succ_pos _

/-- Inside a match of one pattern no match of another begins. -/
theorem Heads.not_prefix_inside {head : α} {pattern pattern' : List α} (heads : Heads head pattern)
    (heads' : Heads head pattern') {s t : List α} (inside : s <:+ pattern) (some : s ≠ [])
    (proper : s ≠ pattern) : ¬ pattern' <+: s ++ t := by
  obtain ⟨tail, rfl, fresh⟩ := heads
  obtain ⟨tail', rfl, -⟩ := heads'
  obtain ⟨x, s, rfl⟩ := List.exists_cons_of_ne_nil some
  rcases List.suffix_cons_iff.mp inside with whole | rest
  · exact absurd whole proper
  · rintro ⟨after, taken⟩
    obtain ⟨rfl, -⟩ := List.cons.inj taken
    exact fresh (rest.subset (by simp))

/-- The pass that writes `put value` where `hit` finds one of the patterns. -/
def pass (hit : List α → List β → Bool) (put : List α → List β) (pairs : List (List α × List α)) :
    List β → List β :=
  scan (fun text => (pairs.find? fun pair => hit pair.1 text).map fun pair =>
    (put pair.2, pair.1.length)) 0

section Pass

variable {hit : List α → List β → Bool} {put : List α → List β} {pairs : List (List α × List α)}
  {head : α}

@[simp] theorem pass_nil : pass hit put pairs [] = [] := rfl

theorem pass_taken {s t : List β} {pair : List α × List α} (heads : Heads head pair.1)
    (length : s.length = pair.1.length)
    (found : pairs.find? (fun pair => hit pair.1 (s ++ t)) = some pair) :
    pass hit put pairs (s ++ t) = put pair.2 ++ pass hit put pairs t := by
  have long := heads.length_pos
  have nonempty : s ++ t ≠ [] := by
    intro empty
    have none := congrArg List.length empty
    rw [List.length_append, List.length_nil] at none
    omega
  unfold pass
  rw [scan_of_some (by rw [found]; rfl) long nonempty, ← length, List.drop_left]

theorem pass_of_none {x : β} {rest : List β}
    (none : pairs.find? (fun pair => hit pair.1 (x :: rest)) = none) :
    pass hit put pairs (x :: rest) = x :: pass hit put pairs rest :=
  scan_of_none (by rw [none]; rfl)

theorem pass_single_taken {pattern value : List α} {s t : List β} (heads : Heads head pattern)
    (length : s.length = pattern.length) (taken : hit pattern (s ++ t)) :
    pass hit put [(pattern, value)] (s ++ t) = put value ++ pass hit put [(pattern, value)] t := by
  have found : [(pattern, value)].find? (fun pair => hit pair.1 (s ++ t)) = some (pattern, value) := by
    simp [taken]
  exact pass_taken heads length found

theorem pass_single_copied {pattern value : List α} {x : β} {rest : List β}
    (left : ¬ hit pattern (x :: rest)) :
    pass hit put [(pattern, value)] (x :: rest) = x :: pass hit put [(pattern, value)] rest :=
  pass_of_none (by simpa using left)

@[simp] theorem pass_no_pairs (text : List β) : pass hit put [] text = text := by
  induction text with
  | nil => rfl
  | cons x rest ih => rw [pass_of_none rfl, ih]

theorem pass_append_of_none {s t : List β}
    (none : ∀ s', s' <:+ s → s' ≠ [] → ∀ pair ∈ pairs, hit pair.1 (s' ++ t) = false) :
    pass hit put pairs (s ++ t) = s ++ pass hit put pairs t := by
  apply scan_append_of_none
  intro s' inside nonempty
  have nothing : pairs.find? (fun pair => hit pair.1 (s' ++ t)) = .none := by
    rw [List.find?_eq_none]
    intro pair mem
    simp [none s' inside nonempty pair mem]
  rw [nothing, Option.map_none]

/-- A match that none of the patterns takes is copied as a whole. -/
theorem pass_over {symbol : β → α} (reads : ∀ pattern text, hit pattern text → pattern <+: text.map symbol)
    (heads : ∀ pair ∈ pairs, Heads head pair.1) {pattern : List α} (heads' : Heads head pattern)
    {s t : List β} (here : s.map symbol = pattern)
    (none : ∀ pair ∈ pairs, hit pair.1 (s ++ t) = false) :
    pass hit put pairs (s ++ t) = s ++ pass hit put pairs t := by
  apply pass_append_of_none
  intro s' inside nonempty pair mem
  by_cases whole : s' = s
  · rw [whole]
    exact none pair mem
  · by_contra found
    rw [Bool.not_eq_false] at found
    have begins := reads _ _ found
    rw [List.map_append] at begins
    refine heads'.not_prefix_inside (heads pair mem) ?_ (by simpa using nonempty) ?_ begins
    · rw [← here]
      exact inside.map symbol
    · intro same
      apply whole
      apply inside.eq_of_length
      rw [← List.length_map symbol, same, ← here, List.length_map]

end Pass

/-! ## Own matches -/

/-- A text read from consecutive places, beginning at `place`. -/
def placed : Nat → List α → List (α × Option Nat)
  | _, [] => []
  | place, x :: text => (x, some place) :: placed (place + 1) text

/-- A written value comes from no place. -/
def written (value : List α) : List (α × Option Nat) := value.map (·, none)

@[simp] theorem map_fst_placed (place : Nat) (text : List α) : (placed place text).map Prod.fst = text := by
  induction text generalizing place with
  | nil => rfl
  | cons x text ih => rw [placed, List.map_cons, ih]

@[simp] theorem map_fst_written (value : List α) : (written value).map Prod.fst = value := by
  simp [written, Function.comp_def]

@[simp] theorem length_placed (place : Nat) (text : List α) :
    (placed place text).length = text.length := by
  rw [← List.length_map Prod.fst, map_fst_placed]

theorem placed_append (place : Nat) (s t : List α) :
    placed place (s ++ t) = placed place s ++ placed (place + s.length) t := by
  induction s generalizing place with
  | nil => rfl
  | cons x s ih =>
    rw [List.cons_append, placed, placed, ih, List.cons_append, List.length_cons]
    congr 3
    omega

theorem placed_prefix_iff (place : Nat) (s t : List α) : placed place s <+: placed place t ↔ s <+: t := by
  constructor
  · intro begins
    have symbols := begins.map Prod.fst
    rwa [map_fst_placed, map_fst_placed] at symbols
  · rintro ⟨rest, rfl⟩
    rw [placed_append]
    exact List.prefix_append _ _

variable [DecidableEq α]

/-- The text begins with the pattern, read from consecutive places. -/
def ownPrefix (pattern : List α) (text : List (α × Option Nat)) : Bool :=
  match text with
  | (_, some place) :: _ => (placed place pattern).isPrefixOf text
  | _ => false

/-- All matches of the patterns are replaced by their values. -/
def replaceAll (pairs : List (List α × List α)) : List α → List α := pass List.isPrefixOf id pairs

/-- The own matches of the patterns are replaced by their values. -/
def substitute (pairs : List (List α × List α)) : List (α × Option Nat) → List (α × Option Nat) :=
  pass ownPrefix written pairs

theorem prefix_of_ownPrefix {pattern : List α} {text : List (α × Option Nat)}
    (own : ownPrefix pattern text) : pattern <+: text.map Prod.fst := by
  unfold ownPrefix at own
  split at own
  case h_1 place _ =>
    have begins := (List.isPrefixOf_iff_prefix.mp own).map Prod.fst
    rwa [map_fst_placed] at begins
  case h_2 => cases own

/-- In a text read from consecutive places all matches are own. -/
theorem ownPrefix_placed {pattern : List α} {head : α} (heads : Heads head pattern) (place : Nat)
    (text : List α) : ownPrefix pattern (placed place text) = pattern.isPrefixOf text := by
  cases text with
  | nil =>
    obtain ⟨tail, rfl, -⟩ := heads
    rfl
  | cons x text =>
    rw [Bool.eq_iff_iff, List.isPrefixOf_iff_prefix, ← placed_prefix_iff place]
    exact List.isPrefixOf_iff_prefix

theorem ownPrefix_of_prefix {pattern : List α} {head : α} (heads : Heads head pattern) (place : Nat)
    {text : List (α × Option Nat)} (begins : placed place pattern <+: text) : ownPrefix pattern text := by
  obtain ⟨tail, rfl, -⟩ := heads
  obtain ⟨rest, rfl⟩ := begins
  exact List.isPrefixOf_iff_prefix.mpr (List.prefix_append _ _)

/-! ## All patterns at once -/

section AtOnce

variable {head : α} {pairs : List (List α × List α)} {pattern value : List α}

theorem find_ownPrefix_placed (heads : ∀ pair ∈ pairs, Heads head pair.1) (place : Nat) (text : List α) :
    pairs.find? (fun pair => ownPrefix pair.1 (placed place text)) =
      pairs.find? (fun pair => pair.1.isPrefixOf text) := by
  apply List.find?_congr
  intro pair mem
  rw [ownPrefix_placed (heads pair mem)]

/-- A text is read pattern by pattern, and symbol by symbol between them. -/
theorem reading_induction {motive : Nat → List α → Prop} (heads : ∀ pair ∈ pairs, Heads head pair.1)
    (nil : ∀ place, motive place [])
    (taken : ∀ place (pair : List α × List α) rest, Heads head pair.1 →
      pairs.find? (fun pair' => pair'.1.isPrefixOf (pair.1 ++ rest)) = some pair →
      motive (place + pair.1.length) rest → motive place (pair.1 ++ rest))
    (copied : ∀ place x rest, pairs.find? (fun pair => pair.1.isPrefixOf (x :: rest)) = none →
      motive (place + 1) rest → motive place (x :: rest))
    (place : Nat) (text : List α) : motive place text := by
  induction size : text.length using Nat.strong_induction_on generalizing place text with
  | _ n ih =>
    subst size
    cases found : pairs.find? (fun pair => pair.1.isPrefixOf text) with
    | some pair =>
      have begins := heads pair (List.mem_of_find?_eq_some found)
      have front := List.find?_some found
      obtain ⟨rest, rfl⟩ := List.isPrefixOf_iff_prefix.mp front
      have shorter : rest.length < (pair.1 ++ rest).length := by
        have long := begins.length_pos
        rw [List.length_append]
        omega
      exact taken place pair rest begins found (ih _ shorter _ rest rfl)
    | none =>
      cases text with
      | nil => exact nil place
      | cons x rest => exact copied place x rest found (ih _ (Nat.lt_succ_self _) _ rest rfl)

theorem substitute_taken (heads : ∀ pair ∈ pairs, Heads head pair.1) (place : Nat)
    {pair : List α × List α} {rest : List α} (begins : Heads head pair.1)
    (found : pairs.find? (fun pair' => pair'.1.isPrefixOf (pair.1 ++ rest)) = some pair) :
    substitute pairs (placed place (pair.1 ++ rest)) =
      written pair.2 ++ substitute pairs (placed (place + pair.1.length) rest) := by
  rw [← find_ownPrefix_placed heads place] at found
  rw [placed_append] at found ⊢
  exact pass_taken begins (length_placed place pair.1) found

theorem substitute_copied (heads : ∀ pair ∈ pairs, Heads head pair.1) (place : Nat) {x : α}
    {rest : List α} (none : pairs.find? (fun pair => pair.1.isPrefixOf (x :: rest)) = none) :
    substitute pairs (placed place (x :: rest)) =
      (x, some place) :: substitute pairs (placed (place + 1) rest) := by
  rw [← find_ownPrefix_placed heads place] at none
  exact pass_of_none none

theorem replaceAll_taken {pair : List α × List α} {rest : List α} (begins : Heads head pair.1)
    (found : pairs.find? (fun pair' => pair'.1.isPrefixOf (pair.1 ++ rest)) = some pair) :
    replaceAll pairs (pair.1 ++ rest) = pair.2 ++ replaceAll pairs rest :=
  pass_taken begins rfl found

/-- The symbols of the substitution are those of one pass over the text. -/
theorem map_fst_substitute (heads : ∀ pair ∈ pairs, Heads head pair.1) (place : Nat) (text : List α) :
    (substitute pairs (placed place text)).map Prod.fst = replaceAll pairs text := by
  induction place, text using reading_induction heads with
  | nil place => rfl
  | taken place pair rest begins found ih =>
    rw [substitute_taken heads place begins found, replaceAll_taken begins found, List.map_append,
      map_fst_written, ih]
  | copied place x rest none ih =>
    unfold replaceAll at ih ⊢
    rw [substitute_copied heads place none, pass_of_none none, List.map_cons, ih]

/-- What is left of a text keeps its places. -/
theorem le_place_of_mem_substitute (heads : ∀ pair ∈ pairs, Heads head pair.1) {x : α} {left : Nat}
    (place : Nat) (text : List α) (mem : (x, some left) ∈ substitute pairs (placed place text)) :
    place ≤ left := by
  induction place, text using reading_induction heads with
  | nil place => cases mem
  | taken place pair rest begins found ih =>
    rw [substitute_taken heads place begins found, List.mem_append] at mem
    rcases mem with inserted | after
    · simp [written] at inserted
    · exact (Nat.le_add_right _ _).trans (ih after)
  | copied place y rest none ih =>
    rw [substitute_copied heads place none, List.mem_cons] at mem
    rcases mem with first | after
    · cases first
      exact le_rfl
    · exact (Nat.le_succ _).trans (ih after)

/-- A run of places that is left was there. -/
theorem prefix_of_placed_prefix (heads : ∀ pair ∈ pairs, Heads head pair.1) {s : List α} (place : Nat)
    (text : List α) (left : placed place s <+: substitute pairs (placed place text)) : s <+: text := by
  induction place, text using reading_induction heads generalizing s with
  | nil place =>
    cases s with
    | nil => exact List.nil_prefix
    | cons x s => simp [placed, substitute] at left
  | taken place pair rest begins found _ =>
    cases s with
    | nil => exact List.nil_prefix
    | cons x s =>
      rw [substitute_taken heads place begins found] at left
      have long := begins.length_pos
      have own : (x, some place) ∈
          written pair.2 ++ substitute pairs (placed (place + pair.1.length) rest) :=
        left.subset (by simp [placed])
      rcases List.mem_append.mp own with inserted | after
      · simp [written] at inserted
      · have later := le_place_of_mem_substitute heads _ _ after
        omega
  | copied place y rest none ih =>
    cases s with
    | nil => exact List.nil_prefix
    | cons x s =>
      rw [substitute_copied heads place none, placed, List.cons_prefix_cons] at left
      obtain ⟨first, left⟩ := left
      obtain rfl := (Prod.mk.inj first).1
      exact List.cons_prefix_cons.mpr ⟨rfl, ih left⟩

theorem ownPrefix_written (pattern : List α) {value : List α} (some : value ≠ [])
    (text : List (α × Option Nat)) : ownPrefix pattern (written value ++ text) = false := by
  obtain ⟨x, value, rfl⟩ := List.exists_cons_of_ne_nil some
  rfl

/-- Written values are copied: they are no own matches, nor the beginning of one. -/
theorem substitute_written (value : List α) (text : List (α × Option Nat)) :
    substitute pairs (written value ++ text) = written value ++ substitute pairs text := by
  apply pass_append_of_none
  rintro _ ⟨before, inside⟩ some pair _
  obtain ⟨_, value', -, -, rfl⟩ := List.append_eq_map_iff.mp inside
  exact ownPrefix_written _ (fun nothing => some (by rw [nothing]; rfl)) _

/-- A match that the other patterns leave alone is copied, places and all. -/
theorem substitute_kept (heads : ∀ pair ∈ pairs, Heads head pair.1) (heads' : Heads head pattern)
    (place : Nat) (rest : List α)
    (none : pairs.find? (fun pair => pair.1.isPrefixOf (pattern ++ rest)) = none) :
    substitute pairs (placed place (pattern ++ rest)) =
      placed place pattern ++ substitute pairs (placed (place + pattern.length) rest) := by
  rw [← find_ownPrefix_placed heads place] at none
  rw [placed_append] at none ⊢
  refine pass_over (fun _ _ => prefix_of_ownPrefix) heads heads' (map_fst_placed _ _) ?_
  intro pair mem
  simpa using List.find?_eq_none.mp none pair mem

/-- Then it is replaced as an own match. -/
theorem substitute_own (heads' : Heads head pattern) (place : Nat) (rest : List (α × Option Nat)) :
    substitute [(pattern, value)] (placed place pattern ++ rest) =
      written value ++ substitute [(pattern, value)] rest := by
  have own : ownPrefix pattern (placed place pattern ++ rest) :=
    ownPrefix_of_prefix heads' place (List.prefix_append _ _)
  exact pass_single_taken heads' (length_placed place pattern) own

/-- No own match begins where the text read had none. -/
theorem not_ownPrefix_left (heads : ∀ pair ∈ pairs, Heads head pair.1) {place : Nat} {x : α}
    {rest : List α} (none : pairs.find? (fun pair => pair.1.isPrefixOf (x :: rest)) = none)
    (here : ¬ pattern <+: x :: rest) :
    ¬ ownPrefix pattern ((x, some place) :: substitute pairs (placed (place + 1) rest)) := by
  intro own
  apply here
  apply prefix_of_placed_prefix heads place
  rw [substitute_copied heads place none]
  exact List.isPrefixOf_iff_prefix.mp own

/-- One more pattern: its own matches in what the others left. -/
theorem substitute_snoc (heads : ∀ pair ∈ pairs, Heads head pair.1) (heads' : Heads head pattern)
    (place : Nat) (text : List α) :
    substitute (pairs ++ [(pattern, value)]) (placed place text) =
      substitute [(pattern, value)] (substitute pairs (placed place text)) := by
  have all : ∀ pair ∈ pairs ++ [(pattern, value)], Heads head pair.1 := by
    intro pair mem
    rcases List.mem_append.mp mem with old | new
    · exact heads pair old
    · rw [List.mem_singleton.mp new]
      exact heads'
  induction place, text using reading_induction all with
  | nil place => rfl
  | taken place pair rest begins found ih =>
    rw [substitute_taken all place begins found, ih]
    rw [List.find?_append] at found
    cases first : pairs.find? (fun pair' => pair'.1.isPrefixOf (pair.1 ++ rest)) with
    | some pair' =>
      rw [first] at found
      obtain rfl := Option.some.inj found
      rw [substitute_taken heads place begins first, substitute_written]
    | none =>
      rw [first, Option.none_or] at found
      obtain rfl := List.mem_singleton.mp (List.mem_of_find?_eq_some found)
      rw [substitute_kept heads heads' place rest first, substitute_own heads']
  | copied place x rest none ih =>
    rw [substitute_copied all place none, ih]
    rw [List.find?_append, Option.or_eq_none_iff] at none
    obtain ⟨others, last⟩ := none
    have here : ¬ pattern <+: x :: rest := by simpa using last
    rw [substitute_copied heads place others]
    exact (pass_single_copied (not_ownPrefix_left heads others here)).symm

end AtOnce

/-! ## All matches of a pattern, and its own ones -/

section OnePattern

variable {head : α} {pattern value : List α} {text : List (α × Option Nat)}

/-- All matches of the pattern are own. -/
def AllOwn (pattern : List α) (text : List (α × Option Nat)) : Prop :=
  ∀ rest ∈ text.tails, pattern <+: rest.map Prod.fst → ownPrefix pattern rest

instance (pattern : List α) (text : List (α × Option Nat)) : Decidable (AllOwn pattern text) := by
  unfold AllOwn
  infer_instance

/-- The two passes side by side: where a match is not own, only the one writes the value. -/
inductive Passes (pattern value : List α) : List (α × Option Nat) → List α → List α → Prop
  | nil : Passes pattern value [] [] []
  | own {taken rest : List (α × Option Nat)} {all own : List α} :
    taken.map Prod.fst = pattern → ownPrefix pattern (taken ++ rest) →
    Passes pattern value rest all own →
    Passes pattern value (taken ++ rest) (value ++ all) (value ++ own)
  | other {taken rest : List (α × Option Nat)} {all own : List α} :
    taken.map Prod.fst = pattern → ¬ ownPrefix pattern (taken ++ rest) →
    Passes pattern value rest all own →
    Passes pattern value (taken ++ rest) (value ++ all) (pattern ++ own)
  | copy {x : α × Option Nat} {rest : List (α × Option Nat)} {all own : List α} :
    ¬ pattern <+: (x :: rest).map Prod.fst → Passes pattern value rest all own →
    Passes pattern value (x :: rest) (x.1 :: all) (x.1 :: own)

theorem passes (value : List α) (heads : Heads head pattern) (text : List (α × Option Nat)) :
    Passes pattern value text (replaceAll [(pattern, value)] (text.map Prod.fst))
      ((substitute [(pattern, value)] text).map Prod.fst) := by
  induction size : text.length using Nat.strong_induction_on generalizing text with
  | _ n ih =>
    subst size
    by_cases here : pattern <+: text.map Prod.fst
    case pos =>
      obtain ⟨after, split⟩ := here
      obtain ⟨taken, rest, rfl, symbols, rfl⟩ := List.append_eq_map_iff.mp split
      have length : taken.length = pattern.length := by rw [← symbols, List.length_map]
      have long := heads.length_pos
      have next := ih rest.length (by rw [List.length_append]; omega) rest rfl
      have all : replaceAll [(pattern, value)] ((taken ++ rest).map Prod.fst) =
          value ++ replaceAll [(pattern, value)] (rest.map Prod.fst) := by
        rw [List.map_append, symbols]
        exact pass_single_taken heads rfl (by simp)
      rw [all]
      by_cases own : ownPrefix pattern (taken ++ rest)
      · have one : substitute [(pattern, value)] (taken ++ rest) =
            written value ++ substitute [(pattern, value)] rest := pass_single_taken heads length own
        rw [one, List.map_append, map_fst_written]
        exact .own symbols own next
      · have one : substitute [(pattern, value)] (taken ++ rest) =
            taken ++ substitute [(pattern, value)] rest := by
          refine pass_over (fun _ _ => prefix_of_ownPrefix) (by simpa using heads) heads symbols ?_
          simpa using own
        rw [one, List.map_append, symbols]
        exact .other symbols own next
    case neg =>
      cases text with
      | nil => exact .nil
      | cons x rest =>
        have next := ih rest.length (Nat.lt_succ_self _) rest rfl
        have all : replaceAll [(pattern, value)] ((x :: rest).map Prod.fst) =
            x.1 :: replaceAll [(pattern, value)] (rest.map Prod.fst) :=
          pass_single_copied (by rwa [List.isPrefixOf_iff_prefix])
        have one : substitute [(pattern, value)] (x :: rest) =
            x :: substitute [(pattern, value)] rest :=
          pass_single_copied (mt prefix_of_ownPrefix here)
        rw [all, one, List.map_cons]
        exact .copy here next

variable {all own : List α}

/-- The pass that writes more values is the longer one where the value is longer than the
pattern, and the shorter one where it is shorter. -/
theorem Passes.length_le (sides : Passes pattern value text all own) :
    (pattern.length ≤ value.length → own.length ≤ all.length) ∧
      (value.length ≤ pattern.length → all.length ≤ own.length) := by
  induction sides with
  | nil => simp
  | own _ _ _ ih =>
    simp only [List.length_append]
    omega
  | other _ _ _ ih =>
    simp only [List.length_append]
    omega
  | copy _ _ ih =>
    simp only [List.length_cons]
    omega

theorem Passes.eq_of_value_eq (same : value = pattern) (sides : Passes pattern value text all own) :
    all = own := by
  induction sides with
  | nil => rfl
  | own _ _ _ ih => rw [ih]
  | other _ _ _ ih => rw [same, ih]
  | copy _ _ ih => rw [ih]

theorem Passes.eq_of_allOwn (sides : Passes pattern value text all own) (allOwn : AllOwn pattern text) :
    all = own := by
  have later : ∀ s t : List (α × Option Nat), AllOwn pattern (s ++ t) → AllOwn pattern t := by
    intro s t allOwn rest mem
    rw [List.mem_tails] at mem
    exact allOwn rest ((List.mem_tails _ _).mpr (mem.trans (List.suffix_append s t)))
  induction sides with
  | nil => rfl
  | own _ _ _ ih => rw [ih (later _ _ allOwn)]
  | other symbols left _ _ =>
    refine absurd (allOwn _ ((List.mem_tails _ _).mpr List.suffix_rfl) ?_) left
    rw [List.map_append, symbols]
    exact List.prefix_append _ _
  | copy _ _ ih => rw [ih (later [_] _ allOwn)]

/-- Own at the front and own in the rest: between them no match begins. -/
theorem allOwn_append (heads : Heads head pattern) {taken rest : List (α × Option Nat)}
    (symbols : taken.map Prod.fst = pattern) (here : ownPrefix pattern (taken ++ rest))
    (after : AllOwn pattern rest) : AllOwn pattern (taken ++ rest) := by
  intro rest' mem begins
  obtain ⟨before, cut⟩ := (List.mem_tails _ _).mp mem
  rcases List.append_eq_append_iff.mp cut with ⟨s, split, rfl⟩ | ⟨s, -, split⟩
  case inr => exact after rest' ((List.mem_tails _ _).mpr ⟨s, split.symm⟩) begins
  case inl =>
    by_cases done : s = []
    · rw [done] at begins ⊢
      exact after rest ((List.mem_tails _ _).mpr List.suffix_rfl) begins
    by_cases whole : s = taken
    · rw [whole]
      exact here
    · rw [List.map_append] at begins
      refine absurd begins (heads.not_prefix_inside heads ?_ (by simpa using done) ?_)
      · rw [← symbols, split, List.map_append]
        exact List.suffix_append _ _
      · intro same
        apply whole
        have suffix : s <:+ taken := ⟨before, split.symm⟩
        apply suffix.eq_of_length
        rw [← List.length_map Prod.fst, same, ← symbols, List.length_map]

theorem Passes.allOwn_of_eq (heads : Heads head pattern) (other : value ≠ pattern)
    (sides : Passes pattern value text all own) (same : all = own) : AllOwn pattern text := by
  induction sides with
  | nil =>
    intro rest mem begins
    obtain rfl := List.suffix_nil.mp ((List.mem_tails _ _).mp mem)
    have long := heads.length_pos
    rw [List.map_nil, List.prefix_nil] at begins
    rw [begins] at long
    exact absurd long (Nat.lt_irrefl 0)
  | own symbols here _ ih =>
    exact allOwn_append heads symbols here (ih (List.append_cancel_left same))
  | @other taken rest all own symbols left sides ih =>
    have lengths := congrArg List.length same
    have bounds := sides.length_le
    rw [List.length_append, List.length_append] at lengths
    have equal : value.length = pattern.length := by omega
    exact absurd (List.append_inj same equal).1 other
  | @copy x rest all own here _ ih =>
    intro rest' mem begins
    rcases List.mem_cons.mp mem with whole | inside
    · rw [whole] at begins
      exact absurd begins here
    · exact ih (List.cons.inj same).2 rest' inside begins

/-- Replacing all matches is replacing the own ones exactly where there are no others, or where
the value is the pattern. -/
theorem replaceAll_eq_iff (heads : Heads head pattern) (text : List (α × Option Nat)) :
    replaceAll [(pattern, value)] (text.map Prod.fst) =
        (substitute [(pattern, value)] text).map Prod.fst ↔
      AllOwn pattern text ∨ value = pattern := by
  have sides := passes value heads text
  constructor
  · intro same
    by_cases itself : value = pattern
    · exact .inr itself
    · exact .inl (sides.allOwn_of_eq heads itself same)
  · rintro (allOwn | same)
    · exact sides.eq_of_allOwn allOwn
    · exact sides.eq_of_value_eq same

end OnePattern

/-! ## One pattern after another -/

/-- A pass for each pattern, over what the one before left. -/
def replaceEach (pairs : List (List α × List α)) (text : List α) : List α :=
  pairs.foldl (fun text pair => replaceAll [pair] text) text

section Each

variable {head : α} {pairs : List (List α × List α)}

/-- The own matches of one pattern after another, beside all of them. -/
def eachStep (sides : List (α × Option Nat) × List α) (pair : List α × List α) :
    List (α × Option Nat) × List α := (substitute [pair] sides.1, replaceAll [pair] sides.2)

theorem foldl_eachStep (heads : ∀ pair ∈ pairs, Heads head pair.1) (text : List α) :
    pairs.foldl eachStep (placed 0 text, text) =
      (substitute pairs (placed 0 text), replaceEach pairs text) := by
  induction pairs using List.reverseRecOn with
  | nil =>
    unfold substitute
    rw [pass_no_pairs]
    rfl
  | append_singleton pairs pair ih =>
    have before : ∀ pair ∈ pairs, Heads head pair.1 := fun pair mem => heads pair (by simp [mem])
    rw [List.foldl_append, ih before, substitute_snoc before (heads pair (by simp))]
    unfold replaceEach
    rw [List.foldl_append]
    rfl

/-- The two sides hold the same symbols. -/
def Agree (sides : List (α × Option Nat) × List α) : Prop := sides.2 = sides.1.map Prod.fst

/-- The next pass finds own matches only, or writes the pattern itself. -/
def OwnPass (sides : List (α × Option Nat) × List α) (pair : List α × List α) : Prop :=
  AllOwn pair.1 sides.1 ∨ pair.2 = pair.1

theorem agree_eachStep_iff {sides : List (α × Option Nat) × List α} {pair : List α × List α}
    (heads : Heads head pair.1) (agree : Agree sides) :
    Agree (eachStep sides pair) ↔ OwnPass sides pair := by
  unfold Agree eachStep at *
  dsimp only
  rw [agree]
  exact replaceAll_eq_iff heads sides.1

/-- Passes for one pattern after another agree with the pass for all of them, after each of
them, exactly when each pass finds own matches only, or writes the pattern itself. -/
theorem replaceEach_iff (heads : ∀ pair ∈ pairs, Heads head pair.1) (text : List α) :
    (∀ done, done <+: pairs → replaceEach done text = replaceAll done text) ↔
      ∀ done pair, done ++ [pair] <+: pairs →
        AllOwn pair.1 (substitute done (placed 0 text)) ∨ pair.2 = pair.1 := by
  have start : Agree (placed 0 text, text) := (map_fst_placed 0 text).symm
  have step : ∀ sides, ∀ pair ∈ pairs, Agree sides →
      (Agree (eachStep sides pair) ↔ OwnPass sides pair) :=
    fun sides pair mem agree => agree_eachStep_iff (heads pair mem) agree
  have runs := Lts.foldl_invariant_iff (I := Agree) start step
  have sub : ∀ done, done <+: pairs → ∀ pair ∈ done, Heads head pair.1 :=
    fun done here pair mem => heads pair (here.subset mem)
  have states : ∀ done, done <+: pairs → (Agree (done.foldl eachStep (placed 0 text, text)) ↔
      replaceEach done text = replaceAll done text) := by
    intro done here
    rw [foldl_eachStep (sub done here), ← map_fst_substitute (sub done here) 0]
    rfl
  have passes : ∀ done pair, done ++ [pair] <+: pairs →
      (OwnPass (done.foldl eachStep (placed 0 text, text)) pair ↔
        AllOwn pair.1 (substitute done (placed 0 text)) ∨ pair.2 = pair.1) := by
    intro done pair here
    rw [foldl_eachStep (sub done ((List.prefix_append done [pair]).trans here))]
    rfl
  constructor
  · intro same done pair here
    exact (passes done pair here).mp (runs.mp (fun u inside => (states u inside).mpr (same u inside))
      done pair here)
  · intro own done here
    exact (states done here).mp (runs.mpr (fun u e inside => (passes u e inside).mpr (own u e inside))
      done here)

end Each

end Substitution
