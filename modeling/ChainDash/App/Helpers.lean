import ChainDash.Lib.Grouping
import ChainDash.Lib.Sorting
import ChainDash.Lib.Text
import Mathlib.Data.Finset.Range
import Mathlib.Data.Prod.Lex

/-!
# Helpers of the panels

Grouping the digits of a number, and choosing the lines of a panel by priority. The groups
of `formatGroupedU64` are those of `Grouping.separated`, counted from the last digit; the
lines that `selectPrioritizedLines` keeps are the `Sorting.Leading` ones.
-/

namespace ChainDash.App
set_option autoImplicit false

/-! ## Digits in groups -/

/-- One digit of the loop of `format_grouped_u64`. -/
def pushGrouped (formatted : List Char) (digit : Char × ℕ) : List Char :=
  (if 0 < digit.2 ∧ digit.2 % 3 = 0 then formatted ++ [','] else formatted) ++ [digit.1]

/-- `format_grouped_u64`. -/
def formatGroupedU64 (value : UInt64) : String :=
  let digits := toString value.toNat
  let formatted := digits.toList.reverse.zipIdx.foldl pushGrouped []
  String.ofList formatted.reverse

/-- The decimal numeral of a number, without leading zeros. -/
structure IsDecimal (digits : List Char) (value : ℕ) : Prop where
  allDigits : ∀ c ∈ digits, c.isDigit
  value_eq : Nat.ofDigitChars 10 digits 0 = value
  noLeadingZero : digits.head? = some '0' → digits = ['0']

theorem foldl_pushGrouped (formatted digits : List Char) (index : ℕ) :
    (digits.zipIdx index).foldl pushGrouped formatted =
      formatted ++ Grouping.separated ',' 3 index digits := by
  induction digits generalizing formatted index with
  | nil => simp [Grouping.separated]
  | cons digit digits ih =>
    rw [List.zipIdx_cons, List.foldl_cons, ih, pushGrouped, Grouping.separated]
    split <;> simp

theorem toList_formatGroupedU64 (value : UInt64) :
    (formatGroupedU64 value).toList =
      (Grouping.separated ',' 3 0 (Nat.toDigits 10 value.toNat).reverse).reverse := by
  unfold formatGroupedU64
  simp only [String.toList_ofList, foldl_pushGrouped, List.nil_append]
  rw [show (toString value.toNat).toList = Nat.toDigits 10 value.toNat from Nat.toList_repr]

theorem head?_toDigits {n : ℕ} (positive : 0 < n) : (Nat.toDigits 10 n).head? ≠ some '0' := by
  induction n using Nat.strongRecOn with
  | _ n ih =>
    by_cases small : n < 10
    · rw [Nat.toDigits_of_lt_base small]
      have each : ∀ d < 10, 0 < d → [d.digitChar].head? ≠ some '0' := by decide
      exact each n small positive
    · rw [Nat.toDigits_of_base_le (by omega) (by omega), List.head?_append]
      have before := ih (n / 10) (by omega) (by omega)
      obtain ⟨digit, digits, more⟩ := List.exists_cons_of_ne_nil (Nat.toDigits_ne_nil (b := 10) (n := n / 10))
      rw [more] at before ⊢
      exact before

theorem isDecimal_toDigits (n : ℕ) : IsDecimal (Nat.toDigits 10 n) n := by
  constructor
  case allDigits => exact fun c mem => Nat.isDigit_of_mem_toDigits (by omega) (by omega) mem
  case value_eq => exact Nat.ofDigitChars_toDigits (by omega) (by omega)
  case noLeadingZero =>
    intro zero
    rcases Nat.eq_zero_or_pos n with rfl | positive
    · rfl
    · exact absurd zero (head?_toDigits positive)

theorem comma_notMem_toDigits (n : ℕ) : ',' ∉ Nat.toDigits 10 n := by
  intro mem
  have digit := (isDecimal_toDigits n).allDigits ',' mem
  exact absurd digit (by decide)

theorem filter_formatGroupedU64 (value : UInt64) :
    (formatGroupedU64 value).toList.filter (· ≠ ',') = Nat.toDigits 10 value.toNat := by
  have out : ',' ∉ (Nat.toDigits 10 value.toNat).reverse := by
    simpa using comma_notMem_toDigits value.toNat
  rw [toList_formatGroupedU64, List.filter_reverse, Grouping.filter_separated out,
    List.reverse_reverse]

theorem split_formatGroupedU64 (value : UInt64) :
    ∃ first rest, Text.split ',' (formatGroupedU64 value) = first :: rest ∧
      1 ≤ first.length ∧ first.length ≤ 3 ∧ ∀ group ∈ rest, group.length = 3 := by
  obtain ⟨first, rest, text, parts, positive, le, lengths⟩ :=
    Grouping.exists_groups_reverse ',' (show 0 < 3 by omega) (@Nat.toDigits_ne_nil value.toNat 10)
  have out : ∀ group ∈ first :: rest, ',' ∉ group := by
    intro group mem inside
    apply comma_notMem_toDigits value.toNat
    rw [← parts]
    exact List.mem_flatten_of_mem mem inside
  refine ⟨String.ofList first, rest.map String.ofList, ?_, ?_, ?_, ?_⟩
  · rw [Text.split, toList_formatGroupedU64, text, List.splitOn_intercalate _ out (by simp),
      List.map_cons]
  · rw [String.length_ofList]
    exact positive
  · rw [String.length_ofList]
    exact le
  · intro group mem
    obtain ⟨own, own_mem, rfl⟩ := List.mem_map.mp mem
    rw [String.length_ofList]
    exact lengths own own_mem

/-- Without its commas the text is the decimal numeral of the number; between them stand
groups of three digits, the first one of one to three. -/
theorem formatGroupedU64_faithful :
    (∀ value : UInt64,
      (formatGroupedU64 value).toList.filter (· ≠ ',') = (toString value.toNat).toList ∧
      IsDecimal ((formatGroupedU64 value).toList.filter (· ≠ ',')) value.toNat ∧
      ∃ first rest, Text.split ',' (formatGroupedU64 value) = first :: rest ∧
        1 ≤ first.length ∧ first.length ≤ 3 ∧ ∀ group ∈ rest, group.length = 3) ∧
    Function.Injective formatGroupedU64 := by
  constructor
  · intro value
    rw [filter_formatGroupedU64]
    exact ⟨Nat.toList_repr.symm, isDecimal_toDigits value.toNat, split_formatGroupedU64 value⟩
  · intro value value' same
    apply UInt64.toNat_inj.mp
    rw [← (isDecimal_toDigits value.toNat).value_eq, ← (isDecimal_toDigits value'.toNat).value_eq,
      ← filter_formatGroupedU64, ← filter_formatGroupedU64, same]

example : formatGroupedU64 12345678 = "12,345,678" := by decide

/-! ## The beginning and the end of a text -/

/-- `prefix_chars`. -/
def prefixChars (value : String) (maxChars : ℕ) : String :=
  if maxChars = 0 then ""
  else
    match value.toList[maxChars]? with
    | some _ => String.ofList (value.toList.take maxChars)
    | none => value

/-- `suffix_chars`. -/
def suffixChars (value : String) (maxChars : ℕ) : String :=
  if maxChars = 0 then ""
  else
    let charCount := value.length
    if maxChars ≥ charCount then value
    else
      let start := charCount - maxChars
      match value.toList[start]? with
      | some _ => String.ofList (value.toList.drop start)
      | none => value

theorem toList_prefixChars (value : String) (maxChars : ℕ) :
    (prefixChars value maxChars).toList = value.toList.take maxChars := by
  unfold prefixChars
  split
  case isTrue zero => simp [zero]
  case isFalse =>
    split
    case h_1 => rw [String.toList_ofList]
    case h_2 short => rw [List.take_of_length_le (List.getElem?_eq_none_iff.mp short)]

theorem toList_suffixChars (value : String) (maxChars : ℕ) :
    (suffixChars value maxChars).toList = value.toList.drop (value.length - maxChars) := by
  unfold suffixChars
  split
  case isTrue zero => simp [zero, ← String.length_toList]
  case isFalse positive =>
    simp only
    split
    case isTrue short => rw [Nat.sub_eq_zero_of_le short, List.drop_zero]
    case isFalse long =>
      have inside : value.length - maxChars < value.toList.length := by
        rw [String.length_toList]
        omega
      rw [List.getElem?_eq_getElem inside, String.toList_ofList]

/-! ## The lines of a panel -/

section Lines

variable {α : Type*}

/-- The key of the sort of `select_prioritized_lines`, for an index with its priority. -/
def rankKey (ranked : ℕ × UInt8) : ℕ ×ₗ ℕ := toLex (ranked.2.toNat, ranked.1)

/-- The positions with their priorities, sorted (`ranked` in `select_prioritized_lines`). -/
def ranked (specs : List (UInt8 × α)) : List (ℕ × UInt8) :=
  (specs.zipIdx.map fun (spec, index) => (index, spec.1)).insertionSort
    (fun a b => rankKey a ≤ rankKey b)

/-- The lines at the given positions, in their order. -/
def linesAt (specs : List (UInt8 × α)) (keep : Finset ℕ) : List α :=
  specs.zipIdx.filterMap fun (spec, index) => if index ∈ keep then some spec.2 else none

/-- `select_prioritized_lines`; a line is a value of any type. -/
def selectPrioritizedLines (specs : List (UInt8 × α)) (maxRows : UInt16) : List α :=
  let maxRows := maxRows.toNat
  if maxRows = 0 then []
  else if specs.length ≤ maxRows then specs.map Prod.snd
  else
    let keep := (((ranked specs).take maxRows).map Prod.fst).toFinset
    linesAt specs keep

/-- The priority at a position. -/
def priorityAt (specs : List (UInt8 × α)) (index : ℕ) : ℕ :=
  ((specs[index]?.map Prod.fst).getD 0).toNat

/-- What the lines are ranked by. -/
def rankAt (specs : List (UInt8 × α)) (index : ℕ) : ℕ ×ₗ ℕ := toLex (priorityAt specs index, index)

theorem linesAt_eq (specs : List (UInt8 × α)) (keep : Finset ℕ) :
    linesAt specs keep = (specs.zipIdx.filter (·.2 ∈ keep)).map (·.1.2) := by
  unfold linesAt
  induction specs.zipIdx with
  | nil => rfl
  | cons entry rest ih =>
    by_cases kept : entry.2 ∈ keep
    · simp [kept, ih]
    · simp [kept, ih]

theorem linesAt_mono (specs : List (UInt8 × α)) {keep keep' : Finset ℕ} (within : keep ⊆ keep') :
    (linesAt specs keep).Sublist (linesAt specs keep') := by
  rw [linesAt_eq, linesAt_eq]
  apply List.Sublist.map
  apply List.monotone_filter_right
  intro entry mem
  simpa using within (by simpa using mem)

theorem map_zipIdx_snd (specs : List (UInt8 × α)) : specs.zipIdx.map (·.1.2) = specs.map Prod.snd := by
  rw [← List.zipIdx_map_fst 0 specs, List.map_map]
  simp

theorem linesAt_sublist (specs : List (UInt8 × α)) (keep : Finset ℕ) :
    (linesAt specs keep).Sublist (specs.map Prod.snd) := by
  rw [linesAt_eq, ← map_zipIdx_snd]
  exact List.filter_sublist.map _

theorem length_linesAt (specs : List (UInt8 × α)) {keep : Finset ℕ}
    (within : keep ⊆ Finset.range specs.length) : (linesAt specs keep).length = keep.card := by
  have positions : (specs.zipIdx.filter (·.2 ∈ keep)).map Prod.snd =
      (List.range' 0 specs.length).filter (· ∈ keep) := by
    rw [← List.zipIdx_map_snd, List.filter_map]
    rfl
  have distinct : ((List.range' 0 specs.length).filter (· ∈ keep)).Nodup :=
    List.Nodup.filter _ List.nodup_range'
  calc (linesAt specs keep).length
      = ((List.range' 0 specs.length).filter (· ∈ keep)).length := by
        rw [linesAt_eq, ← positions, List.length_map, List.length_map]
    _ = ((List.range' 0 specs.length).filter (· ∈ keep)).toFinset.card :=
        (List.toFinset_card_of_nodup distinct).symm
    _ = keep.card := by
        congr 1
        ext i
        have inside := @within i
        simp only [Finset.mem_range] at inside
        simp only [List.mem_toFinset, List.mem_filter, List.mem_range'_1, decide_eq_true_eq]
        exact ⟨And.right, fun mem => ⟨⟨Nat.zero_le i, by simpa using inside mem⟩, mem⟩⟩

theorem linesAt_range (specs : List (UInt8 × α)) :
    linesAt specs (Finset.range specs.length) = specs.map Prod.snd := by
  refine (linesAt_sublist specs _).eq_of_length ?_
  rw [length_linesAt specs (Finset.Subset.refl _), Finset.card_range, List.length_map]

theorem ranked_perm (specs : List (UInt8 × α)) :
    (ranked specs).Perm (specs.zipIdx.map fun (spec, index) => (index, spec.1)) :=
  List.perm_insertionSort _ _

/-- Every entry carries its own priority. -/
theorem rankAt_of_mem_ranked {specs : List (UInt8 × α)} {entry : ℕ × UInt8}
    (mem : entry ∈ ranked specs) : rankAt specs entry.1 = rankKey entry := by
  rw [(ranked_perm specs).mem_iff] at mem
  obtain ⟨⟨spec, index⟩, inside, rfl⟩ := List.mem_map.mp mem
  have found : specs[index]? = some spec := List.mem_zipIdx_iff_getElem?.mp inside
  simp only [rankAt, priorityAt, rankKey, found, Option.map_some, Option.getD_some]

theorem pairwise_ranked (specs : List (UInt8 × α)) :
    ((ranked specs).map Prod.fst).Pairwise (rankAt specs · < rankAt specs ·) := by
  have distinct : ((specs.zipIdx.map fun (spec, index) => (index, spec.1)).map rankKey).Nodup := by
    apply List.Nodup.of_map (fun key => (ofLex key).2)
    rw [List.map_map, List.map_map]
    have indices := List.nodup_range' (s := 0) (n := specs.length)
    rwa [← List.zipIdx_map_snd] at indices
  have sorted : (ranked specs).Pairwise (rankKey · < rankKey ·) :=
    Sorting.pairwise_insertionSort_key_lt (fun _ _ => Iff.rfl) distinct
  rw [List.pairwise_map]
  refine List.Pairwise.imp_of_mem ?_ sorted
  intro a b memA memB less
  rwa [rankAt_of_mem_ranked memA, rankAt_of_mem_ranked memB]

theorem toFinset_ranked (specs : List (UInt8 × α)) :
    ((ranked specs).map Prod.fst).toFinset = Finset.range specs.length := by
  rw [List.toFinset_eq_of_perm _ _ ((ranked_perm specs).map Prod.fst), List.map_map]
  ext i
  rw [List.mem_toFinset, Finset.mem_range]
  show i ∈ specs.zipIdx.map Prod.snd ↔ _
  rw [List.zipIdx_map_snd, List.mem_range'_1]
  omega

/-- The positions that are kept. -/
theorem exists_kept (specs : List (UInt8 × α)) (maxRows : UInt16) :
    ∃ kept, Sorting.Leading (rankAt specs) (Finset.range specs.length) maxRows.toNat kept ∧
      selectPrioritizedLines specs maxRows = linesAt specs kept := by
  unfold selectPrioritizedLines
  simp only
  split
  case isTrue zero =>
    refine ⟨∅, ?_, ?_⟩
    · rw [zero]
      exact Sorting.leading_none
    · rw [linesAt_eq]
      simp
  case isFalse =>
    split
    case isTrue short =>
      refine ⟨Finset.range specs.length, Sorting.leading_all ?_, (linesAt_range specs).symm⟩
      rwa [Finset.card_range]
    case isFalse =>
      refine ⟨_, ?_, rfl⟩
      rw [← toFinset_ranked, List.map_take]
      exact Sorting.leading_take (pairwise_ranked specs) _

/-- The lines kept are those of least priority value, the earlier first among equals, in
their order; with more room nothing is taken away. -/
theorem selectPrioritizedLines_optimal (specs : List (UInt8 × α)) :
    ∃ kept : UInt16 → Finset ℕ,
      (∀ maxRows, kept maxRows ⊆ Finset.range specs.length ∧
        selectPrioritizedLines specs maxRows = linesAt specs (kept maxRows) ∧
        (selectPrioritizedLines specs maxRows).Sublist (specs.map Prod.snd) ∧
        (selectPrioritizedLines specs maxRows).length = min specs.length maxRows.toNat ∧
        ∀ i ∈ kept maxRows, ∀ j < specs.length, j ∉ kept maxRows →
          priorityAt specs i < priorityAt specs j ∨
            priorityAt specs i = priorityAt specs j ∧ i < j) ∧
      ∀ maxRows maxRows', maxRows ≤ maxRows' → kept maxRows ⊆ kept maxRows' ∧
        (selectPrioritizedLines specs maxRows).Sublist (selectPrioritizedLines specs maxRows') := by
  choose kept leading lines using exists_kept specs
  refine ⟨kept, ?_, ?_⟩
  · intro maxRows
    have all := leading maxRows
    refine ⟨all.within, lines maxRows, ?_, ?_, ?_⟩
    · rw [lines]
      exact linesAt_sublist specs _
    · rw [lines, length_linesAt specs all.within, all.card, Finset.card_range]
    · intro i mem j inside out
      have less := all.first i mem j (Finset.mem_range.mpr inside) out
      exact Prod.Lex.toLex_lt_toLex.mp less
  · intro maxRows maxRows' le
    have within := (leading maxRows).mono (leading maxRows') (UInt16.le_iff_toNat_le.mp le)
    refine ⟨within, ?_⟩
    rw [lines, lines]
    exact linesAt_mono specs within

example :
    selectPrioritizedLines [(1, "a"), (0, "b"), (2, "c"), (0, "d"), (1, "e")] 3 = ["a", "b", "d"] := by
  decide

end Lines

end ChainDash.App
