import Mathlib.Data.List.TakeDrop
import Mathlib.Order.Basic

/-!
# Separators at equal distances

A list with a separator in front of every element whose index is a positive multiple of a
width is its groups of that width, joined by the separator. Read backwards, the groups are
counted from the end, as the digits of a number are grouped (`exists_groups_reverse`).
-/

namespace Grouping
set_option autoImplicit false

variable {α : Type*}

/-- Put `sep` in front of every element whose index is a positive multiple of `width`;
`index` is the index of the head. -/
def separated (sep : α) (width : ℕ) : ℕ → List α → List α
  | _, [] => []
  | index, a :: rest =>
    (if 0 < index ∧ index % width = 0 then [sep, a] else [a]) ++
      separated sep width (index + 1) rest

variable {sep : α} {width : ℕ}

theorem separated_append (index : ℕ) (l l' : List α) :
    separated sep width index (l ++ l') =
      separated sep width index l ++ separated sep width (index + l.length) l' := by
  induction l generalizing index with
  | nil => simp [separated]
  | cons a l ih =>
    rw [List.cons_append, separated, separated, ih, List.append_assoc, List.length_cons]
    rw [show index + 1 + l.length = index + (l.length + 1) by omega]

/-- No separator stands between the elements of one group. -/
theorem separated_within {index : ℕ} {l : List α}
    (within : ∀ k < l.length, ¬(0 < index + k ∧ (index + k) % width = 0)) :
    separated sep width index l = l := by
  induction l generalizing index with
  | nil => rfl
  | cons a l ih =>
    have head := within 0 (by simp)
    have rest : separated sep width (index + 1) l = l := by
      apply ih
      intro k below
      have := within (k + 1) (by simpa using below)
      rwa [show index + 1 + k = index + (k + 1) by omega]
    rw [separated, if_neg (by simpa using head), rest]
    rfl

/-- A whole group, or the beginning of one. -/
theorem separated_group {index : ℕ} {l : List α} (atGroup : index % width = 0) (nonempty : l ≠ [])
    (short : l.length ≤ width) :
    separated sep width index l = (if 0 < index then [sep] else []) ++ l := by
  obtain ⟨a, l, rfl⟩ := List.exists_cons_of_ne_nil nonempty
  have rest : separated sep width (index + 1) l = l := by
    apply separated_within
    intro k below
    have inGroup : k + 1 < width := by
      rw [List.length_cons] at short
      omega
    rw [show index + 1 + k = index + (k + 1) by omega, Nat.add_mod, atGroup, Nat.zero_add,
      Nat.mod_mod, Nat.mod_eq_of_lt inGroup]
    omega
  rw [separated, rest]
  by_cases first : 0 < index
  · rw [if_pos ⟨first, atGroup⟩, if_pos first]
    rfl
  · rw [if_neg (fun h => first h.1), if_neg first]
    rfl

theorem intercalate_concat {l : List α} {ls : List (List α)} (nonempty : ls ≠ []) :
    [sep].intercalate (ls ++ [l]) = [sep].intercalate ls ++ sep :: l := by
  induction ls with
  | nil => exact absurd rfl nonempty
  | cons first ls ih =>
    cases ls with
    | nil => simp [List.intercalate_cons_cons]
    | cons second ls =>
      rw [List.cons_append, List.intercalate_cons_of_ne_nil (by simp), ih (by simp),
        List.intercalate_cons_cons]
      simp

theorem reverse_intercalate (ls : List (List α)) :
    ([sep].intercalate ls).reverse = [sep].intercalate (ls.map List.reverse).reverse := by
  induction ls with
  | nil => simp
  | cons l ls ih =>
    by_cases last : ls = []
    · simp [last]
    · rw [List.intercalate_cons_of_ne_nil last, List.map_cons, List.reverse_cons,
        intercalate_concat (by simpa using last), ← ih]
      simp

/-- From the start of a group on, the list is its groups joined by the separator: all of
them are full, except the last, which is not empty. -/
theorem exists_groups (positive : 0 < width) {index : ℕ} {l : List α}
    (atGroup : index % width = 0) (nonempty : l ≠ []) :
    ∃ full last, separated sep width index l =
        (if 0 < index then [sep] else []) ++ [sep].intercalate (full ++ [last]) ∧
      (full ++ [last]).flatten = l ∧ (∀ group ∈ full, group.length = width) ∧
      0 < last.length ∧ last.length ≤ width := by
  induction count : l.length using Nat.strongRecOn generalizing index l with
  | _ length ih =>
    by_cases short : l.length ≤ width
    · refine ⟨[], l, ?_, by simp, by simp, List.length_pos_iff.mpr nonempty, short⟩
      rw [separated_group atGroup nonempty short]
      simp
    · -- One full group, and the rest by induction.
      have left : l.drop width ≠ [] := by simpa using short
      have taken : (l.take width).length = width := by
        rw [List.length_take]
        omega
      obtain ⟨full, last, text, parts, lengths, positive', le⟩ :=
        ih (l.drop width).length (by rw [List.length_drop]; omega)
          (show (index + width) % width = 0 by rw [Nat.add_mod_right, atGroup]) left rfl
      refine ⟨l.take width :: full, last, ?_, ?_, ?_, positive', le⟩
      · have first : separated sep width index (l.take width) =
            (if 0 < index then [sep] else []) ++ l.take width :=
          separated_group atGroup (by rw [← List.length_pos_iff, taken]; exact positive)
            (Nat.le_of_eq taken)
        calc separated sep width index l
            = separated sep width index (l.take width ++ l.drop width) := by
              rw [List.take_append_drop]
          _ = (if 0 < index then [sep] else []) ++ l.take width ++
                ([sep] ++ [sep].intercalate (full ++ [last])) := by
              rw [separated_append, first, taken, text, if_pos (show 0 < index + width by omega)]
          _ = (if 0 < index then [sep] else []) ++
                [sep].intercalate (l.take width :: (full ++ [last])) := by
              rw [List.intercalate_cons_of_ne_nil (by simp)]
              simp only [List.append_assoc]
      · rw [List.cons_append, List.flatten_cons, parts, List.take_append_drop]
      · intro group mem
        rcases List.mem_cons.mp mem with rfl | mem
        · exact taken
        · exact lengths group mem

/-- Grouped from the end: all groups are full, except the first. -/
theorem exists_groups_reverse (sep : α) (positive : 0 < width) {l : List α} (nonempty : l ≠ []) :
    ∃ first rest, (separated sep width 0 l.reverse).reverse = [sep].intercalate (first :: rest) ∧
      (first :: rest).flatten = l ∧ 0 < first.length ∧ first.length ≤ width ∧
      ∀ group ∈ rest, group.length = width := by
  obtain ⟨full, last, text, parts, lengths, positive', le⟩ :=
    @exists_groups _ sep _ positive _ _ (Nat.zero_mod width)
      (by simpa using nonempty : l.reverse ≠ [])
  have order : ((full ++ [last]).map List.reverse).reverse =
      last.reverse :: (full.map List.reverse).reverse := by simp
  refine ⟨last.reverse, (full.map List.reverse).reverse, ?_, ?_, by simpa using positive',
    by simpa using le, ?_⟩
  · rw [text, if_neg (Nat.lt_irrefl 0), List.nil_append, reverse_intercalate, order]
  · rw [← order, ← List.reverse_flatten, parts, List.reverse_reverse]
  · intro group mem
    obtain ⟨own, own_mem, rfl⟩ := List.mem_map.mp (List.mem_reverse.mp mem)
    rw [List.length_reverse, lengths own own_mem]

/-- Without the separators the list is as before. -/
theorem filter_separated [DecidableEq α] {l : List α} (out : sep ∉ l) (index : ℕ) :
    (separated sep width index l).filter (· ≠ sep) = l := by
  induction l generalizing index with
  | nil => rfl
  | cons a l ih =>
    have other : a ≠ sep := fun same => out (by simp [same])
    rw [separated, List.filter_append, ih (fun mem => out (List.mem_cons_of_mem _ mem))]
    split <;> simp [other]

end Grouping
