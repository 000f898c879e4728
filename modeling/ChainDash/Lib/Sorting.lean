import Mathlib.Data.Finset.Card
import Mathlib.Data.Finset.Dedup
import Mathlib.Data.List.Destutter
import Mathlib.Data.List.Sort

/-!
# Sorting and removing duplicates

`sortDedup` is Rust's `sort` followed by `dedup`: the strictly increasing list of the
values that occur.
-/

namespace Sorting
set_option autoImplicit false

variable {α : Type*} [LinearOrder α]

def sortDedup (l : List α) : List α := (l.insertionSort (· ≤ ·)).destutter (· ≠ ·)

theorem mem_destutter' {l : List α} {a x : α} : x ∈ l.destutter' (· ≠ ·) a ↔ x = a ∨ x ∈ l := by
  induction l generalizing a with
  | nil => simp
  | cons b l ih =>
    rw [List.destutter'_cons]
    split
    case isTrue => simp [ih]
    case isFalse same =>
      rw [ih, not_not.mp same]
      simp

theorem pairwise_destutter' {l : List α} {a : α} (sorted : (a :: l).Pairwise (· ≤ ·)) :
    (l.destutter' (· ≠ ·) a).Pairwise (· < ·) := by
  induction l generalizing a with
  | nil => simp
  | cons b l ih =>
    obtain ⟨below, rest⟩ := List.pairwise_cons.mp sorted
    rw [List.destutter'_cons]
    split
    case isTrue different =>
      refine List.pairwise_cons.mpr ⟨fun x mem => ?_, ih rest⟩
      have ab : a < b := lt_of_le_of_ne (below b (by simp)) different
      rcases mem_destutter'.mp mem with rfl | inside
      · exact ab
      · exact ab.trans_le ((List.pairwise_cons.mp rest).1 x inside)
    case isFalse same =>
      rw [not_not.mp same]
      exact ih rest

@[simp] theorem mem_sortDedup {l : List α} {x : α} : x ∈ sortDedup l ↔ x ∈ l := by
  have sorted := List.mem_insertionSort (· ≤ ·) (x := x) (l := l)
  unfold sortDedup
  cases h : l.insertionSort (· ≤ ·) with
  | nil =>
    rw [h] at sorted
    simpa using sorted
  | cons a rest =>
    rw [h] at sorted
    rw [List.destutter_cons', mem_destutter', ← List.mem_cons]
    exact sorted

theorem pairwise_sortDedup (l : List α) : (sortDedup l).Pairwise (· < ·) := by
  have sorted := List.pairwise_insertionSort (· ≤ ·) l
  unfold sortDedup
  cases h : l.insertionSort (· ≤ ·) with
  | nil => simp
  | cons a rest =>
    rw [h] at sorted
    rw [List.destutter_cons']
    exact pairwise_destutter' sorted

theorem nodup_sortDedup (l : List α) : (sortDedup l).Nodup :=
  (pairwise_sortDedup l).imp fun lt => lt.ne

/-- The result depends only on the values that occur. -/
theorem sortDedup_congr {l l' : List α} (same : ∀ x, x ∈ l ↔ x ∈ l') : sortDedup l = sortDedup l' := by
  apply (pairwise_sortDedup l).eq_of_mem_iff (pairwise_sortDedup l')
  intro x
  rw [mem_sortDedup, mem_sortDedup, same]

/-! ## Sorting by a key

`r` compares by a key, as a chain of comparisons of one field after another does. -/

section ByKey

variable {β κ : Type*} [LinearOrder κ] {r : β → β → Prop} [DecidableRel r] {key : β → κ}

theorem pairwise_insertionSort_key (byKey : ∀ a b, r a b ↔ key a ≤ key b) (l : List β) :
    (l.insertionSort r).Pairwise (key · ≤ key ·) := by
  have total : Std.Total r := ⟨fun a b => by simpa only [byKey] using le_total (key a) (key b)⟩
  have trans : IsTrans β r := ⟨fun a b c => by simpa only [byKey] using le_trans⟩
  exact (List.pairwise_insertionSort r l).imp (byKey _ _).mp

/-- Where the keys are distinct no two entries are level. -/
theorem pairwise_insertionSort_key_lt (byKey : ∀ a b, r a b ↔ key a ≤ key b) {l : List β}
    (distinct : (l.map key).Nodup) : (l.insertionSort r).Pairwise (key · < key ·) := by
  have sorted := pairwise_insertionSort_key byKey l
  have apart : ((l.insertionSort r).map key).Nodup :=
    ((List.perm_insertionSort r l).map key).nodup_iff.mpr distinct
  rw [List.nodup_iff_pairwise_ne, List.pairwise_map] at apart
  exact (sorted.and apart).imp fun ⟨le, ne⟩ => lt_of_le_of_ne le ne

/-- The order before the sort does not matter where the keys are distinct. -/
theorem insertionSort_key_congr (byKey : ∀ a b, r a b ↔ key a ≤ key b) {l l' : List β}
    (distinct : (l.map key).Nodup) (perm : l.Perm l') : l.insertionSort r = l'.insertionSort r := by
  have distinct' : (l'.map key).Nodup := (perm.map key).nodup_iff.mp distinct
  have perm' : (l.insertionSort r).Perm (l'.insertionSort r) :=
    (List.perm_insertionSort r l).trans (perm.trans (List.perm_insertionSort r l').symm)
  refine List.Perm.eq_of_pairwise ?_ (pairwise_insertionSort_key_lt byKey distinct)
    (pairwise_insertionSort_key_lt byKey distinct') perm'
  intro a b _ _ less more
  exact absurd more less.asymm

end ByKey

/-! ## The first entries by a key -/

section Leading

variable {ι κ : Type*} [LinearOrder κ] {key : ι → κ} {all kept kept' : Finset ι} {count count' : ℕ}

/-- `kept` holds `count` members of `all` (all of them, if there are fewer), each before every
member left out. -/
structure Leading (key : ι → κ) (all : Finset ι) (count : ℕ) (kept : Finset ι) : Prop where
  within : kept ⊆ all
  card : kept.card = min all.card count
  first : ∀ i ∈ kept, ∀ j ∈ all, j ∉ kept → key i < key j

/-- Of two choices, the one with more room leaves out nothing that the other keeps. -/
theorem Leading.mono (h : Leading key all count kept) (h' : Leading key all count' kept')
    (le : count ≤ count') : kept ⊆ kept' := by
  by_contra notWithin
  obtain ⟨i, mem, out⟩ := Finset.not_subset.mp notWithin
  -- All that the larger choice keeps comes before `i`, so the smaller one keeps it too.
  have within : kept' ⊆ kept := by
    intro j mem'
    by_contra out'
    have before := h'.first j mem' i (h.within mem) out
    exact absurd (h.first i mem j (h'.within mem') out') before.asymm
  have fewer : kept'.card < kept.card :=
    Finset.card_lt_card ⟨within, notWithin⟩
  rw [h.card, h'.card] at fewer
  omega

theorem leading_all (large : all.card ≤ count) : Leading key all count all :=
  ⟨Finset.Subset.refl all, (Nat.min_eq_left large).symm, fun _ _ _ mem out => absurd mem out⟩

theorem leading_none : Leading key all 0 ∅ :=
  ⟨Finset.empty_subset all, by simp, fun _ mem => absurd mem (Finset.notMem_empty _)⟩

/-- The beginning of a list sorted by the key. -/
theorem leading_take [DecidableEq ι] {l : List ι} (sorted : l.Pairwise (key · < key ·)) (count : ℕ) :
    Leading key l.toFinset count (l.take count).toFinset := by
  have distinct : l.Nodup := sorted.imp fun lt same => absurd (congrArg key same) lt.ne
  constructor
  case within =>
    intro i mem
    rw [List.mem_toFinset] at mem ⊢
    exact List.mem_of_mem_take mem
  case card =>
    rw [List.toFinset_card_of_nodup (distinct.sublist (List.take_sublist _ _)),
      List.toFinset_card_of_nodup distinct, List.length_take, Nat.min_comm]
  case first =>
    intro i mem j inside out
    rw [List.mem_toFinset] at mem inside out
    rw [← List.take_append_drop count l] at sorted inside
    have dropped := (List.mem_append.mp inside).resolve_left out
    exact (List.pairwise_append.mp sorted).2.2 i mem j dropped

end Leading

/-- A list without duplicates, sorted, is strictly increasing. -/
theorem pairwise_insertionSort_lt {l : List α} (distinct : l.Nodup) :
    (l.insertionSort (· ≤ ·)).Pairwise (· < ·) :=
  pairwise_insertionSort_key_lt (fun _ _ => Iff.rfl) (by simpa using distinct)

end Sorting
