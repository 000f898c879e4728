import Mathlib.Data.List.DropRight
import Mathlib.Data.List.Induction
import Mathlib.Data.List.Pairwise
import Mathlib.Data.List.Sort

/-!
# Bounded histories

A history is a list of entries sorted by a key, one entry for each key, of which only
the last ones are kept. Recording an entry is an `upsert` followed by a `prune`; over
entries with non-decreasing keys the history is the last part of the last entry of each
key (`foldl_record`), so pruning at every step loses nothing over pruning at the end.
-/

namespace History
set_option autoImplicit false

variable {α κ : Type*}

section Prune

/-- Drop the first entries, down to `limit`. -/
def prune (limit : Nat) (entries : List α) : List α :=
  if entries.length ≤ limit then entries else entries.drop (entries.length - limit)

variable {limit : Nat} {entries : List α}

theorem prune_of_le (le : entries.length ≤ limit) : prune limit entries = entries := if_pos le

theorem prune_eq_drop (limit : Nat) (entries : List α) :
    prune limit entries = entries.drop (entries.length - limit) := by
  unfold prune
  split
  case isTrue le => rw [Nat.sub_eq_zero_of_le le, List.drop_zero]
  case isFalse => rfl

theorem prune_map {β : Type*} (limit : Nat) (f : α → β) (entries : List α) :
    prune limit (entries.map f) = (prune limit entries).map f := by
  rw [prune_eq_drop, prune_eq_drop, List.length_map, List.map_drop]

theorem prune_suffix (limit : Nat) (entries : List α) : prune limit entries <:+ entries := by
  rw [prune_eq_drop]
  exact List.drop_suffix _ entries

theorem mem_of_mem_prune {x : α} (mem : x ∈ prune limit entries) : x ∈ entries :=
  (prune_suffix limit entries).subset mem

@[simp] theorem length_prune : (prune limit entries).length = min limit entries.length := by
  rw [prune_eq_drop, List.length_drop]
  omega

/-- A suffix is the pruned list as soon as it has its length. -/
theorem prune_unique {last : List α} (suffix : last <:+ entries)
    (length : last.length = min limit entries.length) : last = prune limit entries := by
  have shorter : last.length ≤ (prune limit entries).length := by rw [length_prune, length]
  refine (List.suffix_of_suffix_length_le suffix (prune_suffix limit entries) shorter).eq_of_length ?_
  rw [length_prune, length]

theorem rtake_eq_prune (limit : Nat) (entries : List α) : entries.rtake limit = prune limit entries :=
  (prune_eq_drop limit entries).symm

/-- Of a list that grows at its end, the last entries can be taken at any time. -/
theorem rtake_rtake_append (limit : Nat) (before after : List α) :
    (before.rtake limit ++ after).rtake limit = (before ++ after).rtake limit := by
  simp only [rtake_eq_prune]
  apply prune_unique
  · obtain ⟨dropped, split⟩ := prune_suffix limit before
    refine (prune_suffix limit _).trans ⟨dropped, ?_⟩
    rw [← List.append_assoc, split]
  · simp only [length_prune, List.length_append]
    omega

/-- An entry is kept iff fewer than `limit` entries come after it. -/
theorem mem_prune_append_cons {before after : List α} {x : α} (fresh : x ∉ after) :
    x ∈ prune limit (before ++ x :: after) ↔ after.length < limit := by
  obtain ⟨dropped, split⟩ := prune_suffix limit (before ++ x :: after)
  have kept : (prune limit (before ++ x :: after)).length = min limit _ := length_prune
  have total := congrArg List.length split
  simp only [List.length_append, List.length_cons] at kept total
  constructor
  · intro mem
    by_contra many
    have short : (prune limit (before ++ x :: after)).length ≤ after.length := by omega
    have inside := List.suffix_of_suffix_length_le (prune_suffix limit _)
      ((List.suffix_cons x after).trans (List.suffix_append before _)) short
    exact fresh (inside.subset mem)
  · intro few
    have long : (x :: after).length ≤ (prune limit (before ++ x :: after)).length := by
      rw [List.length_cons]
      omega
    have inside := List.suffix_of_suffix_length_le (List.suffix_append before (x :: after))
      (prune_suffix limit _) long
    exact inside.subset (by simp)

end Prune

section Fresh

variable {key : α → κ} {init entries : List α}

/-- Entries of different keys, none of which the history has yet. -/
structure Fresh (key : α → κ) (init entries : List α) : Prop where
  new : ∀ entry ∈ entries, ∀ x ∈ init, key x ≠ key entry
  distinct : entries.Pairwise (key · ≠ key ·)

theorem Fresh.before {entry : α} (fresh : Fresh key init (entries ++ [entry])) :
    Fresh key init entries where
  new other mem := fresh.new other (List.mem_append_left _ mem)
  distinct := (List.pairwise_append.mp fresh.distinct).1

theorem Fresh.last {entry : α} (fresh : Fresh key init (entries ++ [entry])) :
    ∀ x ∈ init ++ entries, key x ≠ key entry := by
  intro x mem
  rcases List.mem_append.mp mem with mem | mem
  · exact fresh.new entry (by simp) x mem
  · exact (List.pairwise_append.mp fresh.distinct).2.2 x mem entry (by simp)

end Fresh

variable [LinearOrder κ] {key : α → κ}

/-- Replace the entry of a key, and sort by key. -/
def upsert (key : α → κ) (entries : List α) (entry : α) : List α :=
  (entries.filter (key · ≠ key entry) ++ [entry]).insertionSort (key · ≤ key ·)

def record (key : α → κ) (limit : Nat) (entries : List α) (entry : α) : List α :=
  prune limit (upsert key entries entry)

/-- The last entry of each key. -/
def lastPerKey (key : α → κ) : List α → List α
  | [] => []
  | entry :: rest =>
    if rest.any (key · = key entry) then lastPerKey key rest else entry :: lastPerKey key rest

@[simp] theorem length_upsert (entries : List α) (entry : α) :
    (upsert key entries entry).length = (entries.filter (key · ≠ key entry)).length + 1 := by
  simp [upsert]

@[simp] theorem mem_upsert {entries : List α} {entry x : α} :
    x ∈ upsert key entries entry ↔ x ∈ entries ∧ key x ≠ key entry ∨ x = entry := by
  simp [upsert]

/-- On a sorted history, an entry with the last key goes to the end. -/
theorem upsert_of_le {entries : List α} {entry : α} (sorted : entries.Pairwise (key · ≤ key ·))
    (last : ∀ x ∈ entries, key x ≤ key entry) :
    upsert key entries entry = entries.filter (key · ≠ key entry) ++ [entry] := by
  refine List.Pairwise.insertionSort_eq (List.pairwise_append.mpr ⟨sorted.filter _, by simp, ?_⟩)
  intro x mem y single
  rw [List.mem_singleton.mp single]
  exact last x (List.mem_of_mem_filter mem)

/-! ## The last entry of each key -/

theorem lastPerKey_sublist (entries : List α) : (lastPerKey key entries).Sublist entries := by
  induction entries with
  | nil => exact List.Sublist.refl []
  | cons entry rest ih =>
    rw [lastPerKey]
    split
    · exact ih.cons entry
    · exact ih.cons_cons entry

theorem lastPerKey_snoc (entries : List α) (entry : α) :
    lastPerKey key (entries ++ [entry]) =
      (lastPerKey key entries).filter (key · ≠ key entry) ++ [entry] := by
  induction entries with
  | nil => simp [lastPerKey]
  | cons first rest ih =>
    rw [List.cons_append, lastPerKey, lastPerKey, ih]
    by_cases later : rest.any (key · = key first)
    · rw [if_pos later, if_pos (by simp [later])]
    · by_cases same : key first = key entry
      · rw [if_neg later, if_pos (by simp [same]), List.filter_cons_of_neg (by simp [same])]
      · rw [if_neg later, if_neg, List.filter_cons_of_pos (by simp [same]), List.cons_append]
        simp only [List.any_append, later, Bool.false_or, List.any_cons, List.any_nil, Bool.or_false]
        simpa using fun h => same h.symm

theorem pairwise_lastPerKey {entries : List α} (sorted : entries.Pairwise (key · ≤ key ·)) :
    (lastPerKey key entries).Pairwise (key · < key ·) := by
  induction entries with
  | nil => exact List.Pairwise.nil
  | cons entry rest ih =>
    obtain ⟨below, restSorted⟩ := List.pairwise_cons.mp sorted
    rw [lastPerKey]
    split
    case isTrue => exact ih restSorted
    case isFalse fresh =>
      rw [List.pairwise_cons]
      constructor
      · intro x mem
        have inside := (lastPerKey_sublist rest).subset mem
        apply lt_of_le_of_ne (below x inside)
        intro same
        exact fresh (List.any_eq_true.mpr ⟨x, inside, by simp [same]⟩)
      · exact ih restSorted

/-- It holds, for every key, the last of the entries of that key. -/
theorem find?_lastPerKey (entries : List α) (k : κ) :
    (lastPerKey key entries).find? (key · = k) = (entries.filter (key · = k)).getLast? := by
  induction entries using List.reverseRecOn with
  | nil => rfl
  | append_singleton entries entry ih =>
    rw [lastPerKey_snoc, List.find?_append, List.filter_append]
    by_cases same : key entry = k
    · subst same
      have gone : ((lastPerKey key entries).filter (key · ≠ key entry)).find? (key · = key entry) =
          none := List.find?_eq_none.mpr fun x mem => by simpa using (List.mem_filter.mp mem).2
      rw [gone, Option.none_or, List.filter_cons_of_pos (by simp), List.filter_nil,
        List.getLast?_concat, List.find?_cons_of_pos (by simp)]
    · have keep : ((lastPerKey key entries).filter (key · ≠ key entry)).find? (key · = k) =
          (lastPerKey key entries).find? (key · = k) := by
        rw [List.find?_filter]
        congr 1
        funext x
        by_cases eq : key x = k <;> simp [eq, Ne.symm same]
      rw [keep, ih, List.filter_cons_of_neg (by simp [same]), List.filter_nil, List.append_nil,
        List.find?_cons_of_neg (by simp [same]), List.find?_nil, Option.or_none]

/-- The last entries of each key do not depend on how keys are named. -/
theorem lastPerKey_map {β ι : Type*} [LinearOrder ι] {f : β → α} {name : β → ι} {entries : List β}
    (inj : ∀ x ∈ entries, ∀ y ∈ entries, key (f x) = key (f y) ↔ name x = name y) :
    lastPerKey key (entries.map f) = (lastPerKey name entries).map f := by
  induction entries with
  | nil => rfl
  | cons entry rest ih =>
    have tail := ih fun x mem y mem' => inj x (by simp [mem]) y (by simp [mem'])
    have same : (rest.map f).any (key · = key (f entry)) = rest.any (name · = name entry) := by
      rw [List.any_map, Bool.eq_iff_iff]
      simp only [List.any_eq_true, Function.comp, decide_eq_true_eq]
      apply exists_congr
      intro x
      apply and_congr_right
      intro mem
      exact inj x (by simp [mem]) entry (by simp)
    rw [List.map_cons, lastPerKey, lastPerKey, same, tail]
    split <;> rfl

theorem find?_map {β ι : Type*} [DecidableEq ι] {f : β → α} {name : β → ι} {entries : List β}
    {k : κ} {n : ι} (same : ∀ x ∈ entries, key (f x) = k ↔ name x = n) :
    (entries.map f).find? (key · = k) = (entries.find? (name · = n)).map f := by
  induction entries with
  | nil => rfl
  | cons entry rest ih =>
    have tail := ih fun x mem => same x (by simp [mem])
    rw [List.map_cons, List.find?_cons, List.find?_cons, tail,
      decide_eq_decide.mpr (same entry (by simp))]
    cases decide (name entry = n) <;> rfl

/-! ## Recording -/

/-- Without repeated keys, taking out a key takes out at most one entry. -/
theorem length_filter_ne {entries : List α} (distinct : entries.Pairwise (key · < key ·)) (k : κ) :
    entries.length ≤ (entries.filter (key · ≠ k)).length + 1 := by
  induction entries with
  | nil => simp
  | cons entry rest ih =>
    obtain ⟨above, restDistinct⟩ := List.pairwise_cons.mp distinct
    by_cases same : key entry = k
    · have keep : rest.filter (key · ≠ k) = rest := by
        rw [List.filter_eq_self]
        intro x mem
        simpa [← same] using (above x mem).ne'
      rw [List.filter_cons_of_neg (by simp [same]), keep, List.length_cons]
    · have := ih restDistinct
      rw [List.filter_cons_of_pos (by simp [same]), List.length_cons, List.length_cons]
      omega

/-- Pruning before an entry is recorded makes no difference afterwards. -/
theorem record_prune {limit : Nat} {entries : List α} {entry : α}
    (distinct : entries.Pairwise (key · < key ·)) (last : ∀ x ∈ entries, key x ≤ key entry) :
    record key limit (prune limit entries) entry =
      prune limit (entries.filter (key · ≠ key entry) ++ [entry]) := by
  have kept := distinct.sublist (prune_suffix limit entries).sublist
  rw [record, upsert_of_le (kept.imp le_of_lt) fun x mem => last x (mem_of_mem_prune mem)]
  have suffix := (prune_suffix limit entries).filter (key · ≠ key entry)
  refine prune_unique ((prune_suffix limit _).trans ?_) ?_
  · obtain ⟨dropped, split⟩ := suffix
    exact ⟨dropped, by rw [← List.append_assoc, split]⟩
  · have short := length_filter_ne kept (key entry)
    have shorter := suffix.length_le
    by_cases all : entries.length ≤ limit
    · rw [prune_of_le all, length_prune]
    · simp only [length_prune, List.length_append, List.length_singleton] at short shorter ⊢
      omega

/-- A history recorded entry by entry, with non-decreasing keys. -/
theorem foldl_record {limit : Nat} {entries : List α} (sorted : entries.Pairwise (key · ≤ key ·)) :
    entries.foldl (record key limit) [] = prune limit (lastPerKey key entries) := by
  induction entries using List.reverseRecOn with
  | nil => exact (prune_of_le (Nat.zero_le _)).symm
  | append_singleton entries entry ih =>
    obtain ⟨before, -, last⟩ := List.pairwise_append.mp sorted
    rw [List.foldl_append, List.foldl_cons, List.foldl_nil, ih before, lastPerKey_snoc]
    apply record_prune (pairwise_lastPerKey before)
    intro x mem
    exact last x ((lastPerKey_sublist entries).subset mem) entry (by simp)

/-- A key with fewer than `limit` later ones is still found. -/
theorem find?_prune {limit : Nat} {entries : List α} {k : κ}
    (sorted : entries.Pairwise (key · < key ·))
    (few : (entries.filter (k < key ·)).length < limit) :
    (prune limit entries).find? (key · = k) = entries.find? (key · = k) := by
  obtain ⟨dropped, split⟩ := prune_suffix limit entries
  rw [← split] at sorted
  have gone : dropped.find? (key · = k) = none := by
    rw [List.find?_eq_none]
    intro x mem same
    have later : (prune limit entries).filter (k < key ·) = prune limit entries := by
      rw [List.filter_eq_self]
      intro y mem'
      rw [← of_decide_eq_true same]
      exact decide_eq_true ((List.pairwise_append.mp sorted).2.2 x mem y mem')
    have fewer := ((prune_suffix limit entries).filter (k < key ·)).length_le
    have short := List.length_pos_of_mem mem
    have total := congrArg List.length split
    rw [later] at fewer
    simp only [length_prune, List.length_append] at fewer total
    omega
  rw [← split, List.find?_append, gone, Option.none_or, split]

/-- In a sorted history an entry alone among its key is followed by the entries with a
later key. -/
theorem sorted_split {entries : List α} {entry : α} (sorted : entries.Pairwise (key · ≤ key ·))
    (mem : entry ∈ entries) (once : (entries.filter (key · = key entry)).length = 1) :
    ∃ before after, entries = before ++ entry :: after ∧ (∀ x ∈ after, key entry < key x) ∧
      after.length = (entries.filter (key entry < key ·)).length := by
  obtain ⟨before, after, rfl⟩ := List.append_of_mem mem
  obtain ⟨-, rest, le⟩ := List.pairwise_append.mp sorted
  rw [List.filter_append, List.filter_cons_of_pos (by simp), List.length_append,
    List.length_cons] at once
  have later : ∀ x ∈ after, key entry < key x := by
    intro x mem
    apply lt_of_le_of_ne ((List.pairwise_cons.mp rest).1 x mem)
    intro same
    have inside : x ∈ after.filter (key · = key entry) :=
      List.mem_filter.mpr ⟨mem, decide_eq_true same.symm⟩
    have := List.length_pos_of_mem inside
    omega
  refine ⟨before, after, rfl, later, ?_⟩
  rw [List.filter_append, List.filter_cons_of_neg (by simp),
    List.filter_eq_nil_iff.mpr fun x mem => by simpa using le x mem entry (by simp),
    List.filter_eq_self.mpr fun x mem => decide_eq_true (later x mem), List.nil_append]

/-- An entry alone among its key is kept iff fewer than `limit` entries have a later key. -/
theorem mem_prune_sorted {limit : Nat} {entries : List α} {entry : α}
    (sorted : entries.Pairwise (key · ≤ key ·)) (mem : entry ∈ entries)
    (once : (entries.filter (key · = key entry)).length = 1) :
    entry ∈ prune limit entries ↔ (entries.filter (key entry < key ·)).length < limit := by
  obtain ⟨before, after, split, later, length⟩ := sorted_split sorted mem once
  rw [← length, split, mem_prune_append_cons fun mem => (later entry mem).false]

theorem sorted_upsert (key : α → κ) (entries : List α) (entry : α) :
    (upsert key entries entry).Pairwise (key · ≤ key ·) :=
  List.pairwise_insertionSort (key · ≤ key ·) _

theorem perm_upsert (key : α → κ) (entries : List α) (entry : α) :
    (upsert key entries entry).Perm (entries.filter (key · ≠ key entry) ++ [entry]) :=
  List.perm_insertionSort (key · ≤ key ·) _

/-- After an upsert the entry stands alone among its key: as many entries follow it as
had a later key, and they are the same ones. -/
theorem upsert_split (key : α → κ) (entries : List α) (entry : α) : ∃ before after,
    upsert key entries entry = before ++ entry :: after ∧ (∀ x ∈ after, key entry < key x) ∧
      after.length = (entries.filter (key entry < key ·)).length := by
  have perm := perm_upsert key entries entry
  have once := (perm.filter (key · = key entry)).length_eq
  have count := (perm.filter (key entry < key ·)).length_eq
  have gone : (entries.filter (key · ≠ key entry)).filter (key · = key entry) = [] :=
    List.filter_eq_nil_iff.mpr fun x mem => by simpa using (List.mem_filter.mp mem).2
  have same : (entries.filter (key · ≠ key entry)).filter (key entry < key ·) =
      entries.filter (key entry < key ·) := by
    rw [List.filter_filter]
    apply List.filter_congr
    intro x _
    by_cases lt : key entry < key x
    · simp [lt, lt.ne']
    · simp [lt]
  rw [List.filter_append, gone, List.filter_cons_of_pos (by simp)] at once
  rw [List.filter_append, same, List.filter_cons_of_neg (by simp), List.filter_nil,
    List.append_nil] at count
  obtain ⟨before, after, split, later, length⟩ :=
    sorted_split (sorted_upsert key entries entry) (mem_upsert.mpr (.inr rfl)) once
  exact ⟨before, after, split, later, length.trans count⟩

/-- The entry just recorded is kept iff fewer than `limit` entries have a later key. -/
theorem mem_record {limit : Nat} {entries : List α} {entry : α} :
    entry ∈ record key limit entries entry ↔
      (entries.filter (key entry < key ·)).length < limit := by
  obtain ⟨before, after, split, later, length⟩ := upsert_split key entries entry
  rw [record, split, mem_prune_append_cons fun mem => (later entry mem).false, length]

/-- A history with nothing under other keys is no longer than the empty one once an entry is
recorded, and only such a history. -/
theorem length_record_eq_iff {limit : Nat} (two : 2 ≤ limit) {entries : List α} {entry : α} :
    (record key limit [] entry).length = (record key limit entries entry).length ↔
      ∀ x ∈ entries, key x = key entry := by
  constructor
  · intro lengths x mem
    by_contra other
    have kept : x ∈ entries.filter (key · ≠ key entry) :=
      List.mem_filter.mpr ⟨mem, decide_eq_true other⟩
    have inside := List.length_pos_of_mem kept
    simp only [record, length_prune, length_upsert, List.filter_nil, List.length_nil] at lengths
    omega
  · intro all
    have gone : entries.filter (key · ≠ key entry) = [] :=
      List.filter_eq_nil_iff.mpr fun x mem => by simpa using all x mem
    rw [record, record, upsert, upsert, gone, List.filter_nil]

/-- Recording over the empty history and over another one give the same only if the other
one has nothing under other keys. -/
theorem record_eq_record_nil {limit : Nat} (two : 2 ≤ limit) {entries : List α} {entry : α} :
    record key limit [] entry = record key limit entries entry ↔
      ∀ x ∈ entries, key x = key entry := by
  constructor
  · intro same
    exact (length_record_eq_iff two).mp (congrArg List.length same)
  · intro all
    have gone : entries.filter (key · ≠ key entry) = [] :=
      List.filter_eq_nil_iff.mpr fun x mem => by simpa using all x mem
    rw [record, record, upsert, upsert, gone, List.filter_nil]

theorem record_ne_nil {limit : Nat} (one : 1 ≤ limit) {entries : List α} {entry : α} :
    record key limit entries entry ≠ [] := by
  intro empty
  have length := congrArg List.length empty
  simp only [record, length_prune, length_upsert, List.length_nil] at length
  omega

theorem mem_of_mem_record {limit : Nat} {entries : List α} {entry x : α}
    (mem : x ∈ record key limit entries entry) : x ∈ entries ∨ x = entry :=
  (mem_upsert.mp (mem_of_mem_prune mem)).imp (·.1) id

/-! ## Where an entry goes -/

/-- What a stable sort puts behind an entry that stands between two lists. -/
def behind (key : α → κ) (before : List α) (entry : α) (after : List α) : List α :=
  before.filter (key entry < key ·) ++ after.filter (key entry ≤ key ·)

theorem orderedInsert_before {first entry : α} (le : key first ≤ key entry) (lower upper : List α) :
    ∃ lower', (lower ++ entry :: upper).orderedInsert (key · ≤ key ·) first = lower' ++ entry :: upper := by
  induction lower with
  | nil =>
    refine ⟨[first], ?_⟩
    rw [List.nil_append, List.orderedInsert_cons, if_pos le]
    rfl
  | cons head lower ih =>
    obtain ⟨lower', inserted⟩ := ih
    rw [List.cons_append, List.orderedInsert_cons]
    split
    · exact ⟨first :: head :: lower, rfl⟩
    · exact ⟨head :: lower', by rw [inserted, List.cons_append]⟩

theorem orderedInsert_after {first entry : α} {lower upper : List α}
    (sorted : (lower ++ entry :: upper).Pairwise (key · ≤ key ·)) (lt : key entry < key first) :
    (lower ++ entry :: upper).orderedInsert (key · ≤ key ·) first =
      lower ++ entry :: upper.orderedInsert (key · ≤ key ·) first := by
  induction lower with
  | nil => rw [List.nil_append, List.orderedInsert_cons, if_neg lt.not_ge, List.nil_append]
  | cons head lower ih =>
    obtain ⟨above, restSorted⟩ := List.pairwise_cons.mp sorted
    have le := above entry (by simp)
    rw [List.cons_append, List.orderedInsert_cons, if_neg (le.trans_lt lt).not_ge, ih restSorted,
      List.cons_append]

/-- In a sorted list an entry goes in front of the first one that is not below it. -/
theorem orderedInsert_split {entries : List α} (sorted : entries.Pairwise (key · ≤ key ·)) (entry : α) :
    ∃ lower, entries.orderedInsert (key · ≤ key ·) entry =
      lower ++ entry :: entries.filter (key entry ≤ key ·) := by
  induction entries with
  | nil => exact ⟨[], rfl⟩
  | cons head rest ih =>
    obtain ⟨above, restSorted⟩ := List.pairwise_cons.mp sorted
    obtain ⟨lower, inserted⟩ := ih restSorted
    rw [List.orderedInsert_cons]
    by_cases le : key entry ≤ key head
    · have all : (head :: rest).filter (key entry ≤ key ·) = head :: rest := by
        rw [List.filter_eq_self]
        intro x mem
        rcases List.mem_cons.mp mem with rfl | mem
        · exact decide_eq_true le
        · exact decide_eq_true (le.trans (above x mem))
      rw [if_pos le, all]
      exact ⟨[], rfl⟩
    · rw [if_neg le, inserted, List.filter_cons_of_neg (by simpa using le)]
      exact ⟨head :: lower, rfl⟩

theorem insertionSort_split (key : α → κ) (before : List α) (entry : α) (after : List α) :
    ∃ lower upper, (before ++ entry :: after).insertionSort (key · ≤ key ·) = lower ++ entry :: upper ∧
      upper.Perm (behind key before entry after) := by
  induction before with
  | nil =>
    obtain ⟨lower, inserted⟩ := orderedInsert_split
      (List.pairwise_insertionSort (key · ≤ key ·) after) entry
    refine ⟨lower, _, inserted, ?_⟩
    exact (List.perm_insertionSort (key · ≤ key ·) after).filter _
  | cons first before ih =>
    obtain ⟨lower, upper, split, perm⟩ := ih
    rw [List.cons_append, List.insertionSort_cons, split]
    rcases le_or_gt (key first) (key entry) with le | lt
    · obtain ⟨lower', inserted⟩ := orderedInsert_before le lower upper
      refine ⟨lower', upper, inserted, perm.trans ?_⟩
      rw [behind, behind, List.filter_cons_of_neg (by simpa using le)]
    · have sorted := List.pairwise_insertionSort (key · ≤ key ·) (before ++ entry :: after)
      rw [split] at sorted
      refine ⟨lower, _, orderedInsert_after sorted lt, ?_⟩
      rw [behind, List.filter_cons_of_pos (by simpa using lt), List.cons_append]
      exact (List.perm_orderedInsert (key · ≤ key ·) first upper).trans (perm.cons first)

/-- A stored entry is kept, at one of its places, when another one is recorded: it is of another
key, and fewer than `limit` entries are then behind it. -/
def Outlasts (key : α → κ) (limit : Nat) (entries : List α) (entry x : α) : Prop :=
  ∃ before after, entries = before ++ x :: after ∧ key x ≠ key entry ∧
    (behind key (before.filter (key · ≠ key entry)) x
      (after.filter (key · ≠ key entry) ++ [entry])).length < limit

theorem mem_record_iff {limit : Nat} {entries : List α} {entry x : α} (other : key x ≠ key entry) :
    x ∈ record key limit entries entry ↔ Outlasts key limit entries entry x := by
  have place (before after : List α) : ∃ lower upper,
      upsert key (before ++ x :: after) entry = lower ++ x :: upper ∧
        upper.Perm (behind key (before.filter (key · ≠ key entry)) x
          (after.filter (key · ≠ key entry) ++ [entry])) := by
    rw [upsert, List.filter_append, List.filter_cons_of_pos (by simpa using other), List.append_assoc,
      List.cons_append]
    exact insertionSort_split key _ x _
  constructor
  · intro mem
    have stored := (mem_of_mem_record mem).resolve_right fun same => other (congrArg key same)
    -- the last of its places is the one with the fewest entries behind it
    obtain ⟨after, before, reversed, fresh⟩ := List.eq_append_cons_of_mem (List.mem_reverse.mpr stored)
    have split : entries = before.reverse ++ x :: after.reverse := by
      rw [← List.reverse_reverse entries, reversed]
      simp
    refine ⟨_, _, split, other, ?_⟩
    obtain ⟨lower, upper, sorted, perm⟩ := place before.reverse after.reverse
    rw [← perm.length_eq]
    rw [split, record, sorted] at mem
    refine (mem_prune_append_cons ?_).mp mem
    intro inside
    have := perm.subset inside
    simp only [behind, List.mem_append, List.mem_filter, List.mem_reverse, List.mem_singleton,
      decide_eq_true_eq] at this
    rcases this with ⟨-, lt⟩ | ⟨⟨again, -⟩ | rfl, -⟩
    · exact lt.false
    · exact fresh again
    · exact other rfl
  · rintro ⟨before, after, rfl, -, few⟩
    obtain ⟨lower, upper, sorted, perm⟩ := place before after
    rw [← perm.length_eq] at few
    have long : (x :: upper).length ≤ (record key limit (before ++ x :: after) entry).length := by
      rw [record, sorted, length_prune, List.length_append, List.length_cons]
      omega
    have suffix : x :: upper <:+ record key limit (before ++ x :: after) entry := by
      refine List.suffix_of_suffix_length_le ?_ (prune_suffix limit _) long
      rw [sorted]
      exact List.suffix_append lower (x :: upper)
    exact suffix.subset List.mem_cons_self

/-- What is recorded does not depend on what else the entries hold. -/
theorem record_map {β : Type*} {name : β → κ} {f : α → β} (same : ∀ x, name (f x) = key x) (limit : Nat)
    (entries : List α) (entry : α) :
    record name limit (entries.map f) (f entry) = (record key limit entries entry).map f := by
  have kept : (entries.map f).filter (name · ≠ name (f entry)) =
      (entries.filter (key · ≠ key entry)).map f := by
    rw [List.filter_map]
    congr 1
    apply List.filter_congr
    intro x _
    simp only [Function.comp, same]
  rw [record, record, ← prune_map, upsert, upsert, kept]
  congr 1
  rw [List.map_insertionSort (r := fun a b => key a ≤ key b) (s := fun a b => name a ≤ name b),
    List.map_append, List.map_singleton]
  intro a _ b _
  rw [same, same]

/-! ## Recording under fresh keys -/

/-- A key that a sorted history does not have splits it. -/
theorem exists_split {entries : List α} {entry : α} (sorted : entries.Pairwise (key · ≤ key ·))
    (fresh : ∀ x ∈ entries, key x ≠ key entry) : ∃ lower upper, entries = lower ++ upper ∧
      (∀ x ∈ lower, key x < key entry) ∧ ∀ x ∈ upper, key entry < key x := by
  induction entries with
  | nil => exact ⟨[], [], rfl, by simp, by simp⟩
  | cons first rest ih =>
    obtain ⟨above, restSorted⟩ := List.pairwise_cons.mp sorted
    rcases lt_or_gt_of_ne (fresh first (by simp)) with lt | gt
    · obtain ⟨lower, upper, rfl, below, later⟩ :=
        ih restSorted fun x mem => fresh x (List.mem_cons_of_mem _ mem)
      refine ⟨first :: lower, upper, rfl, ?_, later⟩
      intro x mem
      rcases List.mem_cons.mp mem with rfl | mem
      · exact lt
      · exact below x mem
    · refine ⟨[], first :: rest, rfl, by simp, ?_⟩
      intro x mem
      rcases List.mem_cons.mp mem with rfl | mem
      · exact gt
      · exact gt.trans_le (above x mem)

theorem upsert_between {lower upper : List α} {entry : α}
    (sorted : (lower ++ upper).Pairwise (key · ≤ key ·)) (below : ∀ x ∈ lower, key x < key entry)
    (above : ∀ x ∈ upper, key entry < key x) :
    upsert key (lower ++ upper) entry = lower ++ entry :: upper := by
  have keep : (lower ++ upper).filter (key · ≠ key entry) = lower ++ upper := by
    rw [List.filter_eq_self]
    intro x mem
    rcases List.mem_append.mp mem with mem | mem
    · simpa using (below x mem).ne
    · simpa using (above x mem).ne'
  rw [upsert, keep]
  clear keep
  induction lower with
  | nil =>
    rw [List.nil_append, List.nil_append]
    induction upper with
    | nil => rfl
    | cons first rest ih =>
      obtain ⟨later, restSorted⟩ := List.pairwise_cons.mp sorted
      have place := List.insertionSort_cons_of_forall_rel (key · ≤ key ·) later
      rw [List.insertionSort_cons, List.Pairwise.insertionSort_eq restSorted] at place
      rw [List.cons_append, List.insertionSort_cons,
        ih (fun x mem => above x (List.mem_cons_of_mem _ mem)) restSorted,
        List.orderedInsert_cons, if_neg (above first (by simp)).not_ge, place]
  | cons first rest ih =>
    obtain ⟨later, restSorted⟩ := List.pairwise_cons.mp sorted
    rw [List.cons_append, List.cons_append, List.insertionSort_cons_of_forall_rel,
      ih restSorted fun x mem => below x (List.mem_cons_of_mem _ mem)]
    · rfl
    · intro x mem
      rcases List.mem_append.mp mem with mem | mem
      · exact later x mem
      · rw [List.mem_singleton.mp mem]
        exact (below first (by simp)).le

/-- Pruning before an entry with a fresh key is recorded makes no difference afterwards. -/
theorem record_prune_of_fresh {limit : Nat} {entries : List α} {entry : α}
    (sorted : entries.Pairwise (key · ≤ key ·)) (fresh : ∀ x ∈ entries, key x ≠ key entry) :
    record key limit (prune limit entries) entry = prune limit (upsert key entries entry) := by
  obtain ⟨lower, upper, rfl, below, above⟩ := exists_split sorted fresh
  obtain ⟨dropped, split⟩ := prune_suffix limit (lower ++ upper)
  have kept := sorted.sublist (prune_suffix limit (lower ++ upper)).sublist
  have length : (prune limit (lower ++ upper)).length = min limit _ := length_prune
  have total := congrArg List.length split
  generalize prune limit (lower ++ upper) = last at split kept length total ⊢
  rw [upsert_between sorted below above, record]
  simp only [List.length_append] at length total
  rcases List.append_eq_append_iff.mp split with ⟨rest, rfl, rfl⟩ | ⟨rest, rfl, rfl⟩
  · -- the entry goes among those kept
    rw [upsert_between kept (fun x mem => below x (List.mem_append_right _ mem)) above]
    refine prune_unique ((prune_suffix limit _).trans ⟨dropped, by simp⟩) ?_
    simp only [length_prune, List.length_append, List.length_cons] at length total ⊢
    omega
  · -- it goes below them
    have first := @upsert_between _ _ _ key [] last entry kept (by simp)
      fun x mem => above x (List.mem_append_right _ mem)
    rw [List.nil_append, List.nil_append] at first
    rw [first]
    cases rest with
    | nil =>
      refine prune_unique ((prune_suffix limit _).trans ⟨lower, by simp⟩) ?_
      simp only [length_prune, List.length_append, List.length_cons, List.length_nil] at length total ⊢
      omega
    | cons next rest =>
      simp only [List.length_append, List.length_cons] at length total
      have full : prune limit (entry :: last) = last := by
        rw [prune_eq_drop, List.length_cons, show last.length + 1 - limit = 1 by omega]
        rfl
      rw [full]
      refine prune_unique ⟨lower ++ entry :: next :: rest, by simp⟩ ?_
      simp only [List.length_append, List.length_cons]
      omega

variable {limit : Nat} {init entries : List α}

theorem perm_foldl_upsert (fresh : Fresh key init entries) :
    (entries.foldl (upsert key) init).Perm (init ++ entries) := by
  induction entries using List.reverseRecOn with
  | nil => simp
  | append_singleton entries entry ih =>
    have before := ih fresh.before
    rw [List.foldl_append, List.foldl_cons, List.foldl_nil, ← List.append_assoc]
    refine (perm_upsert key _ entry).trans (List.Perm.append_right _ ?_)
    rwa [List.filter_eq_self.mpr]
    intro x mem
    simpa using fresh.last x (before.mem_iff.mp mem)

theorem sorted_foldl_upsert (key : α → κ) (init : List α) {entries : List α} (some_ : entries ≠ []) :
    (entries.foldl (upsert key) init).Pairwise (key · ≤ key ·) := by
  obtain rfl | ⟨front, last, rfl⟩ := entries.eq_nil_or_concat
  · exact absurd rfl some_
  · rw [List.concat_eq_append, List.foldl_append, List.foldl_cons, List.foldl_nil]
    exact sorted_upsert key _ last

/-- Of a history that takes in entries of fresh keys, pruning at every step loses nothing
over pruning at the end, in whatever order the keys come. -/
theorem foldl_record_of_fresh (fresh : Fresh key init entries) (some_ : entries ≠ []) :
    entries.foldl (record key limit) init = prune limit (entries.foldl (upsert key) init) := by
  induction entries using List.reverseRecOn with
  | nil => exact absurd rfl some_
  | append_singleton entries entry ih =>
    rw [List.foldl_append, List.foldl_append, List.foldl_cons, List.foldl_nil, List.foldl_cons,
      List.foldl_nil]
    by_cases empty : entries = []
    · subst empty
      rfl
    · rw [ih fresh.before empty]
      apply record_prune_of_fresh (sorted_foldl_upsert key init empty)
      · intro x mem
        exact fresh.last x ((perm_foldl_upsert fresh.before).mem_iff.mp mem)

/-- An entry taken in is kept iff fewer than `limit` of all entries have a later key. -/
theorem mem_foldl_record (fresh : Fresh key init entries) {entry : α} (mem : entry ∈ entries) :
    entry ∈ entries.foldl (record key limit) init ↔
      ((init ++ entries).filter (key entry < key ·)).length < limit := by
  have perm := perm_foldl_upsert fresh
  obtain ⟨before, after, rfl⟩ := List.append_of_mem mem
  obtain ⟨-, later, earlier⟩ := List.pairwise_append.mp fresh.distinct
  have sorted := sorted_foldl_upsert key init
    (List.append_ne_nil_of_right_ne_nil before (List.cons_ne_nil entry after))
  rw [foldl_record_of_fresh fresh (by simp), ← (perm.filter (key entry < key ·)).length_eq]
  apply mem_prune_sorted sorted (perm.mem_iff.mpr (by simp))
  rw [(perm.filter (key · = key entry)).length_eq, List.filter_append, List.filter_append,
    List.filter_cons_of_pos (by simp), List.filter_eq_nil_iff.mpr, List.filter_eq_nil_iff.mpr,
    List.filter_eq_nil_iff.mpr]
  · rfl
  · intro x mem
    simpa using fun same => ((List.pairwise_cons.mp later).1 x mem) same.symm
  · intro x mem
    simpa using earlier x mem entry (by simp)
  · intro x mem
    simpa using fresh.new entry (by simp) x mem

/-- The history has no other entry of its key. -/
theorem eq_of_mem_foldl_record (fresh : Fresh key init entries) {entry x : α}
    (mem : entry ∈ entries) (kept : x ∈ entries.foldl (record key limit) init)
    (same : key x = key entry) : x = entry := by
  rw [foldl_record_of_fresh fresh (List.ne_nil_of_mem mem)] at kept
  have inside := (perm_foldl_upsert fresh).mem_iff.mp (mem_of_mem_prune kept)
  rcases List.mem_append.mp inside with old | new
  · exact absurd same (fresh.new entry mem x old)
  · by_contra other
    have symm : Std.Symm (fun a b : α => key a ≠ key b) := ⟨fun _ _ ne => ne.symm⟩
    exact fresh.distinct.forall new mem other same

theorem find?_foldl_record (fresh : Fresh key init entries) {entry : α} (mem : entry ∈ entries)
    (few : ((init ++ entries).filter (key entry < key ·)).length < limit) :
    (entries.foldl (record key limit) init).find? (key · = key entry) = some entry := by
  have kept := (mem_foldl_record fresh mem).mpr few
  obtain ⟨x, found⟩ := Option.isSome_iff_exists.mp
    (List.find?_isSome.mpr ⟨entry, kept, by simp⟩ :
      ((entries.foldl (record key limit) init).find? (key · = key entry)).isSome)
  have same : key x = key entry := by simpa using List.find?_some found
  rw [found, eq_of_mem_foldl_record fresh mem (List.mem_of_find?_eq_some found) same]

end History
