import Mathlib.Data.Set.Insert

/-!
# Dirty flags behind a one-slot wake-up channel

Writers change a source that a consumer shows through views. A writer marks the
views it may have made stale and, in the same critical section, tries to put a
token into a channel with one slot (a full channel drops the token). The
consumer receives a token, takes the marks and refreshes the marked views one
by one; it may also change the source itself and then refresh what it changed.

The state records only what the argument needs: which views are stale, which are
marked, whether a token is pending and where the consumer stands. `Inv` is
preserved by every step (`Inv.step`), so no mark is ever left without a wake-up
and no view is stale once the consumer rests with an empty channel
(`Inv.quiescent`).
-/

namespace DirtyWake
set_option autoImplicit false

variable {ι : Type*}

/-- Where the consumer stands: at rest, holding a token whose marks it has not taken
yet, or with the views in `rest` still to refresh. -/
inductive Phase (ι : Type*) where
  | idle
  | woken
  | refreshing (rest : Set ι)

/-- The views the consumer is committed to refresh. -/
def Phase.pending : Phase ι → Set ι
  | .refreshing rest => rest
  | _ => ∅

@[simp] theorem Phase.pending_idle : (Phase.idle : Phase ι).pending = ∅ := rfl
@[simp] theorem Phase.pending_woken : (Phase.woken : Phase ι).pending = ∅ := rfl
@[simp] theorem Phase.pending_refreshing (rest : Set ι) : (Phase.refreshing rest).pending = rest := rfl

structure State (ι : Type*) where
  stale : Set ι
  dirty : Set ι
  token : Prop
  phase : Phase ι

/-- The steps of writers (`write`) and of the consumer. A take may leave out views
that are not stale; `select` is the consumer's own write. -/
inductive Step (s s' : State ι) : Prop where
  | write (marked : Set ι) (stale : s'.stale ⊆ s.stale ∪ marked) (dirty : s'.dirty = s.dirty ∪ marked)
      (token : s'.dirty.Nonempty → s'.token) (phase : s'.phase = s.phase)
  | receive (rests : s.phase = .idle) (pending : s.token) (stale : s'.stale = s.stale)
      (dirty : s'.dirty = s.dirty) (phase : s'.phase = .woken)
  | take (rest : Set ι) (holds : s.phase = .woken) (cover : s.stale ∩ s.dirty ⊆ rest)
      (stale : s'.stale = s.stale) (dirty : s'.dirty = ∅) (phase : s'.phase = .refreshing rest)
  | refresh (i : ι) (rest : Set ι) (at_ : s.phase = .refreshing (insert i rest))
      (stale : s'.stale ⊆ s.stale \ {i}) (dirty : s'.dirty = s.dirty) (token : s.token → s'.token)
      (phase : s'.phase = .refreshing rest)
  | finish (done : s.phase = .refreshing ∅) (stale : s'.stale = s.stale) (dirty : s'.dirty = s.dirty)
      (token : s.token → s'.token) (phase : s'.phase = .idle)
  | select (rest : Set ι) (rests : s.phase = .idle) (stale : s'.stale ⊆ s.stale ∪ rest)
      (dirty : s'.dirty = s.dirty) (token : s.token → s'.token) (phase : s'.phase = .refreshing rest)

/-- No mark without a wake-up, and no stale view without a mark or a refresh to come. -/
structure Inv (s : State ι) : Prop where
  wake : s.dirty.Nonempty → s.token ∨ s.phase = .woken
  cover : s.stale ⊆ s.dirty ∪ s.phase.pending

/-- Outside `woken`, a mark has its token in the channel. -/
theorem Inv.token_of_dirty {s : State ι} (inv : Inv s) (marks : s.dirty.Nonempty)
    (calm : s.phase ≠ .woken) : s.token :=
  (inv.wake marks).resolve_right calm

theorem Inv.step {s s' : State ι} (inv : Inv s) (moved : Step s s') : Inv s' := by
  cases moved with
  | write marked stale dirty token phase =>
    constructor
    · intro marks
      exact .inl (token marks)
    · intro i isStale
      rw [dirty, phase]
      rcases stale isStale with old | new
      · rcases inv.cover old with mark | pending
        · exact .inl (.inl mark)
        · exact .inr pending
      · exact .inl (.inr new)
  | receive rests pending stale dirty phase =>
    constructor
    · intro _
      exact .inr phase
    · intro i isStale
      rw [stale] at isStale
      rw [dirty]
      simpa [rests, phase] using inv.cover isStale
  | take rest holds cover stale dirty phase =>
    constructor
    · intro marks
      rw [dirty] at marks
      exact absurd rfl marks.ne_empty
    · intro i isStale
      rw [stale] at isStale
      have marked : i ∈ s.dirty := by simpa [holds] using inv.cover isStale
      right
      rw [phase]
      exact cover ⟨isStale, marked⟩
  | refresh i rest at_ stale dirty token phase =>
    constructor
    · intro marks
      rw [dirty] at marks
      exact .inl (token (inv.token_of_dirty marks (by simp [at_])))
    · intro j isStale
      obtain ⟨old, other⟩ := stale isStale
      rw [dirty, phase]
      rcases inv.cover old with mark | pending
      · exact .inl mark
      · rw [at_] at pending
        exact .inr (pending.resolve_left other)
  | finish done stale dirty token phase =>
    constructor
    · intro marks
      rw [dirty] at marks
      exact .inl (token (inv.token_of_dirty marks (by simp [done])))
    · intro i isStale
      rw [stale] at isStale
      rw [dirty]
      simpa [done, phase] using inv.cover isStale
  | select rest rests stale dirty token phase =>
    constructor
    · intro marks
      rw [dirty] at marks
      exact .inl (token (inv.token_of_dirty marks (by simp [rests])))
    · intro i isStale
      rw [dirty, phase]
      rcases stale isStale with old | new
      · exact .inl (by simpa [rests] using inv.cover old)
      · exact .inr new

/-- A consumer at rest before an empty channel shows nothing stale. -/
theorem Inv.quiescent {s : State ι} (inv : Inv s) (rests : s.phase = .idle) (empty : ¬ s.token) :
    s.stale = ∅ := by
  have unmarked : s.dirty = ∅ := by
    by_contra marks
    exact empty (inv.token_of_dirty (Set.nonempty_iff_ne_empty.mpr marks) (by simp [rests]))
  have covered := inv.cover
  rw [unmarked, rests, Phase.pending_idle, Set.union_self] at covered
  exact Set.subset_empty_iff.mp covered

end DirtyWake
