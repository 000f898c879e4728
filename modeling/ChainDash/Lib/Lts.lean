import Mathlib.Data.List.Basic
import Mathlib.Data.List.Induction

/-!
# Guarded step functions and their runs

A component is a function `step : σ → ε → Option σ`: `some` is the state after
the event, `none` says that the event is not enabled. One definition serves the
replay of a concrete trace (`run` computes) and the proofs: `run_invariant` is
the induction over a run, and `run_invariant_of` the same for runs whose steps all meet
a condition.
-/

namespace Lts
set_option autoImplicit false

variable {σ ε : Type*}

/-- Replay the events of a trace, oldest first. -/
def run (step : σ → ε → Option σ) (s : σ) : List ε → Option σ
  | [] => some s
  | e :: t => (step s e).bind fun s' => run step s' t

variable {step : σ → ε → Option σ}

@[simp] theorem run_nil (s : σ) : run step s [] = some s := rfl

theorem run_cons (s : σ) (e : ε) (t : List ε) :
    run step s (e :: t) = (step s e).bind fun s' => run step s' t := rfl

/-- A component that takes every event takes every trace. -/
theorem run_of_total (total : ∀ s e, (step s e).isSome) (s : σ) (t : List ε) :
    ∃ s', run step s t = some s' := by
  induction t generalizing s with
  | nil => exact ⟨s, rfl⟩
  | cons e t ih =>
    obtain ⟨next, stepped⟩ := Option.isSome_iff_exists.mp (total s e)
    rw [run_cons, stepped]
    exact ih next

theorem run_append (s : σ) (t u : List ε) :
    run step s (t ++ u) = (run step s t).bind fun s' => run step s' u := by
  induction t generalizing s with
  | nil => rfl
  | cons e t ih =>
    simp only [List.cons_append, run_cons, Option.bind_assoc]
    congr 1
    funext s'
    exact ih s'

/-- The last event of a run is a step of its own. -/
theorem run_snoc (s : σ) (t : List ε) (e : ε) :
    run step s (t ++ [e]) = (run step s t).bind (step · e) := by
  simp [run_append, run_cons]

theorem run_snoc_split {s s' : σ} {t : List ε} {e : ε} (h : run step s (t ++ [e]) = some s') :
    ∃ m, run step s t = some m ∧ step m e = some s' := by
  rw [run_snoc] at h
  exact Option.bind_eq_some_iff.mp h

/-- Cut off the last entry of a trace that is split around another one. -/
theorem snoc_eq_append_cons {l u v : List ε} {x y : ε} (h : l ++ [x] = u ++ y :: v) :
    (l = u ∧ x = y ∧ v = []) ∨ ∃ v', v = v' ++ [x] ∧ l = u ++ y :: v' := by
  induction v using List.reverseRecOn with
  | nil =>
    obtain ⟨rfl, rfl⟩ := List.append_inj' h rfl |>.imp id (List.cons.inj · |>.1)
    exact .inl ⟨rfl, rfl, rfl⟩
  | append_singleton v' z _ =>
    rw [← List.cons_append, ← List.append_assoc] at h
    obtain ⟨left, right⟩ := List.append_inj' h rfl
    obtain rfl := (List.cons.inj right).1
    exact .inr ⟨v', rfl, left⟩

/-- Two entries of a trace are related when each entry is to all that come before it. -/
theorem pairwise_of_splits {r : ε → ε → Prop} {l : List ε}
    (h : ∀ u x v, l = u ++ x :: v → ∀ y ∈ u, r y x) : l.Pairwise r := by
  induction l using List.reverseRecOn with
  | nil => exact .nil
  | append_singleton l x ih =>
    refine List.pairwise_append.mpr ⟨?_, List.pairwise_singleton _ _, ?_⟩
    · exact ih fun u y v split => h u y (v ++ [x]) (by rw [split]; simp)
    · intro y mem x' last
      rw [List.mem_singleton.mp last]
      exact h l x [] rfl y mem

/-- The induction over a run: what holds at the start, with the empty trace, and is
kept by every step holds after every run. The invariant may speak of the trace. -/
theorem run_invariant {I : List ε → σ → Prop} {s₀ : σ} (init : I [] s₀)
    (keep : ∀ t s e s', I t s → step s e = some s' → I (t ++ [e]) s') :
    ∀ {t : List ε} {s : σ}, run step s₀ t = some s → I t s := by
  intro t
  induction t using List.reverseRecOn with
  | nil =>
    intro s h
    cases h
    exact init
  | append_singleton t e ih =>
    intro s h
    obtain ⟨m, before, last⟩ := run_snoc_split h
    exact keep t m e s (ih before) last

/-- The same induction, where a step may use that its run leads there. -/
theorem run_invariant_reached {I : List ε → σ → Prop} {s₀ : σ} (init : I [] s₀)
    (keep : ∀ t s e s', run step s₀ t = some s → I t s → step s e = some s' → I (t ++ [e]) s') :
    ∀ {t : List ε} {s : σ}, run step s₀ t = some s → I t s := by
  intro t
  induction t using List.reverseRecOn with
  | nil =>
    intro s h
    cases h
    exact init
  | append_singleton t e ih =>
    intro s h
    obtain ⟨m, before, last⟩ := run_snoc_split h
    exact keep t m e s before (ih before) last

/-- The states a run goes through, each with the event taken there. -/
def visited (step : σ → ε → Option σ) (s : σ) : List ε → List (σ × ε)
  | [] => []
  | e :: t => (s, e) :: ((step s e).map fun s' => visited step s' t).getD []

theorem visited_snoc {s m : σ} {t : List ε} (e : ε) (h : run step s t = some m) :
    visited step s (t ++ [e]) = visited step s t ++ [(m, e)] := by
  induction t generalizing s with
  | nil =>
    cases h
    cases stepped : step m e <;> simp [visited, stepped]
  | cons e' t ih =>
    rw [run_cons] at h
    obtain ⟨s', first, rest⟩ := Option.bind_eq_some_iff.mp h
    simp [visited, first, ih rest]

/-- The induction over a run whose steps all meet a condition on the state before
the step and the event. -/
theorem run_invariant_of {ok : σ → ε → Prop} {I : List ε → σ → Prop} {s₀ : σ} (init : I [] s₀)
    (keep : ∀ t s e s', I t s → ok s e → step s e = some s' → I (t ++ [e]) s') :
    ∀ {t : List ε} {s : σ}, run step s₀ t = some s →
      (∀ visit ∈ visited step s₀ t, ok visit.1 visit.2) → I t s := by
  intro t
  induction t using List.reverseRecOn with
  | nil =>
    intro s h _
    cases h
    exact init
  | append_singleton t e ih =>
    intro s h allOk
    obtain ⟨m, before, last⟩ := run_snoc_split h
    rw [visited_snoc e before] at allOk
    refine keep t m e s (ih before ?_) (allOk (m, e) (by simp)) last
    exact fun visit mem => allOk visit (List.mem_append_left _ mem)

/-- A rank that no step adds to and every step of a kind spends: a run has at most as many
of those steps as the rank it starts with. -/
theorem length_filter_le_of_rank (rank : σ → Nat) (own : ε → Bool) {I : σ → Prop}
    (keep : ∀ s e s', I s → step s e = some s' → I s')
    (spend : ∀ s e s', I s → step s e = some s' → rank s' + (own e).toNat ≤ rank s)
    {s s' : σ} {t : List ε} (init : I s) (ran : run step s t = some s') :
    I s' ∧ rank s' + (t.filter own).length ≤ rank s := by
  induction t generalizing s with
  | nil =>
    cases ran
    exact ⟨init, Nat.le_refl _⟩
  | cons e t ih =>
    rw [run_cons] at ran
    obtain ⟨next, stepped, rest⟩ := Option.bind_eq_some_iff.mp ran
    obtain ⟨kept, bound⟩ := ih (keep s e next init stepped) rest
    have spent := spend s e next init stepped
    refine ⟨kept, ?_⟩
    cases counts : own e with
    | true =>
      rw [counts, Bool.toNat_true] at spent
      rw [List.filter_cons_of_pos counts, List.length_cons]
      omega
    | false =>
      rw [counts, Bool.toNat_false] at spent
      rw [List.filter_cons_of_neg (by simp [counts])]
      omega

/-- Where the condition says exactly which steps keep the invariant, it holds in all states of
a sequence of steps exactly when all steps meet the condition. -/
theorem foldl_invariant_iff {apply : σ → ε → σ} {ok : σ → ε → Prop} {I : σ → Prop} {s₀ : σ}
    {t : List ε} (init : I s₀) (exact : ∀ s, ∀ e ∈ t, I s → (I (apply s e) ↔ ok s e)) :
    (∀ u, u <+: t → I (u.foldl apply s₀)) ↔ ∀ u e, u ++ [e] <+: t → ok (u.foldl apply s₀) e := by
  have event : ∀ u e, u ++ [e] <+: t → e ∈ t := fun u e here => here.subset (by simp)
  constructor
  · intro always u e here
    have after := always _ here
    rw [List.foldl_append, List.foldl_cons, List.foldl_nil] at after
    exact (exact _ e (event u e here) (always u ((List.prefix_append u [e]).trans here))).mp after
  · intro allOk u
    induction u using List.reverseRecOn with
    | nil => exact fun _ => init
    | append_singleton u e ih =>
      intro here
      rw [List.foldl_append, List.foldl_cons, List.foldl_nil]
      exact (exact _ e (event u e here) (ih ((List.prefix_append u [e]).trans here))).mpr
        (allOk u e here)

end Lts
