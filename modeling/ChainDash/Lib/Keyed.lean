import Mathlib.Data.List.Basic

/-!
# States updated one key at a time

Every operation belongs to a key and changes what the state shows of that key only. What
a key shows after any sequence of operations is then decided by the operations of that
key alone, in their order, however those of other keys interleave (`view_foldl`).
-/

namespace Keyed
set_option autoImplicit false

variable {σ κ α ε : Type*}

/-- The operation acts on what the state shows of its own key, as `update` says. -/
structure Acts (view : σ → κ → α) (key : ε → κ) (update : α → ε → α) (apply : σ → ε → σ)
    (op : ε) : Prop where
  own : ∀ s, view (apply s op) (key op) = update (view s (key op)) op
  others : ∀ s k, k ≠ key op → view (apply s op) k = view s k

variable [DecidableEq κ] {view : σ → κ → α} {key : ε → κ} {update : α → ε → α} {apply : σ → ε → σ}

/-- What a key shows after a sequence of operations. -/
theorem view_foldl {ops : List ε} (acts : ∀ op ∈ ops, Acts view key update apply op) (s : σ) (k : κ) :
    view (ops.foldl apply s) k = (ops.filter (key · = k)).foldl update (view s k) := by
  induction ops generalizing s with
  | nil => rfl
  | cons op ops ih =>
    have act := acts op (by simp)
    rw [List.foldl_cons, ih fun op mem => acts op (List.mem_cons_of_mem _ mem)]
    by_cases own : key op = k
    · subst own
      rw [List.filter_cons_of_pos (by simp), List.foldl_cons, act.own]
    · rw [List.filter_cons_of_neg (by simpa using own), act.others s k (Ne.symm own)]

end Keyed
