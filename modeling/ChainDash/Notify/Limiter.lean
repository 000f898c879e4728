import Mathlib.Algebra.Order.Group.Nat
import ChainDash.Lib.Mealy
import ChainDash.Notify.State

/-!
# The rate limiter, one key at a time

Any sequence of `allow_delivery` calls at times that do not decrease. The state has one
time for each key, and for each key the limiter is a `Mealy.gate` (`limiter_perKey`); so a
call is refused on account of an allowed call of the same key and of nothing else
(`limiter_exact`).
-/

namespace ChainDash.Notify
set_option autoImplicit false

/-- The arguments of `allow_delivery` that change from call to call. -/
structure DeliveryCall where
  rateLimitKey : String
  now : Nat
  deriving DecidableEq

def DeliveryCall.answer (rateLimit : Nat) (state : NotificationState) (call : DeliveryCall) : Bool :=
  (state.allowDelivery call.rateLimitKey call.now rateLimit).1

def DeliveryCall.step (rateLimit : Nat) (state : NotificationState) (call : DeliveryCall) :
    Option NotificationState :=
  some (state.allowDelivery call.rateLimitKey call.now rateLimit).2

/-- The calls of a sequence with their answers, from the state of a new notifier on. -/
def deliveries (rateLimit : Nat) (calls : List DeliveryCall) : List (DeliveryCall × Bool) :=
  (Lts.visited (DeliveryCall.step rateLimit) {} calls).map fun visit =>
    (visit.2, visit.2.answer rateLimit visit.1)

/-- The sequence without the calls of a key that were refused. -/
def withoutRefused (rateLimit : Nat) (key : String) (calls : List DeliveryCall) : List DeliveryCall :=
  ((deliveries rateLimit calls).filter fun answered =>
    answered.1.rateLimitKey ≠ key || answered.2).map Prod.fst

/-- What the limiter is to do with a sequence of calls. -/
structure LimiterExact (rateLimit : Nat) (calls : List DeliveryCall) : Prop where
  /-- Every call is answered, in order. -/
  answered : (deliveries rateLimit calls).map Prod.fst = calls
  /-- A call is allowed iff no earlier one of its key was allowed less than the limit ago. -/
  exact : ∀ before call allowed after,
    deliveries rateLimit calls = before ++ (call, allowed) :: after →
      (allowed = true ↔ ¬ ∃ earlier, (earlier, true) ∈ before ∧
        earlier.rateLimitKey = call.rateLimitKey ∧ (call.now : Int) - rateLimit < earlier.now)
  /-- Allowed calls of one key are at least the limit apart. -/
  apart : (deliveries rateLimit calls).Pairwise fun a b =>
    a.1.rateLimitKey = b.1.rateLimitKey → a.2 = true → b.2 = true → a.1.now + rateLimit ≤ b.1.now
  /-- Without the calls of all other keys, the answers for a key are the same. -/
  othersDeleted : ∀ key, deliveries rateLimit (calls.filter (·.rateLimitKey = key)) =
    (deliveries rateLimit calls).filter (·.1.rateLimitKey = key)
  /-- Without the refused calls of a key, the remaining answers for it are the same. -/
  refusedDeleted : ∀ key,
    (deliveries rateLimit (withoutRefused rateLimit key calls)).filter (·.1.rateLimitKey = key) =
      (deliveries rateLimit calls).filter fun answered => answered.1.rateLimitKey = key && answered.2

variable {rateLimit : Nat}

theorem visited_calls (state : NotificationState) (calls : List DeliveryCall) :
    (Lts.visited (DeliveryCall.step rateLimit) state calls).map Prod.snd = calls := by
  induction calls generalizing state with
  | nil => rfl
  | cons call calls ih =>
    rw [Lts.visited, List.map_cons, DeliveryCall.step, Option.map_some, Option.getD_some, ih]

theorem deliveries_calls (calls : List DeliveryCall) :
    (deliveries rateLimit calls).map Prod.fst = calls := by
  rw [deliveries, List.map_map]
  exact visited_calls {} calls

/-- For each key the limiter is a gate on the time stored for it. -/
theorem limiter_perKey (limited : 0 < rateLimit) :
    Mealy.PerKey (DeliveryCall.step rateLimit)
      (fun state call => some (call, call.answer rateLimit state))
      (fun call => some (call.rateLimitKey, call)) (fun state key => state.lastSentAt.lookup key)
      (Mealy.gate rateLimit DeliveryCall.now) where
  own state call after key call' stepped own := by
    obtain ⟨rfl, rfl⟩ := Prod.mk.inj (Option.some.inj own)
    obtain rfl := Option.some.inj stepped
    rw [state.allowDelivery_lastSentAt, DeliveryCall.answer]
    have refuses := state.allowDelivery_refuses_iff call.rateLimitKey call.now rateLimit
    by_cases soon : (state.lastSentAt.lookup call.rateLimitKey).any (call.now < · + rateLimit) = true
    · have refused : (state.allowDelivery call.rateLimitKey call.now rateLimit).1 = false := by
        obtain ⟨sent, known, recent⟩ := Option.any_eq_true _ _ |>.mp soon
        exact refuses.mpr ⟨sent, known, by simpa using recent, limited⟩
      rw [Mealy.gate_refuses soon, refused]
      simp
    · have admitted : (state.allowDelivery call.rateLimitKey call.now rateLimit).1 = true := by
        by_contra refused
        obtain ⟨sent, known, recent, -⟩ := refuses.mp (by simpa using refused)
        exact soon (by simp [known, recent])
      rw [Mealy.gate_admits soon, admitted]
      simp [limited.ne']
  others state call after key stepped other := by
    obtain rfl := Option.some.inj stepped
    rw [state.allowDelivery_lastSentAt, if_neg]
    rintro ⟨rfl, -⟩
    exact other rfl

/-- The answers for a key are those of the gate on the calls of the key. -/
theorem deliveries_filter (limited : 0 < rateLimit) (key : String) (calls : List DeliveryCall) :
    (deliveries rateLimit calls).filter (·.1.rateLimitKey = key) =
      Mealy.emitted (Mealy.gate rateLimit DeliveryCall.now) none
        (calls.filter (·.rateLimitKey = key)) := by
  have total : ∀ state call, (DeliveryCall.step rateLimit state call).isSome := fun _ _ => rfl
  obtain ⟨after, run⟩ := Lts.run_of_total total {} calls
  have outputs := (limiter_perKey limited).outputs key run
  simp only at outputs
  rw [Mealy.inputsFor_self] at outputs
  rw [show (none : Option Nat) = (∅ : Dictionary String Nat).lookup key by simp]
  rw [← outputs, deliveries, List.filter_map, ← List.filterMap_eq_map, List.filterMap_filter]
  simp [Mealy.outputsFor]

/-- Calls of one key are answered as the gate answers them. -/
theorem deliveries_own (limited : 0 < rateLimit) {key : String} {calls : List DeliveryCall}
    (own : ∀ call ∈ calls, call.rateLimitKey = key) :
    deliveries rateLimit calls =
      Mealy.emitted (Mealy.gate rateLimit DeliveryCall.now) none calls := by
  have all : (deliveries rateLimit calls).filter (·.1.rateLimitKey = key) =
      deliveries rateLimit calls := by
    apply List.filter_eq_self.mpr
    intro answered mem
    have inside : answered.1 ∈ (deliveries rateLimit calls).map Prod.fst := List.mem_map_of_mem mem
    rw [deliveries_calls] at inside
    simpa using own answered.1 inside
  have same : calls.filter (·.rateLimitKey = key) = calls := by
    apply List.filter_eq_self.mpr
    intro call mem
    simpa using own call mem
  rw [← all, deliveries_filter limited, same]

theorem emitted_split {before after : List (DeliveryCall × Bool)} {call : DeliveryCall}
    {allowed : Bool} {calls : List DeliveryCall} (limited : 0 < rateLimit)
    (split : deliveries rateLimit calls = before ++ (call, allowed) :: after) :
    Mealy.emitted (Mealy.gate rateLimit DeliveryCall.now) none
        (calls.filter (·.rateLimitKey = call.rateLimitKey)) =
      before.filter (·.1.rateLimitKey = call.rateLimitKey) ++ (call, allowed) ::
        after.filter (·.1.rateLimitKey = call.rateLimitKey) := by
  rw [← deliveries_filter limited, split, List.filter_append, List.filter_cons_of_pos (by simp)]

theorem deliveries_exact (limited : 0 < rateLimit) {calls : List DeliveryCall}
    (ordered : calls.Pairwise (·.now ≤ ·.now)) {before after : List (DeliveryCall × Bool)}
    {call : DeliveryCall} {allowed : Bool}
    (split : deliveries rateLimit calls = before ++ (call, allowed) :: after) :
    allowed = true ↔ ∀ earlier, (earlier, true) ∈ before →
      earlier.rateLimitKey = call.rateLimitKey → earlier.now + rateLimit ≤ call.now := by
  rw [Mealy.gate_exact (ordered.sublist List.filter_sublist) (by simp)
    (emitted_split limited split)]
  simp only [Option.not_mem_none, false_imp_iff, implies_true, true_and, List.mem_filter,
    decide_eq_true_eq, and_imp]

theorem withoutRefused_filter (key : String) (calls : List DeliveryCall) :
    (withoutRefused rateLimit key calls).filter (·.rateLimitKey = key) =
      (((deliveries rateLimit calls).filter (·.1.rateLimitKey = key)).filter (·.2)).map Prod.fst := by
  rw [withoutRefused, List.filter_map, List.filter_filter, List.filter_filter]
  congr 1
  apply List.filter_congr
  intro answered _
  by_cases own : answered.1.rateLimitKey = key <;> simp [own]

/-- For every sequence of calls at times that do not decrease, the limiter is exact. -/
theorem limiter_exact (rateLimit : Nat) (limited : 0 < rateLimit) (calls : List DeliveryCall)
    (ordered : calls.Pairwise (·.now ≤ ·.now)) : LimiterExact rateLimit calls where
  answered := deliveries_calls calls
  exact before call allowed after split := by
    rw [deliveries_exact limited ordered split]
    constructor
    · rintro apart ⟨earlier, mem, same, recent⟩
      have := apart earlier mem same
      omega
    · intro none earlier mem same
      by_contra recent
      exact none ⟨earlier, mem, same, by omega⟩
  apart := by
    refine Lts.pairwise_of_splits ?_
    rintro before ⟨call, allowed⟩ after split ⟨earlier, passed⟩ mem same rfl rfl
    exact (deliveries_exact limited ordered split).mp rfl earlier mem same
  othersDeleted key := by
    rw [deliveries_filter limited]
    exact deliveries_own limited fun call mem => by simpa using (List.mem_filter.mp mem).2
  refusedDeleted key := by
    rw [deliveries_filter limited, withoutRefused_filter, deliveries_filter limited,
      Mealy.gate_again, ← deliveries_filter limited, List.filter_filter]
    apply List.filter_congr
    intro answered _
    rw [Bool.and_comm]

/-- Two keys under a limit of ten; the call at the very edge of the window is allowed. -/
theorem limiter_exact_edge : LimiterExact 10 [⟨"a", 0⟩, ⟨"b", 5⟩, ⟨"a", 9⟩, ⟨"a", 10⟩, ⟨"b", 10⟩] :=
  limiter_exact 10 (by decide) _ (by decide)

example : (deliveries 10 [⟨"a", 0⟩, ⟨"b", 5⟩, ⟨"a", 9⟩, ⟨"a", 10⟩, ⟨"b", 10⟩]).map Prod.snd =
    [true, true, false, true, false] := by decide

end ChainDash.Notify
