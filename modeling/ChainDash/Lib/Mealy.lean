import Mathlib.Algebra.Order.Monoid.Defs
import Mathlib.Data.List.Destutter
import Mathlib.Data.List.TakeWhile
import ChainDash.Lib.Lts

/-!
# Machines with output, one cell for each key

A component that keeps one cell for each key and answers an event about a key from that
key's cell is many one-cell machines at once: what it puts out about a key, in any
interleaving with other keys, is what the one-cell machine puts out on that key's events
(`PerKey.outputs`). Three such machines, with the law of what they put out: a limiter
(`gate`), an edge detector (`edge`) and a detector of changed values (`change`).
-/

namespace Mealy
set_option autoImplicit false

variable {σ ε κ ι γ ω : Type*}

/-- What a one-cell machine puts out, given the content of its cell at the start. -/
def emitted (machine : γ → ι → Option ω × γ) (cell : γ) : List ι → List ω
  | [] => []
  | i :: inputs => (machine cell i).1.toList ++ emitted machine (machine cell i).2 inputs

/-- The content of the cell after some inputs. -/
def cellAfter (machine : γ → ι → Option ω × γ) (cell : γ) (inputs : List ι) : γ :=
  inputs.foldl (fun cell i => (machine cell i).2) cell

theorem emitted_snoc (machine : γ → ι → Option ω × γ) (cell : γ) (inputs : List ι) (i : ι) :
    emitted machine cell (inputs ++ [i]) =
      emitted machine cell inputs ++ (machine (cellAfter machine cell inputs) i).1.toList := by
  induction inputs generalizing cell with
  | nil => exact List.append_nil _
  | cons j inputs ih =>
    rw [List.cons_append, emitted, ih, emitted, List.append_assoc]
    rfl

/-- The inputs about one key in a sequence of events. -/
def inputsFor [DecidableEq κ] (input : ε → Option (κ × ι)) (k : κ) (events : List ε) : List ι :=
  ((events.filterMap input).filter (·.1 = k)).map Prod.snd

/-- When every event is an input of its own key. -/
theorem inputsFor_self [DecidableEq κ] (key : ε → κ) (k : κ) (events : List ε) :
    inputsFor (fun e => some (key e, e)) k events = events.filter (key · = k) := by
  induction events with
  | nil => rfl
  | cons e events ih =>
    unfold inputsFor at ih ⊢
    by_cases own : key e = k
    · simpa [own] using ih
    · simpa [own] using ih

/-- What a component puts out about one key in a run. -/
def outputsFor [DecidableEq κ] (step : σ → ε → Option σ) (output : σ → ε → Option ω)
    (input : ε → Option (κ × ι)) (k : κ) (s : σ) (events : List ε) : List ω :=
  (Lts.visited step s events).filterMap fun visit =>
    if (input visit.2).map Prod.fst = some k then output visit.1 visit.2 else none

theorem map_outputsFor {ω' : Type*} [DecidableEq κ] (step : σ → ε → Option σ)
    (output : σ → ε → Option ω) (input : ε → Option (κ × ι)) (f : ω → ω') (k : κ) (s : σ)
    (events : List ε) : (outputsFor step output input k s events).map f =
      outputsFor step (fun s e => (output s e).map f) input k s events := by
  unfold outputsFor
  rw [List.map_filterMap]
  congr 1
  funext visit
  split <;> rfl

/-- An event about a key is answered from, and changes, the cell of that key only. -/
structure PerKey (step : σ → ε → Option σ) (output : σ → ε → Option ω)
    (input : ε → Option (κ × ι)) (cell : σ → κ → γ) (machine : γ → ι → Option ω × γ) : Prop where
  own : ∀ s e s' k i, step s e = some s' → input e = some (k, i) →
    machine (cell s k) i = (output s e, cell s' k)
  others : ∀ s e s' k, step s e = some s' → (input e).map Prod.fst ≠ some k → cell s' k = cell s k

/-- What is put out about a key is what the machine of its cell puts out. -/
theorem PerKey.outputs [DecidableEq κ] {step : σ → ε → Option σ} {output : σ → ε → Option ω}
    {input : ε → Option (κ × ι)} {cell : σ → κ → γ} {machine : γ → ι → Option ω × γ}
    (split : PerKey step output input cell machine) (k : κ) {s s' : σ} {events : List ε}
    (run : Lts.run step s events = some s') :
    outputsFor step output input k s events =
      emitted machine (cell s k) (inputsFor input k events) := by
  induction events generalizing s with
  | nil => rfl
  | cons e events ih =>
    rw [Lts.run_cons] at run
    obtain ⟨next, stepped, rest⟩ := Option.bind_eq_some_iff.mp run
    have tail := ih rest
    unfold outputsFor inputsFor at tail ⊢
    rw [Lts.visited, stepped, Option.map_some, Option.getD_some]
    by_cases about : (input e).map Prod.fst = some k
    · obtain ⟨⟨_, i⟩, carries, rfl⟩ := Option.map_eq_some_iff.mp about
      rw [List.filterMap_cons_some carries, List.filter_cons_of_pos (by simp), List.map_cons,
        emitted, split.own s e next _ i stepped carries, ← tail]
      cases put : output s e <;> simp [carries, put]
    · rw [List.filterMap_cons_none (by simp [about]), tail, split.others s e next k stepped about]
      congr 1
      cases carries : input e with
      | none => rw [List.filterMap_cons_none carries]
      | some keyed =>
        rw [List.filterMap_cons_some carries, List.filter_cons_of_neg]
        simpa [carries] using about

/-! ## The limiter -/

section Gate

variable {τ : Type*} [LinearOrder τ] [Add τ]

/-- Refuse what comes less than `window` after the last event let through. -/
def gate (window : τ) (time : ε → τ) (last : Option τ) (e : ε) : Option (ε × Bool) × Option τ :=
  if last.any (time e < · + window) then (some (e, false), last)
  else (some (e, true), some (time e))

variable {window : τ} {time : ε → τ}

theorem gate_refuses {last : Option τ} {e : ε} (soon : last.any (time e < · + window) = true) :
    gate window time last e = (some (e, false), last) := by
  rw [gate, if_pos soon]

theorem gate_admits {last : Option τ} {e : ε} (due : ¬ last.any (time e < · + window) = true) :
    gate window time last e = (some (e, true), some (time e)) := by
  rw [gate, if_neg due]

theorem not_soon {last : Option τ} {now : τ} :
    ¬ last.any (now < · + window) = true ↔ ∀ sent ∈ last, sent + window ≤ now := by
  cases last <;> simp

/-- An event is let through exactly when it lies at least `window` after every event let
through before it. -/
theorem gate_exact [AddRightMono τ] {last : Option τ} {events : List ε}
    (ordered : events.Pairwise (time · ≤ time ·))
    (since : ∀ sent ∈ last, ∀ e ∈ events, sent ≤ time e)
    {before after : List (ε × Bool)} {e : ε} {passed : Bool}
    (split : emitted (gate window time) last events = before ++ (e, passed) :: after) :
    passed = true ↔ (∀ sent ∈ last, sent + window ≤ time e) ∧
      ∀ earlier, (earlier, true) ∈ before → time earlier + window ≤ time e := by
  induction events generalizing last before with
  | nil => simp [emitted] at split
  | cons first events ih =>
    obtain ⟨later, ordered⟩ := List.pairwise_cons.mp ordered
    by_cases soon : last.any (time first < · + window) = true
    · rw [emitted, gate_refuses soon, Option.toList_some, List.singleton_append] at split
      rcases List.cons_eq_append_iff.mp split with ⟨rfl, head⟩ | ⟨rest, rfl, tail⟩
      · cases head
        constructor
        · intro refused
          cases refused
        · rintro ⟨due, -⟩
          exact absurd soon (not_soon.mpr due)
      · rw [ih ordered (fun sent known e' mem => since sent known e' (.tail _ mem)) tail]
        simp
    · rw [emitted, gate_admits soon, Option.toList_some, List.singleton_append] at split
      rcases List.cons_eq_append_iff.mp split with ⟨rfl, head⟩ | ⟨rest, rfl, tail⟩
      · cases head
        simpa using not_soon.mp soon
      · rw [ih ordered (fun sent known e' mem => Option.mem_some.mp known ▸ later e' mem) tail]
        -- what was sent before the first event is at least as long ago
        have older : time first + window ≤ time e →
            ∀ sent ∈ last, sent + window ≤ time e := fun due sent known =>
          (add_le_add_left (since sent known first (.head _)) window).trans due
        simp only [Option.mem_some_iff, forall_eq', List.mem_cons, Prod.mk.injEq, and_true]
        constructor
        · rintro ⟨due, rest⟩
          refine ⟨older due, ?_⟩
          rintro earlier (rfl | mem)
          · exact due
          · exact rest earlier mem
        · rintro ⟨-, rest⟩
          exact ⟨rest first (.inl rfl), fun earlier mem => rest earlier (.inr mem)⟩

/-- Without the events it refused, a limiter lets the same events through. -/
theorem gate_again (last : Option τ) (events : List ε) :
    emitted (gate window time) last
        (((emitted (gate window time) last events).filter (·.2)).map Prod.fst) =
      (emitted (gate window time) last events).filter (·.2) := by
  induction events generalizing last with
  | nil => rfl
  | cons first events ih =>
    by_cases soon : last.any (time first < · + window) = true
    · simpa [emitted, gate_refuses soon] using ih last
    · simpa [emitted, gate_admits soon] using ih (some (time first))

end Gate

/-! ## The edge detector -/

section Edge

/-- Put an event out when its kind differs from that of the last one. -/
def edge (kind : ε → Bool) (last : Bool) (e : ε) : Option ε × Bool :=
  (if kind e = last then none else some e, kind e)

variable (kind : ε → Bool)

theorem destutter'_eq_edges (first : ε) (events : List ε) :
    events.destutter' (kind · ≠ kind ·) first = first :: emitted (edge kind) (kind first) events := by
  induction events generalizing first with
  | nil => rfl
  | cons e events ih =>
    rw [List.destutter'_cons, emitted]
    by_cases same : kind first = kind e
    · rw [if_neg (not_not.mpr same), ih, edge, if_pos same.symm, same]
      rfl
    · rw [if_pos same, ih, edge, if_neg (Ne.symm same)]
      rfl

/-- From `false` on: the events of kind `false` before the first other one are dropped, and
every run of events of one kind is collapsed to its first. -/
theorem edges_eq_destutter (events : List ε) :
    emitted (edge kind) false events =
      (events.dropWhile (!kind ·)).destutter (kind · ≠ kind ·) := by
  induction events with
  | nil => rfl
  | cons e events ih =>
    cases high : kind e with
    | true =>
      rw [List.dropWhile_cons_of_neg (by simp [high]), List.destutter_cons', destutter'_eq_edges,
        emitted, edge, high]
      rfl
    | false =>
      rw [List.dropWhile_cons_of_pos (by simp [high]), ← ih, emitted, edge, high]
      rfl

theorem getD_map_getLast?_cons (last : Bool) (e : ε) (events : List ε) :
    ((e :: events).getLast?.map kind).getD last = (events.getLast?.map kind).getD (kind e) := by
  rw [List.getLast?_cons, Option.map_some, Option.getD_some]
  cases events.getLast? <;> rfl

/-- An edge detector remembers the kind of the last event. -/
theorem cellAfter_edge (last : Bool) (events : List ε) :
    cellAfter (edge kind) last events = (events.getLast?.map kind).getD last := by
  induction events using List.reverseRecOn with
  | nil => rfl
  | append_singleton events e _ =>
    rw [cellAfter, List.foldl_append, List.getLast?_concat]
    rfl

/-- The last event put out has the kind of the last event. -/
theorem kind_getLast_edges (last : Bool) (events : List ε) :
    ((emitted (edge kind) last events).getLast?.map kind).getD last =
      (events.getLast?.map kind).getD last := by
  induction events generalizing last with
  | nil => rfl
  | cons e events ih =>
    rw [getD_map_getLast?_cons, ← ih, emitted, edge]
    by_cases same : kind e = last
    · rw [if_pos same, same]
      rfl
    · rw [if_neg same]
      exact getD_map_getLast?_cons kind last e _

/-- Once an event of kind `true` has been seen, the last event put out is of the kind of the
last event. -/
theorem getLast?_edges {events : List ε} (high : events.any kind = true) :
    (emitted (edge kind) false events).getLast?.map kind = events.getLast?.map kind := by
  have last := kind_getLast_edges kind false events
  obtain ⟨e, mem, isHigh⟩ := List.any_eq_true.mp high
  have some : emitted (edge kind) false events ≠ [] := by
    rw [edges_eq_destutter, Ne, List.destutter_eq_nil, List.dropWhile_eq_nil_iff]
    intro low
    simpa [isHigh] using low e mem
  rw [List.getLast?_eq_getLast_of_ne_nil some,
    List.getLast?_eq_getLast_of_ne_nil (List.ne_nil_of_mem mem)] at last ⊢
  simpa using last

/-- The first event put out is of kind `true`. -/
theorem head?_edges (events : List ε) :
    ∀ first ∈ (emitted (edge kind) false events).head?, kind first = true := by
  induction events with
  | nil => simp [emitted]
  | cons e events ih =>
    cases high : kind e with
    | true => simp [emitted, edge, high]
    | false => simpa [emitted, edge, high] using ih

end Edge

/-! ## The detector of changed values -/

section Change

variable {α : Type*}

/-- Changes that lead from one value to another, each from where the one before it led. -/
inductive Path : α → List (α × α) → α → Prop
  | nil (a : α) : Path a [] a
  | cons {a b c : α} {changes : List (α × α)} (moved : a ≠ b) (rest : Path b changes c) :
      Path a ((a, b) :: changes) c

namespace Path

variable {a c : α} {changes : List (α × α)}

theorem head (path : Path a changes c) : ∀ first ∈ changes.head?, first.1 = a := by
  cases path with
  | nil => simp
  | cons => simp

theorem linked (path : Path a changes c) : changes.IsChain fun p q => q.1 = p.2 := by
  induction path with
  | nil => exact .nil
  | cons moved rest ih => exact List.isChain_cons.mpr ⟨rest.head, ih⟩

theorem moved (path : Path a changes c) : ∀ p ∈ changes, p.1 ≠ p.2 := by
  induction path with
  | nil => simp
  | cons moved rest ih => exact List.forall_mem_cons.mpr ⟨moved, ih⟩

theorem last (path : Path a changes c) : (changes.getLast?.map Prod.snd).getD a = c := by
  induction path with
  | nil => rfl
  | cons moved rest ih =>
    rw [List.getLast?_cons, Option.map_some, Option.getD_some, ← ih]
    cases List.getLast? _ <;> rfl

end Path

variable [DecidableEq α]

/-- Put out the last value and the new one when they differ; the first value, and an event
without one, put out nothing. -/
def change (value : ε → Option α) (last : Option α) (e : ε) : Option (α × α) × Option α :=
  match value e with
  | none => (none, last)
  | some new => ((last.filter (· ≠ new)).map (·, new), some new)

variable {value : ε → Option α}

theorem change_snd (last : Option α) (e : ε) : (change value last e).2 = (value e).or last := by
  unfold change
  split
  case h_1 silent => rw [silent, Option.none_or]
  case h_2 new known => rw [known, Option.some_or]

/-- From a known value on, the changes lead to the last value. -/
theorem path_changes_some (first : α) (events : List ε) :
    Path first (emitted (change value) (some first) events)
      ((events.filterMap value).getLast?.getD first) := by
  induction events generalizing first with
  | nil => exact .nil first
  | cons e events ih =>
    cases known : value e with
    | none => simpa [emitted, change, known] using ih first
    | some new =>
      have tail := ih new
      have last : ((e :: events).filterMap value).getLast?.getD first =
          (events.filterMap value).getLast?.getD new := by
        simp [known, List.getLast?_cons]
      rw [last]
      by_cases same : first = new
      · subst same
        simpa [emitted, change, known, Option.filter] using tail
      · simpa [emitted, change, known, Option.filter, same] using Path.cons same tail

/-- The changes lead from the first value to the last. -/
theorem path_changes {first : α} {rest : List α} {events : List ε}
    (values : events.filterMap value = first :: rest) :
    Path first (emitted (change value) none events) (rest.getLast?.getD first) := by
  induction events with
  | nil => cases values
  | cons e events ih =>
    cases known : value e with
    | none =>
      rw [List.filterMap_cons_none known] at values
      simpa [emitted, change, known] using ih values
    | some new =>
      rw [List.filterMap_cons_some known] at values
      obtain ⟨rfl, rfl⟩ := List.cons.inj values
      simpa [emitted, change, known] using path_changes_some new events

/-- A change is between values of the events, or from the one known at the start. -/
theorem mem_changes {last : Option α} {events : List ε} {p : α × α}
    (mem : p ∈ emitted (change value) last events) :
    (last = some p.1 ∨ p.1 ∈ events.filterMap value) ∧ p.2 ∈ events.filterMap value := by
  induction events generalizing last with
  | nil => cases mem
  | cons e events ih =>
    cases known : value e with
    | none =>
      rw [List.filterMap_cons_none known]
      apply ih
      simpa [emitted, change, known] using mem
    | some new =>
      rw [List.filterMap_cons_some known]
      rcases List.mem_append.mp mem with now | later
      · obtain ⟨old, kept, rfl⟩ : ∃ old, last.filter (· ≠ new) = some old ∧ (old, new) = p := by
          simpa [change, known] using now
        exact ⟨.inl (Option.filter_eq_some_iff.mp kept).1, .head _⟩
      · obtain ⟨source, target⟩ := ih later
        rw [change, known] at source
        refine ⟨.inr ?_, .tail _ target⟩
        rcases source with start | inside
        · rw [Option.some.inj start]
          exact .head _
        · exact .tail _ inside

/-- Without a value there is no change. -/
theorem changes_eq_nil {events : List ε} (silent : events.filterMap value = []) :
    emitted (change value) none events = [] := by
  apply List.eq_nil_iff_forall_not_mem.mpr
  intro p mem
  have target := (mem_changes mem).2
  rw [silent] at target
  cases target

end Change

end Mealy
