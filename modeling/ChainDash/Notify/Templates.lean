import ChainDash.Lib.Substitution
import ChainDash.Notify.Messages

/-!
# Placeholders in templates

A template is filled in one replacement of the whole text after another. What is written for
one placeholder is searched for the next ones, so the values are not always inserted as they
are: they are exactly where each placeholder is found in the template's own text only
(`renderTemplate_verbatim_iff`).
-/

namespace ChainDash.Notify
set_option autoImplicit false

open Substitution

def placeholder (key : String) : String := "\x7b" ++ key ++ "\x7d"

/-- The placeholders with their values, as lists of characters. -/
def listed (replacements : List (String × String)) : List (List Char × List Char) :=
  replacements.map fun (key, value) => ((placeholder key).toList, value.toList)

/-- The template read once, left to right: each placeholder that occurs in it is replaced by
its value, and everything else stays. -/
def renderVerbatim (template : String) (replacements : List (String × String)) : String :=
  String.ofList (replaceAll (listed replacements) template.toList)

example : renderVerbatim "\x7bnode\x7d: \x7breason\x7d" [("node", "\x7breason\x7d"), ("reason", "timeout")] =
    "\x7breason\x7d: timeout" := by decide

/-- Once the replacements of `done` are made at once, all occurrences of the placeholder are read
from consecutive places of the template. -/
def OwnPlaceholder (template : String) (done : List (String × String)) (key : String) : Prop :=
  AllOwn (placeholder key).toList (substitute (listed done) (placed 0 template.toList))

instance (template : String) (done : List (String × String)) (key : String) :
    Decidable (OwnPlaceholder template done key) := by
  unfold OwnPlaceholder
  infer_instance

/-! ## The replacements as passes -/

theorem replaceFrom_eq (pattern value : List Char) (skip : Nat) (text : List Char) :
    Text.replaceFrom pattern value skip text =
      scan (fun text => ([(pattern, value)].find? fun pair => pair.1.isPrefixOf text).map fun pair =>
        (id pair.2, pair.1.length)) skip text := by
  induction text generalizing skip with
  | nil => cases skip <;> rfl
  | cons c rest ih =>
    cases skip with
    | succ skip => exact ih skip
    | zero =>
      unfold Text.replaceFrom scan
      by_cases here : pattern.isPrefixOf (c :: rest)
      · have found : [(pattern, value)].find? (fun pair => pair.1.isPrefixOf (c :: rest)) =
            some (pattern, value) := by simp [here]
        rw [if_pos here, ih, found]
        rfl
      · have none : [(pattern, value)].find? (fun pair => pair.1.isPrefixOf (c :: rest)) = none := by
          simp [here]
        rw [if_neg here, ih, none]
        rfl

theorem toList_replace (text pattern value : String) :
    (Text.replace text pattern value).toList = replaceAll [(pattern.toList, value.toList)] text.toList := by
  unfold Text.replace
  rw [String.toList_ofList, replaceFrom_eq]
  rfl

theorem toList_renderTemplate (template : String) (replacements : List (String × String)) :
    (renderTemplate template replacements).toList = replaceEach (listed replacements) template.toList := by
  induction replacements using List.reverseRecOn with
  | nil => rfl
  | append_singleton replacements pair ih =>
    unfold renderTemplate replaceEach listed at *
    rw [List.map_append, List.foldl_append, List.foldl_append, ← ih]
    exact toList_replace _ (placeholder pair.1) pair.2

theorem heads_placeholder {key : String} (plain : '\x7b' ∉ key.toList) :
    Heads '\x7b' (placeholder key).toList := by
  refine ⟨key.toList ++ ['\x7d'], ?_, ?_⟩
  · unfold placeholder
    rw [String.toList_append, String.toList_append]
    rfl
  · simpa using plain

theorem renderTemplate_eq_iff (template : String) (replacements : List (String × String)) :
    renderTemplate template replacements = renderVerbatim template replacements ↔
      replaceEach (listed replacements) template.toList =
        replaceAll (listed replacements) template.toList := by
  unfold renderVerbatim
  rw [← String.toList_inj, toList_renderTemplate, String.toList_ofList]

/-! ## Values inserted as they are -/

/-- The values are inserted as they are if every placeholder is found in the template's own text
only, or stands for itself; and this is exactly when they are after each of the replacements. -/
theorem renderTemplate_verbatim_iff (template : String) (replacements : List (String × String))
    (keys : ∀ pair ∈ replacements, '\x7b' ∉ pair.1.toList) :
    ((∀ done pair, done ++ [pair] <+: replacements →
        OwnPlaceholder template done pair.1 ∨ pair.2 = placeholder pair.1) →
      renderTemplate template replacements = renderVerbatim template replacements) ∧
    ((∀ done, done <+: replacements → renderTemplate template done = renderVerbatim template done) ↔
      ∀ done pair, done ++ [pair] <+: replacements →
        OwnPlaceholder template done pair.1 ∨ pair.2 = placeholder pair.1) := by
  have heads : ∀ pair ∈ listed replacements, Heads '\x7b' pair.1 := by
    intro pair mem
    obtain ⟨replacement, inside, rfl⟩ := List.mem_map.mp mem
    exact heads_placeholder (keys replacement inside)
  have each := replaceEach_iff heads template.toList
  have steps : (∀ done, done <+: replacements →
      renderTemplate template done = renderVerbatim template done) ↔
      ∀ done pair, done ++ [pair] <+: replacements →
        OwnPlaceholder template done pair.1 ∨ pair.2 = placeholder pair.1 := by
    constructor
    · intro same done pair here
      have own := each.mp ?_ (listed done) ((placeholder pair.1).toList, pair.2.toList) ?_
      · exact own.imp id String.toList_inj.mp
      · intro done' inside
        obtain ⟨done, before, rfl⟩ := List.prefix_map_iff.mp inside
        exact (renderTemplate_eq_iff template done).mp (same done before)
      · have inside := here.map fun (pair : String × String) =>
          ((placeholder pair.1).toList, pair.2.toList)
        rwa [List.map_append] at inside
    · intro own rendered here
      refine (renderTemplate_eq_iff template rendered).mpr
        (each.mpr ?_ (listed rendered) (here.map _))
      intro done' pair' inside
      obtain ⟨both, before, split⟩ := List.prefix_map_iff.mp inside
      obtain ⟨done, last, rfl, rfl, single⟩ := List.append_eq_map_iff.mp split
      obtain ⟨pair, rfl, rfl⟩ := List.map_eq_singleton_iff.mp single
      exact (own done pair before).imp id String.toList_inj.mpr
  exact ⟨fun own => steps.mpr own replacements List.prefix_rfl, steps⟩

-- Two replacements in inserted text can cancel out, so the last text alone says less.
example : renderTemplate "\x7ba\x7d" [("a", "\x7bb\x7d"), ("b", "\x7bc\x7d"), ("c", "\x7bb\x7d")] =
    renderVerbatim "\x7ba\x7d" [("a", "\x7bb\x7d"), ("b", "\x7bc\x7d"), ("c", "\x7bb\x7d")] := by decide

/-- Two placeholders, and a name that begins like one. -/
theorem renderTemplate_verbatim_iff_brace :
    renderTemplate "\x7bnode\x7d: \x7breason\x7d" [("node", "a\x7b"), ("reason", "timeout")] =
      renderVerbatim "\x7bnode\x7d: \x7breason\x7d" [("node", "a\x7b"), ("reason", "timeout")] := by
  refine (renderTemplate_verbatim_iff "\x7bnode\x7d: \x7breason\x7d"
    [("node", "a\x7b"), ("reason", "timeout")] (by decide)).1 ?_
  intro done pair here
  rcases done with _ | ⟨first, _ | ⟨second, rest⟩⟩
  · obtain rfl : pair = ("node", "a\x7b") := by simpa using here
    exact .inl (by decide)
  · obtain ⟨rfl, rfl⟩ : first = ("node", "a\x7b") ∧ pair = ("reason", "timeout") := by simpa using here
    exact .inl (by decide)
  · have short := here.length_le
    simp at short

/-- A node that is named like the next placeholder is replaced by the reason. -/
theorem renderTemplate_rescans :
    ¬ ∀ (template : String) (replacements : List (String × String)),
      (replacements.map Prod.fst).Nodup →
      (∀ pair ∈ replacements, '\x7b' ∉ pair.1.toList ∧ '\x7d' ∉ pair.1.toList) →
      renderTemplate template replacements = renderVerbatim template replacements := by
  intro verbatim
  have same := verbatim "\x7bnode\x7d: \x7breason\x7d"
    [("prefix", telegramMessagePrefix), ("node", "\x7breason\x7d"), ("reason", "timeout")]
    (by decide) (by decide)
  revert same
  decide

end ChainDash.Notify
