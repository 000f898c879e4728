import Mathlib.Data.List.Infix
import Mathlib.Data.List.TakeDrop

/-!
# Words and escapes

The words of a text are its longest pieces without a separator. An escape writes some
characters of a text as short codes; what holds no such character, and none of a code, is
found in the escaped text just where it is in the text itself.
-/

namespace Words
set_option autoImplicit false

variable {α : Type*}

/-- A test of each element. -/
theorem forall_mem_of_all {p : α → Prop} [DecidablePred p] {l : List α}
    (all : (l.all fun a => decide (p a)) = true) : ∀ a ∈ l, p a := by
  intro a mem
  exact of_decide_eq_true (List.all_eq_true.mp all a mem)

/-- The non-empty pieces between separators. -/
def words (isSep : α → Bool) (l : List α) : List (List α) := (l.splitOnP isSep).filter (· ≠ [])

section Separators

variable {isSep : α → Bool} {l r : List α}

@[simp] theorem words_nil : words isSep [] = [] := by
  simp [words]

/-- At a separator the words part. -/
theorem words_append_cons (l r : List α) {sep : α} (isSeparator : isSep sep = true) :
    words isSep (l ++ sep :: r) = words isSep l ++ words isSep r := by
  rw [words, List.splitOnP_append_cons l r isSeparator, List.filter_append]
  rfl

theorem words_eq_singleton (nonempty : l ≠ []) (free : ∀ c ∈ l, isSep c = false) :
    words isSep l = [l] := by
  rw [words, List.splitOnP_eq_singleton free]
  simp [nonempty]

/-- A word is not empty and holds no separator. -/
theorem of_mem_words {word : List α} (mem : word ∈ words isSep l) :
    word ≠ [] ∧ ∀ c ∈ word, isSep c = false := by
  induction h : l.length using Nat.strongRecOn generalizing l with
  | _ n ih =>
    by_cases free : ∀ c ∈ l, isSep c = false
    · rcases eq_or_ne l [] with rfl | nonempty
      · cases mem
      · rw [words_eq_singleton nonempty free, List.mem_singleton] at mem
        subst mem
        exact ⟨nonempty, free⟩
    · -- The text is cut at a separator, and the word is on one side.
      simp only [not_forall, Bool.not_eq_false] at free
      obtain ⟨c, inside, isSeparator⟩ := free
      obtain ⟨before, after, rfl⟩ := List.append_of_mem inside
      rw [words_append_cons before after isSeparator, List.mem_append] at mem
      simp only [List.length_append, List.length_cons] at h
      rcases mem with left | right
      · exact ih before.length (by omega) left rfl
      · exact ih after.length (by omega) right rfl

/-- Whatever is not a separator is in some word. -/
theorem words_ne_nil {c : α} (mem : c ∈ l) (notSeparator : isSep c = false) : words isSep l ≠ [] := by
  induction h : l.length using Nat.strongRecOn generalizing l with
  | _ n ih =>
    by_cases free : ∀ c ∈ l, isSep c = false
    · rw [words_eq_singleton (List.ne_nil_of_mem mem) free]
      simp
    · simp only [not_forall, Bool.not_eq_false] at free
      obtain ⟨sep, inside, isSeparator⟩ := free
      obtain ⟨before, after, rfl⟩ := List.append_of_mem inside
      rw [words_append_cons before after isSeparator]
      simp only [List.length_append, List.length_cons] at h
      rcases List.mem_append.mp mem with left | right
      · exact List.append_ne_nil_of_left_ne_nil (ih before.length (by omega) left rfl) _
      · rcases List.mem_cons.mp right with rfl | right
        · rw [isSeparator] at notSeparator
          cases notSeparator
        · exact List.append_ne_nil_of_right_ne_nil _ (ih after.length (by omega) right rfl)

/-- Separators at the end leave the words as they are. -/
theorem words_concat {sep : α} (isSeparator : isSep sep = true) :
    words isSep (l ++ [sep]) = words isSep l := by
  rw [words_append_cons l [] isSeparator, words_nil, List.append_nil]

/-- Fields with a separator between them. -/
theorem words_intercalate {sep : α} (isSeparator : isSep sep = true) (fields : List (List α)) :
    words isSep ([sep].intercalate fields) = fields.flatMap (words isSep) := by
  induction fields with
  | nil => simp
  | cons field fields ih =>
    rcases eq_or_ne fields [] with rfl | more
    · simp
    · rw [List.intercalate_cons_of_ne_nil more, List.append_assoc, List.singleton_append,
        words_append_cons _ _ isSeparator, ih, List.flatMap_cons]

theorem notMem_intercalate {a sep : α} {fields : List (List α)} (other : a ≠ sep)
    (out : ∀ field ∈ fields, a ∉ field) : a ∉ [sep].intercalate fields := by
  induction fields with
  | nil => simp
  | cons field fields ih =>
    have first := out field List.mem_cons_self
    have rest := ih fun field' mem => out field' (List.mem_cons_of_mem _ mem)
    rcases eq_or_ne fields [] with rfl | more
    · simpa using first
    · rw [List.intercalate_cons_of_ne_nil more, List.append_assoc, List.mem_append,
        List.singleton_append, List.mem_cons]
      simp [first, other, rest]

/-- Two ways to list the same: where one gives at least as many entries for each part, the
entries agree part by part. -/
theorem eq_of_flatMap_eq {β : Type*} {f g : α → List β} {l : List α}
    (atLeast : ∀ a ∈ l, (g a).length ≤ (f a).length) (same : l.flatMap f = l.flatMap g) :
    ∀ a ∈ l, f a = g a := by
  have total : ∀ l : List α, (∀ a ∈ l, (g a).length ≤ (f a).length) →
      (l.flatMap g).length ≤ (l.flatMap f).length := by
    intro l
    induction l with
    | nil => exact fun _ => Nat.le_refl 0
    | cons a l ih =>
      intro each
      have first := each a List.mem_cons_self
      have rest := ih fun b mem => each b (List.mem_cons_of_mem _ mem)
      rw [List.flatMap_cons, List.flatMap_cons, List.length_append, List.length_append]
      omega
  induction l with
  | nil => simp
  | cons a l ih =>
    have each : ∀ b ∈ l, (g b).length ≤ (f b).length := fun b mem =>
      atLeast b (List.mem_cons_of_mem _ mem)
    have first := atLeast a List.mem_cons_self
    have rest := total l each
    rw [List.flatMap_cons, List.flatMap_cons] at same
    have lengths := congrArg List.length same
    rw [List.length_append, List.length_append] at lengths
    obtain ⟨head, tail⟩ := List.append_inj same (by omega)
    intro b mem
    rcases List.mem_cons.mp mem with rfl | mem
    · exact head
    · exact ih each tail b mem

end Separators

/-! ## Escapes -/

section Escapes

/-- How a character is written: as its code, if it has one. -/
def escapeChar (code : α → Option (List α)) (c : α) : List α := (code c).getD [c]

def escape (code : α → Option (List α)) (l : List α) : List α := l.flatMap (escapeChar code)

variable {code : α → Option (List α)} {l word : List α}

@[simp] theorem escape_nil : escape code ([] : List α) = [] := rfl

@[simp] theorem escape_cons (c : α) (l : List α) :
    escape code (c :: l) = escapeChar code c ++ escape code l := rfl

theorem escapeChar_none {c : α} (plain : code c = none) : escapeChar code c = [c] := by
  rw [escapeChar, plain, Option.getD_none]

theorem escapeChar_some {c : α} {written : List α} (coded : code c = some written) :
    escapeChar code c = written := by
  rw [escapeChar, coded, Option.getD_some]

/-- Without characters that have a code the text is written as it is. -/
theorem escape_eq_self (plain : ∀ c ∈ l, code c = none) : escape code l = l := by
  induction l with
  | nil => rfl
  | cons c l ih =>
    rw [escape_cons, escapeChar_none (plain c List.mem_cons_self),
      ih fun c mem => plain c (List.mem_cons_of_mem _ mem)]
    rfl

theorem mem_escape {c : α} (mem : c ∈ escape code l) :
    (c ∈ l ∧ code c = none) ∨ ∃ origin written, code origin = some written ∧ c ∈ written := by
  obtain ⟨origin, inside, written⟩ := List.mem_flatMap.mp mem
  cases coded : code origin with
  | none =>
    rw [escapeChar_none coded, List.mem_singleton] at written
    subst written
    exact Or.inl ⟨inside, coded⟩
  | some text =>
    rw [escapeChar_some coded] at written
    exact Or.inr ⟨origin, text, coded, written⟩

/-- The codes have two characters at least. -/
def LongCodes (code : α → Option (List α)) : Prop :=
  ∀ c written, code c = some written → 2 ≤ written.length

/-- No character of the word has a code or begins one. -/
def Apart (code : α → Option (List α)) (word : List α) : Prop :=
  ∀ a ∈ word, code a = none ∧ ∀ c written, code c = some written → written.head? ≠ some a

/-- No character of the word has a code or stands in one. -/
def Clean (code : α → Option (List α)) (word : List α) : Prop :=
  ∀ a ∈ word, code a = none ∧ ∀ c written, code c = some written → a ∉ written

theorem Clean.apart (clean : Clean code word) : Apart code word := fun a mem =>
  ⟨(clean a mem).1, fun c written coded head =>
    (clean a mem).2 c written coded (List.mem_of_mem_head? head)⟩

/-- A text grows when a character of it is written as a code. -/
theorem length_escape (long : LongCodes code) (l : List α) :
    l.length ≤ (escape code l).length ∧
      ((escape code l).length = l.length → ∀ c ∈ l, code c = none) := by
  induction l with
  | nil => simp
  | cons c l ih =>
    obtain ⟨le, same_plain⟩ := ih
    rw [escape_cons, List.length_append, List.length_cons]
    cases coded : code c with
    | none =>
      rw [escapeChar_none coded, List.length_singleton]
      refine ⟨by omega, fun same => ?_⟩
      intro d mem
      rcases List.mem_cons.mp mem with rfl | mem
      · exact coded
      · exact same_plain (by omega) d mem
    | some written =>
      have two := long c written coded
      rw [escapeChar_some coded]
      exact ⟨by omega, fun same => by omega⟩

theorem escape_eq_self_iff (long : LongCodes code) :
    escape code l = l ↔ ∀ c ∈ l, code c = none :=
  ⟨fun same => (length_escape long l).2 (congrArg List.length same), escape_eq_self⟩

theorem escape_eq_iff (apart : Apart code word) (long : LongCodes code) :
    escape code l = word ↔ l = word := by
  constructor
  · intro same
    have free : ∀ c ∈ l, code c = none := by
      intro c mem
      by_contra some_code
      obtain ⟨written, coded⟩ := Option.ne_none_iff_exists'.mp some_code
      have two := long c written coded
      obtain ⟨a, rest, rfl⟩ := List.exists_cons_of_length_pos (show 0 < written.length by omega)
      have inside : a ∈ escape code l := by
        refine List.mem_flatMap.mpr ⟨c, mem, ?_⟩
        rw [escapeChar_some coded]
        exact List.mem_cons_self
      rw [same] at inside
      exact (apart a inside).2 c _ coded rfl
    rwa [escape_eq_self free] at same
  · rintro rfl
    exact escape_eq_self fun a mem => (apart a mem).1

theorem not_prefix_code (apart : Apart code word) {c : α} {written r : List α}
    (nonempty : word ≠ []) (coded : code c = some written) (some_written : written ≠ []) :
    ¬word <+: written ++ r := by
  obtain ⟨a, word, rfl⟩ := List.exists_cons_of_ne_nil nonempty
  obtain ⟨b, written, rfl⟩ := List.exists_cons_of_ne_nil some_written
  rw [List.cons_append, List.cons_prefix_cons]
  intro h
  exact (apart a List.mem_cons_self).2 c _ coded (by rw [h.1]; rfl)

theorem prefix_escape_iff (apart : Apart code word) (long : LongCodes code) :
    word <+: escape code l ↔ word <+: l := by
  induction word generalizing l with
  | nil => simp
  | cons a word ih =>
    have rest : Apart code word := fun b mem => apart b (List.mem_cons_of_mem _ mem)
    cases l with
    | nil => simp
    | cons c l =>
      rw [escape_cons]
      cases coded : code c with
      | none =>
        rw [escapeChar_none coded, List.singleton_append, List.cons_prefix_cons,
          List.cons_prefix_cons, ih rest]
      | some written =>
        have two := long c written coded
        rw [escapeChar_some coded, List.cons_prefix_cons]
        refine iff_of_false ?_ ?_
        · apply not_prefix_code apart (by simp) coded
          rintro rfl
          simp at two
        · rintro ⟨rfl, -⟩
          rw [(apart a List.mem_cons_self).1] at coded
          cases coded

/-- A clean word is not found in a code, nor across its end. -/
theorem infix_code_append_iff {written r : List α} (nonempty : word ≠ [])
    (apart : ∀ a ∈ word, a ∉ written) : word <:+: written ++ r ↔ word <:+: r := by
  induction written with
  | nil => rfl
  | cons b written ih =>
    have apart' : ∀ a ∈ word, a ∉ written := fun a mem inside =>
      apart a mem (List.mem_cons_of_mem _ inside)
    rw [List.cons_append, List.infix_cons_iff, ih apart']
    refine or_iff_right fun isPrefix => ?_
    obtain ⟨a, word, rfl⟩ := List.exists_cons_of_ne_nil nonempty
    rw [List.cons_prefix_cons] at isPrefix
    exact apart a List.mem_cons_self (by rw [isPrefix.1]; exact List.mem_cons_self)

theorem infix_escape_iff (clean : Clean code word) (long : LongCodes code) (nonempty : word ≠ []) :
    word <:+: escape code l ↔ word <:+: l := by
  induction l with
  | nil => rfl
  | cons c l ih =>
    have here := prefix_escape_iff (l := c :: l) clean.apart long
    rw [escape_cons] at here ⊢
    rw [List.infix_cons_iff]
    cases coded : code c with
    | none =>
      rw [escapeChar_none coded, List.singleton_append] at here ⊢
      rw [List.infix_cons_iff, here, ih]
    | some written =>
      rw [escapeChar_some coded] at here ⊢
      rw [infix_code_append_iff nonempty fun a mem => (clean a mem).2 c written coded, ih]
      refine (or_iff_right fun isPrefix => ?_).symm
      -- The word would begin with a character that has a code.
      obtain ⟨a, word, rfl⟩ := List.exists_cons_of_ne_nil nonempty
      rw [List.cons_prefix_cons] at isPrefix
      have plain := (clean a List.mem_cons_self).1
      rw [isPrefix.1, coded] at plain
      cases plain

end Escapes

end Words
