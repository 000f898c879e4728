import ChainDash.Lib.Words
import Mathlib.Data.String.Basic
import Mathlib.Data.List.TakeWhile

/-!
# Text as lists of characters

The string operations of Rust's standard library that have no counterpart with the
same behaviour in core: trimming and splitting by the Unicode `White_Space` property, the
replacement of all non-overlapping matches, left to right, and splitting at a character.
-/

namespace Text
set_option autoImplicit false

/-- Characters with the Unicode property `White_Space` (`char::is_whitespace`). -/
def isWhitespace (c : Char) : Bool :=
  let n := c.toNat
  (9 ≤ n && n ≤ 13) || n == 0x20 || n == 0x85 || n == 0xA0 || n == 0x1680 ||
    (0x2000 ≤ n && n ≤ 0x200A) || n == 0x2028 || n == 0x2029 || n == 0x202F || n == 0x205F ||
    n == 0x3000

/-- `str::trim`. -/
def trim (s : String) : String :=
  String.ofList ((s.toList.dropWhile isWhitespace).reverse.dropWhile isWhitespace).reverse

/-- Scan a text for a non-empty pattern, with `skip` characters of the current match
still to pass over. -/
def replaceFrom (pattern replacement : List Char) : Nat → List Char → List Char
  | _, [] => []
  | skip + 1, _ :: rest => replaceFrom pattern replacement skip rest
  | 0, c :: rest =>
    if pattern.isPrefixOf (c :: rest) then
      replacement ++ replaceFrom pattern replacement (pattern.length - 1) rest
    else
      c :: replaceFrom pattern replacement 0 rest

/-- `str::replace` for a non-empty pattern. -/
def replace (text pattern replacement : String) : String :=
  String.ofList (replaceFrom pattern.toList replacement.toList 0 text.toList)

/-- `str::split` at a character. -/
def split (sep : Char) (s : String) : List String := (s.toList.splitOn sep).map String.ofList

/-- `str::split_whitespace`. -/
def splitWhitespace (s : String) : List String :=
  (Words.words isWhitespace s.toList).map String.ofList

/-- A line without the carriage return of `\r\n`. -/
def stripCarriageReturn (line : List Char) : List Char :=
  if line.getLast? = some '\r' then line.dropLast else line

/-- `BufRead::lines`: the last piece ends in no newline and is a line if it is not empty. -/
def lines (text : String) : List String :=
  let pieces := text.toList.splitOn '\n'
  let last := pieces.getLast?.getD []
  pieces.dropLast.map (String.ofList ∘ stripCarriageReturn) ++
    (if last = [] then [] else [String.ofList last])

/-- `str::contains`. -/
def contains (s pattern : String) : Bool := decide (pattern.toList <:+: s.toList)

/-- `str::starts_with`. -/
def startsWith (s pattern : String) : Bool := decide (pattern.toList <+: s.toList)

/-- The lower case of a character, as far as ASCII is concerned: apart from the capital
letters only the dotted I and the Kelvin sign become ASCII letters; all other characters
outside ASCII stay outside, and are left alone here. -/
def lowercaseChar (c : Char) : List Char :=
  if 'A'.toNat ≤ c.toNat ∧ c.toNat ≤ 'Z'.toNat then [Char.ofNat (c.toNat + 32)]
  else if c = '\u0130' then ['i', '\u0307']
  else if c = '\u212A' then ['k']
  else [c]

/-- `str::to_lowercase`, as far as ASCII is concerned. -/
def toLowercase (s : String) : String := String.ofList (s.toList.flatMap lowercaseChar)

/-- `str::split_once` at a character: the text before its first occurrence, and the rest. -/
def splitOnce (sep : Char) (s : String) : Option (String × String) :=
  match s.toList.dropWhile (· ≠ sep) with
  | [] => none
  | _ :: rest => some (String.ofList (s.toList.takeWhile (· ≠ sep)), String.ofList rest)

/-- `str::rsplit_once` at a character: the text before its last occurrence, and the rest. -/
def rsplitOnce (sep : Char) (s : String) : Option (String × String) :=
  match s.toList.reverse.dropWhile (· ≠ sep) with
  | [] => none
  | _ :: before =>
    some (String.ofList before.reverse,
      String.ofList (s.toList.reverse.takeWhile (· ≠ sep)).reverse)

theorem notMem_of_splitOnce {sep : Char} {s before after : String}
    (found : splitOnce sep s = some (before, after)) : sep ∉ before.toList := by
  unfold splitOnce at found
  split at found
  · cases found
  · obtain ⟨rfl, -⟩ := Prod.mk.inj (Option.some.inj found)
    intro mem
    rw [String.toList_ofList] at mem
    simpa using List.mem_takeWhile_imp mem

theorem splitOnce_append {sep : Char} {before : List Char} (out : sep ∉ before) (after : List Char) :
    splitOnce sep (String.ofList (before ++ sep :: after)) =
      some (String.ofList before, String.ofList after) := by
  have others : ∀ c ∈ before, decide (c ≠ sep) = true := by
    intro c mem
    apply decide_eq_true
    rintro rfl
    exact out mem
  have drop : (before ++ sep :: after).dropWhile (· ≠ sep) = sep :: after := by
    rw [List.dropWhile_append_of_pos others]
    simp
  have take : (before ++ sep :: after).takeWhile (· ≠ sep) = before := by
    rw [List.takeWhile_append_of_pos others]
    simp
  unfold splitOnce
  rw [String.toList_ofList, drop, take]

/-- A text without white space at its ends. -/
theorem trim_of_solid {first last : Char} (middle : List Char) (left : isWhitespace first = false)
    (right : isWhitespace last = false) :
    trim (String.ofList (first :: middle ++ [last])) = String.ofList (first :: middle ++ [last]) := by
  unfold trim
  rw [String.toList_ofList, List.cons_append, List.dropWhile_cons_of_neg (by simp [left]),
    ← List.cons_append, List.reverse_append, List.reverse_singleton, List.singleton_append,
    List.dropWhile_cons_of_neg (by simp [right])]
  simp

/-- Two texts cut at the first occurrence of a separator. -/
theorem cut_at_first {α : Type*} {l l' r r' : List α} {sep : α} (out : sep ∉ l) (out' : sep ∉ l')
    (h : l ++ sep :: r = l' ++ sep :: r') : l = l' ∧ r = r' := by
  induction l generalizing l' with
  | nil =>
    cases l' with
    | nil => exact ⟨rfl, (List.cons.inj h).2⟩
    | cons b l' => exact absurd (List.cons.inj h).1 (fun same => out' (by simp [same]))
  | cons a l ih =>
    cases l' with
    | nil => exact absurd (List.cons.inj h).1 (fun same => out (by simp [same]))
    | cons b l' =>
      obtain ⟨rfl, rest⟩ := List.cons.inj h
      obtain ⟨rfl, rfl⟩ := ih (fun mem => out (List.mem_cons_of_mem _ mem))
        (fun mem => out' (List.mem_cons_of_mem _ mem)) rest
      exact ⟨rfl, rfl⟩

theorem rsplitOnce_eq_some_iff {sep : Char} {s before after : String} :
    rsplitOnce sep s = some (before, after) ↔
      s.toList = before.toList ++ sep :: after.toList ∧ sep ∉ after.toList := by
  unfold rsplitOnce
  constructor
  · intro found
    have parts := List.takeWhile_append_dropWhile (p := (· ≠ sep)) (l := s.toList.reverse)
    split at found
    case h_1 => cases found
    case h_2 stop rest cut =>
      have stopAt := List.head?_dropWhile_not (· ≠ sep) s.toList.reverse
      rw [cut] at parts stopAt
      have stopAt : stop = sep := by simpa using stopAt
      obtain ⟨rfl, rfl⟩ := Prod.mk.inj (Option.some.inj found)
      simp only [String.toList_ofList]
      constructor
      · calc s.toList = (s.toList.reverse.takeWhile (· ≠ sep) ++ stop :: rest).reverse := by
              rw [parts, List.reverse_reverse]
          _ = rest.reverse ++ sep :: (s.toList.reverse.takeWhile (· ≠ sep)).reverse := by
              rw [List.reverse_append, List.reverse_cons, stopAt, List.append_assoc]
              rfl
      · intro mem
        simpa using List.mem_takeWhile_imp (List.mem_reverse.mp mem)
  · rintro ⟨whole, out⟩
    have passes : ∀ c ∈ after.toList.reverse, decide (c ≠ sep) = true := by
      intro c mem
      rw [decide_eq_true_eq]
      rintro rfl
      exact out (List.mem_reverse.mp mem)
    have backwards : s.toList.reverse = after.toList.reverse ++ sep :: before.toList.reverse := by
      rw [whole, List.reverse_append, List.reverse_cons, List.append_assoc]
      rfl
    rw [backwards, List.dropWhile_append_of_pos passes, List.takeWhile_append_of_pos passes]
    simp

/-- Take a pattern off the front as often as it is there, at most `fuel` times. -/
def dropMatches (pattern : List Char) : Nat → List Char → List Char
  | 0, text => text
  | fuel + 1, text =>
    if pattern.isPrefixOf text then dropMatches pattern fuel (text.drop pattern.length) else text

/-- `str::trim_start_matches` for a non-empty pattern: each match shortens the text. -/
def trimStartMatches (s pattern : String) : String :=
  String.ofList (dropMatches pattern.toList s.toList.length s.toList)

example : trimStartMatches "ws://ws://host" "ws://" = "host" := by decide

example : replace "a{k}b{k}" "{k}" "x{k}" = "ax{k}bx{k}" := by decide

example : trim "\t two words \n" = "two words" := by decide

end Text
