import Mathlib.Data.List.Basic
import Mathlib.Data.List.Induction
import Mathlib.Data.Nat.Notation
import Mathlib.Data.String.Basic

/-!
# IP addresses and their texts

The addresses of `std::net`, as they are printed and parsed. What is printed is parsed
back as the same address (`parseIpAddr_display`), so different addresses have different
texts (`display_injective`).
-/

namespace Net
set_option autoImplicit false

structure Ipv4Addr where
  a : UInt8
  b : UInt8
  c : UInt8
  d : UInt8
  deriving DecidableEq

structure Ipv6Addr where
  segments : List UInt16
  eight : segments.length = 8
  deriving DecidableEq

inductive IpAddr where
  | v4 (addr : Ipv4Addr)
  | v6 (addr : Ipv6Addr)
  deriving DecidableEq

/-! ## Numbers -/

def digitOf (c : Char) : Option Nat :=
  if '0' ≤ c ∧ c ≤ '9' then some (c.toNat - '0'.toNat)
  else if 'a' ≤ c ∧ c ≤ 'z' then some (c.toNat - 'a'.toNat + 10)
  else if 'A' ≤ c ∧ c ≤ 'Z' then some (c.toNat - 'A'.toNat + 10)
  else none

/-- `char::to_digit`. -/
def toDigit (radix : Nat) (c : Char) : Option Nat := (digitOf c).filter (· < radix)

def ofDigits (radix : Nat) (digits : List Nat) : Nat :=
  digits.foldl (fun value digit => value * radix + digit) 0

/-- A number that fills its text, as the parser of `std::net` reads it. -/
def readNumber (radix : Nat) (maxDigits : Option Nat) (allowZeroPrefix : Bool) (max : Nat)
    (text : List Char) : Option Nat := do
  let digits ← text.mapM (toDigit radix)
  let value := ofDigits radix digits
  if digits ≠ [] ∧ maxDigits.all (digits.length ≤ ·) ∧
      (allowZeroPrefix ∨ digits.head? ≠ some 0 ∨ digits.length = 1) ∧ value ≤ max then some value
  else none

theorem toDigit_digitChar {radix digit : Nat} (le : radix ≤ 16) (lt : digit < radix) :
    toDigit radix digit.digitChar = some digit := by
  have all : ∀ digit < 16, digitOf (Nat.digitChar digit) = some digit := by decide
  rw [toDigit, all digit (by omega), Option.filter_some, if_pos (by simpa using lt)]

theorem mapM_map_of_inverse {α β : Type} {f : α → β} {g : β → Option α} (inverse : ∀ x, g (f x) = some x)
    (l : List α) : (l.map f).mapM g = some l := by
  induction l with
  | nil => rfl
  | cons x l ih => simp [inverse, ih]

theorem mapM_snoc {α β : Type} {f : α → Option β} {l : List α} {x : α} {l' : List β} {x' : β}
    (front : l.mapM f = some l') (last : f x = some x') : (l ++ [x]).mapM f = some (l' ++ [x']) := by
  rw [List.mapM_append, front]
  simp [last]

/-- The digits of a number, without leading zeros. -/
structure DigitsOf (radix n : Nat) (digits : List Nat) : Prop where
  read : (Nat.toDigits radix n).mapM (toDigit radix) = some digits
  value : ofDigits radix digits = n
  length : digits.length = (Nat.toDigits radix n).length
  lead : 0 < n → digits.head? ≠ some 0
  short : n < radix → digits.length = 1

theorem exists_digits {radix : Nat} (two : 1 < radix) (le : radix ≤ 16) (n : Nat) :
    ∃ digits, DigitsOf radix n digits := by
  induction n using Nat.strong_induction_on with
  | _ n ih =>
    by_cases small : n < radix
    · have one := Nat.toDigits_of_lt_base small
      refine ⟨[n], ?_, by simp [ofDigits], by rw [one]; rfl, ?_, fun _ => rfl⟩
      · rw [one]
        simp [toDigit_digitChar le small]
      · intro positive
        simp
        omega
    · have split := Nat.toDigits_of_base_le two (not_lt.mp small)
      obtain ⟨digits, read, value, length, lead, -⟩ := ih (n / radix) (Nat.div_lt_self (by omega) two)
      have last := toDigit_digitChar le (Nat.mod_lt n (by omega : 0 < radix))
      have positive : 0 < n / radix := Nat.div_pos (not_lt.mp small) (by omega)
      refine ⟨digits ++ [n % radix], ?_, ?_, ?_, ?_, fun less => absurd less small⟩
      · rw [split]
        exact mapM_snoc read last
      · rw [ofDigits, List.foldl_append, ← ofDigits, value]
        exact Nat.div_add_mod' n radix
      · rw [split, List.length_append, List.length_append, length]
        rfl
      · intro _
        cases digits with
        | nil =>
          rw [List.length_nil] at length
          exact absurd length.symm Nat.length_toDigits_pos.ne'
        | cons first rest => exact lead positive

/-- A printed number is read back, if it has not too many digits. -/
theorem readNumber_toDigits {radix digits n max : Nat} (two : 1 < radix) (le : radix ≤ 16)
    (some_ : 0 < digits) (few : n < radix ^ digits) (bounded : n ≤ max) (allowZeroPrefix : Bool) :
    readNumber radix (some digits) allowZeroPrefix max (Nat.toDigits radix n) = some n := by
  obtain ⟨list, read, value, length, lead, short⟩ := exists_digits two le n
  have positive : 0 < list.length := by rw [length]; exact Nat.length_toDigits_pos
  have le_digits : list.length ≤ digits := by
    rw [length]
    exact (Nat.length_toDigits_le_iff two some_).mpr few
  have plain : list.head? ≠ some 0 ∨ list.length = 1 := by
    rcases Nat.eq_zero_or_pos n with zero | positive
    · exact .inr (short (by omega))
    · exact .inl (lead positive)
  simp only [readNumber, read, bind, Option.bind_some, value]
  exact if_pos ⟨List.ne_nil_of_length_pos positive, by simpa using le_digits, .inr plain, bounded⟩

/-- What is read as a number holds digits only. -/
theorem digits_of_readNumber {radix max value : Nat} {maxDigits : Option Nat} {allowZeroPrefix : Bool}
    {text : List Char} (read : readNumber radix maxDigits allowZeroPrefix max text = some value) :
    ∀ c ∈ text, (toDigit radix c).isSome := by
  simp only [readNumber, bind, Option.bind_eq_some_iff] at read
  obtain ⟨digits, all, -⟩ := read
  clear value
  induction text generalizing digits with
  | nil => simp
  | cons c rest ih =>
    simp only [List.mapM_cons, bind, Option.bind_eq_some_iff] at all
    obtain ⟨digit, first, others, tail, -⟩ := all
    intro x mem
    rcases List.mem_cons.mp mem with rfl | mem
    · rw [first]
      rfl
    · exact ih others tail x mem

theorem ne_digit_of_mem {radix n : Nat} (two : 1 < radix) (le : radix ≤ 16) {sep : Char}
    (noDigit : digitOf sep = none) : sep ∉ Nat.toDigits radix n := by
  intro mem
  have read := readNumber_toDigits two le (Nat.length_toDigits_pos (b := radix) (n := n))
    ((Nat.length_toDigits_le_iff two Nat.length_toDigits_pos).mp le_rfl) le_rfl true
  have digit := digits_of_readNumber read sep mem
  simp [toDigit, noDigit] at digit

/-! ## IPv4 -/

namespace Ipv4Addr

def octets (addr : Ipv4Addr) : List UInt8 := [addr.a, addr.b, addr.c, addr.d]

def text (addr : Ipv4Addr) : List Char :=
  ['.'].intercalate (addr.octets.map fun octet => Nat.toDigits 10 octet.toNat)

/-- `read_number(10, Some(3), false)` for an octet. -/
def readOctet (text : List Char) : Option UInt8 :=
  (readNumber 10 (some 3) false 255 text).map (·.toUInt8)

def parse (text : List Char) : Option Ipv4Addr :=
  match (text.splitOn '.').mapM readOctet with
  | some [a, b, c, d] => some ⟨a, b, c, d⟩
  | _ => none

theorem readOctet_toDigits (octet : UInt8) : readOctet (Nat.toDigits 10 octet.toNat) = some octet := by
  have lt := octet.toNat_lt
  rw [readOctet, readNumber_toDigits (by decide) (by decide) (by decide) (by omega) (by omega)]
  simp

theorem parse_text (addr : Ipv4Addr) : parse addr.text = some addr := by
  have split : addr.text.splitOn '.' = addr.octets.map fun octet => Nat.toDigits 10 octet.toNat := by
    apply List.splitOn_intercalate
    · rw [List.forall_mem_map]
      intro octet _
      exact ne_digit_of_mem (by decide) (by decide) (by decide)
    · simp [octets]
  rw [parse, split, mapM_map_of_inverse readOctet_toDigits]
  rfl

/-- The text of an IPv4 address holds digits and dots only. -/
theorem mem_of_parse {text : List Char} {addr : Ipv4Addr} (parsed : parse text = some addr) :
    ∀ c ∈ text, c = '.' ∨ (toDigit 10 c).isSome := by
  have read : ∃ list, (text.splitOn '.').mapM readOctet = some list := by
    rw [parse] at parsed
    split at parsed
    case h_1 list => exact ⟨_, list⟩
    case h_2 => cases parsed
  obtain ⟨list, read⟩ := read
  have parts : ∀ part ∈ text.splitOn '.', ∀ c ∈ part, (toDigit 10 c).isSome := by
    generalize text.splitOn '.' = parts at read
    induction parts generalizing list with
    | nil => simp
    | cons part rest ih =>
      simp only [List.mapM_cons, bind, Option.bind_eq_some_iff] at read
      obtain ⟨octet, first, others, tail, -⟩ := read
      obtain ⟨value, number, -⟩ := Option.map_eq_some_iff.mp first
      intro other mem
      rcases List.mem_cons.mp mem with rfl | mem
      · exact digits_of_readNumber number
      · exact ih others tail other mem
  have joined : ['.'].intercalate (text.splitOn '.') = text := List.intercalate_splitOn '.'
  intro c mem
  rw [← joined] at mem
  generalize text.splitOn '.' = list at mem parts
  induction list with
  | nil => cases mem
  | cons part rest ih =>
    cases rest with
    | nil => exact .inr (parts part (by simp) c (by simpa using mem))
    | cons next rest =>
      rw [List.intercalate_cons_cons] at mem
      simp only [List.append_assoc, List.mem_append, List.mem_singleton] at mem
      rcases mem with mem | rfl | mem
      · exact .inr (parts part (by simp) c mem)
      · exact .inl rfl
      · exact ih mem fun other inside => parts other (List.mem_cons_of_mem _ inside)

/-- A text without dots has one part only. -/
theorem parse_of_noDot {text : List Char} (noDot : '.' ∉ text) : parse text = none := by
  rw [parse, List.splitOn_eq_singleton noDot]
  cases octet : readOctet text <;> simp [octet]

theorem parse_of_colon {text : List Char} (colon : ':' ∈ text) : parse text = none := by
  cases parsed : parse text with
  | none => rfl
  | some addr =>
    rcases mem_of_parse parsed ':' colon with dot | digit
    · exact absurd dot (by decide)
    · exact absurd digit (by decide)

def isUnspecified (addr : Ipv4Addr) : Bool := addr.octets = [0, 0, 0, 0]

def isLoopback (addr : Ipv4Addr) : Bool := addr.a = 127

/-- 10.0.0.0/8, 172.16.0.0/12 and 192.168.0.0/16. -/
def isPrivate (addr : Ipv4Addr) : Bool :=
  addr.a = 10 || (addr.a = 172 && 16 ≤ addr.b && addr.b ≤ 31) || (addr.a = 192 && addr.b = 168)

def isLinkLocal (addr : Ipv4Addr) : Bool := addr.a = 169 && addr.b = 254

def isMulticast (addr : Ipv4Addr) : Bool := 224 ≤ addr.a && addr.a ≤ 239

def isBroadcast (addr : Ipv4Addr) : Bool := addr.octets = [255, 255, 255, 255]

end Ipv4Addr

/-! ## IPv6 -/

/-- Split at the first double colon. -/
def cutDouble : List Char → Option (List Char × List Char)
  | ':' :: ':' :: rest => some ([], rest)
  | c :: rest => (cutDouble rest).map fun (before, after) => (c :: before, after)
  | [] => none

/-- A run of zero segments. -/
structure Span where
  start : Nat := 0
  len : Nat := 0

/-- The search for the longest run of zeros, the first of them if there are several. -/
structure Scan where
  position : Nat := 0
  current : Span := {}
  longest : Span := {}

def Scan.step (scan : Scan) (segment : UInt16) : Scan :=
  let current : Span :=
    if segment = 0 then
      { start := if scan.current.len = 0 then scan.position else scan.current.start
        len := scan.current.len + 1 }
    else {}
  { position := scan.position + 1
    current
    longest := if scan.longest.len < current.len then current else scan.longest }

def zeroes (segments : List UInt16) : Span := (segments.foldl Scan.step {}).longest

namespace Ipv6Addr

/-- The segments in hexadecimal, between colons. -/
def subslice (segments : List UInt16) : List Char :=
  [':'].intercalate (segments.map fun segment => Nat.toDigits 16 segment.toNat)

/-- The IPv4 address of a `::ffff:a.b.c.d`. -/
def toIpv4Mapped (addr : Ipv6Addr) : Option Ipv4Addr :=
  match addr.segments with
  | [0, 0, 0, 0, 0, 0xffff, ab, cd] =>
    some ⟨(ab / 256).toUInt8, ab.toUInt8, (cd / 256).toUInt8, cd.toUInt8⟩
  | _ => none

def text (addr : Ipv6Addr) : List Char :=
  match addr.toIpv4Mapped with
  | some ipv4 => [':', ':', 'f', 'f', 'f', 'f', ':'] ++ ipv4.text
  | none =>
    let zeroes := zeroes addr.segments
    if 1 < zeroes.len then
      subslice (addr.segments.take zeroes.start) ++
        ':' :: ':' :: subslice (addr.segments.drop (zeroes.start + zeroes.len))
    else subslice addr.segments

/-- `read_number(16, Some(4), true)` for a segment. -/
def readGroup (text : List Char) : Option UInt16 :=
  (readNumber 16 (some 4) true 0xffff text).map (·.toUInt16)

/-- The segments before a double colon. -/
def readHead (text : List Char) : Option (List UInt16) :=
  if text = [] then some [] else (text.splitOn ':').mapM readGroup

/-- The segments up to the end, where the last two may be written as an IPv4 address. -/
def readTail (text : List Char) : Option (List UInt16) :=
  if text = [] then some []
  else
    let parts := text.splitOn ':'
    match Ipv4Addr.parse (parts.getLastD []) with
    | some ⟨a, b, c, d⟩ =>
      (parts.dropLast.mapM readGroup).map
        (· ++ [a.toUInt16 * 256 + b.toUInt16, c.toUInt16 * 256 + d.toUInt16])
    | none => parts.mapM readGroup

def parse (text : List Char) : Option Ipv6Addr :=
  match cutDouble text with
  | none => do
    let segments ← readTail text
    if eight : segments.length = 8 then some ⟨segments, eight⟩ else none
  | some (before, after) => do
    let head ← readHead before
    let tail ← readTail after
    if few : head.length + tail.length ≤ 7 then
      some ⟨head ++ List.replicate (8 - (head.length + tail.length)) 0 ++ tail, by simp; omega⟩
    else none

def isUnspecified (addr : Ipv6Addr) : Bool := addr.segments = [0, 0, 0, 0, 0, 0, 0, 0]

def isLoopback (addr : Ipv6Addr) : Bool := addr.segments = [0, 0, 0, 0, 0, 0, 0, 1]

def firstSegment (addr : Ipv6Addr) : UInt16 := addr.segments.headD 0

/-- fc00::/7 -/
def isUniqueLocal (addr : Ipv6Addr) : Bool := addr.firstSegment &&& 0xfe00 = 0xfc00

/-- fe80::/10 -/
def isUnicastLinkLocal (addr : Ipv6Addr) : Bool := addr.firstSegment &&& 0xffc0 = 0xfe80

/-- ff00::/8 -/
def isMulticast (addr : Ipv6Addr) : Bool := addr.firstSegment &&& 0xff00 = 0xff00

/-! ### Reading back what was printed -/

theorem readGroup_toDigits (segment : UInt16) :
    readGroup (Nat.toDigits 16 segment.toNat) = some segment := by
  have lt := segment.toNat_lt
  rw [readGroup, readNumber_toDigits (by decide) (by decide) (by decide) (by omega) (by omega)]
  simp

variable {segments : List UInt16}

theorem splitOn_subslice (some_ : segments ≠ []) : (subslice segments).splitOn ':' =
    segments.map fun segment => Nat.toDigits 16 segment.toNat := by
  apply List.splitOn_intercalate
  · rw [List.forall_mem_map]
    intro segment _
    exact ne_digit_of_mem (by decide) (by decide) (by decide)
  · simpa using some_

theorem subslice_ne_nil (some_ : segments ≠ []) : subslice segments ≠ [] := by
  intro empty
  have split := splitOn_subslice some_
  rw [empty] at split
  cases segments with
  | nil => exact some_ rfl
  | cons first rest =>
    rw [List.map_cons] at split
    have digits := (List.cons.inj split).1
    exact absurd (congrArg List.length digits) Nat.length_toDigits_pos.ne

theorem readHead_subslice (segments : List UInt16) : readHead (subslice segments) = some segments := by
  by_cases empty : segments = []
  · subst empty
    rfl
  · rw [readHead, if_neg (subslice_ne_nil empty), splitOn_subslice empty,
      mapM_map_of_inverse readGroup_toDigits]

theorem readTail_subslice (segments : List UInt16) : readTail (subslice segments) = some segments := by
  by_cases empty : segments = []
  · subst empty
    rfl
  · have noDot : Ipv4Addr.parse ((segments.map fun segment =>
        Nat.toDigits 16 segment.toNat).getLastD []) = none := by
      apply Ipv4Addr.parse_of_noDot
      rw [List.getLastD_eq_getLast?, List.getLast?_map]
      cases segments.getLast? with
      | none => simp
      | some segment => exact ne_digit_of_mem (by decide) (by decide) (by decide)
    simp only [readTail, if_neg (subslice_ne_nil empty), splitOn_subslice empty, noDot]
    exact mapM_map_of_inverse readGroup_toDigits segments

theorem cutDouble_cons {c : Char} (other : c ≠ ':') (rest : List Char) :
    cutDouble (c :: rest) = (cutDouble rest).map fun (before, after) => (c :: before, after) := by
  rw [cutDouble]
  rintro rest' rfl
  exact absurd rfl other

theorem cutDouble_colon {c : Char} (other : c ≠ ':') (rest : List Char) : cutDouble (':' :: c :: rest) =
    (cutDouble (c :: rest)).map fun (before, after) => (':' :: before, after) := by
  rw [cutDouble]
  rintro rest' - same
  exact absurd (List.cons.inj same).1 other

theorem cutDouble_word {word : List Char} (plain : ':' ∉ word) (rest : List Char) :
    cutDouble (word ++ rest) = (cutDouble rest).map fun (before, after) => (word ++ before, after) := by
  induction word with
  | nil => simp
  | cons c word ih =>
    rw [List.cons_append, cutDouble_cons (fun same => plain (by simp [same])),
      ih (fun mem => plain (List.mem_cons_of_mem _ mem)), Option.map_map]
    rfl

/-- Single colons between digits are passed over. -/
theorem cutDouble_subslice (segments : List UInt16) (rest : List Char) :
    cutDouble (subslice segments ++ rest) =
      (cutDouble rest).map fun (before, after) => (subslice segments ++ before, after) := by
  have plain (segment : UInt16) : ':' ∉ Nat.toDigits 16 segment.toNat :=
    ne_digit_of_mem (by decide) (by decide) (by decide)
  induction segments with
  | nil => simp [subslice]
  | cons first more ih =>
    cases more with
    | nil => simpa [subslice] using cutDouble_word (plain first) rest
    | cons second more =>
      have joined : subslice (first :: second :: more) =
          Nat.toDigits 16 first.toNat ++ ':' :: subslice (second :: more) := by
        simp [subslice]
      obtain ⟨c, tail, starts, other⟩ : ∃ c tail, subslice (second :: more) = c :: tail ∧ c ≠ ':' := by
        cases start : subslice (second :: more) with
        | nil => exact absurd start (subslice_ne_nil (List.cons_ne_nil second more))
        | cons c tail =>
          refine ⟨c, tail, rfl, ?_⟩
          rintro rfl
          have split := splitOn_subslice (List.cons_ne_nil second more)
          rw [start] at split
          have digits := (List.cons.inj (split.symm.trans (List.splitOn_append_cons_self [] tail))).1
          exact absurd (congrArg List.length digits) Nat.length_toDigits_pos.ne'
      rw [joined, List.append_assoc, cutDouble_word (plain first), List.cons_append]
      rw [starts] at ih ⊢
      rw [List.cons_append] at ih ⊢
      rw [cutDouble_colon other, ih, Option.map_map, Option.map_map]
      congr 1
      funext cut
      simp

/-- What the scan knows of the segments it has passed. -/
structure Scanned (segments : List UInt16) (scan : Scan) : Prop where
  position : scan.position = segments.length
  current : ∃ before, segments = before ++ List.replicate scan.current.len 0 ∧
    (scan.current.len ≠ 0 → before.length = scan.current.start)
  longest : ∃ before after, segments = before ++ List.replicate scan.longest.len 0 ++ after ∧
    (scan.longest.len ≠ 0 → before.length = scan.longest.start)

theorem scanned_step {scan : Scan} (scanned : Scanned segments scan) (segment : UInt16) :
    Scanned (segments ++ [segment]) (scan.step segment) := by
  obtain ⟨position, ⟨before, current, started⟩, ⟨front, back, longest, first⟩⟩ := scanned
  have next : ∃ before, segments ++ [segment] =
      before ++ List.replicate (scan.step segment).current.len 0 ∧
      ((scan.step segment).current.len ≠ 0 → before.length = (scan.step segment).current.start) := by
    by_cases zero : segment = 0
    · subst zero
      refine ⟨before, ?_, ?_⟩
      · simp only [Scan.step, if_true, List.replicate_succ']
        rw [← List.append_assoc, ← current]
      · intro _
        simp only [Scan.step, if_true]
        split
        case isTrue none_ =>
          rw [position, current, none_]
          simp
        case isFalse some_ => exact started some_
    · refine ⟨segments ++ [segment], ?_, ?_⟩
      · simp [Scan.step, zero]
      · simp [Scan.step, zero]
  refine ⟨by simp [Scan.step, position], next, ?_⟩
  obtain ⟨before', current', started'⟩ := next
  by_cases longer : scan.longest.len < (scan.step segment).current.len
  · have taken : (scan.step segment).longest = (scan.step segment).current := if_pos longer
    rw [taken]
    exact ⟨before', [], by rw [List.append_nil, ← current'], started'⟩
  · have kept : (scan.step segment).longest = scan.longest := if_neg longer
    rw [kept]
    exact ⟨front, back ++ [segment], by rw [longest]; simp, first⟩

theorem scanned (segments : List UInt16) : Scanned segments (segments.foldl Scan.step {}) := by
  induction segments using List.reverseRecOn with
  | nil => exact ⟨rfl, ⟨[], rfl, by simp⟩, ⟨[], [], rfl, by simp⟩⟩
  | append_singleton segments segment ih =>
    rw [List.foldl_append, List.foldl_cons, List.foldl_nil]
    exact scanned_step ih segment

/-- What is left out in the text is zero. -/
theorem take_zeroes_drop (segments : List UInt16) (some_ : 1 < (zeroes segments).len) :
    segments = segments.take (zeroes segments).start ++ List.replicate (zeroes segments).len 0 ++
      segments.drop ((zeroes segments).start + (zeroes segments).len) := by
  obtain ⟨-, -, before, after, split, started⟩ := scanned segments
  change segments = before ++ List.replicate (zeroes segments).len 0 ++ after at split
  have start : before.length = (zeroes segments).start := started (by
    change (zeroes segments).len ≠ 0
    omega)
  clear started
  generalize zeroes segments = zeroes at split start ⊢
  have front : segments.take zeroes.start = before := by
    rw [split, List.append_assoc]
    exact List.take_left' start
  have back : segments.drop (zeroes.start + zeroes.len) = after := by
    rw [split]
    exact List.drop_left' (by simp [start])
  rw [front, back, ← split]

theorem join_bytes (word : UInt16) :
    (word / 256).toUInt8.toUInt16 * 256 + word.toUInt8.toUInt16 = word := by
  have lt := word.toNat_lt
  apply UInt16.toNat_inj.mp
  simp
  omega

theorem segments_of_mapped {addr : Ipv6Addr} {ipv4 : Ipv4Addr} (mapped : addr.toIpv4Mapped = some ipv4) :
    addr.segments = [0, 0, 0, 0, 0, 0xffff, ipv4.a.toUInt16 * 256 + ipv4.b.toUInt16,
      ipv4.c.toUInt16 * 256 + ipv4.d.toUInt16] := by
  unfold toIpv4Mapped at mapped
  split at mapped
  case h_1 ab cd segments =>
    obtain rfl := Option.some.inj mapped
    rw [segments, join_bytes, join_bytes]
  case h_2 => cases mapped

theorem colon_notMem_text (addr : Ipv4Addr) : ':' ∉ addr.text := by
  intro mem
  rcases Ipv4Addr.mem_of_parse addr.parse_text ':' mem with dot | digit
  · exact absurd dot (by decide)
  · exact absurd digit (by decide)

theorem readTail_mapped (addr : Ipv4Addr) : readTail (['f', 'f', 'f', 'f', ':'] ++ addr.text) =
    some [0xffff, addr.a.toUInt16 * 256 + addr.b.toUInt16, addr.c.toUInt16 * 256 + addr.d.toUInt16] := by
  have parts : (['f', 'f', 'f', 'f', ':'] ++ addr.text).splitOn ':' = [['f', 'f', 'f', 'f'], addr.text] := by
    rw [show ['f', 'f', 'f', 'f', ':'] ++ addr.text = ['f', 'f', 'f', 'f'] ++ ':' :: addr.text from rfl,
      List.splitOn_append_cons_self_of_not_mem (by decide),
      List.splitOn_eq_singleton (colon_notMem_text addr)]
  have first : [['f', 'f', 'f', 'f']].mapM readGroup = some [0xffff] := by decide
  simp only [readTail, parts, List.getLastD_cons, List.getLastD_nil, addr.parse_text,
    List.dropLast_cons_cons, List.dropLast_singleton, first]
  rfl

theorem text_of_mapped {addr : Ipv6Addr} {ipv4 : Ipv4Addr} (mapped : addr.toIpv4Mapped = some ipv4) :
    addr.text = [':', ':', 'f', 'f', 'f', 'f', ':'] ++ ipv4.text := by
  simp only [text, mapped]

theorem ext_segments {a b : Ipv6Addr} (same : a.segments = b.segments) : a = b := by
  cases a
  cases b
  cases same
  rfl

theorem parse_text (addr : Ipv6Addr) : parse addr.text = some addr := by
  cases mapped : addr.toIpv4Mapped with
  | some ipv4 =>
    have cut : cutDouble addr.text = some ([], ['f', 'f', 'f', 'f', ':'] ++ ipv4.text) := by
      rw [text_of_mapped mapped]
      rfl
    have head : readHead [] = some [] := rfl
    simp only [parse, cut, head, readTail_mapped, bind, Option.bind_some]
    rw [dif_pos (by simp)]
    exact congrArg some (ext_segments (segments_of_mapped mapped).symm)
  | none =>
    by_cases compressed : 1 < (zeroes addr.segments).len
    · have shown : addr.text = subslice (addr.segments.take (zeroes addr.segments).start) ++
          ':' :: ':' :: subslice (addr.segments.drop
            ((zeroes addr.segments).start + (zeroes addr.segments).len)) := by
        simp only [text, mapped, if_pos compressed]
      have split := take_zeroes_drop addr.segments compressed
      have lengths := congrArg List.length split
      simp only [List.length_append, List.length_replicate, addr.eight] at lengths
      simp only [parse, shown, cutDouble_subslice, cutDouble, Option.map_some, List.append_nil,
        readHead_subslice, readTail_subslice, bind, Option.bind_some]
      rw [dif_pos (by omega)]
      have left_out : 8 - ((addr.segments.take (zeroes addr.segments).start).length +
          (addr.segments.drop ((zeroes addr.segments).start + (zeroes addr.segments).len)).length) =
            (zeroes addr.segments).len := by omega
      exact congrArg some (ext_segments ((congrArg (fun n => _ ++ List.replicate n 0 ++ _)
        left_out).trans split.symm))
    · have shown : addr.text = subslice addr.segments := by
        simp only [text, mapped, if_neg compressed]
      have cut : cutDouble (subslice addr.segments) = none := by
        have plain := cutDouble_subslice addr.segments []
        rwa [List.append_nil] at plain
      simp only [parse, shown, cut, readTail_subslice, bind, Option.bind_some]
      rw [dif_pos addr.eight]

theorem colon_mem_text (addr : Ipv6Addr) : ':' ∈ addr.text := by
  unfold text
  split
  · simp
  · simp only
    split
    · simp
    · have eight := addr.eight
      match segments : addr.segments with
      | [] | [_] => simp [segments] at eight
      | first :: second :: more => simp [subslice]

end Ipv6Addr

/-! ## Either -/

namespace IpAddr

/-- `Display`. -/
def display : IpAddr → String
  | .v4 addr => String.ofList addr.text
  | .v6 addr => String.ofList addr.text

/-- `str::parse::<IpAddr>`. -/
def parse (text : String) : Option IpAddr :=
  match Ipv4Addr.parse text.toList with
  | some addr => some (.v4 addr)
  | none => (Ipv6Addr.parse text.toList).map .v6

theorem parse_display (addr : IpAddr) : parse addr.display = some addr := by
  cases addr with
  | v4 addr => simp only [parse, display, String.toList_ofList, addr.parse_text]
  | v6 addr =>
    simp only [parse, display, String.toList_ofList, addr.parse_text,
      Ipv4Addr.parse_of_colon addr.colon_mem_text, Option.map_some]

theorem display_injective : Function.Injective display := by
  intro a b same
  have parsed := congrArg parse same
  rw [parse_display, parse_display] at parsed
  exact Option.some.inj parsed

end IpAddr

/-- `str::parse::<SocketAddr>` for `a.b.c.d:port`. -/
def parseSocketV4 (text : List Char) : Option Ipv4Addr :=
  match text.splitOn ':' with
  | [ip, port] => (readNumber 10 none true 65535 port).bind fun _ => Ipv4Addr.parse ip
  | _ => none

/-- The address and the optional scope between brackets. -/
def parseScoped (text : List Char) : Option Ipv6Addr :=
  match text.dropWhile (· ≠ '%') with
  | [] => Ipv6Addr.parse text
  | _ :: scope =>
    (readNumber 10 none true (2 ^ 32 - 1) scope).bind fun _ => Ipv6Addr.parse (text.takeWhile (· ≠ '%'))

/-- `str::parse::<SocketAddr>` for `[address%scope]:port`. -/
def parseSocketV6 : List Char → Option Ipv6Addr
  | '[' :: rest =>
    match rest.dropWhile (· ≠ ']') with
    | ']' :: ':' :: port =>
      (readNumber 10 none true 65535 port).bind fun _ => parseScoped (rest.takeWhile (· ≠ ']'))
    | _ => none
  | _ => none

/-- The address of a parsed `SocketAddr`. -/
def parseSocketAddr (text : String) : Option IpAddr :=
  match parseSocketV4 text.toList with
  | some addr => some (.v4 addr)
  | none => (parseSocketV6 text.toList).map .v6

example : (parseSocketAddr "[2001:db8:85a3::8a2e:370:7334]:30303").map IpAddr.display =
    some "2001:db8:85a3::8a2e:370:7334" := by decide

example : (IpAddr.parse "0:0:1:0:0:0:a00:1").map IpAddr.display = some "0:0:1::a00:1" := by decide

example : IpAddr.parse "10.0.0.01" = none := by decide

end Net
