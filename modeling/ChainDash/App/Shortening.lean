import ChainDash.App.Helpers

/-!
# Texts shortened to a width

Host names and addresses are cut in the middle to fit the width of a panel. Both functions
keep a shortest suffix and so exceed the narrowest widths; `shortened_fits_iff` says which.
-/

namespace ChainDash.App
set_option autoImplicit false

/-- The text `format!("{}…{}", prefix_chars(value, …), suffix_chars(value, …))`. -/
def cutMiddle (value : String) (prefixLen suffixLen : ℕ) : String :=
  prefixChars value prefixLen ++ "…" ++ suffixChars value suffixLen

/-- `usize::clamp`. -/
def clamp (value lo hi : ℕ) : ℕ := if value < lo then lo else if hi < value then hi else value

/-- `NodeWidget::shorten_host_for_width`. -/
def shortenHostForWidth (host : String) (maxLen : ℕ) : String :=
  let minSuffixLen := 4
  let maxSuffixLen := 8
  -- Without a port, or without room for it.
  let cut :=
    let suffixLen := clamp ((maxLen - 1) / 3) minSuffixLen maxSuffixLen
    let prefixLen := maxLen - (suffixLen + 1)
    cutMiddle host prefixLen suffixLen
  if maxLen = 0 then ""
  else if host.length ≤ maxLen then host
  else
    match Text.rsplitOnce ':' host with
    | some (base, port) =>
      if base ≠ "" ∧ port ≠ "" ∧ port.toList.all Char.isDigit then
        let suffix := ":" ++ port
        let suffixLen := suffix.length
        if maxLen > suffixLen + 1 then
          let prefixLen := maxLen - (suffixLen + 1)
          prefixChars base prefixLen ++ "…" ++ suffix
        else cut
      else cut
    | none => cut

/-- `NodeDetailWidget::shorten_address`. -/
def shortenAddress (address : String) : String :=
  let maxLen := 24
  let prefixLen := 10
  let suffixLen := 8
  if address.length ≤ maxLen then address else cutMiddle address prefixLen suffixLen

/-- `NodeDetailWidget::shorten_address_for_width`. -/
def shortenAddressForWidth (address : String) (maxLen : ℕ) : String :=
  let minPrefixLen := 8
  let maxSuffixLen := 8
  let minSuffixLen := 6
  if maxLen = 0 ∨ address.length ≤ maxLen then address
  else if maxLen ≤ minPrefixLen + minSuffixLen + 1 then shortenAddress address
  else
    let suffixLen := clamp ((maxLen - 1) / 3) minSuffixLen maxSuffixLen
    let prefixLen := maxLen - (suffixLen + 1)
    cutMiddle address prefixLen suffixLen

/-- `output` is `input` shortened to `maxLen` characters: the same where it fits, else a prefix
and a suffix that do not overlap, around an ellipsis. -/
structure Fits (input output : String) (maxLen : ℕ) : Prop where
  length_le : output.length ≤ maxLen
  unchanged : input.length ≤ maxLen → output = input
  cut : maxLen < input.length → ∃ start middle finish,
    input = start ++ middle ++ finish ∧ output = start ++ "…" ++ finish

theorem Fits.self {text : String} {maxLen : ℕ} (short : text.length ≤ maxLen) :
    Fits text text maxLen :=
  ⟨short, fun _ => rfl, fun long => absurd short (Nat.not_le.mpr long)⟩

theorem not_fits_of_long {input output : String} {maxLen : ℕ} (long : maxLen < output.length) :
    ¬Fits input output maxLen :=
  fun fits => absurd fits.length_le (Nat.not_le.mpr long)

/-! ## Cutting the middle out -/

theorem length_prefixChars (value : String) (maxChars : ℕ) :
    (prefixChars value maxChars).length = min maxChars value.length := by
  rw [← String.length_toList, toList_prefixChars, List.length_take, String.length_toList]

theorem length_suffixChars (value : String) (maxChars : ℕ) :
    (suffixChars value maxChars).length = min maxChars value.length := by
  rw [← String.length_toList, toList_suffixChars, List.length_drop, String.length_toList]
  omega

theorem length_cutMiddle (value : String) (prefixLen suffixLen : ℕ) :
    (cutMiddle value prefixLen suffixLen).length =
      min prefixLen value.length + 1 + min suffixLen value.length := by
  rw [cutMiddle, String.length_append, String.length_append, length_prefixChars, length_suffixChars]
  rfl

/-- A text around the cut. -/
theorem cutMiddle_parts {value : String} {prefixLen suffixLen : ℕ}
    (apart : prefixLen + suffixLen ≤ value.length) :
    ∃ middle, value = prefixChars value prefixLen ++ middle ++ suffixChars value suffixLen := by
  refine ⟨String.ofList ((value.toList.drop prefixLen).take
    (value.length - prefixLen - suffixLen)), ?_⟩
  apply String.toList_inj.mp
  rw [String.toList_append, String.toList_append, toList_prefixChars, toList_suffixChars,
    String.toList_ofList]
  have from_cut : value.toList.drop (value.length - suffixLen) =
      (value.toList.drop prefixLen).drop (value.length - prefixLen - suffixLen) := by
    rw [List.drop_drop]
    congr 1
    omega
  rw [from_cut, List.append_assoc, List.take_append_drop, List.take_append_drop]

theorem fits_cutMiddle {value : String} {prefixLen suffixLen maxLen : ℕ}
    (sum : prefixLen + suffixLen + 1 = maxLen) (long : maxLen < value.length) :
    Fits value (cutMiddle value prefixLen suffixLen) maxLen := by
  obtain ⟨middle, parts⟩ := cutMiddle_parts (show prefixLen + suffixLen ≤ value.length by omega)
  constructor
  case length_le =>
    rw [length_cutMiddle]
    omega
  case unchanged => exact fun short => absurd short (Nat.not_le.mpr long)
  case cut => exact fun _ => ⟨_, middle, _, parts, rfl⟩

/-! ## Hosts -/

theorem clamp_bounds (value : ℕ) {lo hi : ℕ} (order : lo ≤ hi) :
    lo ≤ clamp value lo hi ∧ clamp value lo hi ≤ max lo value ∧ clamp value lo hi ≤ hi := by
  unfold clamp
  split
  · omega
  · split <;> omega

/-- What `shortenHostForWidth` returns for a longer host without a port, or without room for
it. -/
def cutHost (host : String) (maxLen : ℕ) : String :=
  cutMiddle host (maxLen - (clamp ((maxLen - 1) / 3) 4 8 + 1)) (clamp ((maxLen - 1) / 3) 4 8)

theorem fits_cutHost_iff {host : String} {maxLen : ℕ} (long : maxLen < host.length)
    (positive : 1 ≤ maxLen) : Fits host (cutHost host maxLen) maxLen ↔ 5 ≤ maxLen := by
  have bounds := clamp_bounds ((maxLen - 1) / 3) (show 4 ≤ 8 by omega)
  constructor
  · intro fits
    by_contra narrow
    refine not_fits_of_long ?_ fits
    rw [cutHost, length_cutMiddle]
    omega
  · intro wide
    apply fits_cutMiddle _ long
    omega

/-- The port is kept whole. -/
structure KeepsPort (host : String) (maxLen : ℕ) (base port : String) : Prop where
  split : Text.rsplitOnce ':' host = some (base, port)
  someBase : base ≠ ""
  somePort : port ≠ ""
  digits : port.toList.all Char.isDigit
  room : (":" ++ port).length + 1 < maxLen

theorem KeepsPort.parts {host base port : String} {maxLen : ℕ} (keeps : KeepsPort host maxLen base port) :
    host = base ++ (":" ++ port) := by
  have whole := (Text.rsplitOnce_eq_some_iff.mp keeps.split).1
  apply String.toList_inj.mp
  rw [whole, String.toList_append, String.toList_append]
  rfl

theorem length_port (port : String) : (":" ++ port).length = port.length + 1 := by
  rw [String.length_append, Nat.add_comm]
  rfl

theorem length_pos_of_ne_empty {text : String} (nonempty : text ≠ "") : 0 < text.length := by
  rw [← String.length_toList]
  apply List.length_pos_iff.mpr
  intro empty
  exact nonempty (String.toList_inj.mp empty)

theorem fits_port {host base port : String} {maxLen : ℕ} (long : maxLen < host.length)
    (keeps : KeepsPort host maxLen base port) :
    Fits host (prefixChars base (maxLen - ((":" ++ port).length + 1)) ++ "…" ++ (":" ++ port))
      maxLen := by
  have parts := keeps.parts
  have room := keeps.room
  have whole : host.length = base.length + (":" ++ port).length := by
    rw [parts, String.length_append]
  constructor
  case length_le =>
    rw [String.length_append, String.length_append, length_prefixChars,
      show "…".length = 1 from rfl]
    omega
  case unchanged => exact fun short => absurd short (Nat.not_le.mpr long)
  case cut =>
    intro _
    obtain ⟨middle, base_parts⟩ :=
      cutMiddle_parts (show maxLen - ((":" ++ port).length + 1) + 0 ≤ base.length by omega)
    refine ⟨_, middle, _, ?_, rfl⟩
    have nothing : suffixChars base 0 = "" := rfl
    rw [nothing, String.append_empty] at base_parts
    rw [← base_parts]
    exact parts

theorem shortenHostForWidth_cases {host : String} {maxLen : ℕ} (long : maxLen < host.length)
    (positive : 1 ≤ maxLen) :
    (∃ base port, KeepsPort host maxLen base port ∧ shortenHostForWidth host maxLen =
        prefixChars base (maxLen - ((":" ++ port).length + 1)) ++ "…" ++ (":" ++ port)) ∨
      (¬∃ base port, KeepsPort host maxLen base port) ∧
        shortenHostForWidth host maxLen = cutHost host maxLen := by
  unfold shortenHostForWidth
  simp only
  rw [if_neg (by omega), if_neg (by omega)]
  split
  case h_1 base port split =>
    by_cases port_ok : base ≠ "" ∧ port ≠ "" ∧ port.toList.all Char.isDigit
    · obtain ⟨someBase, somePort, digits⟩ := port_ok
      rw [if_pos ⟨someBase, somePort, digits⟩]
      by_cases room : maxLen > (":" ++ port).length + 1
      · rw [if_pos room]
        exact Or.inl ⟨base, port, ⟨split, someBase, somePort, digits, room⟩, rfl⟩
      · rw [if_neg room]
        refine Or.inr ⟨?_, rfl⟩
        rintro ⟨base', port', keeps⟩
        obtain ⟨rfl, rfl⟩ := Prod.mk.inj (Option.some.inj (split.symm.trans keeps.split))
        exact room keeps.room
    · rw [if_neg port_ok]
      refine Or.inr ⟨?_, rfl⟩
      rintro ⟨base', port', keeps⟩
      obtain ⟨rfl, rfl⟩ := Prod.mk.inj (Option.some.inj (split.symm.trans keeps.split))
      exact port_ok ⟨keeps.someBase, keeps.somePort, keeps.digits⟩
  case h_2 split =>
    refine Or.inr ⟨?_, rfl⟩
    rintro ⟨base, port, keeps⟩
    rw [keeps.split] at split
    cases split

/-- A host that ends in a port of one digit. -/
def EndsInDigitPort (host : String) : Prop :=
  ∃ base digit, base ≠ "" ∧ Char.isDigit digit ∧ host = base ++ (":" ++ String.singleton digit)

theorem keepsPort_four_iff {host : String} :
    (∃ base port, KeepsPort host 4 base port) ↔ EndsInDigitPort host := by
  constructor
  · rintro ⟨base, port, keeps⟩
    have room := keeps.room
    have positive := length_pos_of_ne_empty keeps.somePort
    rw [length_port] at room
    have one : port.toList.length = 1 := by
      rw [String.length_toList]
      omega
    obtain ⟨digit, single⟩ := List.length_eq_one_iff.mp one
    have port_eq : port = String.singleton digit := by
      apply String.toList_inj.mp
      rw [single, String.toList_singleton]
    refine ⟨base, digit, keeps.someBase, ?_, ?_⟩
    · simpa [single] using keeps.digits
    · rw [← port_eq]
      exact keeps.parts
  · rintro ⟨base, digit, someBase, isDigit, rfl⟩
    refine ⟨base, String.singleton digit, ?_, someBase, ?_, ?_, ?_⟩
    · rw [Text.rsplitOnce_eq_some_iff, String.toList_append, String.toList_append,
        String.toList_singleton]
      refine ⟨rfl, ?_⟩
      rw [List.mem_singleton]
      rintro rfl
      exact absurd isDigit (by decide)
    · intro empty
      have := congrArg String.toList empty
      rw [String.toList_singleton] at this
      cases this
    · rw [String.toList_singleton]
      simpa using isDigit
    · rw [length_port, ← String.length_toList, String.toList_singleton, List.length_singleton]
      omega

theorem shortenHostForWidth_fits_iff {host : String} {maxLen : ℕ} (positive : 1 ≤ maxLen) :
    Fits host (shortenHostForWidth host maxLen) maxLen ↔
      host.length ≤ maxLen ∨ 5 ≤ maxLen ∨ maxLen = 4 ∧ EndsInDigitPort host := by
  by_cases short : host.length ≤ maxLen
  · have same : shortenHostForWidth host maxLen = host := by
      unfold shortenHostForWidth
      simp only
      rw [if_neg (by omega), if_pos short]
    rw [same]
    exact iff_of_true (Fits.self short) (Or.inl short)
  · have long := Nat.not_le.mp short
    rcases shortenHostForWidth_cases long positive with ⟨base, port, keeps, text⟩ | ⟨none, text⟩
    · rw [text]
      refine iff_of_true (fits_port long keeps) (Or.inr ?_)
      have room := keeps.room
      have positive' := length_pos_of_ne_empty keeps.somePort
      rw [length_port] at room
      rcases Nat.lt_or_ge maxLen 5 with narrow | wide
      · obtain rfl : maxLen = 4 := by omega
        exact Or.inr ⟨rfl, keepsPort_four_iff.mp ⟨base, port, keeps⟩⟩
      · exact Or.inl wide
    · rw [text, fits_cutHost_iff long positive]
      constructor
      · exact fun wide => Or.inr (Or.inl wide)
      · rintro (fits | wide | ⟨rfl, ends⟩)
        · exact absurd fits short
        · exact wide
        · exact absurd (keepsPort_four_iff.mpr ends) none

/-! ## Addresses -/

theorem shortenAddress_long {address : String} {maxLen : ℕ} (long : maxLen < address.length)
    (narrow : maxLen ≤ 15) : maxLen < (shortenAddress address).length := by
  unfold shortenAddress
  simp only
  split
  · exact long
  · rw [length_cutMiddle]
    omega

theorem shortenAddressForWidth_fits_iff {address : String} {maxLen : ℕ} (positive : 1 ≤ maxLen) :
    Fits address (shortenAddressForWidth address maxLen) maxLen ↔
      address.length ≤ maxLen ∨ 16 ≤ maxLen := by
  unfold shortenAddressForWidth
  simp only
  by_cases short : address.length ≤ maxLen
  · rw [if_pos (Or.inr short)]
    exact iff_of_true (Fits.self short) (Or.inl short)
  · have long := Nat.not_le.mp short
    rw [if_neg (by omega)]
    by_cases narrow : maxLen ≤ 15
    · rw [if_pos narrow]
      refine iff_of_false (not_fits_of_long (shortenAddress_long long narrow)) ?_
      omega
    · rw [if_neg narrow]
      have bounds := clamp_bounds ((maxLen - 1) / 3) (show 6 ≤ 8 by omega)
      refine iff_of_true (fits_cutMiddle ?_ long) (Or.inr (by omega))
      omega

/-- Which texts are shortened to the width: all of them from 5 characters on for a host (from 4
on, if it ends in a port of one digit) and from 16 characters on for an address. -/
theorem shortened_fits_iff (host address : String) (maxLen : ℕ) (positive : 1 ≤ maxLen) :
    (Fits host (shortenHostForWidth host maxLen) maxLen ↔
      host.length ≤ maxLen ∨ 5 ≤ maxLen ∨ maxLen = 4 ∧ EndsInDigitPort host) ∧
    (Fits address (shortenAddressForWidth address maxLen) maxLen ↔
      address.length ≤ maxLen ∨ 16 ≤ maxLen) :=
  ⟨shortenHostForWidth_fits_iff positive, shortenAddressForWidth_fits_iff positive⟩

theorem shortened_fits_iff_sixteen :
    Fits "验证节点.example.internal:6790"
        (shortenHostForWidth "验证节点.example.internal:6790" 16) 16 ∧
      Fits "lat1zytcgvw35sagn722cneh6sz92y8j3dp8gqj5h"
        (shortenAddressForWidth "lat1zytcgvw35sagn722cneh6sz92y8j3dp8gqj5h" 16) 16 := by
  have both := shortened_fits_iff "验证节点.example.internal:6790"
    "lat1zytcgvw35sagn722cneh6sz92y8j3dp8gqj5h" 16 (by omega)
  exact ⟨both.1.mpr (Or.inr (Or.inl (by omega))), both.2.mpr (Or.inr (by omega))⟩

/-- An address column at its least width, 14 with a blank, and a host in four columns. -/
theorem shortened_too_long :
    shortenAddressForWidth "lat1zytcgvw35sagn722cneh6sz92y8j3dp8gqj5h" 13 = "lat1zytcgv…dp8gqj5h" ∧
    ¬Fits "lat1zytcgvw35sagn722cneh6sz92y8j3dp8gqj5h"
      (shortenAddressForWidth "lat1zytcgvw35sagn722cneh6sz92y8j3dp8gqj5h" 13) 13 ∧
    shortenHostForWidth "192.168.1.100" 4 = "….100" ∧
    ¬Fits "192.168.1.100" (shortenHostForWidth "192.168.1.100" 4) 4 :=
  ⟨by decide, not_fits_of_long (by decide), by decide, not_fits_of_long (by decide)⟩

end ChainDash.App
