import ChainDash.Lib.Text

/-!
# Finding the mounts

`discover_mount_points` reads the mount points off `/proc/mounts`, and the collector keeps
the disks whose paths are among them. The kernel writes blanks, tabs, newlines and
backslashes in a field as octal codes, which are not decoded: `discoverMountPoints_exact`
says for which tables the paths found are the real ones.
-/

namespace ChainDash.Collect
set_option autoImplicit false

open Text (isWhitespace)

/-! ## Discovery -/

structure MountPointInfo where
  mountPoint : String
  deriving DecidableEq

/-- What `sysinfo` reports of a disk, as far as the selection reads it. -/
structure Disk where
  mountPoint : String
  fileSystem : String

/-- The names that `is_special_filesystem` compares with. -/
def specialNames : List String :=
  ["proc", "sysfs", "tmpfs", "devtmpfs", "cgroup", "cgroup2", "overlay", "devpts", "mqueue",
    "hugetlbfs", "securityfs", "pstore", "debugfs", "tracefs", "fusectl", "configfs",
    "binfmt_misc", "autofs", "rpc_pipefs", "efivarfs", "bpf"]

/-- `is_special_filesystem`. -/
def isSpecialFilesystem (filesystem : String) : Bool :=
  let fsLower := Text.toLowercase filesystem
  specialNames.contains fsLower || Text.contains fsLower "fuse" || Text.startsWith fsLower "cgroup"

/-- The mount point that a line of `/proc/mounts` adds to the list. -/
def mountPointOfLine (line : String) : Option MountPointInfo :=
  let parts := Text.splitWhitespace line
  match parts with
  | _ :: mountPoint :: filesystem :: _ =>
    if !isSpecialFilesystem filesystem then some { mountPoint } else none
  | _ => none

/-- `discover_mount_points_fallback`. -/
def discoverMountPointsFallback (disks : List Disk) : List MountPointInfo :=
  disks.filterMap fun disk =>
    if !isSpecialFilesystem disk.fileSystem then some { mountPoint := disk.mountPoint } else none

/-- `discover_mount_points`; `file` holds the lines of `/proc/mounts` as they are read, if it
could be opened, and `disks` are what `sysinfo` lists. -/
def discoverMountPoints {ε : Type} (file : Option (List (Except ε String))) (disks : List Disk) :
    Except ε (List MountPointInfo) :=
  match file with
  | none => .ok (discoverMountPointsFallback disks)
  | some lines =>
    lines.foldlM (fun mountPoints line => do
      let line ← line
      return mountPoints ++ (mountPointOfLine line).toList) []

/-- The mount points that `collect_system_stats` monitors. -/
def mountPointsToMonitor (autoDiscoveryEnabled : Bool) (discovered configured : List String) :
    List String :=
  if autoDiscoveryEnabled then
    configured.foldl (fun allPoints point =>
      if !allPoints.contains point then allPoints ++ [point] else allPoints) discovered
  else configured

/-- The disks of which it collects the details. -/
def monitoredDisks (mountPoints : List String) (disks : List Disk) : List Disk :=
  disks.filter fun disk => mountPoints.contains disk.mountPoint

/-! ## What the kernel writes -/

/-- A mount; `rest` are the fields after the type. -/
structure Mount where
  device : String
  mountPoint : String
  filesystem : String
  rest : List String

/-- The octal codes. -/
def octal (c : Char) : Option (List Char) :=
  if c = ' ' then some ['\\', '0', '4', '0']
  else if c = '\t' then some ['\\', '0', '1', '1']
  else if c = '\n' then some ['\\', '0', '1', '2']
  else if c = '\\' then some ['\\', '1', '3', '4']
  else none

/-- A field as it is written. -/
def mangle (field : String) : List Char := Words.escape octal field.toList

def Mount.fields (mount : Mount) : List String :=
  mount.device :: mount.mountPoint :: mount.filesystem :: mount.rest

def Mount.line (mount : Mount) : List Char := [' '].intercalate (mount.fields.map mangle)

/-- The text of `/proc/mounts`. -/
def procMounts (table : List Mount) : String :=
  String.ofList (table.flatMap fun mount => mount.line ++ ['\n'])

/-- The mount points of the mounts that are not special, as they really are. -/
def realMountPoints (table : List Mount) : List MountPointInfo :=
  (table.filter fun mount => !isSpecialFilesystem mount.filesystem).map fun mount =>
    { mountPoint := mount.mountPoint }

/-- The words that a field is read as. -/
def fieldWords (field : String) : List (List Char) := Words.words isWhitespace (mangle field)

/-- The fields can be told apart: the device is read as one word, the path begins with one, and
the type with one that is special if the type is. -/
structure Mount.Regular (mount : Mount) : Prop where
  device : ∃ word, fieldWords mount.device = [word]
  path : fieldWords mount.mountPoint ≠ []
  type : ∃ word more, fieldWords mount.filesystem = word :: more ∧
    isSpecialFilesystem (String.ofList word) = isSpecialFilesystem mount.filesystem

/-- A special mount is passed over if no second word of its path is taken for its type; any
other is found if its path holds no white space and no backslash. -/
def Mount.Kept (mount : Mount) : Prop :=
  if isSpecialFilesystem mount.filesystem then
    ∀ word ∈ (fieldWords mount.mountPoint)[1]?, isSpecialFilesystem (String.ofList word)
  else ∀ c ∈ mount.mountPoint.toList, ¬isWhitespace c ∧ c ≠ '\\'

/-! ## Codes -/

theorem octal_eq_some {c : Char} {written : List Char} (coded : octal c = some written) :
    (c = ' ' ∨ c = '\t' ∨ c = '\n' ∨ c = '\\') ∧
      ∃ a b d, written = ['\\', a, b, d] ∧ (∀ e ∈ written, e ∈ ['\\', '0', '1', '2', '3', '4']) := by
  unfold octal at coded
  split at coded
  case isTrue h =>
    cases coded
    exact ⟨Or.inl h, _, _, _, rfl, Words.forall_mem_of_all (by decide)⟩
  case isFalse =>
    split at coded
    case isTrue h =>
      cases coded
      exact ⟨Or.inr (Or.inl h), _, _, _, rfl, Words.forall_mem_of_all (by decide)⟩
    case isFalse =>
      split at coded
      case isTrue h =>
        cases coded
        exact ⟨Or.inr (Or.inr (Or.inl h)), _, _, _, rfl, Words.forall_mem_of_all (by decide)⟩
      case isFalse =>
        split at coded
        case isTrue h =>
          cases coded
          exact ⟨Or.inr (Or.inr (Or.inr h)), _, _, _, rfl, Words.forall_mem_of_all (by decide)⟩
        case isFalse => cases coded

theorem octal_eq_none_iff {c : Char} :
    octal c = none ↔ c ≠ ' ' ∧ c ≠ '\t' ∧ c ≠ '\n' ∧ c ≠ '\\' := by
  unfold octal
  split
  · simp_all
  · split
    · simp_all
    · split
      · simp_all
      · split <;> simp_all

theorem longCodes_octal : Words.LongCodes octal := by
  intro c written coded
  obtain ⟨-, a, b, d, rfl, -⟩ := octal_eq_some coded
  simp

/-- Separators are never written into a field: a field is written without blanks, tabs and
newlines, and the other white space is what it held itself. -/
theorem mem_mangle {c : Char} {field : String} (mem : c ∈ mangle field) (white : isWhitespace c) :
    c ∈ field.toList ∧ octal c = none := by
  rcases Words.mem_escape mem with own | ⟨origin, written, coded, inside⟩
  · exact own
  · obtain ⟨-, a, b, d, -, chars⟩ := octal_eq_some coded
    have char := chars c inside
    have each : ∀ e ∈ ['\\', '0', '1', '2', '3', '4'], isWhitespace e = false :=
      Words.forall_mem_of_all (by decide)
    rw [each c char] at white
    cases white

theorem newline_notMem_mangle (field : String) : '\n' ∉ mangle field := by
  intro mem
  have plain := (mem_mangle mem (by decide)).2
  exact absurd plain (by decide)

/-! ## Lines -/

theorem newline_notMem_line (mount : Mount) : '\n' ∉ mount.line := by
  apply Words.notMem_intercalate (by decide)
  intro field mem
  obtain ⟨text, -, rfl⟩ := List.mem_map.mp mem
  exact newline_notMem_mangle text

/-- The lines of the text are those that were written, but for a carriage return at the end. -/
theorem lines_procMounts (table : List Mount) :
    Text.lines (procMounts table) =
      table.map fun mount => String.ofList (Text.stripCarriageReturn mount.line) := by
  have pieces : (table.flatMap fun mount => mount.line ++ ['\n']).splitOn '\n' =
      table.map Mount.line ++ [[]] := by
    induction table with
    | nil => rfl
    | cons mount table ih =>
      rw [List.flatMap_cons, List.append_assoc, List.singleton_append,
        List.splitOn_append_cons_self_of_not_mem (newline_notMem_line mount), ih]
      rfl
  unfold Text.lines procMounts
  simp only [String.toList_ofList, pieces, List.dropLast_concat, List.getLast?_append,
    List.getLast?_singleton]
  simp

theorem discoverMountPoints_lines {ε : Type} (lines : List String) (disks : List Disk) :
    discoverMountPoints (some (lines.map fun line => (Except.ok line : Except ε String))) disks =
      .ok (lines.flatMap fun line => (mountPointOfLine line).toList) := by
  have loop : ∀ (lines : List String) (mountPoints : List MountPointInfo),
      (lines.map fun line => (Except.ok line : Except ε String)).foldlM
        (fun mountPoints line => do
          let line ← line
          return mountPoints ++ (mountPointOfLine line).toList) mountPoints =
      .ok (mountPoints ++ lines.flatMap fun line => (mountPointOfLine line).toList) := by
    intro lines
    induction lines with
    | nil =>
      intro mountPoints
      simp only [List.map_nil, List.foldlM_nil, List.flatMap_nil, List.append_nil]
      rfl
    | cons line lines ih =>
      intro mountPoints
      rw [List.map_cons, List.foldlM_cons, List.flatMap_cons, ← List.append_assoc]
      exact ih (mountPoints ++ (mountPointOfLine line).toList)
  exact loop lines []

/-- What a written line adds. -/
def Mount.found (mount : Mount) : List MountPointInfo :=
  (mountPointOfLine (String.ofList (Text.stripCarriageReturn mount.line))).toList

theorem splitWhitespace_strip (line : List Char) :
    Text.splitWhitespace (String.ofList (Text.stripCarriageReturn line)) =
      (Words.words isWhitespace line).map String.ofList := by
  unfold Text.splitWhitespace Text.stripCarriageReturn
  rw [String.toList_ofList]
  split
  case isTrue ends =>
    obtain ⟨before, rfl⟩ := List.getLast?_eq_some_iff.mp ends
    rw [List.dropLast_concat, Words.words_concat (by decide)]
  case isFalse => rfl

theorem words_line (mount : Mount) :
    Words.words isWhitespace mount.line = mount.fields.flatMap fieldWords := by
  rw [Mount.line, Words.words_intercalate (by decide), List.flatMap_map]
  rfl

/-- The first word of the path is found, unless the word after it, its second one or the first
of the type, is special. -/
theorem found_eq {mount : Mount} (regular : mount.Regular) :
    ∃ first more word, fieldWords mount.mountPoint = first :: more ∧
      isSpecialFilesystem (String.ofList word) = isSpecialFilesystem mount.filesystem ∧
      mount.found = if isSpecialFilesystem (String.ofList (more.headD word)) then []
        else [{ mountPoint := String.ofList first }] := by
  obtain ⟨device, deviceWords⟩ := regular.device
  obtain ⟨first, more, pathWords⟩ := List.exists_cons_of_ne_nil regular.path
  obtain ⟨word, others, typeWords, tells⟩ := regular.type
  refine ⟨first, more, word, pathWords, tells, ?_⟩
  have parts : Text.splitWhitespace (String.ofList (Text.stripCarriageReturn mount.line)) =
      String.ofList device :: String.ofList first ::
        ((more ++ (word :: others ++ mount.rest.flatMap fieldWords)).map String.ofList) := by
    rw [splitWhitespace_strip, words_line, Mount.fields, List.flatMap_cons, List.flatMap_cons,
      List.flatMap_cons, deviceWords, pathWords, typeWords]
    simp
  rw [Mount.found, mountPointOfLine]
  simp only [parts]
  cases more with
  | nil =>
    show Option.toList (if !isSpecialFilesystem (String.ofList word) then _ else none) = _
    cases special : isSpecialFilesystem (String.ofList word) <;> simp [special]
  | cons second more =>
    show Option.toList (if !isSpecialFilesystem (String.ofList second) then _ else none) = _
    cases special : isSpecialFilesystem (String.ofList second) <;> simp [special]

/-- What is found of any line is a word. -/
theorem free_of_mem_found {mount : Mount} {point : MountPointInfo} (mem : point ∈ mount.found) :
    point.mountPoint.toList ≠ [] ∧ ∀ c ∈ point.mountPoint.toList, isWhitespace c = false := by
  unfold Mount.found mountPointOfLine at mem
  rw [splitWhitespace_strip] at mem
  generalize inside : Words.words isWhitespace mount.line = words at mem
  match words, mem with
  | [], mem | [_], mem | [_, _], mem => exact absurd mem (by simp)
  | device :: path :: type :: rest, mem =>
    simp only [List.map_cons] at mem
    split at mem
    case isTrue =>
      obtain rfl : point = { mountPoint := String.ofList path } := by simpa using mem
      rw [String.toList_ofList]
      apply Words.of_mem_words
      rw [inside]
      simp
    case isFalse => exact absurd mem (by simp)

/-- What a mount should add. -/
def Mount.real (mount : Mount) : List MountPointInfo :=
  if isSpecialFilesystem mount.filesystem then [] else [{ mountPoint := mount.mountPoint }]

theorem realMountPoints_eq (table : List Mount) :
    realMountPoints table = table.flatMap Mount.real := by
  induction table with
  | nil => rfl
  | cons mount table ih =>
    rw [List.flatMap_cons, ← ih, realMountPoints, realMountPoints, Mount.real]
    cases special : isSpecialFilesystem mount.filesystem <;> simp [special]

/-- A field without white space, other than what has a code, is one word. -/
theorem fieldWords_eq_singleton {field : String} (nonempty : field ≠ "")
    (coded : ∀ c ∈ field.toList, isWhitespace c → octal c ≠ none) :
    fieldWords field = [mangle field] := by
  apply Words.words_eq_singleton
  · intro empty
    have longer := (Words.length_escape longCodes_octal field.toList).1
    rw [show Words.escape octal field.toList = [] from empty, List.length_nil, Nat.le_zero,
      List.length_eq_zero_iff] at longer
    exact nonempty (String.toList_inj.mp longer)
  · intro c mem
    by_contra white
    rw [Bool.not_eq_false] at white
    obtain ⟨own, plain⟩ := mem_mangle mem white
    exact coded c own white plain

theorem fieldWords_of_free {path : String} (nonempty : fieldWords path ≠ [])
    (free : ∀ c ∈ path.toList, isWhitespace c = false) :
    fieldWords path = [mangle path] := by
  apply fieldWords_eq_singleton
  · rintro rfl
    exact nonempty rfl
  · intro c mem white
    rw [free c mem] at white
    cases white

/-- A path without white space is written as it is if it holds no backslash either. -/
theorem mangle_eq_self_iff {path : String} (free : ∀ c ∈ path.toList, isWhitespace c = false) :
    mangle path = path.toList ↔ ∀ c ∈ path.toList, c ≠ '\\' := by
  rw [mangle, Words.escape_eq_self_iff longCodes_octal]
  constructor
  · intro plain c mem
    exact (octal_eq_none_iff.mp (plain c mem)).2.2.2
  · intro plain c mem
    have notWhite := free c mem
    refine octal_eq_none_iff.mpr ⟨?_, ?_, ?_, plain c mem⟩ <;>
    · rintro rfl
      exact absurd notWhite (by decide)

theorem found_eq_real {mount : Mount} (regular : mount.Regular) (kept : mount.Kept) :
    mount.found = mount.real := by
  obtain ⟨first, more, word, pathWords, tells, found⟩ := found_eq regular
  rw [found, Mount.real]
  unfold Mount.Kept at kept
  cases special : isSpecialFilesystem mount.filesystem with
  | true =>
    rw [special] at tells kept
    rw [if_pos rfl, if_pos]
    cases more with
    | nil => exact tells
    | cons second more =>
      rw [if_pos rfl, pathWords] at kept
      exact kept second rfl
  | false =>
    rw [special] at tells kept
    have free : ∀ c ∈ mount.mountPoint.toList, isWhitespace c = false := fun c mem =>
      Bool.eq_false_iff.mpr (kept c mem).1
    have written := (mangle_eq_self_iff free).mpr fun c mem => (kept c mem).2
    have whole := fieldWords_of_free regular.path free
    rw [pathWords, written] at whole
    obtain ⟨rfl, rfl⟩ := List.cons.inj whole
    rw [List.headD_nil, tells, String.ofList_toList]

/-- A mount with a path that is a word adds its path, as it is written. -/
theorem found_of_free {mount : Mount} (regular : mount.Regular)
    (ordinary : isSpecialFilesystem mount.filesystem = false)
    (free : ∀ c ∈ mount.mountPoint.toList, isWhitespace c = false) :
    mount.found = [{ mountPoint := String.ofList (mangle mount.mountPoint) }] := by
  obtain ⟨first, more, word, pathWords, tells, found⟩ := found_eq regular
  have whole := fieldWords_of_free regular.path free
  rw [pathWords] at whole
  obtain ⟨rfl, rfl⟩ := List.cons.inj whole
  rw [found, List.headD_nil, tells, ordinary]
  rfl

theorem kept_of_found_eq_real {mount : Mount} (regular : mount.Regular)
    (free : isSpecialFilesystem mount.filesystem = false →
      ∀ c ∈ mount.mountPoint.toList, isWhitespace c = false)
    (alike : mount.found = mount.real) : mount.Kept := by
  unfold Mount.Kept
  unfold Mount.real at alike
  cases special : isSpecialFilesystem mount.filesystem with
  | true =>
    rw [if_pos rfl]
    obtain ⟨first, more, word, pathWords, -, found⟩ := found_eq regular
    rw [special, if_pos rfl, found] at alike
    rw [pathWords]
    cases more with
    | nil => simp
    | cons second more =>
      intro word' here
      obtain rfl : second = word' := by simpa using here
      by_contra ordinary
      rw [List.headD_cons, if_neg ordinary] at alike
      cases alike
  | false =>
    have free := free special
    rw [if_neg (by simp)]
    rw [special, if_neg (by simp), found_of_free regular special free, List.cons.injEq,
      MountPointInfo.mk.injEq] at alike
    have written : mangle mount.mountPoint = mount.mountPoint.toList := by
      have texts := congrArg String.toList alike.1
      rwa [String.toList_ofList] at texts
    intro c mem
    exact ⟨Bool.eq_false_iff.mp (free c mem), (mangle_eq_self_iff free).mp written c mem⟩

/-! ## Fields that can be told apart -/

theorem apart_octal {word : List Char} (plain : ∀ a ∈ word, octal a = none ∧ a ≠ '\\') :
    Words.Apart octal word := by
  intro a mem
  refine ⟨(plain a mem).1, fun c written coded head => ?_⟩
  obtain ⟨-, _, _, _, rfl, -⟩ := octal_eq_some coded
  exact (plain a mem).2 (Option.some.inj head).symm

/-- A field is in lower case what it is written as. -/
theorem escape_lowercaseChar (c : Char) :
    Words.escape octal (Text.lowercaseChar c) =
      (Words.escapeChar octal c).flatMap Text.lowercaseChar := by
  cases coded : octal c with
  | some written =>
    rw [Words.escapeChar_some coded]
    obtain ⟨rfl | rfl | rfl | rfl, -⟩ := octal_eq_some coded <;>
    · rw [← Option.some.inj coded]
      decide
  | none =>
    rw [Words.escapeChar_none coded, List.flatMap_singleton]
    apply Words.escape_eq_self
    unfold Text.lowercaseChar
    split
    case isTrue capital =>
      have each : ∀ n < 91, 65 ≤ n → octal (Char.ofNat (n + 32)) = none := by decide
      intro letter mem
      rw [List.mem_singleton] at mem
      subst mem
      exact each c.toNat (Nat.lt_succ_of_le capital.2) capital.1
    case isFalse =>
      split
      case isTrue => exact Words.forall_mem_of_all (by decide)
      case isFalse =>
        split
        case isTrue => exact Words.forall_mem_of_all (by decide)
        case isFalse => simpa using coded

theorem toLowercase_mangle (field : String) :
    (Text.toLowercase (String.ofList (mangle field))).toList =
      Words.escape octal (Text.toLowercase field).toList := by
  rw [Text.toLowercase, Text.toLowercase, String.toList_ofList, String.toList_ofList,
    String.toList_ofList, mangle, Words.escape, Words.escape, List.flatMap_assoc,
    List.flatMap_assoc]
  exact List.flatMap_congr fun c _ => (escape_lowercaseChar c).symm

/-- The codes hide no special type and make none. -/
theorem isSpecialFilesystem_mangle (field : String) :
    isSpecialFilesystem (String.ofList (mangle field)) = isSpecialFilesystem field := by
  have written := toLowercase_mangle field
  have letters : ∀ a ∈ specialNames.flatMap String.toList, octal a = none ∧ a ≠ '\\' :=
    Words.forall_mem_of_all (by decide)
  have names : ∀ name ∈ specialNames, ∀ a ∈ name.toList, octal a = none ∧ a ≠ '\\' :=
    fun name mem a inside => letters a (List.mem_flatMap.mpr ⟨name, mem, inside⟩)
  have same : ∀ name ∈ specialNames,
      Text.toLowercase (String.ofList (mangle field)) = name ↔ Text.toLowercase field = name := by
    intro name mem
    rw [← String.toList_inj, ← String.toList_inj, written]
    exact Words.escape_eq_iff (apart_octal (names name mem)) longCodes_octal
  have clean : Words.Clean octal "fuse".toList := by
    have letters : ∀ a ∈ "fuse".toList, octal a = none ∧ a ∉ ['\\', '0', '1', '2', '3', '4'] :=
      Words.forall_mem_of_all (by decide)
    intro a mem
    refine ⟨(letters a mem).1, fun c code coded inside => ?_⟩
    obtain ⟨-, _, _, _, -, chars⟩ := octal_eq_some coded
    exact (letters a mem).2 (chars a inside)
  have apart : Words.Apart octal "cgroup".toList :=
    apart_octal (names "cgroup" (by decide))
  rw [Bool.eq_iff_iff]
  unfold isSpecialFilesystem
  simp only [Bool.or_eq_true, List.contains_iff_mem, Text.contains, Text.startsWith,
    decide_eq_true_eq, written]
  rw [Words.infix_escape_iff clean longCodes_octal (by decide),
    Words.prefix_escape_iff apart longCodes_octal]
  refine or_congr (or_congr ⟨fun mem => ?_, fun mem => ?_⟩ Iff.rfl) Iff.rfl
  · rwa [(same _ mem).mp rfl]
  · rwa [(same _ mem).mpr rfl]

/-- Devices and types without white space, other than what has a code, and absolute paths: their
fields can be told apart. -/
theorem Mount.regular_of_words {mount : Mount}
    (device : mount.device ≠ "" ∧ ∀ c ∈ mount.device.toList, isWhitespace c → octal c ≠ none)
    (type : mount.filesystem ≠ "" ∧
      ∀ c ∈ mount.filesystem.toList, isWhitespace c → octal c ≠ none)
    (absolute : ['/'] <+: mount.mountPoint.toList) : mount.Regular := by
  refine ⟨⟨_, fieldWords_eq_singleton device.1 device.2⟩, ?_, ?_⟩
  · obtain ⟨rest, path⟩ := absolute
    refine Words.words_ne_nil (c := '/') ?_ (by decide)
    rw [mangle, ← path]
    exact List.mem_cons_self
  · exact ⟨_, [], fieldWords_eq_singleton type.1 type.2, isSpecialFilesystem_mangle _⟩

/-! ## Tables -/

theorem discoverMountPoints_found (table : List Mount) (disks : List Disk) :
    discoverMountPoints (some ((Text.lines (procMounts table)).map
      fun line => (Except.ok line : Except String String))) disks =
      .ok (table.flatMap Mount.found) := by
  rw [discoverMountPoints_lines, lines_procMounts, List.flatMap_map]
  rfl

theorem discoverMountPoints_of_kept {table : List Mount} (disks : List Disk)
    (regular : ∀ mount ∈ table, mount.Regular) (kept : ∀ mount ∈ table, mount.Kept) :
    discoverMountPoints (some ((Text.lines (procMounts table)).map
      fun line => (Except.ok line : Except String String))) disks = .ok (realMountPoints table) := by
  rw [discoverMountPoints_found, realMountPoints_eq]
  apply congrArg Except.ok
  apply List.flatMap_congr
  exact fun mount mem => found_eq_real (regular mount mem) (kept mount mem)

/-- For tables whose fields can be told apart, the mount points found are exactly the real ones
when every mount is kept as it is. -/
theorem discoverMountPoints_exact (table : List Mount) (disks : List Disk)
    (regular : ∀ mount ∈ table, mount.Regular) :
    discoverMountPoints (some ((Text.lines (procMounts table)).map
        fun line => (Except.ok line : Except String String))) disks =
        .ok (realMountPoints table) ↔
      ∀ mount ∈ table, mount.Kept := by
  refine ⟨fun same => ?_, discoverMountPoints_of_kept disks regular⟩
  rw [discoverMountPoints_found, realMountPoints_eq, Except.ok.injEq] at same
  -- A path that should be found is a word, so its mount adds an entry in any case.
  have free : ∀ mount ∈ table, isSpecialFilesystem mount.filesystem = false →
      ∀ c ∈ mount.mountPoint.toList, isWhitespace c = false := by
    intro mount mem special
    have listed : ({ mountPoint := mount.mountPoint } : MountPointInfo) ∈
        table.flatMap Mount.real := by
      refine List.mem_flatMap.mpr ⟨mount, mem, ?_⟩
      rw [Mount.real, special]
      simp
    rw [← same] at listed
    obtain ⟨other, -, inside⟩ := List.mem_flatMap.mp listed
    exact (free_of_mem_found inside).2
  have atLeast : ∀ mount ∈ table, mount.real.length ≤ mount.found.length := by
    intro mount mem
    rw [Mount.real]
    cases special : isSpecialFilesystem mount.filesystem with
    | true => exact Nat.zero_le _
    | false =>
      rw [found_of_free (regular mount mem) special (free mount mem special)]
      exact Nat.le_refl 1
  intro mount mem
  exact kept_of_found_eq_real (regular mount mem) (free mount mem)
    (Words.eq_of_flatMap_eq atLeast same mount mem)

/-- The mounts of a machine, as far as they matter here. -/
def plainTable : List Mount :=
  [{ device := "proc", mountPoint := "/proc", filesystem := "proc", rest := ["rw", "0", "0"] },
    { device := "/dev/sda1", mountPoint := "/", filesystem := "ext4", rest := ["rw", "0", "0"] },
    { device := "nas:/my data", mountPoint := "/data", filesystem := "nfs4", rest := ["rw", "0", "0"] },
    { device := "gvfsd-fuse", mountPoint := "/run/a b", filesystem := "fuse.gvfsd-fuse", rest := [] }]

theorem discoverMountPoints_exact_plain :
    discoverMountPoints (some ((Text.lines (procMounts plainTable)).map
        fun line => (Except.ok line : Except String String))) [] =
      .ok [{ mountPoint := "/" }, { mountPoint := "/data" }] := by
  have regular : ∀ mount ∈ plainTable, mount.Regular := by
    intro mount mem
    simp only [plainTable, List.mem_cons, List.not_mem_nil, or_false] at mem
    rcases mem with rfl | rfl | rfl | rfl <;>
      exact Mount.regular_of_words ⟨by decide, Words.forall_mem_of_all (by decide)⟩
        ⟨by decide, Words.forall_mem_of_all (by decide)⟩ (by decide)
  refine (discoverMountPoints_exact plainTable [] regular).mpr ?_
  intro mount mem
  simp only [plainTable, List.mem_cons, List.not_mem_nil, or_false] at mem
  unfold Mount.Kept
  rcases mem with rfl | rfl | rfl | rfl
  · rw [if_pos (by decide)]
    decide
  · rw [if_neg (by decide)]
    exact Words.forall_mem_of_all (by decide)
  · rw [if_neg (by decide)]
    exact Words.forall_mem_of_all (by decide)
  · rw [if_pos (by decide)]
    decide

/-- A disk with a blank in its path. -/
def spacedTable : List Mount :=
  [{ device := "/dev/sdb1", mountPoint := "/mnt/my disk", filesystem := "ext4",
      rest := ["rw", "0", "0"] }]

/-- The path is found with the code of the blank, and the disk is not monitored. -/
theorem spaced_mount_lost :
    discoverMountPoints (some ((Text.lines (procMounts spacedTable)).map
        fun line => (Except.ok line : Except String String))) [] =
      .ok [{ mountPoint := "/mnt/my\\040disk" }] ∧
    realMountPoints spacedTable = [{ mountPoint := "/mnt/my disk" }] ∧
    (monitoredDisks (mountPointsToMonitor true ["/mnt/my\\040disk"] ["/", "/opt"])
      [{ mountPoint := "/mnt/my disk", fileSystem := "ext4" }]).length = 0 := by
  refine ⟨?_, by decide, by decide⟩
  rfl

/-! ## Monitoring -/

theorem mem_mountPointsToMonitor {discovered configured : List String} {point : String} :
    point ∈ mountPointsToMonitor true discovered configured ↔
      point ∈ discovered ∨ point ∈ configured := by
  unfold mountPointsToMonitor
  rw [if_pos rfl]
  induction configured generalizing discovered with
  | nil => simp
  | cons first configured ih =>
    rw [List.foldl_cons, ih, List.mem_cons]
    split
    case isTrue => simp [or_assoc]
    case isFalse present =>
      have present : first ∈ discovered := by simpa using present
      constructor
      · exact Or.imp_right Or.inr
      · rintro (known | rfl | later)
        · exact Or.inl known
        · exact Or.inl present
        · exact Or.inr later

/-- The disks monitored are those of the mounts that are not special, and the configured
ones. -/
theorem mem_monitoredDisks {table : List Mount} {disks : List Disk} {configured : List String}
    {points : List MountPointInfo} (regular : ∀ mount ∈ table, mount.Regular)
    (kept : ∀ mount ∈ table, mount.Kept)
    (found : discoverMountPoints (some ((Text.lines (procMounts table)).map
        fun line => (Except.ok line : Except String String))) disks = .ok points) (disk : Disk) :
    disk ∈ monitoredDisks (mountPointsToMonitor true (points.map (·.mountPoint)) configured) disks ↔
      disk ∈ disks ∧ ((∃ mount ∈ table, isSpecialFilesystem mount.filesystem = false ∧
        mount.mountPoint = disk.mountPoint) ∨ disk.mountPoint ∈ configured) := by
  have real := discoverMountPoints_of_kept disks regular kept
  obtain rfl : points = realMountPoints table := Except.ok.inj (found.symm.trans real)
  rw [monitoredDisks, List.mem_filter, List.contains_iff_mem, mem_mountPointsToMonitor]
  refine and_congr Iff.rfl (or_congr ?_ Iff.rfl)
  simp [realMountPoints, and_assoc]

end ChainDash.Collect
