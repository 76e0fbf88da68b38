import Darcbench.Support.Blanks
import Mathlib

/-!
# Totals of the block devices

The kernel keeps the counters of every block device in one table, with a line
for a disk, for each of its partitions, and for each device that is layered over
others.
-/

namespace Darcbench.Inventory

structure IoTotals where
  diskReadBytes : ℕ
  diskWriteBytes : ℕ
  netRxBytes : ℕ
  netTxBytes : ℕ
  deriving DecidableEq

def startsWith (name : List Char) (head : String) : Bool :=
  head.toList.isPrefixOf name

/-- Whole block devices only: partitions double-count their parent, and loop
and ram devices are not the machine's storage. -/
def isWholeStorageDevice (name : List Char) : Bool :=
  if startsWith name "loop" || startsWith name "ram" ||
      startsWith name "zram" then
    false
  else
    let isPartition := name.getLast?.any (·.isDigit) &&
      !startsWith name "nvme" && !startsWith name "md" &&
      !startsWith name "dm-"
    let isNvmePartition := startsWith name "nvme" && name.contains 'p'
    !isPartition && !isNvmePartition

/-- A field as a number, or zero. -/
def number (fields : List (List Char)) (position : ℕ) : ℕ :=
  (fields[position]?.bind Words.parseU64).getD 0

/-- A total with some sectors more. -/
def addSectors (total sectors sectorBytes : ℕ) : ℕ :=
  min (total + min (sectors * sectorBytes) u64Max) u64Max

/-- One line of the table.  The name is the third field; the sectors read and
written are the third and the seventh behind it. -/
def readDisk (sectorBytes : ℕ) (totals : IoTotals) (line : List Char) :
    IoTotals :=
  match (Words.splitWhitespace line).drop 2 with
  | [] => totals
  | name :: fields =>
      if isWholeStorageDevice name then
        { totals with
          diskReadBytes :=
            addSectors totals.diskReadBytes (number fields 2) sectorBytes
          diskWriteBytes :=
            addSectors totals.diskWriteBytes (number fields 6) sectorBytes }
      else totals

/-- One line of the table of the network interfaces. -/
def readInterface (totals : IoTotals) (line : List Char) : IoTotals :=
  match Words.splitOnce ':' line with
  | none => totals
  | some (iface, counters) =>
      if Words.trim iface = "lo".toList then totals
      else
        let values := Words.splitWhitespace counters
        { totals with
          netRxBytes := min (totals.netRxBytes + number values 0) u64Max
          netTxBytes := min (totals.netTxBytes + number values 8) u64Max }

/-- The totals of the two tables, of which either may be unreadable. -/
def readIoTotals (sectorBytes : ℕ) (diskstats netDev : Option (List Char)) :
    IoTotals :=
  let totals : IoTotals := ⟨0, 0, 0, 0⟩
  let totals := (diskstats.map Words.lines).elim totals fun lines =>
    lines.foldl (readDisk sectorBytes) totals
  (netDev.map Words.lines).elim totals fun lines =>
    (lines.drop 2).foldl readInterface totals

/-! ## The names of the kernel -/

/-- The disks that are told apart by letters. -/
inductive Bus
  | sd
  | vd
  | xvd
  | hd
  deriving DecidableEq

def Bus.text : Bus → List Char
  | sd => ['s', 'd']
  | vd => ['v', 'd']
  | xvd => ['x', 'v', 'd']
  | hd => ['h', 'd']

/-- The letters of a disk. -/
structure Letters where
  text : List Char
  ne_nil : text ≠ []
  lower : ∀ c ∈ text, c.isLower = true

inductive DeviceName
  | disk (bus : Bus) (letters : Letters)
  | diskPartition (bus : Bus) (letters : Letters) (part : ℕ)
  | nvme (controller namespaceId : ℕ)
  | nvmePartition (controller namespaceId part : ℕ)
  | mmcblk (number : ℕ)
  | mmcblkPartition (number part : ℕ)
  | dm (number : ℕ)
  | md (number : ℕ)
  | mdPartition (number part : ℕ)

def digits (n : ℕ) : List Char :=
  Nat.toDigits 10 n

namespace DeviceName

def text : DeviceName → List Char
  | disk bus letters => bus.text ++ letters.text
  | diskPartition bus letters part => bus.text ++ letters.text ++ digits part
  | nvme controller namespaceId =>
      ['n', 'v', 'm', 'e'] ++ digits controller ++ 'n' :: digits namespaceId
  | nvmePartition controller namespaceId part =>
      ['n', 'v', 'm', 'e'] ++ digits controller ++ 'n' :: digits namespaceId ++
        'p' :: digits part
  | mmcblk number => ['m', 'm', 'c', 'b', 'l', 'k'] ++ digits number
  | mmcblkPartition number part =>
      ['m', 'm', 'c', 'b', 'l', 'k'] ++ digits number ++ 'p' :: digits part
  | dm number => ['d', 'm', '-'] ++ digits number
  | md number => ['m', 'd'] ++ digits number
  | mdPartition number part =>
      ['m', 'd'] ++ digits number ++ 'p' :: digits part

/-- A disk, and not a part of one. -/
def isPhysical : DeviceName → Bool
  | disk _ _ | nvme _ _ | mmcblk _ => true
  | _ => false

/-- A device whose bytes are on the disks below it. -/
def isLayered : DeviceName → Bool
  | dm _ | md _ => true
  | _ => false

/-- The names that the rule for partitions does not fit: a whole card ends in a
digit, and a partition of an array is taken for the array. -/
def isMisread : DeviceName → Bool
  | mmcblk _ | mdPartition _ _ => true
  | _ => false

end DeviceName

theorem isDigit_of_mem_digits {n : ℕ} {c : Char} (h : c ∈ digits n) :
    c.isDigit = true :=
  Nat.isDigit_of_mem_toDigits (by decide) (by decide) h

theorem getLast?_append_digits (head : List Char) (n : ℕ) :
    (head ++ digits n).getLast?.any (·.isDigit) = true := by
  have hne : digits n ≠ [] := Nat.toDigits_ne_nil
  rw [List.getLast?_append_of_ne_nil _ hne, List.getLast?_eq_some_getLast hne]
  exact isDigit_of_mem_digits (List.getLast_mem hne)

theorem not_mem_digits {c : Char} (h : c.isDigit = false) (n : ℕ) :
    c ∉ digits n := by
  intro hmem
  rw [isDigit_of_mem_digits hmem] at h
  exact Bool.false_ne_true h.symm

/-- A name that ends in a letter is no partition. -/
theorem any_isDigit_letters (bus : Bus) (letters : Letters) :
    (bus.text ++ letters.text).getLast?.any (·.isDigit) = false := by
  rw [List.getLast?_append_of_ne_nil _ letters.ne_nil,
    List.getLast?_eq_some_getLast letters.ne_nil, Option.any_some]
  have hlower := letters.lower _ (List.getLast_mem letters.ne_nil)
  rw [Char.isLower, Bool.and_eq_true, decide_eq_true_eq, decide_eq_true_eq,
    ge_iff_le, UInt32.le_iff_toNat_le, UInt32.le_iff_toNat_le] at hlower
  have hhigh : ¬ (letters.text.getLast letters.ne_nil).val.toNat ≤ 57 := by
    have hlow : 97 ≤ (letters.text.getLast letters.ne_nil).val.toNat :=
      hlower.1
    omega
  rw [Char.isDigit, Bool.and_eq_false_iff, decide_eq_false_iff_not,
    decide_eq_false_iff_not, UInt32.le_iff_toNat_le]
  exact .inr hhigh

/-- The rule for partitions on the names of the kernel. -/
theorem isWholeStorageDevice_text {name : DeviceName}
    (h : name.isMisread = false) :
    isWholeStorageDevice name.text =
      (name.isPhysical || name.isLayered) := by
  cases name with
  | disk bus letters =>
      have hlast := any_isDigit_letters bus letters
      rw [isWholeStorageDevice, DeviceName.text, hlast]
      cases bus <;>
        simp [startsWith, List.isPrefixOf, Bus.text, DeviceName.isPhysical]
  | diskPartition bus letters part =>
      have hlast := getLast?_append_digits (bus.text ++ letters.text) part
      rw [isWholeStorageDevice, DeviceName.text, hlast]
      cases bus <;>
        simp [startsWith, List.isPrefixOf, Bus.text, DeviceName.isPhysical,
          DeviceName.isLayered]
  | nvme controller namespaceId =>
      have hplain : (DeviceName.nvme controller namespaceId).text.contains
          'p' = false := by
        have hfirst := not_mem_digits (c := 'p') rfl controller
        have hsecond := not_mem_digits (c := 'p') rfl namespaceId
        simp [DeviceName.text, hfirst, hsecond]
      rw [isWholeStorageDevice, hplain]
      simp [startsWith, List.isPrefixOf, DeviceName.text,
        DeviceName.isPhysical]
  | nvmePartition controller namespaceId part =>
      have hpart : (DeviceName.nvmePartition controller namespaceId
          part).text.contains 'p' = true := by
        simp [DeviceName.text]
      rw [isWholeStorageDevice, hpart]
      simp [startsWith, List.isPrefixOf, DeviceName.text,
        DeviceName.isPhysical, DeviceName.isLayered]
  | mmcblk number => exact absurd h (by simp [DeviceName.isMisread])
  | mmcblkPartition number part =>
      have hlast := getLast?_append_digits
        (['m', 'm', 'c', 'b', 'l', 'k'] ++ digits number ++ ['p']) part
      rw [List.append_assoc _ ['p'], List.singleton_append] at hlast
      rw [isWholeStorageDevice, DeviceName.text, hlast]
      simp [startsWith, List.isPrefixOf, DeviceName.isPhysical,
        DeviceName.isLayered]
  | dm number =>
      simp [isWholeStorageDevice, startsWith, List.isPrefixOf,
        DeviceName.text, DeviceName.isLayered]
  | md number =>
      simp [isWholeStorageDevice, startsWith, List.isPrefixOf,
        DeviceName.text, DeviceName.isLayered]
  | mdPartition number part => exact absurd h (by simp [DeviceName.isMisread])

/-! ## The table -/

/-- A device of the table, with its counters. -/
structure DeviceRow where
  major : ℕ
  minor : ℕ
  name : DeviceName
  readsCompleted : UInt64
  readsMerged : UInt64
  sectorsRead : UInt64
  msReading : UInt64
  writesCompleted : UInt64
  writesMerged : UInt64
  sectorsWritten : UInt64
  /-- What newer kernels count besides. -/
  others : List (List Char)

/-- The words of the row's line. -/
def DeviceRow.words (row : DeviceRow) : List (List Char) :=
  [digits row.major, digits row.minor, row.name.text] ++
    [row.readsCompleted, row.readsMerged, row.sectorsRead, row.msReading,
      row.writesCompleted, row.writesMerged, row.sectorsWritten].map
        (fun counter => digits counter.toNat) ++ row.others

/-- A text that shows some rows, whatever white space is in it. -/
def Shows (text : List Char) (rows : List DeviceRow) : Prop :=
  List.Forall₂ (fun line row => Words.splitWhitespace line = row.words)
    (Words.lines text) rows

/-- The bytes of the rows with some names. -/
def bytesOf (sectorBytes : ℕ) (sectors : DeviceRow → UInt64)
    (chosen : DeviceName → Bool) (rows : List DeviceRow) : ℕ :=
  ((rows.filter fun row => chosen row.name).map fun row =>
    (sectors row).toNat * sectorBytes).sum

theorem parseU64_digits (n : UInt64) :
    Words.parseU64 (digits n.toNat) = some n.toNat := by
  have h := Words.eq_toDigits_iff.mp ⟨rfl, toNat_le_u64Max n⟩
  exact h.2.2.2

theorem readDisk_of_words {line : List Char} {row : DeviceRow}
    (h : Words.splitWhitespace line = row.words) (sectorBytes : ℕ)
    (totals : IoTotals) :
    readDisk sectorBytes totals line =
      if isWholeStorageDevice row.name.text then
        { totals with
          diskReadBytes := addSectors totals.diskReadBytes
            row.sectorsRead.toNat sectorBytes
          diskWriteBytes := addSectors totals.diskWriteBytes
            row.sectorsWritten.toNat sectorBytes }
      else totals := by
  rw [readDisk, h]
  change (if _ then
    { totals with
      diskReadBytes := addSectors totals.diskReadBytes
        ((Words.parseU64 (digits row.sectorsRead.toNat)).getD 0) sectorBytes
      diskWriteBytes := addSectors totals.diskWriteBytes
        ((Words.parseU64 (digits row.sectorsWritten.toNat)).getD 0)
        sectorBytes }
    else _) = _
  rw [parseU64_digits, parseU64_digits, Option.getD_some, Option.getD_some]

/-! ## The totals -/

/-- What the lines add to one of the two disk totals. -/
theorem figure_foldl_readDisk (figure : IoTotals → ℕ)
    (sectors : DeviceRow → UInt64) {sectorBytes : ℕ}
    (h : ∀ totals line row, Words.splitWhitespace line = row.words →
      figure (readDisk sectorBytes totals line) =
        if isWholeStorageDevice row.name.text then
          addSectors (figure totals) (sectors row).toNat sectorBytes
        else figure totals)
    {lines : List (List Char)} {rows : List DeviceRow}
    (hrows : List.Forall₂
      (fun line row => Words.splitWhitespace line = row.words) lines rows)
    (totals : IoTotals) (htotals : figure totals ≤ u64Max) :
    figure (lines.foldl (readDisk sectorBytes) totals) =
      min (figure totals + bytesOf sectorBytes sectors
        (fun name => isWholeStorageDevice name.text) rows) u64Max := by
  induction hrows generalizing totals with
  | nil => exact (min_eq_left htotals).symm
  | @cons line row lines rows hline _ ih =>
      have hstep := h totals line row hline
      rw [List.foldl_cons]
      by_cases hwhole : isWholeStorageDevice row.name.text = true
      · rw [if_pos hwhole] at hstep
        have hle : figure (readDisk sectorBytes totals line) ≤ u64Max := by
          rw [hstep]
          exact min_le_right _ _
        have hbytes : bytesOf sectorBytes sectors
              (fun name => isWholeStorageDevice name.text) (row :: rows) =
            (sectors row).toNat * sectorBytes + bytesOf sectorBytes sectors
              (fun name => isWholeStorageDevice name.text) rows := by
          rw [bytesOf, List.filter_cons, if_pos hwhole]
          rfl
        rw [ih _ hle, hstep, addSectors, hbytes]
        omega
      · rw [if_neg hwhole] at hstep
        have hbytes : bytesOf sectorBytes sectors
              (fun name => isWholeStorageDevice name.text) (row :: rows) =
            bytesOf sectorBytes sectors
              (fun name => isWholeStorageDevice name.text) rows := by
          rw [bytesOf, List.filter_cons, if_neg hwhole]
          rfl
        rw [ih _ (hstep.le.trans htotals), hstep, hbytes]

/-- The network interfaces leave the disk totals alone. -/
theorem diskBytes_foldl_readInterface (lines : List (List Char))
    (totals : IoTotals) :
    (lines.foldl readInterface totals).diskReadBytes =
        totals.diskReadBytes ∧
      (lines.foldl readInterface totals).diskWriteBytes =
        totals.diskWriteBytes := by
  induction lines generalizing totals with
  | nil => exact ⟨rfl, rfl⟩
  | cons line rest ih =>
      have hstep : (readInterface totals line).diskReadBytes =
            totals.diskReadBytes ∧
          (readInterface totals line).diskWriteBytes =
            totals.diskWriteBytes := by
        rw [readInterface]
        cases Words.splitOnce ':' line with
        | none => exact ⟨rfl, rfl⟩
        | some pair =>
            dsimp only
            split_ifs <;> exact ⟨rfl, rfl⟩
      rw [List.foldl_cons]
      exact ⟨(ih _).1.trans hstep.1, (ih _).2.trans hstep.2⟩

/-- The bytes of two kinds of devices that exclude each other. -/
theorem bytesOf_or {first second chosen : DeviceName → Bool}
    {rows : List DeviceRow}
    (hchosen : ∀ row ∈ rows, chosen row.name =
      (first row.name || second row.name))
    (hapart : ∀ name, ¬ (first name = true ∧ second name = true))
    (sectorBytes : ℕ) (sectors : DeviceRow → UInt64) :
    bytesOf sectorBytes sectors chosen rows =
      bytesOf sectorBytes sectors first rows +
        bytesOf sectorBytes sectors second rows := by
  induction rows with
  | nil => rfl
  | cons row rest ih =>
      have hrest := ih fun other hother =>
        hchosen other (List.mem_cons_of_mem _ hother)
      have hrow := hchosen row List.mem_cons_self
      have hnot := hapart row.name
      simp only [bytesOf, List.filter_cons, hrow] at hrest ⊢
      cases hfirst : first row.name <;> cases hsecond : second row.name
      · simpa using hrest
      · simp only [Bool.or_true, if_true, List.map_cons, List.sum_cons, hrest]
        simp only [Bool.false_eq_true, if_false]
        omega
      · simp only [Bool.or_false, if_true, List.map_cons, List.sum_cons, hrest]
        simp only [Bool.false_eq_true, if_false]
        omega
      · exact absurd ⟨hfirst, hsecond⟩ hnot

theorem physical_or_layered (name : DeviceName) :
    ¬ (name.isPhysical = true ∧ name.isLayered = true) := by
  cases name <;> simp [DeviceName.isPhysical, DeviceName.isLayered]

/-- The totals are those of the whole disks and of the devices layered over
them. -/
theorem readIoTotals_eq {text : List Char} {rows : List DeviceRow}
    (hshows : Shows text rows)
    (hnames : ∀ row ∈ rows, row.name.isMisread = false)
    (sectorBytes : ℕ) (netDev : Option (List Char)) :
    let totals := readIoTotals sectorBytes (some text) netDev
    totals.diskReadBytes =
        min (bytesOf sectorBytes DeviceRow.sectorsRead DeviceName.isPhysical
            rows +
          bytesOf sectorBytes DeviceRow.sectorsRead DeviceName.isLayered
            rows) u64Max ∧
      totals.diskWriteBytes =
        min (bytesOf sectorBytes DeviceRow.sectorsWritten
            DeviceName.isPhysical rows +
          bytesOf sectorBytes DeviceRow.sectorsWritten DeviceName.isLayered
            rows) u64Max := by
  intro totals
  have hnet : totals.diskReadBytes =
        ((Words.lines text).foldl (readDisk sectorBytes)
          ⟨0, 0, 0, 0⟩).diskReadBytes ∧
      totals.diskWriteBytes =
        ((Words.lines text).foldl (readDisk sectorBytes)
          ⟨0, 0, 0, 0⟩).diskWriteBytes := by
    cases netDev with
    | none => exact ⟨rfl, rfl⟩
    | some net => exact diskBytes_foldl_readInterface _ _
  have hwhole : ∀ row ∈ rows, isWholeStorageDevice row.name.text =
      (row.name.isPhysical || row.name.isLayered) :=
    fun row hrow => isWholeStorageDevice_text (hnames row hrow)
  constructor
  · have hstep : ∀ totals line row,
        Words.splitWhitespace line = DeviceRow.words row →
          (readDisk sectorBytes totals line).diskReadBytes =
            if isWholeStorageDevice row.name.text then
              addSectors totals.diskReadBytes row.sectorsRead.toNat
                sectorBytes
            else totals.diskReadBytes := by
      intro totals line row hline
      rw [readDisk_of_words hline]
      split_ifs <;> rfl
    have hread := figure_foldl_readDisk IoTotals.diskReadBytes
      DeviceRow.sectorsRead hstep hshows ⟨0, 0, 0, 0⟩ (Nat.zero_le _)
    rw [hnet.1, hread, Nat.zero_add, bytesOf_or hwhole physical_or_layered]
  · have hstep : ∀ totals line row,
        Words.splitWhitespace line = DeviceRow.words row →
          (readDisk sectorBytes totals line).diskWriteBytes =
            if isWholeStorageDevice row.name.text then
              addSectors totals.diskWriteBytes row.sectorsWritten.toNat
                sectorBytes
            else totals.diskWriteBytes := by
      intro totals line row hline
      rw [readDisk_of_words hline]
      split_ifs <;> rfl
    have hwrite := figure_foldl_readDisk IoTotals.diskWriteBytes
      DeviceRow.sectorsWritten hstep hshows ⟨0, 0, 0, 0⟩ (Nat.zero_le _)
    rw [hnet.2, hwrite, Nat.zero_add, bytesOf_or hwhole physical_or_layered]

/-! ## A volume on a partition -/

def rowOf (name : DeviceName) : DeviceRow where
  major := 8
  minor := 0
  name := name
  readsCompleted := 1
  readsMerged := 0
  sectorsRead := 100
  msReading := 0
  writesCompleted := 1
  writesMerged := 0
  sectorsWritten := 0
  others := []

def letterA : Letters where
  text := ['a']
  ne_nil := List.cons_ne_nil _ _
  lower := List.forall_mem_singleton.mpr (by decide)

/-- A disk, its one partition, and a volume on the partition. -/
def volumeRows : List DeviceRow :=
  [rowOf (.disk .sd letterA), rowOf (.diskPartition .sd letterA 1),
    rowOf (.dm 0)]

def volumeText : List Char :=
  "8 0 sda 1 0 100 0 1 0 0\n8 0 sda1 1 0 100 0 1 0 0\n8 0 dm-0 1 0 100 0 1 0 0"
    |>.toList

theorem shows_volumeText : Shows volumeText volumeRows := by
  have hlines : Words.lines volumeText =
      ["8 0 sda 1 0 100 0 1 0 0".toList, "8 0 sda1 1 0 100 0 1 0 0".toList,
        "8 0 dm-0 1 0 100 0 1 0 0".toList] := by
    decide
  rw [Shows, hlines]
  refine .cons (by decide) (.cons (by decide) (.cons (by decide) .nil))

theorem readIoTotals_volumeText :
    (readIoTotals 512 (some volumeText) none).diskReadBytes = 102400 := by
  have h := (readIoTotals_eq shows_volumeText (by decide) 512 none).1
  rw [h]
  decide

/-- The bytes of a volume are counted on the volume and on its disk. -/
theorem volume_counted_twice :
    ¬ ∀ (text : List Char) (rows : List DeviceRow), Shows text rows →
      (∀ row ∈ rows, row.name.isLayered = true →
        row.sectorsRead.toNat * 512 ≤ bytesOf 512 DeviceRow.sectorsRead
          DeviceName.isPhysical rows) →
      (readIoTotals 512 (some text) none).diskReadBytes =
        bytesOf 512 DeviceRow.sectorsRead DeviceName.isPhysical rows := by
  intro h
  have hcounted := h volumeText volumeRows shows_volumeText (by decide)
  revert hcounted
  decide

end Darcbench.Inventory
