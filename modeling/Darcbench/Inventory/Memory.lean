import Darcbench.Inventory.Types
import Darcbench.Support.Blanks

/-!
# Memory figures

Two parsers read `/proc/meminfo`.  The inventory is collected once, from the
pairs of all lines; telemetry reads four figures line by line, once a second.
-/

namespace Darcbench

/-- The pairs of a file that has one `key: value` a line. -/
def parseKv (contents : List Char) (sep : Char) :
    List (List Char × List Char) :=
  (Words.lines contents).filterMap fun line =>
    (Words.splitOnce sep line).map fun (k, v) => (Words.trim k, Words.trim v)

/-- The first word of a value, if it is a number. -/
def firstNumber (value : List Char) : Option ℕ :=
  (Words.splitWhitespace value).head?.bind Words.parseU64

/-- A 32-bit unsigned number in decimal. -/
def parseU32 (text : List Char) : Option ℕ :=
  (Words.parseU64 text).filter (· < 2 ^ 32)

namespace MemoryInfo

/-- What the collector finds on the machine. -/
structure Files where
  meminfo : Option (List Char)
  swappiness : Option (List Char)
  psiExists : Bool

/-- The number at the first line with a key. -/
def find (fields : List (List Char × List Char)) (key : String) : Option ℕ :=
  (fields.find? fun pair => pair.1 = key.toList).bind fun pair =>
    firstNumber pair.2

/-- A figure in bytes.  The multiplication is the machine's own. -/
def get (fields : List (List Char × List Char)) (key : String) : ℕ :=
  ((find fields key).map fun kib => kib * 1024 % 2 ^ 64).getD 0

def count (fields : List (List Char × List Char)) (key : String) : ℕ :=
  (find fields key).getD 0

def collect (files : Files) : MemoryInfo × List Gap :=
  let gaps : List Gap :=
    match files.meminfo with
    | some _ => []
    | none =>
        [{ field := "memory", reason := "/proc/meminfo unreadable" }]
  let fields := parseKv (files.meminfo.getD []) ':'
  ({ totalBytes := get fields "MemTotal"
     availableBytes := get fields "MemAvailable"
     freeBytes := get fields "MemFree"
     buffersBytes := get fields "Buffers"
     cachedBytes := get fields "Cached"
     swapTotalBytes := get fields "SwapTotal"
     swapFreeBytes := get fields "SwapFree"
     hugepagesTotal := count fields "HugePages_Total"
     swappiness := files.swappiness.bind fun text =>
       parseU32 (Words.trim text)
     psiAvailable := files.psiExists },
    gaps)

def usedBytes (info : MemoryInfo) : ℕ :=
  info.totalBytes - info.availableBytes

def swapUsedBytes (info : MemoryInfo) : ℕ :=
  info.swapTotalBytes - info.swapFreeBytes

end MemoryInfo

/-- The figures that telemetry reports. -/
structure MemoryUsage where
  totalBytes : ℕ
  availableBytes : ℕ
  swapTotalBytes : ℕ
  swapFreeBytes : ℕ
  deriving DecidableEq

namespace MemoryUsage

def default : MemoryUsage := ⟨0, 0, 0, 0⟩

/-- What a value leaves in a figure. -/
def slot (bytes : ℕ) (value : List Char) : ℕ :=
  (firstNumber value).elim bytes fun kib => min (kib * 1024) u64Max

def readLine (out : MemoryUsage) (line : List Char) : MemoryUsage :=
  match Words.splitOnce ':' line with
  | none => out
  | some (key, value) =>
      if key = "MemTotal".toList then
        { out with totalBytes := slot out.totalBytes value }
      else if key = "MemAvailable".toList then
        { out with availableBytes := slot out.availableBytes value }
      else if key = "SwapTotal".toList then
        { out with swapTotalBytes := slot out.swapTotalBytes value }
      else if key = "SwapFree".toList then
        { out with swapFreeBytes := slot out.swapFreeBytes value }
      else out

def parse (meminfo : List Char) : MemoryUsage :=
  (Words.lines meminfo).foldl readLine default

def usedBytes (usage : MemoryUsage) : ℕ :=
  usage.totalBytes - usage.availableBytes

def swapUsedBytes (usage : MemoryUsage) : ℕ :=
  usage.swapTotalBytes - usage.swapFreeBytes

end MemoryUsage

/-! ## The format of the file -/

/-- The keys and values of a text, as they stand in its lines.  A line without a
colon has none. -/
def memoryEntries (meminfo : List Char) : List (List Char × List Char) :=
  (Words.lines meminfo).filterMap (Words.splitOnce ':')

/-- A text in the format of `/proc/meminfo`: a key has no white space at its
ends and stands in one line at most, and the numbers are far from the limit of
64 bits. -/
structure IsMeminfo (meminfo : List Char) : Prop where
  key_trimmed : ∀ pair ∈ memoryEntries meminfo, Words.trim pair.1 = pair.1
  nodup : ((memoryEntries meminfo).map Prod.fst).Nodup
  small : ∀ pair ∈ memoryEntries meminfo, ∀ kib ∈ firstNumber pair.2, kib < 2 ^ 54

theorem firstNumber_trim (value : List Char) :
    firstNumber (Words.trim value) = firstNumber value := by
  rw [firstNumber, Words.splitWhitespace_trim, firstNumber]

theorem parseKv_eq (meminfo : List Char) :
    parseKv meminfo ':' = (memoryEntries meminfo).map fun pair =>
      (Words.trim pair.1, Words.trim pair.2) := by
  rw [parseKv, memoryEntries, List.map_filterMap]

/-- The number that stands behind a key, in a text in which the key stands
once. -/
def numberAt (meminfo : List Char) (key : String) : Option ℕ :=
  ((memoryEntries meminfo).find? fun pair => pair.1 = key.toList).bind fun pair =>
    firstNumber pair.2

namespace IsMeminfo

variable {meminfo : List Char}

theorem find_eq (h : IsMeminfo meminfo) (key : String) :
    MemoryInfo.find (parseKv meminfo ':') key = numberAt meminfo key := by
  have hpairs : parseKv meminfo ':' = (memoryEntries meminfo).map fun pair =>
      (pair.1, Words.trim pair.2) := by
    rw [parseKv_eq]
    refine List.map_congr_left fun pair hpair => ?_
    rw [h.key_trimmed pair hpair]
  rw [MemoryInfo.find, hpairs, List.find?_map, Option.bind_map, numberAt]
  exact congrArg _ (funext fun pair => firstNumber_trim pair.2)

theorem numberAt_lt (h : IsMeminfo meminfo) {key : String} {kib : ℕ}
    (hkib : numberAt meminfo key = some kib) : kib < 2 ^ 54 := by
  obtain ⟨pair, hfind, hnumber⟩ := Option.bind_eq_some_iff.mp hkib
  exact h.small pair (List.mem_of_find?_eq_some hfind) kib hnumber

/-- The collector's figure is the number behind the key, in bytes. -/
theorem get_eq (h : IsMeminfo meminfo) (key : String) :
    MemoryInfo.get (parseKv meminfo ':') key =
      ((numberAt meminfo key).map (· * 1024)).getD 0 := by
  rw [MemoryInfo.get, h.find_eq]
  cases hkib : numberAt meminfo key with
  | none => rfl
  | some kib =>
      have hlt := h.numberAt_lt hkib
      exact Nat.mod_eq_of_lt (by omega)

end IsMeminfo

/-! ## Reading line by line -/

namespace MemoryUsage

/-- What a line leaves in the figure with a key. -/
def readAt (key : String) (bytes : ℕ) (line : List Char) : ℕ :=
  (Words.splitOnce ':' line).elim bytes fun pair =>
    if pair.1 = key.toList then slot bytes pair.2 else bytes

/-- A figure depends on the lines with its key only. -/
theorem foldl_readLine {key : String} {figure : MemoryUsage → ℕ}
    (h : ∀ out line, readAt key (figure out) line =
      figure (readLine out line)) (meminfo : List Char) :
    figure (parse meminfo) =
      (Words.lines meminfo).foldl (readAt key) (figure default) :=
  (List.foldl_hom figure fun out line => h out line).symm

theorem foldl_readAt_of_notMem {key : String} {lines : List (List Char)}
    (h : key.toList ∉ (lines.filterMap (Words.splitOnce ':')).map Prod.fst)
    (bytes : ℕ) : lines.foldl (readAt key) bytes = bytes := by
  induction lines generalizing bytes with
  | nil => rfl
  | cons line rest ih =>
      cases hline : Words.splitOnce ':' line with
      | none =>
          rw [List.filterMap_cons_none hline] at h
          rw [List.foldl_cons, readAt, hline]
          exact ih h bytes
      | some pair =>
          rw [List.filterMap_cons_some hline, List.map_cons,
            List.mem_cons, not_or] at h
          rw [List.foldl_cons, readAt, hline, Option.elim_some,
            if_neg (Ne.symm h.1)]
          exact ih h.2 bytes

/-- The lines leave in a figure what the one line with its key says. -/
theorem foldl_readAt {key : String} {lines : List (List Char)}
    (h : ((lines.filterMap (Words.splitOnce ':')).map Prod.fst).Nodup)
    (bytes : ℕ) :
    lines.foldl (readAt key) bytes =
      ((lines.filterMap (Words.splitOnce ':')).find? fun pair =>
        pair.1 = key.toList).elim bytes fun pair => slot bytes pair.2 := by
  induction lines generalizing bytes with
  | nil => rfl
  | cons line rest ih =>
      cases hline : Words.splitOnce ':' line with
      | none =>
          rw [List.filterMap_cons_none hline] at h ⊢
          rw [List.foldl_cons, readAt, hline]
          exact ih h bytes
      | some pair =>
          rw [List.filterMap_cons_some hline, List.map_cons,
            List.nodup_cons] at h
          rw [List.filterMap_cons_some hline, List.foldl_cons, readAt,
            hline, Option.elim_some]
          by_cases hkey : pair.1 = key.toList
          · rw [if_pos hkey, List.find?_cons_of_pos (by simpa using hkey)]
            exact foldl_readAt_of_notMem (hkey ▸ h.1) _
          · rw [if_neg hkey, List.find?_cons_of_neg (by simpa using hkey)]
            exact ih h.2 bytes

/-- A figure is the number behind its key, in bytes. -/
theorem parse_eq {meminfo : List Char} (hformat : IsMeminfo meminfo)
    {key : String} {figure : MemoryUsage → ℕ}
    (h : ∀ out line, readAt key (figure out) line =
      figure (readLine out line)) (hzero : figure default = 0) :
    figure (parse meminfo) =
      ((numberAt meminfo key).map (· * 1024)).getD 0 := by
  rw [foldl_readLine h, foldl_readAt hformat.nodup, hzero]
  change (((memoryEntries meminfo).find? fun pair =>
    decide (pair.1 = key.toList)).elim 0 fun pair => slot 0 pair.2) = _
  cases hfind : (memoryEntries meminfo).find? fun pair =>
      decide (pair.1 = key.toList) with
  | none => rw [numberAt, hfind]; rfl
  | some pair =>
      have hkib : numberAt meminfo key = firstNumber pair.2 := by
        rw [numberAt, hfind]
        rfl
      rw [Option.elim_some, slot, ← hkib]
      cases hnumber : numberAt meminfo key with
      | none => rfl
      | some kib =>
          have hlt := hformat.numberAt_lt hnumber
          exact min_eq_left (by unfold u64Max; omega)

theorem readAt_totalBytes (out : MemoryUsage) (line : List Char) :
    readAt "MemTotal" out.totalBytes line =
      (readLine out line).totalBytes := by
  rw [readAt, readLine]
  cases Words.splitOnce ':' line with
  | none => rfl
  | some pair =>
      dsimp only [Option.elim_some]
      split_ifs <;> rfl

theorem readAt_availableBytes (out : MemoryUsage) (line : List Char) :
    readAt "MemAvailable" out.availableBytes line =
      (readLine out line).availableBytes := by
  rw [readAt, readLine]
  cases Words.splitOnce ':' line with
  | none => rfl
  | some pair =>
      dsimp only [Option.elim_some]
      split_ifs <;> simp_all

theorem readAt_swapTotalBytes (out : MemoryUsage) (line : List Char) :
    readAt "SwapTotal" out.swapTotalBytes line =
      (readLine out line).swapTotalBytes := by
  rw [readAt, readLine]
  cases Words.splitOnce ':' line with
  | none => rfl
  | some pair =>
      dsimp only [Option.elim_some]
      split_ifs <;> simp_all

theorem readAt_swapFreeBytes (out : MemoryUsage) (line : List Char) :
    readAt "SwapFree" out.swapFreeBytes line =
      (readLine out line).swapFreeBytes := by
  rw [readAt, readLine]
  cases Words.splitOnce ':' line with
  | none => rfl
  | some pair =>
      dsimp only [Option.elim_some]
      split_ifs <;> simp_all

/-- Both parsers read the same figures. -/
theorem parse_agrees {meminfo : List Char} (h : IsMeminfo meminfo)
    (swappiness : Option (List Char)) (psiExists : Bool) :
    let usage := parse meminfo
    let info :=
      (MemoryInfo.collect ⟨some meminfo, swappiness, psiExists⟩).1
    usage.totalBytes = info.totalBytes ∧
      usage.availableBytes = info.availableBytes ∧
      usage.swapTotalBytes = info.swapTotalBytes ∧
      usage.swapFreeBytes = info.swapFreeBytes ∧
      usage.usedBytes = info.usedBytes ∧
      usage.swapUsedBytes = info.swapUsedBytes := by
  intro usage info
  have htotal : usage.totalBytes = info.totalBytes :=
    (parse_eq h readAt_totalBytes rfl).trans (h.get_eq "MemTotal").symm
  have havailable : usage.availableBytes = info.availableBytes :=
    (parse_eq h readAt_availableBytes rfl).trans
      (h.get_eq "MemAvailable").symm
  have hswapTotal : usage.swapTotalBytes = info.swapTotalBytes :=
    (parse_eq h readAt_swapTotalBytes rfl).trans (h.get_eq "SwapTotal").symm
  have hswapFree : usage.swapFreeBytes = info.swapFreeBytes :=
    (parse_eq h readAt_swapFreeBytes rfl).trans (h.get_eq "SwapFree").symm
  refine ⟨htotal, havailable, hswapTotal, hswapFree, ?_, ?_⟩
  · rw [usedBytes, MemoryInfo.usedBytes, htotal, havailable]
  · rw [swapUsedBytes, MemoryInfo.swapUsedBytes, hswapTotal, hswapFree]

/-- A file with a junk line, an empty value and an odd spacing. -/
def oddMeminfo : List Char :=
  "MemTotal:  16 kB\njunk\nMemAvailable:\t4\nSwapTotal:\nBuffers: x kB".toList

theorem isMeminfo_oddMeminfo : IsMeminfo oddMeminfo := by
  have hentries : memoryEntries oddMeminfo =
      [("MemTotal".toList, "  16 kB".toList),
        ("MemAvailable".toList, "\t4".toList),
        ("SwapTotal".toList, []), ("Buffers".toList, " x kB".toList)] := by
    decide
  constructor
  · rw [hentries]
    decide
  · rw [hentries]
    decide
  · intro pair hpair kib hkib
    rw [hentries] at hpair
    have hnumbers : ∀ entry ∈ [("MemTotal".toList, "  16 kB".toList),
        ("MemAvailable".toList, "\t4".toList), ("SwapTotal".toList, []),
        ("Buffers".toList, " x kB".toList)],
        (firstNumber entry.2).all (· < 2 ^ 54) = true := by
      decide
    have hall := hnumbers pair hpair
    rw [Option.mem_def.mp hkib] at hall
    simpa using hall

theorem parse_agrees_oddMeminfo :
    (parse oddMeminfo).usedBytes =
        (MemoryInfo.collect ⟨some oddMeminfo, none, true⟩).1.usedBytes ∧
      (parse oddMeminfo).usedBytes = 12288 := by
  obtain ⟨-, -, -, -, hused, -⟩ :=
    parse_agrees isMeminfo_oddMeminfo none true
  exact ⟨hused, by decide⟩

end MemoryUsage

end Darcbench
