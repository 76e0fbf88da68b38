import Darcbench.Support.Columns
import Darcbench.Support.Maxima
import Mathlib.Algebra.GroupWithZero.Nat

/-!
# The filesystem of a storage result

A storage result says on which type of filesystem it was measured.  The type is
looked up in the table of mounts that the kernel prints, by the longest mount
point that leads to the scratch directory.
-/

namespace Darcbench

open Maxima (IsFirstMax IsLastMax)
open Words (IsColumn IsWord)

namespace StorageMixed

/-! ## Reading the table -/

/-- The number of bytes of a text. -/
def byteLength (text : List Char) : ℕ :=
  (text.map Char.utf8Size).sum

def isParent (path mountPoint : List Char) : Bool :=
  path == mountPoint ||
    (mountPoint.isPrefixOf path &&
      (mountPoint == ['/'] || path[mountPoint.length]? == some '/'))

/-- One line of the table.  The best so far is kept with its length. -/
def consider (path : List Char) (best : Option (ℕ × List Char))
    (line : List Char) : Option (ℕ × List Char) :=
  match Words.splitOnceOn Words.dash line with
  | none => best
  | some (before, after) =>
      let mountPoint := (Words.splitWhitespace before)[4]?.getD []
      let fsType := (Words.splitWhitespace after).head?.getD []
      if mountPoint.isEmpty || fsType.isEmpty then
        best
      else if isParent path mountPoint &&
          best.all (fun found => found.1 < byteLength mountPoint) then
        some (byteLength mountPoint, fsType)
      else
        best

def unknown : List Char :=
  ['u', 'n', 'k', 'n', 'o', 'w', 'n']

/-- The type of filesystem that a path is on, by the text of the table, which
may be unreadable. -/
def filesystemOf (mountinfo : Option (List Char)) (path : List Char) :
    List Char :=
  match mountinfo with
  | none => unknown
  | some text =>
      ((Words.lines text).foldl (consider path) none).elim unknown Prod.snd

/-! ## Printing the table -/

/-- A character of a path, as the kernel prints it. -/
def escapeChar (c : Char) : List Char :=
  if c = ' ' then ['\\', '0', '4', '0']
  else if c = '\t' then ['\\', '0', '1', '1']
  else if c = '\n' then ['\\', '0', '1', '2']
  else if c = '\\' then ['\\', '1', '3', '4']
  else [c]

def escape (path : List Char) : List Char :=
  path.flatMap escapeChar

/-- A mount, with what the kernel prints of it. -/
structure MountEntry where
  id : { column : List Char // IsColumn column }
  parent : { column : List Char // IsColumn column }
  device : { column : List Char // IsColumn column }
  root : { column : List Char // IsColumn column }
  mountPoint : List Char
  /-- The mount options and the optional fields. -/
  options : List { column : List Char // IsColumn column }
  fsType : { word : List Char // IsWord word }
  /-- The source and the options of the superblock. -/
  source : List Char
  absolute : mountPoint.head? = some '/'
  oneLine : '\n' ∉ source

namespace MountEntry

/-- What stands before the separator. -/
def before (entry : MountEntry) : List Char :=
  Words.columns
    ([entry.id.val, entry.parent.val, entry.device.val, entry.root.val,
      escape entry.mountPoint] ++ entry.options.map Subtype.val)

def line (entry : MountEntry) : List Char :=
  entry.before ++ Words.dash ++ (entry.fsType.val ++ ' ' :: entry.source)

/-- The mount point as it stands in the line: the fifth of the words before the
separator. -/
def written (entry : MountEntry) : List Char :=
  (Words.splitWhitespace entry.before)[4]?.getD []

end MountEntry

def mountinfo (table : List MountEntry) : List Char :=
  table.flatMap fun entry => entry.line ++ ['\n']

/-! ## The mount that backs a path -/

/-- The components of a path. -/
def components (path : List Char) : List (List Char) :=
  (path.splitOn '/').filter fun component =>
    !component.isEmpty && component != ['.']

/-- The mounts above a path, in the order of the table. -/
def mountsAbove (table : List MountEntry) (path : List Char) :
    List MountEntry :=
  table.filter fun entry =>
    (components entry.mountPoint).isPrefixOf (components path)

/-- The last of the mounts with the longest mount point above a path. -/
def Backs (table : List MountEntry) (path : List Char)
    (entry : MountEntry) : Prop :=
  IsLastMax (fun entry => (components entry.mountPoint).length)
    (mountsAbove table path) entry

/-- The type of the mount that backs the path, or that there is none. -/
def IsFilesystemOf (table : List MountEntry) (path type : List Char) : Prop :=
  (∃ entry, Backs table path entry ∧ type = entry.fsType) ∨
    mountsAbove table path = [] ∧ type = unknown

/-! ## The line that is picked -/

/-- The mounts whose mount point, as it is written, leads to the path. -/
def linesAbove (table : List MountEntry) (path : List Char) :
    List MountEntry :=
  table.filter fun entry =>
    !entry.written.isEmpty && isParent path entry.written

/-- The first of the lines with the longest such mount point. -/
def IsPicked (table : List MountEntry) (path : List Char)
    (entry : MountEntry) : Prop :=
  IsFirstMax (fun entry => byteLength entry.written) (linesAbove table path)
    entry

/-! ## What is read of a line -/

theorem isColumn_escape (entry : MountEntry) :
    IsColumn (escape entry.mountPoint) := by
  have hchar : ∀ c, ' ' ∉ escapeChar c ∧ '\n' ∉ escapeChar c := by
    intro c
    rw [escapeChar]
    split_ifs with hspace htab hfeed hslash
    · decide
    · decide
    · decide
    · decide
    · exact ⟨List.mem_singleton.not.mpr (Ne.symm hspace),
        List.mem_singleton.not.mpr (Ne.symm hfeed)⟩
  obtain ⟨rest, hrest⟩ := List.head?_eq_some_iff.mp entry.absolute
  have hescape : escape entry.mountPoint = '/' :: escape rest := by
    rw [hrest]
    rfl
  refine ⟨?_, ?_, ?_, ?_⟩
  · rw [hescape]
    exact List.cons_ne_nil _ _
  · intro hmem
    obtain ⟨c, -, hc⟩ := List.mem_flatMap.mp hmem
    exact (hchar c).1 hc
  · intro hmem
    obtain ⟨c, -, hc⟩ := List.mem_flatMap.mp hmem
    exact (hchar c).2 hc
  · rw [hescape]
    intro hdash
    exact absurd (List.cons.inj hdash).1 (by decide)

namespace MountEntry

variable (entry : MountEntry)

theorem isColumn_of_mem {column : List Char}
    (h : column ∈ [entry.id.val, entry.parent.val, entry.device.val,
      entry.root.val, escape entry.mountPoint] ++
        entry.options.map Subtype.val) : IsColumn column := by
  rcases List.mem_append.mp h with h | h
  · simp only [List.mem_cons, List.not_mem_nil, or_false] at h
    rcases h with rfl | rfl | rfl | rfl | rfl
    · exact entry.id.property
    · exact entry.parent.property
    · exact entry.device.property
    · exact entry.root.property
    · exact isColumn_escape entry
  · obtain ⟨column, -, rfl⟩ := List.mem_map.mp h
    exact column.property

theorem no_feed_line : '\n' ∉ entry.line := by
  have hbefore : '\n' ∉ entry.before :=
    Words.no_feed_columns fun _ => entry.isColumn_of_mem
  have htype : '\n' ∉ entry.fsType.val := by
    intro hmem
    exact absurd (entry.fsType.property.2 _ hmem) (by decide)
  rw [line, List.mem_append, List.mem_append, List.mem_append, List.mem_cons]
  rintro ((hmem | hmem) | hmem | hmem | hmem)
  · exact hbefore hmem
  · exact absurd hmem (by decide)
  · exact htype hmem
  · exact absurd hmem (by decide)
  · exact entry.oneLine hmem

/-- A carriage return is taken from the source at most. -/
theorem exists_stripReturn_line : ∃ source, Words.stripReturn entry.line =
    entry.before ++ Words.dash ++ (entry.fsType.val ++ ' ' :: source) := by
  have hsource : ∃ source, Words.stripReturn (' ' :: entry.source) =
      ' ' :: source := by
    cases hrest : entry.source with
    | nil => exact ⟨[], rfl⟩
    | cons c rest =>
        exact ⟨_, @Words.stripReturn_append [' '] _
          (List.cons_ne_nil c rest)⟩
  obtain ⟨source, hsource⟩ := hsource
  refine ⟨source, ?_⟩
  rw [line, ← List.append_assoc,
    Words.stripReturn_append (List.cons_ne_nil _ _), hsource,
    List.append_assoc]

/-- A line takes the place of the best so far if its mount point leads to the
path and is longer. -/
theorem consider_line (path : List Char) (best : Option (ℕ × List Char)) :
    consider path best (Words.stripReturn entry.line) =
      if (!entry.written.isEmpty && isParent path entry.written) &&
          best.all (fun found => found.1 < byteLength entry.written) then
        some (byteLength entry.written, entry.fsType.val)
      else
        best := by
  obtain ⟨source, hsource⟩ := entry.exists_stripReturn_line
  have hsplit : Words.splitOnceOn Words.dash
      (Words.stripReturn entry.line) =
        some (entry.before, entry.fsType.val ++ ' ' :: source) := by
    rw [hsource]
    exact Words.splitOnceOn_columns (List.cons_ne_nil _ _)
      (fun _ => entry.isColumn_of_mem) _
  have htype : (Words.splitWhitespace (entry.fsType.val ++ ' ' :: source)
      ).head?.getD [] = entry.fsType.val := by
    rw [Words.splitWhitespace_append entry.fsType.property (by decide)]
    rfl
  have hne : entry.fsType.val.isEmpty = false :=
    List.isEmpty_eq_false_iff.mpr entry.fsType.property.1
  rw [consider, hsplit]
  dsimp only
  rw [htype, hne, Bool.or_false]
  show (if entry.written.isEmpty = true then best else _) = _
  by_cases hempty : entry.written.isEmpty = true
  · rw [if_pos hempty, hempty, Bool.not_true, Bool.false_and, Bool.false_and,
      if_neg Bool.false_ne_true]
  · rw [if_neg hempty, Bool.not_eq_true _ |>.mp hempty, Bool.not_false,
      Bool.true_and]
    rfl

end MountEntry

/-! ## The fold -/

/-- The best after some lines is the first of the longest. -/
theorem foldl_consider (table : List MountEntry) (path : List Char) :
    (table.map fun entry => Words.stripReturn entry.line).foldl
        (consider path) none =
      ((linesAbove table path).argmax fun entry =>
        byteLength entry.written).map fun entry =>
          (byteLength entry.written, entry.fsType.val) := by
  induction table using List.reverseRecOn with
  | nil => rfl
  | append_singleton table entry ih =>
      have happend : linesAbove (table ++ [entry]) path =
          linesAbove table path ++ linesAbove [entry] path :=
        List.filter_append _ _
      rw [List.map_append, List.foldl_append, ih, List.map_singleton,
        List.foldl_cons, List.foldl_nil, entry.consider_line, happend]
      by_cases habove : (!entry.written.isEmpty &&
          isParent path entry.written) = true
      · have hself : linesAbove [entry] path = [entry] :=
          List.filter_cons_of_pos habove
        rw [habove, Bool.true_and, hself, List.argmax_concat]
        cases (linesAbove table path).argmax fun entry =>
            byteLength entry.written with
        | none => rfl
        | some found =>
            rw [Option.map_some, Option.all_some]
            dsimp only
            by_cases hlt : byteLength found.written < byteLength entry.written
            · rw [if_pos (decide_eq_true hlt), if_pos hlt, Option.map_some]
            · rw [if_neg (by simpa using hlt), if_neg hlt, Option.map_some]
      · have hself : linesAbove [entry] path = [] :=
          List.filter_cons_of_neg habove
        rw [Bool.not_eq_true _ |>.mp habove, Bool.false_and,
          if_neg Bool.false_ne_true, hself, List.append_nil]

/-- The type that is reported. -/
theorem filesystemOf_mountinfo (table : List MountEntry) (path : List Char) :
    filesystemOf (some (mountinfo table)) path =
      ((linesAbove table path).argmax fun entry =>
        byteLength entry.written).elim unknown fun entry =>
          entry.fsType.val := by
  have hlines : Words.lines (mountinfo table) =
      table.map fun entry => Words.stripReturn entry.line := by
    have htexts : ∀ text ∈ table.map MountEntry.line, '\n' ∉ text := by
      intro text htext
      obtain ⟨entry, -, rfl⟩ := List.mem_map.mp htext
      exact entry.no_feed_line
    have hlines := Words.lines_flatMap htexts
    rw [List.flatMap_map, List.map_map] at hlines
    exact hlines
  rw [filesystemOf, hlines, foldl_consider]
  cases (linesAbove table path).argmax fun entry =>
    byteLength entry.written <;> rfl

/-! ## The type that is reported -/

/-- The line that is picked and the mount that backs the path are of one type.
Where there is only one of them, its type is called unknown. -/
structure SameType (table : List MountEntry) (path : List Char) : Prop where
  both : ∀ picked backing, IsPicked table path picked →
    Backs table path backing → picked.fsType = backing.fsType
  onlyPicked : ∀ picked, IsPicked table path picked →
    mountsAbove table path = [] → picked.fsType.val = unknown
  onlyBacking : ∀ backing, Backs table path backing →
    linesAbove table path = [] → backing.fsType.val = unknown

section

variable {table : List MountEntry} {path : List Char}

theorem Backs.mountsAbove_ne_nil {backing : MountEntry}
    (h : Backs table path backing) : mountsAbove table path ≠ [] :=
  List.ne_nil_of_mem h.mem

theorem IsPicked.linesAbove_ne_nil {picked : MountEntry}
    (h : IsPicked table path picked) : linesAbove table path ≠ [] :=
  List.ne_nil_of_mem h.mem

/-- A type is right for a path that has a mount above it if the mount that
backs the path has it. -/
theorem isFilesystemOf_iff_of_backs {backing : MountEntry}
    (h : Backs table path backing) (type : List Char) :
    IsFilesystemOf table path type ↔ type = backing.fsType := by
  constructor
  · rintro (⟨entry, hentry, rfl⟩ | ⟨hnone, -⟩)
    · rw [hentry.unique h]
    · exact absurd hnone h.mountsAbove_ne_nil
  · exact fun htype => .inl ⟨backing, h, htype⟩

theorem isFilesystemOf_iff_of_nil (h : mountsAbove table path = [])
    (type : List Char) :
    IsFilesystemOf table path type ↔ type = unknown := by
  constructor
  · rintro (⟨entry, hentry, -⟩ | ⟨-, htype⟩)
    · exact absurd h hentry.mountsAbove_ne_nil
    · exact htype
  · exact fun htype => .inr ⟨h, htype⟩

theorem filesystemOf_of_picked {picked : MountEntry}
    (h : IsPicked table path picked) :
    filesystemOf (some (mountinfo table)) path = picked.fsType := by
  rw [filesystemOf_mountinfo]
  cases hfound : (linesAbove table path).argmax fun entry =>
      byteLength entry.written with
  | none => exact absurd (List.argmax_eq_none.mp hfound) h.linesAbove_ne_nil
  | some found =>
      have hpicked : IsPicked table path found :=
        Maxima.isFirstMax_of_argmax hfound
      rw [h.unique hpicked]
      rfl

theorem filesystemOf_of_nil (h : linesAbove table path = []) :
    filesystemOf (some (mountinfo table)) path = unknown := by
  rw [filesystemOf_mountinfo, h]
  rfl

end

/-- The type that is reported is the one of the mount that backs the path
exactly when the first of the longest written mount points has the same type. -/
theorem isFilesystemOf_iff (table : List MountEntry) (path : List Char) :
    IsFilesystemOf table path (filesystemOf (some (mountinfo table)) path) ↔
      SameType table path := by
  by_cases habove : mountsAbove table path = []
  · rw [isFilesystemOf_iff_of_nil habove]
    constructor
    · intro h
      exact
        { both := fun _ _ _ hbacks => absurd habove hbacks.mountsAbove_ne_nil
          onlyPicked := fun picked hpicked _ =>
            (filesystemOf_of_picked hpicked).symm.trans h
          onlyBacking := fun _ hbacks =>
            absurd habove hbacks.mountsAbove_ne_nil }
    · intro h
      by_cases hlines : linesAbove table path = []
      · exact filesystemOf_of_nil hlines
      · obtain ⟨picked, hpicked⟩ := Maxima.exists_isFirstMax
          (f := fun entry => byteLength entry.written) hlines
        rw [filesystemOf_of_picked hpicked]
        exact h.onlyPicked picked hpicked habove
  · obtain ⟨backing, hbacking⟩ := Maxima.exists_isLastMax
      (f := fun entry => (components entry.mountPoint).length) habove
    rw [isFilesystemOf_iff_of_backs hbacking]
    constructor
    · intro h
      refine ⟨?_, fun _ _ hnone => absurd hnone habove, ?_⟩
      · intro picked backing' hpicked hbacking'
        rw [hbacking'.unique hbacking]
        exact Subtype.ext ((filesystemOf_of_picked hpicked).symm.trans h)
      · intro backing' hbacking' hlines
        rw [hbacking'.unique hbacking, ← h]
        exact filesystemOf_of_nil hlines
    · intro h
      by_cases hlines : linesAbove table path = []
      · rw [filesystemOf_of_nil hlines]
        exact (h.onlyBacking backing hbacking hlines).symm
      · obtain ⟨picked, hpicked⟩ := Maxima.exists_isFirstMax
          (f := fun entry => byteLength entry.written) hlines
        rw [filesystemOf_of_picked hpicked]
        exact congrArg Subtype.val (h.both picked backing hpicked hbacking)

/-! ## Mounts on top of each other -/

/-- A mount of a device, with the usual other columns. -/
def mountOf (mountPoint : List Char) (absolute : mountPoint.head? = some '/')
    (fsType : { word : List Char // IsWord word }) : MountEntry where
  id := ⟨['3', '6'], by decide⟩
  parent := ⟨['3', '5'], by decide⟩
  device := ⟨['8', ':', '1'], by decide⟩
  root := ⟨['/'], by decide⟩
  mountPoint := mountPoint
  options := [⟨['r', 'w'], by decide⟩]
  fsType := fsType
  source := ['/', 'd', 'e', 'v', '/', 's', 'd', 'a', ' ', 'r', 'w']
  absolute := absolute
  oneLine := by decide

/-- An `ext4` at the root. -/
def rootMount : MountEntry :=
  mountOf ['/'] rfl ⟨['e', 'x', 't', '4'], by decide⟩

/-- An `xfs` at `/d`. -/
def diskMount : MountEntry :=
  mountOf ['/', 'd'] rfl ⟨['x', 'f', 's'], by decide⟩

/-- A `tmpfs` that has been mounted over it. -/
def coverMount : MountEntry :=
  mountOf ['/', 'd'] rfl ⟨['t', 'm', 'p', 'f', 's'], by decide⟩

example : filesystemOf (some (mountinfo [rootMount, diskMount]))
    ['/', 'd', '/', 'x'] = ['x', 'f', 's'] := by
  decide +kernel

/-- The mount below is reported. -/
theorem not_isFilesystemOf_covered :
    filesystemOf (some (mountinfo [rootMount, diskMount, coverMount]))
        ['/', 'd', '/', 'x'] = ['x', 'f', 's'] ∧
      Backs [rootMount, diskMount, coverMount] ['/', 'd', '/', 'x']
        coverMount ∧
      ¬ IsFilesystemOf [rootMount, diskMount, coverMount]
        ['/', 'd', '/', 'x'] ['x', 'f', 's'] := by
  have habove : mountsAbove [rootMount, diskMount, coverMount]
      ['/', 'd', '/', 'x'] = [rootMount, diskMount, coverMount] :=
    List.filter_eq_self.mpr (by decide)
  have hbacks : Backs [rootMount, diskMount, coverMount] ['/', 'd', '/', 'x']
      coverMount := by
    rw [Backs, habove]
    exact ⟨[rootMount, diskMount], [], rfl, by decide,
      fun _ h => absurd h List.not_mem_nil⟩
  refine ⟨by decide, hbacks, ?_⟩
  rintro (⟨entry, hentry, htype⟩ | ⟨hnone, -⟩)
  · rw [hentry.unique hbacks] at htype
    exact absurd htype (by decide)
  · rw [habove] at hnone
    exact List.cons_ne_nil _ _ hnone

end StorageMixed

end Darcbench
