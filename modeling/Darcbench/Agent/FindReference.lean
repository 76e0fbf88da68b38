import Darcbench.Support.Words
import Mathlib.Algebra.GroupWithZero.Nat
import Mathlib.Data.List.Infix
import Mathlib.Tactic.Common

/-!
# References to the snippet

Before the snippet is removed, the directory in which it lies is searched for a
file that still names it.  The directories that are left to search lie on a
stack, and the search is bounded in depth, in files and in bytes.

A directory that is too deep ends the search of all that is left on the stack.
-/

namespace Darcbench

namespace Proxy

/-- What a directory holds, in the order in which it is listed.  A file without
a body is not text. -/
inductive ConfigEntry
  | file (name : String) (len : ℕ) (body : Option String)
  | directory (name : String) (entries : List ConfigEntry)
  /-- A link, a socket or the like. -/
  | other (name : String)

def maxDepth : ℕ := 6

def maxFiles : ℕ := 4096

def maxBytes : ℕ := 4 * 2 ^ 20

/-- A directory that is left to search. -/
structure Visit where
  path : String
  depth : ℕ
  entries : List ConfigEntry

def Visit.join (visit : Visit) (name : String) : String :=
  if visit.path.endsWith "/" then visit.path ++ name
  else visit.path ++ "/" ++ name

/-- The first line that contains the path, counted from one. -/
def lineOf (snippet body : String) : Option ℕ :=
  ((Words.lines body.toList).findIdx? fun line =>
    decide (snippet.toList <:+: line)).map (· + 1)

/-- What the search makes of a directory. -/
inductive Scanned
  | found (reference : String)
  | left (queue : List Visit) (seen : ℕ)

/-- Goes through the entries of a directory. -/
def scan (snippet : String) (visit : Visit) :
    List ConfigEntry → List Visit → ℕ → Scanned
  | [], queue, seen => .left queue seen
  | entry :: rest, queue, seen =>
      if maxFiles ≤ seen then .left queue seen
      else
        match entry with
        | .directory name entries =>
            scan snippet visit rest
              (⟨visit.join name, visit.depth + 1, entries⟩ :: queue) seen
        | .other _ => scan snippet visit rest queue seen
        | .file name len body =>
            if maxBytes < len ∨ visit.join name = snippet then
              scan snippet visit rest queue seen
            else
              match body.bind (lineOf snippet) with
              | some line =>
                  .found (visit.join name ++ ":" ++ toString line)
              | none => scan snippet visit rest queue (seen + 1)

/-! ## The order of the directories -/

mutual

/-- A directory and all below it, in the order in which they leave the stack:
the directory that was listed last comes first. -/
def ConfigEntry.visits (parent : Visit) : ConfigEntry → List Visit
  | .directory name entries =>
      ⟨parent.join name, parent.depth + 1, entries⟩ ::
        visitsBelow ⟨parent.join name, parent.depth + 1, entries⟩ entries
  | _ => []

def visitsBelow (parent : Visit) : List ConfigEntry → List Visit
  | [] => []
  | entry :: rest => visitsBelow parent rest ++ entry.visits parent

end

def Visit.all (visit : Visit) : List Visit :=
  visit :: visitsBelow visit visit.entries

/-- The directories that are still to come. -/
def pending (queue : List Visit) : List Visit :=
  queue.flatMap Visit.all

theorem length_pending_scan {snippet : String} {visit : Visit}
    {entries : List ConfigEntry} {queue : List Visit} {seen : ℕ}
    {queue' : List Visit} {seen' : ℕ}
    (h : scan snippet visit entries queue seen = .left queue' seen') :
    (pending queue').length ≤
      (visitsBelow visit entries).length + (pending queue).length := by
  induction entries generalizing queue seen with
  | nil =>
      cases h
      exact Nat.le_add_left _ _
  | cons entry rest ih =>
      rw [visitsBelow, List.length_append]
      by_cases hseen : maxFiles ≤ seen
      · rw [scan.eq_def] at h
        simp only [if_pos hseen] at h
        cases h
        exact Nat.le_add_left _ _
      cases entry with
      | directory name entries =>
          rw [scan, if_neg hseen] at h
          have hrest := ih h
          simp only [pending, List.flatMap_cons, List.length_append,
            ConfigEntry.visits, Visit.all, List.length_cons] at hrest ⊢
          omega
      | other _ =>
          rw [scan, if_neg hseen] at h
          exact (ih h).trans (by omega)
      | file name len body =>
          rw [scan, if_neg hseen] at h
          split at h
          · exact (ih h).trans (by omega)
          · split at h
            · cases h
            · exact (ih h).trans (by omega)

/-- Searches what is on the stack. -/
def search (snippet : String) : List Visit → ℕ → Option String
  | [], _ => none
  | visit :: queue, seen =>
      if maxDepth < visit.depth ∨ maxFiles ≤ seen then none
      else
        match _h : scan snippet visit visit.entries queue seen with
        | .found reference => some reference
        | .left queue seen => search snippet queue seen
termination_by queue => (pending queue).length
decreasing_by
  have hlength := length_pending_scan (by assumption)
  simp only [pending, List.flatMap_cons, List.length_append, Visit.all,
    List.length_cons] at hlength ⊢
  omega

/-- Finds a file below the directory of the snippet that names it. -/
def findReference (root name : String) (entries : List ConfigEntry) :
    Option String :=
  let visit : Visit := ⟨root, 0, entries⟩
  search (visit.join name) [visit] 0

/-! ## One directory -/

/-- What an entry of a directory gives away. -/
def ConfigEntry.reference (snippet : String) (visit : Visit) :
    ConfigEntry → Option String
  | .file name len body =>
      if maxBytes < len ∨ visit.join name = snippet then none
      else
        (body.bind (lineOf snippet)).map fun line =>
          visit.join name ++ ":" ++ toString line
  | _ => none

def Visit.reference (snippet : String) (visit : Visit) : Option String :=
  visit.entries.findSome? (ConfigEntry.reference snippet visit)

def ConfigEntry.isFile : ConfigEntry → Bool
  | .file _ _ _ => true
  | _ => false

def ConfigEntry.below? (visit : Visit) : ConfigEntry → Option Visit
  | .directory name entries =>
      some ⟨visit.join name, visit.depth + 1, entries⟩
  | _ => none

/-- The number of files in some directories. -/
def fileCount (visits : List Visit) : ℕ :=
  (visits.map fun visit => visit.entries.countP ConfigEntry.isFile).sum

/-- What a file gives away, as the search goes through it. -/
theorem scan_file (snippet : String) (visit : Visit) (name : String) (len : ℕ)
    (body : Option String) (rest : List ConfigEntry) (queue : List Visit)
    {seen : ℕ} (h : seen < maxFiles) :
    match ConfigEntry.reference snippet visit (.file name len body) with
    | some reference =>
        scan snippet visit (.file name len body :: rest) queue seen =
          .found reference
    | none => ∃ seen' ≤ seen + 1,
        scan snippet visit (.file name len body :: rest) queue seen =
          scan snippet visit rest queue seen' := by
  rw [scan, if_neg (not_le.mpr h), ConfigEntry.reference]
  by_cases hskip : maxBytes < len ∨ visit.join name = snippet
  · simp only [if_pos hskip]
    exact ⟨seen, Nat.le_succ seen, rfl⟩
  · simp only [if_neg hskip]
    cases body.bind (lineOf snippet) with
    | none => exact ⟨seen + 1, le_rfl, rfl⟩
    | some line => rfl

/-- With room for all its files, a directory is searched to the end. -/
theorem scan_eq {snippet : String} {visit : Visit}
    {entries : List ConfigEntry} {queue : List Visit} {seen : ℕ}
    (h : seen + entries.countP ConfigEntry.isFile < maxFiles) :
    match entries.findSome? (ConfigEntry.reference snippet visit) with
    | some reference =>
        scan snippet visit entries queue seen = .found reference
    | none => ∃ seen' ≤ seen + entries.countP ConfigEntry.isFile,
        scan snippet visit entries queue seen =
          .left ((entries.filterMap (ConfigEntry.below? visit)).reverse ++
            queue) seen' := by
  induction entries generalizing queue seen with
  | nil => exact ⟨seen, le_rfl, rfl⟩
  | cons entry rest ih =>
      rw [List.countP_cons] at h ⊢
      have hroom : ¬ maxFiles ≤ seen := by omega
      cases entry with
      | directory name entries =>
          have hrest := @ih
            (⟨visit.join name, visit.depth + 1, entries⟩ :: queue) seen h
          rw [scan, if_neg hroom, List.findSome?_cons]
          simp only [ConfigEntry.reference, ConfigEntry.below?,
            List.filterMap_cons, List.reverse_cons, List.append_assoc,
            List.singleton_append]
          exact hrest
      | other _ =>
          rw [scan, if_neg hroom, List.findSome?_cons]
          exact ih h
      | file name len body =>
          have hfile := scan_file snippet visit name len body rest queue
            (not_le.mp hroom)
          rw [List.findSome?_cons]
          cases hreference :
            ConfigEntry.reference snippet visit (.file name len body) with
          | some reference =>
              rw [hreference] at hfile
              exact hfile
          | none =>
              rw [hreference] at hfile
              obtain ⟨seen', hseen, hscan⟩ := hfile
              rw [hscan]
              have hcount : ConfigEntry.isFile (.file name len body) = true :=
                rfl
              rw [if_pos hcount] at h ⊢
              have hrest := @ih queue seen' (by omega)
              cases hothers :
                rest.findSome? (ConfigEntry.reference snippet visit) with
              | some reference =>
                  rw [hothers] at hrest
                  exact hrest
              | none =>
                  rw [hothers] at hrest
                  obtain ⟨last, hlast, hleft⟩ := hrest
                  exact ⟨last, by omega, hleft⟩

/-! ## The whole search -/

/-- The subdirectories leave the stack one after the other, each with all below
it. -/
theorem visitsBelow_eq (visit : Visit) (entries : List ConfigEntry) :
    visitsBelow visit entries =
      pending (entries.filterMap (ConfigEntry.below? visit)).reverse := by
  induction entries with
  | nil =>
      rw [visitsBelow]
      rfl
  | cons entry rest ih =>
      rw [visitsBelow, ih]
      cases entry with
      | directory name entries =>
          simp only [ConfigEntry.visits, pending, ConfigEntry.below?,
            List.filterMap_cons, List.reverse_cons, List.flatMap_append,
            List.flatMap_cons, List.flatMap_nil, List.append_nil, Visit.all]
      | file _ _ _ => exact List.append_nil _
      | other _ => exact List.append_nil _

/-- What is found in directories that are searched in turn.  One that is too
deep ends the search. -/
def firstReference (snippet : String) : List Visit → Option String
  | [] => none
  | visit :: rest =>
      if maxDepth < visit.depth then none
      else (visit.reference snippet).or (firstReference snippet rest)

theorem fileCount_append (first second : List Visit) :
    fileCount (first ++ second) = fileCount first + fileCount second := by
  rw [fileCount, List.map_append, List.sum_append]
  rfl

theorem pending_cons (visit : Visit) (queue : List Visit) :
    pending (visit :: queue) =
      visit :: (visitsBelow visit visit.entries ++ pending queue) :=
  rfl

theorem pending_append (first second : List Visit) :
    pending (first ++ second) = pending first ++ pending second :=
  List.flatMap_append

theorem fileCount_cons (visit : Visit) (rest : List Visit) :
    fileCount (visit :: rest) =
      visit.entries.countP ConfigEntry.isFile + fileCount rest :=
  rfl

/-- With room for all files, the search goes through the directories in their
order. -/
theorem search_eq {snippet : String} {queue : List Visit} {seen : ℕ}
    (h : seen + fileCount (pending queue) < maxFiles) :
    search snippet queue seen = firstReference snippet (pending queue) := by
  induction queue, seen using search.induct snippet with
  | case1 seen =>
      rw [search]
      rfl
  | case2 visit queue seen hstop =>
      rw [search, if_pos hstop]
      exact (if_pos (hstop.resolve_right (by omega))).symm
  | case3 visit queue seen hgo reference hscan =>
      rw [pending_cons, fileCount_cons] at h
      have hvisit := @scan_eq snippet visit visit.entries queue seen (by omega)
      rw [hscan] at hvisit
      rw [search, if_neg hgo, hscan, pending_cons, firstReference,
        if_neg (not_or.mp hgo).1, Visit.reference]
      cases hreference :
        visit.entries.findSome? (ConfigEntry.reference snippet visit) with
      | some other =>
          rw [hreference] at hvisit
          cases hvisit
          rfl
      | none =>
          rw [hreference] at hvisit
          obtain ⟨_, -, hleft⟩ := hvisit
          cases hleft
  | case4 visit queue seen hgo queue' seen' hscan ih =>
      rw [pending_cons, fileCount_cons, fileCount_append] at h
      have hvisit := @scan_eq snippet visit visit.entries queue seen (by omega)
      rw [hscan] at hvisit
      rw [search, if_neg hgo, hscan, pending_cons, firstReference,
        if_neg (not_or.mp hgo).1, Visit.reference]
      cases hreference :
        visit.entries.findSome? (ConfigEntry.reference snippet visit) with
      | some other =>
          rw [hreference] at hvisit
          cases hvisit
      | none =>
          rw [hreference] at hvisit
          obtain ⟨last, hlast, hleft⟩ := hvisit
          cases hleft
          rw [Option.none_or, visitsBelow_eq, ← pending_append]
          rw [visitsBelow_eq] at h
          refine ih ?_
          rw [pending_append, fileCount_append]
          omega

/-! ## What is found -/

/-- Whether a file of a directory names the snippet in some line. -/
def Visit.Refers (snippet : String) (visit : Visit) : Prop :=
  ∃ name len body, .file name len (some body) ∈ visit.entries ∧
    len ≤ maxBytes ∧ visit.join name ≠ snippet ∧
    ∃ line ∈ Words.lines body.toList, snippet.toList <:+: line

/-- Whether a text points out a line that names the snippet. -/
def Visit.Shows (snippet reference : String) (visit : Visit) : Prop :=
  ∃ name len body, .file name len (some body) ∈ visit.entries ∧
    ∃ i line, (Words.lines body.toList)[i]? = some line ∧
      snippet.toList <:+: line ∧
      reference = visit.join name ++ ":" ++ toString (i + 1)

theorem lineOf_isSome_iff {snippet body : String} :
    (lineOf snippet body).isSome ↔
      ∃ line ∈ Words.lines body.toList, snippet.toList <:+: line := by
  rw [lineOf, Option.isSome_map, List.findIdx?_isSome, List.any_eq_true]
  simp only [decide_eq_true_eq]

theorem lineOf_eq_some {snippet body : String} {number : ℕ}
    (h : lineOf snippet body = some number) :
    ∃ i line, (Words.lines body.toList)[i]? = some line ∧
      snippet.toList <:+: line ∧ number = i + 1 := by
  obtain ⟨i, hi, rfl⟩ := Option.map_eq_some_iff.mp h
  obtain ⟨hlt, hline, -⟩ := List.findIdx?_eq_some_iff_getElem.mp hi
  exact ⟨i, _, List.getElem?_eq_getElem hlt, of_decide_eq_true hline, rfl⟩

theorem ConfigEntry.reference_eq_some_iff {snippet reference : String}
    {visit : Visit} {entry : ConfigEntry} :
    entry.reference snippet visit = some reference ↔
      ∃ name len body line, entry = .file name len (some body) ∧
        len ≤ maxBytes ∧ visit.join name ≠ snippet ∧
        lineOf snippet body = some line ∧
        reference = visit.join name ++ ":" ++ toString line := by
  constructor
  · intro h
    cases entry with
    | directory _ _ => cases h
    | other _ => cases h
    | file name len body =>
        rw [ConfigEntry.reference] at h
        split_ifs at h with hskip
        obtain ⟨line, hline, rfl⟩ := Option.map_eq_some_iff.mp h
        obtain ⟨text, rfl, htext⟩ := Option.bind_eq_some_iff.mp hline
        obtain ⟨hlen, hname⟩ := not_or.mp hskip
        exact ⟨name, len, text, line, rfl, not_lt.mp hlen, hname, htext, rfl⟩
  · rintro ⟨name, len, body, line, rfl, hlen, hname, hline, rfl⟩
    rw [ConfigEntry.reference,
      if_neg (not_or.mpr ⟨not_lt.mpr hlen, hname⟩), Option.bind_some, hline]
    rfl

theorem Visit.reference_isSome_iff {snippet : String} {visit : Visit} :
    (visit.reference snippet).isSome ↔ visit.Refers snippet := by
  rw [Visit.reference, List.findSome?_isSome_iff]
  constructor
  · rintro ⟨entry, hentry, hsome⟩
    obtain ⟨reference, hreference⟩ := Option.isSome_iff_exists.mp hsome
    obtain ⟨name, len, body, line, rfl, hlen, hname, hline, -⟩ :=
      ConfigEntry.reference_eq_some_iff.mp hreference
    exact ⟨name, len, body, hentry, hlen, hname,
      lineOf_isSome_iff.mp (Option.isSome_of_eq_some hline)⟩
  · rintro ⟨name, len, body, hentry, hlen, hname, hlines⟩
    obtain ⟨line, hline⟩ :=
      Option.isSome_iff_exists.mp (lineOf_isSome_iff.mpr hlines)
    exact ⟨_, hentry, Option.isSome_of_eq_some
      (ConfigEntry.reference_eq_some_iff.mpr
        ⟨name, len, body, line, rfl, hlen, hname, hline, rfl⟩)⟩

theorem Visit.reference_eq_none_iff {snippet : String} {visit : Visit} :
    visit.reference snippet = none ↔ ¬ visit.Refers snippet := by
  rw [← visit.reference_isSome_iff, Option.not_isSome_iff_eq_none]

theorem Visit.shows_of_reference {snippet reference : String}
    {visit : Visit} (h : visit.reference snippet = some reference) :
    visit.Shows snippet reference := by
  obtain ⟨entry, hentry, hreference⟩ := List.exists_of_findSome?_eq_some h
  obtain ⟨name, len, body, number, rfl, -, -, hnumber, rfl⟩ :=
    ConfigEntry.reference_eq_some_iff.mp hreference
  obtain ⟨i, line, hline, hnames, rfl⟩ := lineOf_eq_some hnumber
  exact ⟨name, len, body, hentry, i, line, hline, hnames, rfl⟩

theorem shows_of_firstReference {snippet reference : String}
    {visits : List Visit} (h : firstReference snippet visits = some reference) :
    ∃ visit ∈ visits, visit.Shows snippet reference := by
  induction visits with
  | nil => cases h
  | cons visit rest ih =>
      rw [firstReference] at h
      split_ifs at h with hdeep
      rcases Option.or_eq_some_iff.mp h with hvisit | ⟨-, hrest⟩
      · exact ⟨visit, List.mem_cons_self, visit.shows_of_reference hvisit⟩
      · obtain ⟨other, hmem, hshows⟩ := ih hrest
        exact ⟨other, List.mem_cons_of_mem _ hmem, hshows⟩

/-- Whether a directory that is too deep comes before all that name the
snippet. -/
def TooDeepFirst (snippet : String) (visits : List Visit) : Prop :=
  ∃ before deep after, visits = before ++ deep :: after ∧
    maxDepth < deep.depth ∧ ∀ visit ∈ before, ¬ visit.Refers snippet

theorem firstReference_eq_none_iff {snippet : String} {visits : List Visit} :
    firstReference snippet visits = none ↔
      TooDeepFirst snippet visits ∨
        ∀ visit ∈ visits, ¬ visit.Refers snippet := by
  induction visits with
  | nil =>
      refine iff_of_true rfl (.inr ?_)
      intro visit hvisit
      cases hvisit
  | cons visit rest ih =>
      rw [firstReference]
      by_cases hdeep : maxDepth < visit.depth
      · rw [if_pos hdeep]
        refine iff_of_true rfl (.inl ⟨[], visit, rest, rfl, hdeep, ?_⟩)
        intro other hother
        cases hother
      rw [if_neg hdeep, Option.or_eq_none_iff, ih,
        visit.reference_eq_none_iff]
      constructor
      · rintro ⟨hvisit, ⟨before, deep, after, rfl, htoo, hbefore⟩ | hrest⟩
        · exact .inl ⟨visit :: before, deep, after, rfl, htoo,
            List.forall_mem_cons.mpr ⟨hvisit, hbefore⟩⟩
        · exact .inr (List.forall_mem_cons.mpr ⟨hvisit, hrest⟩)
      · rintro (⟨before, deep, after, heq, htoo, hbefore⟩ | hall)
        · cases before with
          | nil =>
              cases heq
              exact absurd htoo hdeep
          | cons first before =>
              cases heq
              obtain ⟨hvisit, hrest⟩ := List.forall_mem_cons.mp hbefore
              exact ⟨hvisit, .inl ⟨before, deep, after, rfl, htoo, hrest⟩⟩
        · obtain ⟨hvisit, hrest⟩ := List.forall_mem_cons.mp hall
          exact ⟨hvisit, .inr hrest⟩

/-! ## Whether a reference is missed -/

/-- The directories below that of the snippet, in the order of the search. -/
def visitsOf (root : String) (entries : List ConfigEntry) : List Visit :=
  Visit.all ⟨root, 0, entries⟩

/-- A reference in a directory that is not too deep is found, and what is found
is a line that names the snippet. -/
def FindsReferences (root name : String) (entries : List ConfigEntry) :
    Prop :=
  ((∃ visit ∈ visitsOf root entries, visit.depth ≤ maxDepth ∧
      visit.Refers (Visit.join ⟨root, 0, entries⟩ name)) →
    (findReference root name entries).isSome) ∧
  ∀ reference, findReference root name entries = some reference →
    ∃ visit ∈ visitsOf root entries,
      visit.Shows (Visit.join ⟨root, 0, entries⟩ name) reference

theorem findReference_eq {root : String} {entries : List ConfigEntry}
    (h : fileCount (visitsOf root entries) < maxFiles) (name : String) :
    findReference root name entries =
      firstReference (Visit.join ⟨root, 0, entries⟩ name)
        (visitsOf root entries) := by
  have hpending : pending [⟨root, 0, entries⟩] = visitsOf root entries :=
    List.append_nil _
  rw [findReference, search_eq, hpending]
  rwa [hpending, Nat.zero_add]

/-- With fewer files than the search allows, a reference is missed exactly if a
directory that is too deep comes before all that hold one. -/
theorem findsReferences_iff {root : String} {entries : List ConfigEntry}
    (h : fileCount (visitsOf root entries) < maxFiles) (name : String) :
    FindsReferences root name entries ↔
      ¬ (TooDeepFirst (Visit.join ⟨root, 0, entries⟩ name)
          (visitsOf root entries) ∧
        ∃ visit ∈ visitsOf root entries, visit.depth ≤ maxDepth ∧
          visit.Refers (Visit.join ⟨root, 0, entries⟩ name)) := by
  rw [FindsReferences, findReference_eq h, and_iff_left fun reference =>
    shows_of_firstReference]
  generalize Visit.join ⟨root, 0, entries⟩ name = snippet
  constructor
  · rintro hfinds ⟨hdeep, hrefers⟩
    have hnone := firstReference_eq_none_iff.mpr (.inl hdeep)
    have hsome := hfinds hrefers
    rw [hnone] at hsome
    cases hsome
  · rintro hnot ⟨visit, hvisit, hdepth, hrefers⟩
    by_contra hnone
    rw [Option.not_isSome_iff_eq_none, firstReference_eq_none_iff] at hnone
    rcases hnone with hdeep | hall
    · exact hnot ⟨hdeep, visit, hvisit, hdepth, hrefers⟩
    · exact hall visit hvisit hrefers

/-! ## A deep directory beside a reference -/

def snippetName : String := "darcbench-location.conf"

/-- A site that includes the snippet. -/
def siteFile : ConfigEntry :=
  .file "default" 60
    (some "include /etc/nginx/darcbench-location.conf;\n")

/-- Directories nested in each other. -/
def nested : ℕ → ConfigEntry
  | 0 => .directory "d" []
  | n + 1 => .directory "d" [nested n]

/-- The directory of the sites is listed before one with seven levels. -/
def deepTree : List ConfigEntry :=
  [.directory "sites-enabled" [siteFile], nested 6]

theorem findsReferences_iff_sites :
    FindsReferences "/etc/nginx" snippetName
        [.directory "sites-enabled" [siteFile]] ↔
      ¬ (TooDeepFirst (Visit.join
            ⟨"/etc/nginx", 0, [.directory "sites-enabled" [siteFile]]⟩
            snippetName)
          (visitsOf "/etc/nginx" [.directory "sites-enabled" [siteFile]]) ∧
        ∃ visit ∈ visitsOf "/etc/nginx"
            [.directory "sites-enabled" [siteFile]],
          visit.depth ≤ maxDepth ∧
          visit.Refers (Visit.join
            ⟨"/etc/nginx", 0, [.directory "sites-enabled" [siteFile]]⟩
            snippetName)) :=
  findsReferences_iff (by decide) snippetName

theorem not_findsReferences_deepTree :
    ¬ ∀ root name entries, fileCount (visitsOf root entries) < maxFiles →
      FindsReferences root name entries := by
  intro h
  have hcount : fileCount (visitsOf "/etc/nginx" deepTree) < maxFiles := by
    decide
  have hfinds := (h _ snippetName _ hcount).1
  have hnone : findReference "/etc/nginx" snippetName deepTree = none := by
    rw [findReference_eq hcount]
    rfl
  rw [hnone] at hfinds
  refine Bool.false_ne_true (hfinds
    ⟨⟨Visit.join ⟨"/etc/nginx", 0, deepTree⟩ "sites-enabled", 1, [siteFile]⟩,
      ?_, by decide, ?_⟩)
  · simp only [visitsOf, Visit.all, deepTree, visitsBelow, ConfigEntry.visits,
      List.mem_cons, List.mem_append, true_or, or_true]
  · refine ⟨"default", 60, _, List.mem_singleton_self _, by decide, ?_, ?_⟩
    · decide +kernel
    · refine ⟨"include /etc/nginx/darcbench-location.conf;".toList, ?_, ?_⟩
      · decide +kernel
      · decide +kernel

end Proxy

end Darcbench
