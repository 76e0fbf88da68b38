import Darcbench.Support.FileTree

/-!
# Interpreters found on the host

An interpreter is executed only if it, and every directory above it, belongs to
root and can be written by root alone.  The check is applied to the file that
the path leads to, and again to the directories of the path as written.

A path can pass through links that lie in directories of neither kind.  The
check says nothing about these, and whoever may write one of them decides what
the path leads to.
-/

namespace Darcbench

namespace RuntimeExec

open FileTree

/-- A candidate that exists and was declined. -/
structure Rejection where
  path : List String
  reason : String
  deriving DecidableEq

/-- An interpreter that passed every check. -/
structure Interpreter where
  path : List String
  deriving DecidableEq

def display (path : List String) : String :=
  "/" ++ "/".intercalate path

def errorText : WalkError → String
  | .notFound => "No such file or directory (os error 2)"
  | .notDirectory => "Not a directory (os error 20)"
  | .tooManyLinks => "Too many levels of symbolic links (os error 40)"

/-- A path and those above it, up to the root. -/
def ancestors (path : List String) : List (List String) :=
  (path.filter fun component => component ≠ ".").inits.reverse

def octal (mode : ℕ) : String :=
  String.ofList (Nat.toDigits 8 (mode &&& 0o7777))

/-- Nothing when an inode belongs to root and only root may write it. -/
def unsafeOwnership (inode : Metadata) : Option String :=
  if inode.uid ≠ 0 then
    some s!"is owned by uid {inode.uid}, not root"
  else if inode.mode &&& 0o020 ≠ 0 then
    some s!"is group-writable (mode {octal inode.mode})"
  else if inode.mode &&& 0o002 ≠ 0 then
    some s!"is world-writable (mode {octal inode.mode})"
  else if inode.mode &&& 0o4000 ≠ 0 then some "is setuid"
  else if inode.mode &&& 0o2000 ≠ 0 then some "is setgid"
  else none

variable (tree : FileTree)

/-- The check of the directories above the file. -/
def checkParents : List (List String) → Except String Unit
  | [] => .ok ()
  | directory :: above =>
      match tree.metadata directory with
      | .error error =>
          .error ("`" ++ display directory ++ "` cannot be inspected: " ++
            errorText error)
      | .ok inode =>
          match unsafeOwnership inode.toMetadata with
          | some problem =>
              .error ("its parent directory `" ++ display directory ++ "` " ++
                problem ++ ", so a non-root user could replace the binary")
          | none => checkParents above

/-- The check of the path as written, of which links are not followed. -/
def checkUnresolvedChain : List (List String) → Except String Unit
  | [] => .ok ()
  | component :: above =>
      match tree.symlinkMetadata component with
      | .error error =>
          .error ("`" ++ display component ++ "` cannot be inspected: " ++
            errorText error)
      | .ok inode =>
          if inode.node.isSymlink then
            if inode.uid ≠ 0 then
              .error ("`" ++ display component ++
                "` is a symlink owned by uid " ++ toString inode.uid ++
                ", not root, so a non-root user could retarget it and " ++
                "choose which binary this name resolves to")
            else checkUnresolvedChain above
          else
            match unsafeOwnership inode.toMetadata with
            | some problem =>
                .error ("`" ++ display component ++ "` " ++ problem ++
                  ", so a non-root user could redirect this path")
            | none => checkUnresolvedChain above

/-- The path of the file to execute, if the checks allow it. -/
def checkSafe (path : List String) : Except String (List String) :=
  match tree.canonicalize path with
  | .error error => .error ("cannot be resolved: " ++ errorText error)
  | .ok resolved =>
      match tree.metadata resolved with
      | .error error => .error ("cannot be inspected: " ++ errorText error)
      | .ok ⟨metadata, .file _⟩ =>
          if metadata.mode &&& 0o111 = 0 then .error "is not executable"
          else
            match unsafeOwnership metadata with
            | some problem =>
                .error (problem ++ ", so a non-root user could replace it")
            | none => do
                checkParents tree (ancestors resolved).tail
                checkUnresolvedChain tree (ancestors path).tail
                pure resolved
      | .ok _ => .error "is not a regular file"

/-- One candidate of the list.  The first safe one is chosen, and those behind
it are checked as well. -/
def consider (found : Option Interpreter × List Rejection)
    (path : List String) : Option Interpreter × List Rejection :=
  match tree.metadata path with
  | .error _ => found
  | .ok _ =>
      match checkSafe tree path with
      | .ok resolved => (found.1.or (some ⟨resolved⟩), found.2)
      | .error reason => (found.1, found.2 ++ [⟨path, reason⟩])

def discover (candidates : List (List String)) :
    Option Interpreter × List Rejection :=
  candidates.foldl (consider tree) (none, [])

/-! ## What the check establishes -/

variable {tree}

theorem not_mayWrite_of_unsafeOwnership {inode : Metadata}
    (h : unsafeOwnership inode = none) (user : User) :
    ¬ user.MayWrite inode := by
  unfold unsafeOwnership at h
  split_ifs at h with huid hgroup hothers _ _
  have hne : user.uid ≠ inode.uid := by
    rw [not_not.mp huid]
    exact user.uid_ne_zero
  have hbit : ∀ i, inode.mode &&& 2 ^ i = 0 →
      inode.mode.testBit i = false := by
    intro i hzero
    rw [Nat.and_two_pow] at hzero
    cases hi : inode.mode.testBit i with
    | false => rfl
    | true =>
        rw [hi, Bool.toNat_true, one_mul] at hzero
        exact absurd hzero (Nat.two_pow_pos i).ne'
  unfold User.MayWrite User.shift
  rw [if_neg hne]
  split_ifs
  · rw [hbit 4 (not_not.mp hgroup)]
    exact Bool.false_ne_true
  · rw [hbit 1 (not_not.mp hothers)]
    exact Bool.false_ne_true

theorem unsafeOwnership_of_checkParents {directories : List (List String)}
    (h : checkParents tree directories = .ok ()) {directory : List String}
    (hmem : directory ∈ directories) :
    ∃ inode, tree.metadata directory = .ok inode ∧
      unsafeOwnership inode.toMetadata = none := by
  induction directories with
  | nil => cases hmem
  | cons first above ih =>
      rw [checkParents] at h
      split at h
      · cases h
      · next inode hinode =>
        split at h
        · cases h
        · next hsafe =>
          rcases List.mem_cons.mp hmem with rfl | hmem
          · exact ⟨inode, hinode, hsafe⟩
          · exact ih h hmem

theorem unsafeOwnership_of_checkUnresolvedChain
    {components : List (List String)}
    (h : checkUnresolvedChain tree components = .ok ())
    {component : List String} (hmem : component ∈ components) :
    ∃ inode, tree.symlinkMetadata component = .ok inode ∧
      (inode.node.isSymlink = false →
        unsafeOwnership inode.toMetadata = none) := by
  induction components with
  | nil => cases hmem
  | cons first above ih =>
      rw [checkUnresolvedChain] at h
      split at h
      · cases h
      · next inode hinode =>
        have hfirst : (inode.node.isSymlink = false →
              unsafeOwnership inode.toMetadata = none) ∧
            checkUnresolvedChain tree above = .ok () := by
          by_cases hsymlink : inode.node.isSymlink
          · rw [if_pos hsymlink] at h
            split at h
            · cases h
            · exact ⟨fun hfalse =>
                absurd (hsymlink.symm.trans hfalse) (by decide), h⟩
          · rw [if_neg hsymlink] at h
            split at h
            · cases h
            · next hsafe => exact ⟨fun _ => hsafe, h⟩
        rcases List.mem_cons.mp hmem with rfl | hmem
        · exact ⟨inode, hinode, hfirst.1⟩
        · exact ih hfirst.2 hmem

/-- What the check has seen when it allows a path. -/
theorem checkSafe_eq_ok_iff {path resolved : List String} :
    checkSafe tree path = .ok resolved ↔
      tree.canonicalize path = .ok resolved ∧
        (∃ metadata contents,
          tree.metadata resolved = .ok ⟨metadata, .file contents⟩ ∧
            metadata.mode &&& 0o111 ≠ 0 ∧ unsafeOwnership metadata = none) ∧
        checkParents tree (ancestors resolved).tail = .ok () ∧
        checkUnresolvedChain tree (ancestors path).tail = .ok () := by
  unfold checkSafe
  constructor
  · intro h
    split at h
    · cases h
    · next found hfound =>
      split at h
      · cases h
      · next metadata contents hmetadata =>
        split at h
        · cases h
        · next hmode =>
          split at h
          · cases h
          · next hsafe =>
            cases hparents : checkParents tree (ancestors found).tail with
            | error _ =>
                rw [hparents] at h
                cases h
            | ok _ =>
                cases hchain :
                  checkUnresolvedChain tree (ancestors path).tail with
                | error _ =>
                    rw [hparents, hchain] at h
                    cases h
                | ok _ =>
                    rw [hparents, hchain] at h
                    cases h
                    exact ⟨hfound, ⟨metadata, contents, hmetadata, hmode,
                      hsafe⟩, hparents, rfl⟩
      · cases h
  · rintro ⟨hfound, ⟨metadata, contents, hmetadata, hmode, hsafe⟩, hparents,
      hchain⟩
    simp only [hfound, hmetadata, if_neg hmode, hsafe, hparents, hchain]
    rfl

/-- The directories that the check has found to belong to root, to be written
by root alone: those above the file, and those of the path as written. -/
def checkedDirectories (tree : FileTree) (path resolved : List String) :
    List ℕ :=
  (ancestors resolved).tail.filterMap
      (fun directory => (tree.number directory).toOption) ++
    (ancestors path).tail.filterMap fun component =>
      (tree.symlinkNumber component).toOption.filter fun number =>
        !(tree.inode number).any fun inode => inode.node.isSymlink

theorem unsafeOwnership_of_mem_checkedDirectories
    {path resolved : List String} (h : checkSafe tree path = .ok resolved)
    {number : ℕ} (hmem : number ∈ checkedDirectories tree path resolved) :
    ∃ inode, tree.inode number = some inode ∧
      unsafeOwnership inode.toMetadata = none := by
  obtain ⟨-, -, hparents, hchain⟩ := checkSafe_eq_ok_iff.mp h
  rcases List.mem_append.mp hmem with hmem | hmem
  · obtain ⟨directory, hdirectory, hnumber⟩ := List.mem_filterMap.mp hmem
    obtain ⟨inode, hmetadata, hsafe⟩ :=
      unsafeOwnership_of_checkParents hparents hdirectory
    obtain ⟨found, hfound, hinode⟩ := inodeAt_eq_ok_iff.mp hmetadata
    rw [hfound] at hnumber
    cases hnumber
    exact ⟨inode, hinode, hsafe⟩
  · obtain ⟨component, hcomponent, hnumber⟩ := List.mem_filterMap.mp hmem
    obtain ⟨inode, hmetadata, hsafe⟩ :=
      unsafeOwnership_of_checkUnresolvedChain hchain hcomponent
    obtain ⟨found, hfound, hinode⟩ := inodeAt_eq_ok_iff.mp hmetadata
    rw [hfound] at hnumber
    obtain ⟨heq, hlink⟩ := Option.filter_eq_some_iff.mp hnumber
    cases heq
    rw [hinode] at hlink
    refine ⟨inode, hinode, hsafe ?_⟩
    simpa using hlink

/-- Nobody but root may take an entry out of a directory that the check has
found safe. -/
theorem not_removable_of_mem_checkedDirectories {path resolved : List String}
    (h : checkSafe tree path = .ok resolved) {hop : Hop}
    (hmem : hop.directory ∈ checkedDirectories tree path resolved) :
    ¬ tree.Removable hop := by
  obtain ⟨inode, hinode, hsafe⟩ :=
    unsafeOwnership_of_mem_checkedDirectories h hmem
  rintro ⟨user, directory, victim, hdirectory, -, hmay⟩
  cases Option.some.inj (hinode.symm.trans hdirectory)
  exact not_mayWrite_of_unsafeOwnership hsafe user hmay.1.1

/-- Whatever the users other than root do, a path leads to the same file with
the same contents. -/
def ChosenByRoot (tree : FileTree) (path resolved : List String) : Prop :=
  ∀ later, (users tree).Reachable later →
    later.canonicalize path = .ok resolved ∧
      later.contentsAt resolved = tree.contentsAt resolved

/-- The users other than root have no say in what an allowed path leads to,
exactly if none of them may take away an entry that lies on the way in a
directory the check has not seen. -/
theorem chosenByRoot_iff {path resolved : List String}
    (h : checkSafe tree path = .ok resolved) :
    ChosenByRoot tree path resolved ↔
      ∀ hop ∈ tree.hops path,
        hop.directory ∉ checkedDirectories tree path resolved →
          ¬ tree.Removable hop := by
  obtain ⟨hcanonical, ⟨metadata, contents, hmetadata, -, hsafe⟩, -⟩ :=
    checkSafe_eq_ok_iff.mp h
  constructor
  · intro hchosen hop hhop _ hremovable
    obtain ⟨found, -, hwalk, -⟩ := walk_of_canonicalize hcanonical
    rw [hops, hwalk] at hhop
    obtain ⟨later, hreachable, hne⟩ :=
      exists_reachable_walk_ne_ok hwalk hhop hremovable
    obtain ⟨again, -, hagain, -⟩ :=
      walk_of_canonicalize (hchosen later hreachable).1
    exact hne again hagain
  · intro hfixed later hreachable
    refine canonicalize_stays hcanonical hmetadata
      (not_mayWrite_of_unsafeOwnership hsafe) ?_ (kept_of_reachable hreachable)
    intro hop hhop
    by_cases hmem : hop.directory ∈ checkedDirectories tree path resolved
    · exact not_removable_of_mem_checkedDirectories h hmem
    · exact hfixed hop hhop hmem

/-! ## A link in a home directory -/

def rootOwned (node : Node) : Inode where
  uid := 0
  gid := 0
  mode := 0o755
  node := node

def developer : User where
  uid := 1000
  groups := [1000]
  uid_ne_zero := by decide

/-- Root has linked `/opt/php` to a name in a home directory, which is itself a
link to a binary of root. -/
def homeHost : FileTree where
  inode
    | 0 => some (rootOwned (.directory
        ⟨[("opt", 1), ("home", 2), ("bin", 3)], by decide⟩))
    | 1 => some (rootOwned (.directory ⟨[("php", 4)], by decide⟩))
    | 2 => some (rootOwned (.directory ⟨[("dev", 5)], by decide⟩))
    | 3 => some (rootOwned (.directory
        ⟨[("php", 6), ("reboot", 7)], by decide⟩))
    | 4 => some (rootOwned (.symlink (.absolute ["home", "dev", "php"])))
    | 5 => some ⟨⟨1000, 1000, 0o755⟩, .directory ⟨[("php", 8)], by decide⟩⟩
    | 6 => some (rootOwned (.file []))
    | 7 => some (rootOwned (.file []))
    | 8 => some ⟨⟨1000, 1000, 0o777⟩, .symlink (.absolute ["bin", "php"])⟩
    | _ => none

theorem checkSafe_homeHost :
    checkSafe homeHost ["opt", "php"] = .ok ["bin", "php"] := by
  decide

/-- The owner of the home directory links the name to another binary. -/
def relink : List (User × Operation) :=
  [(developer, .delete 5 "php"),
    (developer, .create 5 "php" 9
      ⟨⟨1000, 1000, 0o777⟩, .symlink (.absolute ["bin", "reboot"])⟩)]

theorem chosenByRoot_iff_homeHost :
    ChosenByRoot homeHost ["opt", "php"] ["bin", "php"] ↔
      ∀ hop ∈ homeHost.hops ["opt", "php"],
        hop.directory ∉
            checkedDirectories homeHost ["opt", "php"] ["bin", "php"] →
          ¬ homeHost.Removable hop :=
  chosenByRoot_iff checkSafe_homeHost

theorem canonicalize_relink :
    ((users homeHost).runFrom homeHost relink).map
        (fun later => later.canonicalize ["opt", "php"]) =
      some (.ok ["bin", "reboot"]) := by
  decide

theorem not_chosenByRoot_homeHost :
    ¬ ∀ (tree : FileTree) (path resolved : List String),
      checkSafe tree path = .ok resolved →
        ChosenByRoot tree path resolved := by
  intro h
  obtain ⟨later, hlater, hpath⟩ := Option.map_eq_some_iff.mp canonicalize_relink
  have hreachable : (users homeHost).Reachable later :=
    TransitionSystem.Reachable.runFrom (.initial rfl) hlater
  have hsame := (h homeHost _ _ checkSafe_homeHost later hreachable).1
  rw [hpath] at hsame
  exact absurd hsame (by decide)

end RuntimeExec

end Darcbench
