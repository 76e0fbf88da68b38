import Darcbench.Support.Runs
import Darcbench.Support.Table
import Mathlib.Data.Nat.Bitwise
import Mathlib.Data.Set.Finite.Basic

/-!
# Trees of files with owners

Directories, files and symbolic links with the permissions of Unix.  Users
other than root change the tree by operations that these permissions allow.  A
process may hold any directory open, so an operation asks for the permissions
of the directories it changes, and not for those of the directories above.

A walk along a path looks up one entry after the other.  What it finds is
settled as long as no user may take one of these entries away.
-/

namespace Darcbench

namespace FileTree

/-- A user other than root, and the groups the user belongs to. -/
structure User where
  uid : ℕ
  groups : List ℕ
  uid_ne_zero : uid ≠ 0

/-- Where a symbolic link leads to.  A link holds at least one character. -/
inductive Target
  | absolute (components : List String)
  | relative (first : String) (rest : List String)

/-- The entries of a directory, each with the number of an inode. -/
abbrev Directory :=
  Table (Prod.fst : String × ℕ → String)

inductive Node
  | directory (entries : Directory)
  | file (contents : List UInt8)
  | symlink (target : Target)

structure Metadata where
  uid : ℕ
  gid : ℕ
  mode : ℕ
  deriving DecidableEq

structure Inode extends Metadata where
  node : Node

def Node.isSymlink : Node → Bool
  | .symlink _ => true
  | _ => false

def Node.isDirectory : Node → Bool
  | .directory _ => true
  | _ => false

/-- An inode as it is made: an empty directory, an empty file or a link. -/
def Node.isNew : Node → Bool
  | .directory entries => entries.rows.isEmpty
  | .file contents => contents.isEmpty
  | .symlink _ => true

/-- A directory can be removed only when it is empty. -/
def Node.isRemovable : Node → Bool
  | .directory entries => entries.rows.isEmpty
  | _ => true

/-- One inode can take the place of another. -/
def Node.mayReplace (moved replaced : Node) : Bool :=
  moved.isDirectory == replaced.isDirectory && replaced.isRemovable

end FileTree

/-- The inodes by their numbers.  The root has the number zero. -/
structure FileTree where
  inode : ℕ → Option FileTree.Inode

namespace FileTree

/-! ## Permissions -/

namespace User

variable (user : User) (inode directory victim : Metadata)

/-- Where the bits stand that count for a user: those of the owner, of the
group or of the others. -/
def shift : ℕ :=
  if user.uid = inode.uid then 6
  else if inode.gid ∈ user.groups then 3
  else 0

def MayWrite : Prop :=
  inode.mode.testBit (user.shift inode + 1)

def MaySearch : Prop :=
  inode.mode.testBit (user.shift inode)

/-- Whether a user may add entries to a directory. -/
def MayModify : Prop :=
  user.MayWrite directory ∧ user.MaySearch directory

/-- Whether a user may take an entry out of a directory.  In a sticky one this
is left to the owners of the directory and of the entry. -/
def MayRemove : Prop :=
  user.MayModify directory ∧
    (directory.mode.testBit 9 → user.uid = directory.uid ∨
      user.uid = victim.uid)

instance : Decidable (user.MayWrite inode) :=
  inferInstanceAs (Decidable (_ = true))

instance : Decidable (user.MayModify directory) :=
  inferInstanceAs (Decidable (_ = true ∧ _ = true))

instance : Decidable (user.MayRemove directory victim) :=
  inferInstanceAs (Decidable (_ ∧ (_ = true → _)))

end User

/-- A name that an entry can have. -/
def IsName (name : String) : Prop :=
  name ≠ "" ∧ name ≠ "." ∧ name ≠ ".." ∧ '/' ∉ name.toList

instance (name : String) : Decidable (IsName name) :=
  inferInstanceAs (Decidable (_ ∧ _ ∧ _ ∧ _))

/-! ## Operations -/

inductive Operation
  | create (directory : ℕ) (name : String) (number : ℕ) (inode : Inode)
  | delete (directory : ℕ) (name : String)
  | rename (source : ℕ) (name : String) (target : ℕ) (newName : String)
  | write (number : ℕ) (contents : List UInt8)

variable (tree : FileTree)

def set (number : ℕ) (inode : Inode) : FileTree :=
  ⟨Function.update tree.inode number (some inode)⟩

/-- A directory with its entries. -/
def directory? (number : ℕ) : Option (Metadata × Directory) :=
  match tree.inode number with
  | some ⟨metadata, .directory entries⟩ => some (metadata, entries)
  | _ => none

/-- The number that a directory holds under a name. -/
def entry (number : ℕ) (name : String) : Option ℕ :=
  (tree.directory? number).bind fun directory =>
    (directory.2.find? name).map Prod.snd

def changeEntries (number : ℕ) (change : Directory → Directory) : FileTree :=
  match tree.directory? number with
  | some (metadata, entries) =>
      tree.set number ⟨metadata, .directory (change entries)⟩
  | none => tree

def unlink (number : ℕ) (name : String) : FileTree :=
  tree.changeEntries number fun entries => entries.delete name

def link (number : ℕ) (name : String) (entry : ℕ) : FileTree :=
  tree.changeEntries number fun entries =>
    entries.insertOrReplace (name, entry)

/-- What becomes of the tree when a user asks for an operation, if it is
allowed.  A rename that would put a directory below itself is not excluded. -/
def operate (user : User) : Operation → Option FileTree
  | .create number name fresh inode => do
      let (directory, _) ← tree.directory? number
      if user.MayModify directory ∧ IsName name ∧
          tree.entry number name = none ∧ (tree.inode fresh).isNone ∧
          inode.uid = user.uid ∧
          (inode.gid ∈ user.groups ∨ inode.gid = directory.gid) ∧
          inode.node.isNew then
        some ((tree.set fresh inode).link number name fresh)
      else none
  | .delete number name => do
      let (directory, _) ← tree.directory? number
      let victim ← (tree.entry number name).bind tree.inode
      if user.MayRemove directory victim.toMetadata ∧
          victim.node.isRemovable then
        some (tree.unlink number name)
      else none
  | .rename source name target newName => do
      let (sourceDirectory, _) ← tree.directory? source
      let (targetDirectory, _) ← tree.directory? target
      let number ← tree.entry source name
      let moved ← tree.inode number
      let replaceable : Bool :=
        match tree.entry target newName with
        | none => user.MayModify targetDirectory
        | some other =>
            match tree.inode other with
            | none => false
            | some victim =>
                user.MayRemove targetDirectory victim.toMetadata ∧
                  other ≠ number ∧ moved.node.mayReplace victim.node
      if user.MayRemove sourceDirectory moved.toMetadata ∧ IsName newName ∧
          (moved.node.isDirectory → source ≠ target →
            user.MayWrite moved.toMetadata) ∧ replaceable then
        some ((tree.unlink source name).link target newName number)
      else none
  | .write number contents =>
      match tree.inode number with
      | some ⟨metadata, .file _⟩ =>
          if user.MayWrite metadata then
            some (tree.set number ⟨metadata, .file contents⟩)
          else none
      | _ => none

/-- The users other than root at work on a tree. -/
def users : TransitionSystem FileTree (User × Operation) where
  initial := (· = tree)
  step current action := current.operate action.1 action.2

/-! ## Walks -/

inductive WalkError
  | notFound
  | notDirectory
  | tooManyLinks
  deriving DecidableEq

/-- The directories that lead to a place, the innermost one first. -/
abbrev Stack :=
  List (String × ℕ)

/-- The inode at a place. -/
def Stack.number : Stack → ℕ
  | [] => 0
  | (_, number) :: _ => number

def Stack.path (stack : Stack) : List String :=
  (stack.map Prod.fst).reverse

/-- Where the components of a link are followed from. -/
def Target.start : Target → Stack → Stack
  | .absolute _, _ => []
  | .relative _ _, stack => stack

def Target.components : Target → List String
  | .absolute components => components
  | .relative first rest => first :: rest

/-- An entry that was looked up. -/
structure Hop where
  directory : ℕ
  name : String
  number : ℕ
  deriving DecidableEq

/-- Where a walk has come to, and the entries it looked up. -/
structure Walk where
  stack : Stack
  hops : List Hop
  deriving DecidableEq

def Walk.after (hop : Hop) (walk : Walk) : Walk :=
  { walk with hops := hop :: walk.hops }

/-- Walks along components.  At a link `follow` goes on. -/
def walkFrom (follow : Stack → List String → Except WalkError Walk) :
    Stack → List String → Except WalkError Walk
  | stack, [] => .ok ⟨stack, []⟩
  | stack, name :: rest =>
      match tree.directory? stack.number with
      | none => .error .notDirectory
      | some _ =>
          if name = "." then walkFrom follow stack rest
          else if name = ".." then walkFrom follow stack.tail rest
          else
            match tree.entry stack.number name with
            | none => .error .notFound
            | some number =>
                match tree.inode number with
                | none => .error .notFound
                | some ⟨_, .symlink target⟩ =>
                    (follow (target.start stack)
                      (target.components ++ rest)).map
                        (Walk.after ⟨stack.number, name, number⟩)
                | some _ =>
                    (walkFrom follow ((name, number) :: stack) rest).map
                      (Walk.after ⟨stack.number, name, number⟩)

/-- Walks along components by way of at most `links` links. -/
def walk : ℕ → Stack → List String → Except WalkError Walk
  | 0 => tree.walkFrom fun _ _ => .error .tooManyLinks
  | links + 1 => tree.walkFrom (walk links)

/-- The walks that come to an end, rule by rule. -/
inductive Walks (tree : FileTree) :
    ℕ → Stack → List String → Stack → List Hop → Prop
  | done (links : ℕ) (stack : Stack) : Walks tree links stack [] stack []
  | stay {links : ℕ} {stack last : Stack} {rest : List String}
      {hops : List Hop} {directory : Metadata × Directory}
      (hdirectory : tree.directory? stack.number = some directory)
      (h : Walks tree links stack rest last hops) :
      Walks tree links stack ("." :: rest) last hops
  | up {links : ℕ} {stack last : Stack} {rest : List String}
      {hops : List Hop} {directory : Metadata × Directory}
      (hdirectory : tree.directory? stack.number = some directory)
      (h : Walks tree links stack.tail rest last hops) :
      Walks tree links stack (".." :: rest) last hops
  | enter {links : ℕ} {stack last : Stack} {name : String}
      {rest : List String} {hops : List Hop} {number : ℕ} {inode : Inode}
      (hstay : name ≠ ".") (hup : name ≠ "..")
      (hentry : tree.entry stack.number name = some number)
      (hinode : tree.inode number = some inode)
      (hsymlink : inode.node.isSymlink = false)
      (h : Walks tree links ((name, number) :: stack) rest last hops) :
      Walks tree links stack (name :: rest) last
        (⟨stack.number, name, number⟩ :: hops)
  | follow {links : ℕ} {stack last : Stack} {name : String}
      {rest : List String} {hops : List Hop} {number : ℕ}
      {metadata : Metadata} {target : Target}
      (hstay : name ≠ ".") (hup : name ≠ "..")
      (hentry : tree.entry stack.number name = some number)
      (hinode : tree.inode number = some ⟨metadata, .symlink target⟩)
      (h : Walks tree links (target.start stack)
        (target.components ++ rest) last hops) :
      Walks tree (links + 1) stack (name :: rest) last
        (⟨stack.number, name, number⟩ :: hops)

variable {tree}

theorem directory?_of_entry {number entry : ℕ} {name : String}
    (h : tree.entry number name = some entry) :
    ∃ directory, tree.directory? number = some directory := by
  obtain ⟨directory, hdirectory, -⟩ := Option.bind_eq_some_iff.mp h
  exact ⟨directory, hdirectory⟩

theorem map_after_eq_ok_iff {result : Except WalkError Walk} {hop : Hop}
    {found : Walk} :
    result.map (Walk.after hop) = .ok found ↔
      ∃ hops, result = .ok ⟨found.stack, hops⟩ ∧
        found.hops = hop :: hops := by
  cases result with
  | error _ =>
      constructor
      · rintro ⟨⟩
      · rintro ⟨_, ⟨⟩, -⟩
  | ok walk =>
      obtain ⟨stack, hops⟩ := found
      constructor
      · intro h
        cases h
        exact ⟨walk.hops, rfl, rfl⟩
      · rintro ⟨_, hwalk, hhops⟩
        cases hwalk
        cases hhops
        rfl

theorem walks_of_walkFrom {links : ℕ}
    {follow : Stack → List String → Except WalkError Walk}
    (hfollow : ∀ stack components found,
      follow stack components = .ok found →
        ∃ fewer, links = fewer + 1 ∧
          Walks tree fewer stack components found.stack found.hops)
    {stack : Stack} {components : List String} {found : Walk}
    (h : tree.walkFrom follow stack components = .ok found) :
    Walks tree links stack components found.stack found.hops := by
  induction components generalizing stack found with
  | nil =>
      cases h
      exact .done links stack
  | cons name rest ih =>
      rw [walkFrom] at h
      split at h
      · cases h
      · next directory hdirectory =>
        by_cases hstay : name = "."
        · rw [if_pos hstay] at h
          subst hstay
          exact .stay hdirectory (ih h)
        rw [if_neg hstay] at h
        by_cases hup : name = ".."
        · rw [if_pos hup] at h
          subst hup
          exact .up hdirectory (ih h)
        rw [if_neg hup] at h
        split at h
        · cases h
        · next number hentry =>
          split at h
          · cases h
          · next metadata target hinode =>
            obtain ⟨hops, hwalk, hhops⟩ := map_after_eq_ok_iff.mp h
            obtain ⟨fewer, rfl, hwalks⟩ := hfollow _ _ _ hwalk
            rw [hhops]
            exact .follow hstay hup hentry hinode hwalks
          · next inode hne hinode =>
            obtain ⟨hops, hwalk, hhops⟩ := map_after_eq_ok_iff.mp h
            have hsymlink : inode.node.isSymlink = false := by
              obtain ⟨metadata, node⟩ := inode
              cases node with
              | directory _ => rfl
              | file _ => rfl
              | symlink target => exact (hne metadata target rfl).elim
            rw [hhops]
            exact .enter hstay hup hentry hinode hsymlink (ih hwalk)

theorem walks_of_walk {links : ℕ} {stack : Stack} {components : List String}
    {found : Walk} (h : tree.walk links stack components = .ok found) :
    Walks tree links stack components found.stack found.hops := by
  induction links generalizing stack components found with
  | zero =>
      refine walks_of_walkFrom (fun _ _ _ hwalk => ?_) h
      cases hwalk
  | succ links ih =>
      exact walks_of_walkFrom
        (fun _ _ _ hwalk => ⟨links, rfl, ih hwalk⟩) h

/-- What a walk does at a link. -/
def afterLink (tree : FileTree) :
    ℕ → Stack → List String → Except WalkError Walk
  | 0 => fun _ _ => .error .tooManyLinks
  | links + 1 => tree.walk links

theorem walk_eq (links : ℕ) :
    tree.walk links = tree.walkFrom (tree.afterLink links) := by
  cases links <;> rfl

theorem Walks.walk_eq_ok {links : ℕ} {stack last : Stack}
    {components : List String} {hops : List Hop}
    (h : Walks tree links stack components last hops) :
    tree.walk links stack components = .ok ⟨last, hops⟩ := by
  induction h with
  | done links stack => rw [walk_eq, walkFrom]
  | stay hdirectory h ih =>
      rw [walk_eq] at ih ⊢
      rw [walkFrom, hdirectory]
      exact ih
  | up hdirectory h ih =>
      rw [walk_eq] at ih ⊢
      rw [walkFrom, hdirectory]
      exact ih
  | @enter links stack last name rest hops number inode hstay hup hentry
      hinode hsymlink h ih =>
      obtain ⟨directory, hdirectory⟩ := directory?_of_entry hentry
      rw [walk_eq] at ih ⊢
      rw [walkFrom, hdirectory]
      simp only [if_neg hstay, if_neg hup, hentry, hinode]
      obtain ⟨metadata, node⟩ := inode
      cases node with
      | symlink _ => cases hsymlink
      | directory _ =>
          simp only [ih]
          rfl
      | file _ =>
          simp only [ih]
          rfl
  | follow hstay hup hentry hinode h ih =>
      obtain ⟨directory, hdirectory⟩ := directory?_of_entry hentry
      rw [walk_eq, walkFrom, hdirectory]
      simp only [if_neg hstay, if_neg hup, hentry, hinode, afterLink, ih]
      rfl

theorem walk_eq_ok_iff {links : ℕ} {stack : Stack}
    {components : List String} {found : Walk} :
    tree.walk links stack components = .ok found ↔
      Walks tree links stack components found.stack found.hops :=
  ⟨walks_of_walk, Walks.walk_eq_ok⟩

/-! ## Places -/

/-- Every directory of a stack holds the next one, and none of them is reached
by a link. -/
inductive Grounded (tree : FileTree) : Stack → List Hop → Prop
  | root : Grounded tree [] []
  | entry {stack : Stack} {hops : List Hop} {name : String} {number : ℕ}
      {inode : Inode} (hstay : name ≠ ".") (hup : name ≠ "..")
      (hentry : tree.entry stack.number name = some number)
      (hinode : tree.inode number = some inode)
      (hsymlink : inode.node.isSymlink = false)
      (h : Grounded tree stack hops) :
      Grounded tree ((name, number) :: stack)
        (hops ++ [⟨stack.number, name, number⟩])

/-- A walk that went along the stack goes on from its end. -/
theorem Grounded.walks {stack last : Stack} {hops more : List Hop}
    (h : Grounded tree stack hops) (links : ℕ) {rest : List String}
    (hrest : Walks tree links stack rest last more) :
    Walks tree links [] (stack.path ++ rest) last (hops ++ more) := by
  induction h generalizing rest more with
  | root => exact hrest
  | @entry stack hops name number inode hstay hup hentry hinode hsymlink h
      ih =>
      have hone := Walks.enter hstay hup hentry hinode hsymlink hrest
      have hall := ih hone
      rw [List.append_assoc]
      simpa only [Stack.path, List.map_cons, List.reverse_cons,
        List.append_assoc, List.singleton_append] using hall

/-- The path of a place leads to it. -/
theorem Grounded.walk_path {stack : Stack} {hops : List Hop}
    (h : Grounded tree stack hops) (links : ℕ) :
    tree.walk links [] stack.path = .ok ⟨stack, hops⟩ := by
  have hwalks := h.walks links (.done links stack)
  rw [List.append_nil, List.append_nil] at hwalks
  exact hwalks.walk_eq_ok

theorem Grounded.tail {stack : Stack} {hops : List Hop}
    (h : Grounded tree stack hops) :
    ∃ edges, Grounded tree stack.tail edges ∧ edges ⊆ hops := by
  cases h with
  | root => exact ⟨[], .root, List.Subset.refl _⟩
  | entry _ _ _ _ _ h =>
      exact ⟨_, h, fun _ hop => List.mem_append_left _ hop⟩

theorem Grounded.start {stack : Stack} {hops : List Hop}
    (h : Grounded tree stack hops) (target : Target) :
    ∃ edges, Grounded tree (target.start stack) edges ∧ edges ⊆ hops := by
  cases target with
  | absolute _ => exact ⟨[], .root, List.nil_subset _⟩
  | relative _ _ => exact ⟨hops, h, List.Subset.refl _⟩

/-- A walk from a place leads to a place, along entries that the walk looked
up or that lead to the first place. -/
theorem Walks.grounded {links : ℕ} {stack last : Stack}
    {components : List String} {hops : List Hop}
    (h : Walks tree links stack components last hops) {first : List Hop}
    (hstack : Grounded tree stack first) :
    ∃ edges, Grounded tree last edges ∧ ∀ hop ∈ edges,
      hop ∈ first ∨ hop ∈ hops := by
  induction h generalizing first with
  | done _ _ => exact ⟨first, hstack, fun _ hop => .inl hop⟩
  | stay _ _ ih => exact ih hstack
  | up _ _ ih =>
      obtain ⟨edges, htail, hsubset⟩ := hstack.tail
      obtain ⟨found, hfound, hmem⟩ := ih htail
      exact ⟨found, hfound,
        fun hop hhop => (hmem hop hhop).imp_left fun h => hsubset h⟩
  | enter hstay hup hentry hinode hsymlink _ ih =>
      obtain ⟨found, hfound, hmem⟩ :=
        ih (hstack.entry hstay hup hentry hinode hsymlink)
      refine ⟨found, hfound, fun hop hhop => ?_⟩
      rcases hmem hop hhop with hhop | hhop
      · rcases List.mem_append.mp hhop with hhop | hhop
        · exact .inl hhop
        · exact .inr (List.mem_singleton.mp hhop ▸ List.mem_cons_self)
      · exact .inr (List.mem_cons_of_mem _ hhop)
  | @follow _ _ _ _ _ _ _ _ target _ _ _ _ _ ih =>
      obtain ⟨edges, hstart, hsubset⟩ := hstack.start target
      obtain ⟨found, hfound, hmem⟩ := ih hstart
      refine ⟨found, hfound, fun hop hhop => ?_⟩
      rcases hmem hop hhop with hhop | hhop
      · exact .inl (hsubset hhop)
      · exact .inr (List.mem_cons_of_mem _ hhop)

/-! ## What the users cannot change -/

/-- Whether some user may take an entry away. -/
def Removable (tree : FileTree) (hop : Hop) : Prop :=
  ∃ (user : User) (directory victim : Inode),
    tree.inode hop.directory = some directory ∧
      tree.inode hop.number = some victim ∧
      user.MayRemove directory.toMetadata victim.toMetadata

/-- What stays of a node.  The contents of a file may change if some user may
write it. -/
inductive Node.Kept (writable : Prop) : Node → Node → Prop
  | directory (entries later : Directory) :
      Node.Kept writable (.directory entries) (.directory later)
  | file {contents later : List UInt8} (h : writable ∨ later = contents) :
      Node.Kept writable (.file contents) (.file later)
  | symlink (target : Target) :
      Node.Kept writable (.symlink target) (.symlink target)

/-- What the operations of users other than root leave as it is. -/
structure Kept (tree later : FileTree) : Prop where
  inode : ∀ {number inode}, tree.inode number = some inode →
    ∃ kept, later.inode number = some kept ∧
      kept.toMetadata = inode.toMetadata ∧
      inode.node.Kept (∃ user : User, user.MayWrite inode.toMetadata) kept.node
  entry : ∀ {number name entry}, tree.entry number name = some entry →
    (tree.inode entry).isSome → ¬ tree.Removable ⟨number, name, entry⟩ →
      later.entry number name = some entry

theorem Node.Kept.refl (writable : Prop) (node : Node) :
    node.Kept writable node := by
  cases node with
  | directory entries => exact .directory entries entries
  | file _ => exact .file (.inr rfl)
  | symlink target => exact .symlink target

theorem Node.Kept.trans {writable : Prop} {first second third : Node}
    (h₁ : first.Kept writable second) (h₂ : second.Kept writable third) :
    first.Kept writable third := by
  cases h₁ with
  | directory entries =>
      cases h₂
      exact .directory entries _
  | file h₁ =>
      cases h₂ with
      | file h₂ =>
          refine .file ?_
          rcases h₁ with hwritable | rfl
          · exact .inl hwritable
          · exact h₂
  | symlink target =>
      cases h₂
      exact .symlink target

theorem Node.Kept.isSymlink {writable : Prop} {node later : Node}
    (h : node.Kept writable later) : later.isSymlink = node.isSymlink := by
  cases h <;> rfl

theorem Kept.refl (tree : FileTree) : Kept tree tree where
  inode h := ⟨_, h, rfl, .refl _ _⟩
  entry h _ _ := h

variable {later last : FileTree}

theorem Kept.removable_of {hop : Hop} (h : Kept tree later)
    {directory victim : Inode}
    (hdirectory : tree.inode hop.directory = some directory)
    (hvictim : tree.inode hop.number = some victim)
    (hlater : later.Removable hop) : tree.Removable hop := by
  obtain ⟨user, keptDirectory, keptVictim, hd, hv, hmay⟩ := hlater
  obtain ⟨kept, hkept, hmetadata, -⟩ := h.inode hdirectory
  obtain ⟨other, hother, hothers, -⟩ := h.inode hvictim
  cases Option.some.inj (hkept.symm.trans hd)
  cases Option.some.inj (hother.symm.trans hv)
  rw [hmetadata, hothers] at hmay
  exact ⟨user, directory, victim, hdirectory, hvictim, hmay⟩

theorem inode_of_entry {number entry : ℕ} {name : String}
    (h : tree.entry number name = some entry) :
    ∃ directory, tree.inode number = some directory ∧
      directory.node.isDirectory = true := by
  obtain ⟨_, hdirectory⟩ := directory?_of_entry h
  unfold directory? at hdirectory
  split at hdirectory
  · next hinode => exact ⟨_, hinode, rfl⟩
  · cases hdirectory

theorem Kept.trans (h₁ : Kept tree later) (h₂ : Kept later last) :
    Kept tree last where
  inode := by
    intro number inode hinode
    obtain ⟨kept, hkept, hmetadata, hnode⟩ := h₁.inode hinode
    obtain ⟨final, hfinal, hfinals, hnodes⟩ := h₂.inode hkept
    rw [hmetadata] at hnodes
    exact ⟨final, hfinal, hfinals.trans hmetadata, hnode.trans hnodes⟩
  entry := by
    intro number name entry hentry hsome hfixed
    obtain ⟨victim, hvictim⟩ := Option.isSome_iff_exists.mp hsome
    obtain ⟨directory, hdirectory, -⟩ := inode_of_entry hentry
    obtain ⟨kept, hkept, -⟩ := h₁.inode hvictim
    refine h₂.entry (h₁.entry hentry hsome hfixed) ?_ ?_
    · rw [hkept]
      rfl
    · intro hremovable
      exact hfixed (h₁.removable_of hdirectory hvictim hremovable)

theorem Kept.removable {hop : Hop} (h : Kept tree later)
    (hremovable : tree.Removable hop) : later.Removable hop := by
  obtain ⟨user, directory, victim, hdirectory, hvictim, hmay⟩ := hremovable
  obtain ⟨kept, hkept, hmetadata, -⟩ := h.inode hdirectory
  obtain ⟨other, hother, hothers, -⟩ := h.inode hvictim
  rw [← hmetadata, ← hothers] at hmay
  exact ⟨user, kept, other, hkept, hother, hmay⟩

/-! ## Changes -/

@[simp] theorem inode_set_self (number : ℕ) (inode : Inode) :
    (tree.set number inode).inode number = some inode :=
  Function.update_self _ _ _

theorem inode_set_of_ne {number other : ℕ} (h : other ≠ number)
    (inode : Inode) :
    (tree.set number inode).inode other = tree.inode other :=
  Function.update_of_ne h _ _

theorem entry_set_of_ne {number other : ℕ} (h : other ≠ number)
    (inode : Inode) (name : String) :
    (tree.set number inode).entry other name = tree.entry other name := by
  simp only [entry, directory?, inode_set_of_ne h]

theorem entry_set_self (number : ℕ) (metadata : Metadata)
    (entries : Directory) (name : String) :
    (tree.set number ⟨metadata, .directory entries⟩).entry number name =
      (entries.find? name).map Prod.snd := by
  simp only [entry, directory?, inode_set_self, Option.bind_some]

theorem entry_eq_of_directory? {number : ℕ} {metadata : Metadata}
    {entries : Directory}
    (h : tree.directory? number = some (metadata, entries)) (name : String) :
    tree.entry number name = (entries.find? name).map Prod.snd := by
  rw [entry, h, Option.bind_some]

theorem inode_of_directory? {number : ℕ} {metadata : Metadata}
    {entries : Directory}
    (h : tree.directory? number = some (metadata, entries)) :
    tree.inode number = some ⟨metadata, .directory entries⟩ := by
  unfold directory? at h
  split at h
  · next hinode =>
    cases h
    exact hinode
  · cases h

theorem Kept.set_new {number : ℕ} (h : tree.inode number = none)
    (inode : Inode) : Kept tree (tree.set number inode) := by
  have hne : ∀ {other found}, tree.inode other = some found →
      other ≠ number := by
    rintro other found hfound rfl
    rw [h] at hfound
    cases hfound
  refine ⟨fun {other found} hfound => ⟨found, ?_, rfl, .refl _ _⟩, ?_⟩
  · rw [inode_set_of_ne (hne hfound), hfound]
  · intro other name entry hentry _ _
    obtain ⟨_, hdirectory, -⟩ := inode_of_entry hentry
    rw [entry_set_of_ne (hne hdirectory), hentry]

/-- Whether an entry may be put under a name: what is there, if anything, may
be taken away. -/
def Free (tree : FileTree) (number : ℕ) (name : String) : Prop :=
  ∀ entry, tree.entry number name = some entry →
    tree.Removable ⟨number, name, entry⟩

/-- A change of the entries of a directory that spares those under all names
but a free one. -/
theorem Kept.changeEntries {number : ℕ} {name : String}
    (hfree : tree.Free number name) {change : Directory → Directory}
    (hchange : ∀ entries other, other ≠ name →
      (change entries).find? other = entries.find? other) :
    Kept tree (tree.changeEntries number change) := by
  unfold FileTree.changeEntries
  cases hdirectory : tree.directory? number with
  | none => exact .refl tree
  | some found =>
      obtain ⟨metadata, entries⟩ := found
      have hinode := inode_of_directory? hdirectory
      constructor
      · intro other inode hother
        by_cases heq : other = number
        · subst heq
          cases Option.some.inj (hinode.symm.trans hother)
          exact ⟨_, inode_set_self _ _, rfl, .directory _ _⟩
        · exact ⟨inode, (inode_set_of_ne heq _).trans hother, rfl, .refl _ _⟩
      · intro other name' entry hentry _ hfixed
        by_cases heq : other = number
        · subst heq
          have hne : name' ≠ name := by
            rintro rfl
            exact hfixed (hfree entry hentry)
          rw [entry_set_self, hchange entries name' hne,
            ← entry_eq_of_directory? hdirectory, hentry]
        · rw [entry_set_of_ne heq, hentry]

theorem Kept.unlink {number : ℕ} {name : String}
    (h : tree.Free number name) : Kept tree (tree.unlink number name) :=
  .changeEntries h fun entries _ hne => entries.find?_delete_of_ne hne

theorem Kept.link {number : ℕ} {name : String}
    (h : tree.Free number name) (entry : ℕ) :
    Kept tree (tree.link number name entry) :=
  .changeEntries h fun entries _ hne =>
    entries.find?_insertOrReplace_of_ne hne

theorem Kept.write {user : User} {number : ℕ} {metadata : Metadata}
    {contents : List UInt8}
    (hinode : tree.inode number = some ⟨metadata, .file contents⟩)
    (hmay : user.MayWrite metadata) (later : List UInt8) :
    Kept tree (tree.set number ⟨metadata, .file later⟩) := by
  constructor
  · intro other inode hother
    by_cases heq : other = number
    · subst heq
      cases Option.some.inj (hinode.symm.trans hother)
      exact ⟨_, inode_set_self _ _, rfl, .file (.inl ⟨user, hmay⟩)⟩
    · exact ⟨inode, (inode_set_of_ne heq _).trans hother, rfl, .refl _ _⟩
  · intro other name entry hentry _ _
    have hne : other ≠ number := by
      rintro rfl
      obtain ⟨directory, hdirectory, hkind⟩ := inode_of_entry hentry
      cases Option.some.inj (hinode.symm.trans hdirectory)
      cases hkind
    rw [entry_set_of_ne hne, hentry]

theorem entry_of_unlink {number other entry : ℕ} {name name' : String}
    (h : (tree.unlink number name).entry other name' = some entry) :
    tree.entry other name' = some entry := by
  unfold FileTree.unlink FileTree.changeEntries at h
  cases hdirectory : tree.directory? number with
  | none =>
      rw [hdirectory] at h
      exact h
  | some found =>
      obtain ⟨metadata, entries⟩ := found
      rw [hdirectory] at h
      by_cases heq : other = number
      · subst heq
        rw [entry_set_self] at h
        by_cases hname : name' = name
        · subst hname
          rw [entries.find?_delete_self] at h
          cases h
        · rw [entries.find?_delete_of_ne hname] at h
          rw [entry_eq_of_directory? hdirectory, h]
      · rwa [entry_set_of_ne heq] at h

/-- A free name is still free when another entry was taken away. -/
theorem Free.unlink {number other : ℕ} {name name' : String}
    (hname : tree.Free number name) (h : tree.Free other name') :
    (tree.unlink number name).Free other name' :=
  fun entry hentry => (Kept.unlink hname).removable
    (h entry (entry_of_unlink hentry))

theorem free_of_entry_eq_none {number : ℕ} {name : String}
    (h : tree.entry number name = none) : tree.Free number name := by
  intro entry hentry
  rw [h] at hentry
  cases hentry

theorem free_of_mayRemove {user : User} {number found : ℕ} {name : String}
    {metadata : Metadata} {entries : Directory} {victim : Inode}
    (hdirectory : tree.directory? number = some (metadata, entries))
    (hentry : tree.entry number name = some found)
    (hvictim : tree.inode found = some victim)
    (hmay : user.MayRemove metadata victim.toMetadata) :
    tree.Free number name := by
  intro entry h
  cases Option.some.inj (hentry.symm.trans h)
  exact ⟨user, _, victim, inode_of_directory? hdirectory, hvictim, hmay⟩

/-- An operation keeps what no user may change. -/
theorem kept_of_operate {user : User} {operation : Operation}
    (h : tree.operate user operation = some later) : Kept tree later := by
  cases operation with
  | create number name fresh inode =>
      simp only [operate, Option.bind_eq_bind, Option.bind_eq_some_iff,
        Option.ite_none_right_eq_some, Option.some.injEq] at h
      obtain ⟨⟨metadata, entries⟩, hdirectory,
        ⟨-, -, hentry, hfresh, -⟩, rfl⟩ := h
      rw [Option.isNone_iff_eq_none] at hfresh
      have hne : number ≠ fresh := by
        rintro rfl
        rw [inode_of_directory? hdirectory] at hfresh
        cases hfresh
      refine (Kept.set_new hfresh inode).trans (.link ?_ fresh)
      exact free_of_entry_eq_none ((entry_set_of_ne hne _ _).trans hentry)
  | delete number name =>
      simp only [operate, Option.bind_eq_bind, Option.bind_eq_some_iff,
        Option.ite_none_right_eq_some, Option.some.injEq] at h
      obtain ⟨⟨metadata, entries⟩, hdirectory, victim,
        ⟨found, hentry, hvictim⟩, ⟨hmay, -⟩, rfl⟩ := h
      exact .unlink (free_of_mayRemove hdirectory hentry hvictim hmay)
  | rename source name target newName =>
      simp only [operate, Option.bind_eq_bind, Option.bind_eq_some_iff,
        Option.ite_none_right_eq_some, Option.some.injEq] at h
      obtain ⟨⟨metadata, entries⟩, hsource, ⟨targets, others⟩, htarget,
        number, hentry, moved, hmoved, ⟨hmay, -, -, hreplaceable⟩, rfl⟩ := h
      have hname := free_of_mayRemove hsource hentry hmoved hmay
      refine (Kept.unlink hname).trans (.link (hname.unlink ?_) number)
      cases hnew : tree.entry target newName with
      | none => exact free_of_entry_eq_none hnew
      | some other =>
          rw [hnew] at hreplaceable
          cases hvictim : tree.inode other with
          | none => simp only [hvictim, Bool.false_eq_true] at hreplaceable
          | some victim =>
              simp only [hvictim, decide_eq_true_eq] at hreplaceable
              exact free_of_mayRemove htarget hnew hvictim hreplaceable.1
  | write number contents =>
      rw [operate] at h
      split at h
      · next hinode =>
        simp only [Option.ite_none_right_eq_some, Option.some.injEq] at h
        obtain ⟨hmay, rfl⟩ := h
        exact .write hinode hmay contents
      · cases h

/-- Whatever the users do, what none of them may change stays. -/
theorem kept_of_reachable (h : (users tree).Reachable later) :
    Kept tree later := by
  refine h.invariant ?_ fun current action next hcurrent _ hstep =>
    hcurrent.trans (kept_of_operate hstep)
  rintro _ rfl
  exact .refl _

/-! ## What a walk finds -/

theorem Kept.directory? (h : Kept tree later) {number : ℕ}
    {directory : Metadata × Directory}
    (hdirectory : tree.directory? number = some directory) :
    ∃ kept, later.directory? number = some kept := by
  obtain ⟨metadata, entries⟩ := directory
  obtain ⟨⟨kept, node⟩, hkept, -, hnode⟩ :=
    h.inode (inode_of_directory? hdirectory)
  cases hnode with
  | directory _ entries' =>
      refine ⟨(kept, entries'), ?_⟩
      rw [FileTree.directory?, hkept]

/-- A walk that looks up only what no user may take away finds the same
whatever the users do. -/
theorem Walks.kept {links : ℕ} {stack last : Stack}
    {components : List String} {hops : List Hop}
    (h : Walks tree links stack components last hops)
    (hkept : Kept tree later) (hfixed : ∀ hop ∈ hops, ¬ tree.Removable hop) :
    Walks later links stack components last hops := by
  induction h with
  | done links stack => exact .done links stack
  | stay hdirectory _ ih =>
      obtain ⟨_, hlater⟩ := hkept.directory? hdirectory
      exact .stay hlater (ih hfixed)
  | up hdirectory _ ih =>
      obtain ⟨_, hlater⟩ := hkept.directory? hdirectory
      exact .up hlater (ih hfixed)
  | enter hstay hup hentry hinode hsymlink _ ih =>
      obtain ⟨kept, hinode', -, hnode⟩ := hkept.inode hinode
      have hentry' := hkept.entry hentry (Option.isSome_of_eq_some hinode)
        (hfixed _ List.mem_cons_self)
      refine .enter hstay hup hentry' hinode' ?_
        (ih fun hop hhop => hfixed hop (List.mem_cons_of_mem _ hhop))
      rw [hnode.isSymlink, hsymlink]
  | follow hstay hup hentry hinode _ ih =>
      obtain ⟨⟨metadata, _⟩, hinode', -, hnode⟩ := hkept.inode hinode
      have hentry' := hkept.entry hentry (Option.isSome_of_eq_some hinode)
        (hfixed _ List.mem_cons_self)
      cases hnode
      exact .follow hstay hup hentry' hinode'
        (ih fun hop hhop => hfixed hop (List.mem_cons_of_mem _ hhop))

/-- What the first component of a walk was. -/
theorem Walks.cons_cases {links : ℕ} {stack last : Stack} {name : String}
    {rest : List String} {hops : List Hop}
    (h : Walks tree links stack (name :: rest) last hops) :
    name = "." ∧ Walks tree links stack rest last hops ∨
      name = ".." ∧ Walks tree links stack.tail rest last hops ∨
      (name ≠ "." ∧ name ≠ "..") ∧ ∃ number inode more,
        tree.entry stack.number name = some number ∧
        tree.inode number = some inode ∧
        hops = ⟨stack.number, name, number⟩ :: more ∧
        (inode.node.isSymlink = false ∧
            Walks tree links ((name, number) :: stack) rest last more ∨
          ∃ fewer target, inode.node = .symlink target ∧
            Walks tree fewer (target.start stack)
              (target.components ++ rest) last more) := by
  cases h with
  | stay _ h => exact .inl ⟨rfl, h⟩
  | up _ h => exact .inr (.inl ⟨rfl, h⟩)
  | enter hstay hup hentry hinode hsymlink h =>
      exact .inr (.inr ⟨⟨hstay, hup⟩, _, _, _, hentry, hinode, rfl,
        .inl ⟨hsymlink, h⟩⟩)
  | follow hstay hup hentry hinode h =>
      exact .inr (.inr ⟨⟨hstay, hup⟩, _, _, _, hentry, hinode, rfl,
        .inr ⟨_, _, rfl, h⟩⟩)

/-- The entry that a walk looks up next, in a tree that lacks an entry the
first walk found. -/
theorem Walks.entry_of_gone {links : ℕ} {stack last : Stack} {name : String}
    {rest : List String} {hops : List Hop} {number : ℕ} {inode : Inode}
    (h : Walks later links stack (name :: rest) last hops)
    (hstay : name ≠ ".") (hup : name ≠ "..")
    (hentry : tree.entry stack.number name = some number)
    (hinode : tree.inode number = some inode)
    (hkept : Kept tree later) {gone : Hop}
    (hgone : later.entry gone.directory gone.name = none)
    (hothers : ∀ number name entry, tree.entry number name = some entry →
      (number = gone.directory → name ≠ gone.name) →
        later.entry number name = some entry) :
    gone ≠ ⟨stack.number, name, number⟩ ∧ ∃ more,
      (inode.node.isSymlink = false ∧
          Walks later links ((name, number) :: stack) rest last more ∨
        ∃ fewer target, inode.node = .symlink target ∧
          Walks later fewer (target.start stack)
            (target.components ++ rest) last more) := by
  obtain ⟨rfl, -⟩ | ⟨rfl, -⟩ | ⟨-, other, found, more, hfound, hother, -,
    hrest⟩ := h.cons_cases
  · exact absurd rfl hstay
  · exact absurd rfl hup
  have hne : stack.number = gone.directory → name ≠ gone.name := by
    rintro hnumber rfl
    rw [hnumber, hgone] at hfound
    cases hfound
  cases Option.some.inj (hfound.symm.trans (hothers _ _ _ hentry hne))
  obtain ⟨kept, hinode', -, hnode⟩ := hkept.inode hinode
  cases Option.some.inj (hinode'.symm.trans hother)
  refine ⟨?_, more, ?_⟩
  · rintro rfl
    exact hne rfl rfl
  · rcases hrest with ⟨hsymlink, hwalks⟩ | ⟨fewer, target, htarget, hwalks⟩
    · exact .inl ⟨hnode.isSymlink.symm.trans hsymlink, hwalks⟩
    · rw [htarget] at hnode
      refine .inr ⟨fewer, target, ?_, hwalks⟩
      generalize inode.node = node at hnode ⊢
      cases hnode
      rfl

/-- A walk comes to nothing without one of the entries that it looked up. -/
theorem Walks.not_walks {links : ℕ} {stack last : Stack}
    {components : List String} {hops : List Hop}
    (h : Walks tree links stack components last hops)
    (hkept : Kept tree later) {gone : Hop} (hmem : gone ∈ hops)
    (hgone : later.entry gone.directory gone.name = none)
    (hothers : ∀ number name entry, tree.entry number name = some entry →
      (number = gone.directory → name ≠ gone.name) →
        later.entry number name = some entry)
    {links' : ℕ} {last' : Stack} {hops' : List Hop} :
    ¬ Walks later links' stack components last' hops' := by
  induction h generalizing links' last' hops' with
  | done _ _ => cases hmem
  | stay _ _ ih =>
      intro hlater
      rcases hlater.cons_cases with ⟨-, h⟩ | ⟨hup, -⟩ | ⟨⟨hstay, -⟩, -⟩
      · exact ih hmem h
      · exact absurd hup (by decide)
      · exact absurd rfl hstay
  | up _ _ ih =>
      intro hlater
      rcases hlater.cons_cases with ⟨hstay, -⟩ | ⟨-, h⟩ | ⟨⟨-, hup⟩, -⟩
      · exact absurd hstay (by decide)
      · exact ih hmem h
      · exact absurd rfl hup
  | enter hstay hup hentry hinode hsymlink _ ih =>
      intro hlater
      obtain ⟨hne, more, ⟨-, h⟩ | ⟨_, target, htarget, -⟩⟩ :=
        hlater.entry_of_gone hstay hup hentry hinode hkept hgone hothers
      · exact ih ((List.mem_cons.mp hmem).resolve_left hne) h
      · rw [htarget] at hsymlink
        cases hsymlink
  | follow hstay hup hentry hinode _ ih =>
      intro hlater
      obtain ⟨hne, more, ⟨hsymlink, -⟩ | ⟨_, target, htarget, h⟩⟩ :=
        hlater.entry_of_gone hstay hup hentry hinode hkept hgone hothers
      · cases hsymlink
      · cases htarget
        exact ih ((List.mem_cons.mp hmem).resolve_left hne) h

/-! ## What a user can undo -/

theorem isName_replicate (n : ℕ) :
    IsName (String.ofList (List.replicate (n + 1) 'a')) := by
  have hne : ∀ text : String, 'a' ∉ text.toList →
      String.ofList (List.replicate (n + 1) 'a') ≠ text := by
    rintro text htext rfl
    rw [String.toList_ofList] at htext
    exact htext List.mem_cons_self
  refine ⟨hne _ (by decide), hne _ (by decide), hne _ (by decide), ?_⟩
  rw [String.toList_ofList]
  intro h
  exact absurd (List.eq_of_mem_replicate h) (by decide)

/-- A directory has a name to spare. -/
theorem exists_isName (entries : Directory) :
    ∃ name, IsName name ∧ entries.find? name = none := by
  have hinjective : Function.Injective fun n : ℕ =>
      String.ofList (List.replicate (n + 1) 'a') := by
    intro m n h
    have hlength := congrArg (fun text => text.toList.length) h
    simp only [String.toList_ofList, List.length_replicate] at hlength
    exact Nat.succ.inj hlength
  obtain ⟨name, ⟨n, rfl⟩, hname⟩ :=
    (Set.infinite_range_of_injective hinjective).exists_notMem_finset
      (entries.rows.map Prod.fst).toFinset
  refine ⟨_, isName_replicate n, ?_⟩
  rw [Option.eq_none_iff_forall_ne_some]
  intro row hrow
  obtain ⟨hmem, hkey⟩ := Table.find?_eq_some_iff.mp hrow
  exact hname (List.mem_toFinset.mpr (List.mem_map.mpr ⟨row, hmem, hkey⟩))

theorem directory?_set_self (number : ℕ) (metadata : Metadata)
    (entries : Directory) :
    (tree.set number ⟨metadata, .directory entries⟩).directory? number =
      some (metadata, entries) := by
  rw [FileTree.directory?, inode_set_self]

/-- An entry given another name in the same directory. -/
theorem unlink_link {number : ℕ} {metadata : Metadata} {entries : Directory}
    (h : tree.directory? number = some (metadata, entries))
    (name newName : String) (moved : ℕ) :
    (tree.unlink number name).link number newName moved =
      tree.set number ⟨metadata, .directory
        ((entries.delete name).insertOrReplace (newName, moved))⟩ := by
  rw [unlink, changeEntries, h]
  simp only
  rw [link, changeEntries, directory?_set_self]
  simp only [set, Function.update_idem]

/-- A user who may take an entry away can leave a tree without it that has all
others. -/
theorem Removable.exists_reachable {hop : Hop} (h : tree.Removable hop)
    (hentry : tree.entry hop.directory hop.name = some hop.number) :
    ∃ later, (users tree).Reachable later ∧
      later.entry hop.directory hop.name = none ∧
      ∀ number name entry, tree.entry number name = some entry →
        (number = hop.directory → name ≠ hop.name) →
          later.entry number name = some entry := by
  obtain ⟨user, directory, moved, hdirectory, hmoved, hmay⟩ := h
  obtain ⟨⟨metadata, entries⟩, hentries⟩ := directory?_of_entry hentry
  cases Option.some.inj ((inode_of_directory? hentries).symm.trans hdirectory)
  obtain ⟨newName, hname, hfree⟩ := exists_isName entries
  have hnone : tree.entry hop.directory newName = none := by
    rw [entry_eq_of_directory? hentries, hfree]
    rfl
  have hne : hop.name ≠ newName := by
    intro heq
    rw [← heq, hentry] at hnone
    cases hnone
  refine ⟨(tree.unlink hop.directory hop.name).link hop.directory newName
    hop.number, ?_, ?_, ?_⟩
  · refine .step (.initial rfl) trivial (a := (user, .rename hop.directory
      hop.name hop.directory newName)) ?_
    have hallowed : user.MayRemove metadata moved.toMetadata ∧
        IsName newName ∧ (moved.node.isDirectory = true →
          hop.directory ≠ hop.directory → user.MayWrite moved.toMetadata) ∧
          decide (user.MayModify metadata) = true :=
      ⟨hmay, hname, fun _ hdiffers => absurd rfl hdiffers,
        decide_eq_true hmay.1⟩
    simp only [users, operate, hentries, hentry, hmoved, hnone,
      Option.bind_eq_bind, Option.bind_some]
    exact if_pos hallowed
  · rw [unlink_link hentries, entry_set_self,
      Table.find?_insertOrReplace_of_ne _ hne, Table.find?_delete_self]
    rfl
  · intro number name entry hfound hother
    rw [unlink_link hentries]
    by_cases heq : number = hop.directory
    · subst heq
      have hspare : name ≠ newName := by
        rintro rfl
        rw [hfound] at hnone
        cases hnone
      rw [entry_set_self, Table.find?_insertOrReplace_of_ne _ hspare,
        Table.find?_delete_of_ne _ (hother rfl),
        ← entry_eq_of_directory? hentries, hfound]
    · rw [entry_set_of_ne heq, hfound]

theorem Walks.entry_of_mem {links : ℕ} {stack last : Stack}
    {components : List String} {hops : List Hop}
    (h : Walks tree links stack components last hops) {hop : Hop}
    (hhop : hop ∈ hops) :
    tree.entry hop.directory hop.name = some hop.number := by
  induction h with
  | done _ _ => cases hhop
  | stay _ _ ih => exact ih hhop
  | up _ _ ih => exact ih hhop
  | enter _ _ hentry _ _ _ ih =>
      rcases List.mem_cons.mp hhop with rfl | hhop
      · exact hentry
      · exact ih hhop
  | follow _ _ hentry _ _ ih =>
      rcases List.mem_cons.mp hhop with rfl | hhop
      · exact hentry
      · exact ih hhop

/-- A walk that looks up an entry which a user may take away can come to
nothing. -/
theorem exists_reachable_walk_ne_ok {links : ℕ} {components : List String}
    {found : Walk} (h : tree.walk links [] components = .ok found) {hop : Hop}
    (hhop : hop ∈ found.hops) (hremovable : tree.Removable hop) :
    ∃ later, (users tree).Reachable later ∧
      ∀ again, later.walk links [] components ≠ .ok again := by
  have hwalks := walks_of_walk h
  obtain ⟨later, hreachable, hgone, hothers⟩ :=
    hremovable.exists_reachable (hwalks.entry_of_mem hhop)
  refine ⟨later, hreachable, fun again hagain => ?_⟩
  exact hwalks.not_walks (kept_of_reachable hreachable) hhop hgone hothers
    (walks_of_walk hagain)

/-! ## Paths -/

/-- How many links are followed on the way to a place. -/
def maxLinks : ℕ := 40

variable (tree)

/-- The path of a place without links, dots and double dots. -/
def canonicalize (path : List String) : Except WalkError (List String) :=
  (tree.walk maxLinks [] path).map fun found => found.stack.path

/-- The entries that are looked up on the way to a place. -/
def hops (path : List String) : List Hop :=
  match tree.walk maxLinks [] path with
  | .ok found => found.hops
  | .error _ => []

/-- The number of what a path leads to. -/
def number (path : List String) : Except WalkError ℕ :=
  (tree.walk maxLinks [] path).map fun found => found.stack.number

/-- The number of what a path leads to, of the link itself if it is one. -/
def symlinkNumber (path : List String) : Except WalkError ℕ :=
  match path.getLast? with
  | none => .ok 0
  | some name =>
      if name = ".." then tree.number path
      else
        (tree.number path.dropLast).bind fun parent =>
          match tree.directory? parent with
          | none => .error .notDirectory
          | some _ =>
              match tree.entry parent name with
              | none => .error .notFound
              | some entry => .ok entry

def inodeAt (number : Except WalkError ℕ) : Except WalkError Inode :=
  number.bind fun number =>
    match tree.inode number with
    | none => .error .notFound
    | some inode => .ok inode

def metadata (path : List String) : Except WalkError Inode :=
  tree.inodeAt (tree.number path)

def symlinkMetadata (path : List String) : Except WalkError Inode :=
  tree.inodeAt (tree.symlinkNumber path)

/-- What the file at a path holds. -/
def contentsAt (path : List String) : Option (List UInt8) :=
  match tree.metadata path with
  | .ok ⟨_, .file contents⟩ => some contents
  | _ => none

variable {tree}

theorem inodeAt_eq_ok_iff {number : Except WalkError ℕ} {inode : Inode} :
    tree.inodeAt number = .ok inode ↔
      ∃ found, number = .ok found ∧ tree.inode found = some inode := by
  cases number with
  | error _ =>
      constructor
      · rintro ⟨⟩
      · rintro ⟨_, ⟨⟩, -⟩
  | ok found =>
      simp only [inodeAt, Except.bind, Except.ok.injEq, exists_eq_left']
      cases tree.inode found with
      | none => simp only [reduceCtorEq]
      | some _ => simp only [Except.ok.injEq, Option.some.injEq]

/-- What a canonical path leads to is what the path itself leads to, along
entries that the path looks up. -/
theorem walk_of_canonicalize {path resolved : List String}
    (h : tree.canonicalize path = .ok resolved) :
    ∃ found edges, tree.walk maxLinks [] path = .ok found ∧
      resolved = found.stack.path ∧ edges ⊆ found.hops ∧
      tree.walk maxLinks [] resolved = .ok ⟨found.stack, edges⟩ := by
  unfold canonicalize at h
  cases hwalk : tree.walk maxLinks [] path with
  | error _ =>
      rw [hwalk] at h
      cases h
  | ok found =>
      rw [hwalk] at h
      cases h
      obtain ⟨edges, hgrounded, hedges⟩ := (walks_of_walk hwalk).grounded .root
      refine ⟨found, edges, rfl, rfl, ?_, hgrounded.walk_path maxLinks⟩
      intro hop hhop
      exact (hedges hop hhop).resolve_left List.not_mem_nil

/-- A path leads to the same place with the same contents whatever the users
do, if they may not take away an entry on the way nor write the file. -/
theorem canonicalize_stays {path resolved : List String} {inode : Inode}
    (h : tree.canonicalize path = .ok resolved)
    (hinode : tree.metadata resolved = .ok inode)
    (hwrite : ∀ user : User, ¬ user.MayWrite inode.toMetadata)
    (hfixed : ∀ hop ∈ tree.hops path, ¬ tree.Removable hop)
    (hkept : Kept tree later) :
    later.canonicalize path = .ok resolved ∧
      later.contentsAt resolved = tree.contentsAt resolved := by
  obtain ⟨found, edges, hwalk, rfl, hedges, hresolved⟩ :=
    walk_of_canonicalize h
  rw [hops, hwalk] at hfixed
  have hagain := ((walks_of_walk hwalk).kept hkept hfixed).walk_eq_ok
  have hstays := ((walks_of_walk hresolved).kept hkept
    fun hop hhop => hfixed hop (hedges hhop)).walk_eq_ok
  constructor
  · rw [canonicalize, hagain]
    rfl
  · obtain ⟨number, hnumber, hfound⟩ := inodeAt_eq_ok_iff.mp hinode
    rw [FileTree.number, hresolved] at hnumber
    cases hnumber
    obtain ⟨kept, hlater, -, hnode⟩ := hkept.inode hfound
    have hmetadata : later.metadata found.stack.path = .ok kept :=
      inodeAt_eq_ok_iff.mpr ⟨_, by rw [FileTree.number, hstays]; rfl, hlater⟩
    obtain ⟨metadata, node⟩ := inode
    obtain ⟨metadata', node'⟩ := kept
    rw [contentsAt, contentsAt, hinode, hmetadata]
    cases hnode with
    | directory _ _ => rfl
    | symlink _ => rfl
    | file hcontents =>
        rcases hcontents with ⟨user, hmay⟩ | rfl
        · exact absurd hmay (hwrite user)
        · rfl

end FileTree

end Darcbench
