import Mathlib.Logic.Function.Basic

/-!
# Files

A part of a file system as what is at each path.  An entry holds everything
below it, so that a directory moves with its contents.
-/

namespace Darcbench

/-- What is at a path. -/
inductive Entry
  | file (body : String)
  | directory (entries : List (String × Entry))

/-- The entries of a file system by their paths. -/
abbrev Files :=
  String → Option Entry

namespace Files

variable (files : Files) {path source target : String}

/-- Creates a file, or writes over the one that is there. -/
def write (path : String) (body : String) : Files :=
  Function.update files path (some (.file body))

/-- Removes a file.  A directory is not removed. -/
def removeFile (path : String) : Files :=
  match files path with
  | some (.file _) => Function.update files path none
  | _ => files

/-- Moves an entry, in place of what is at the target. -/
def rename (source target : String) : Files :=
  match files source with
  | none => files
  | some entry =>
      Function.update (Function.update files source none) target (some entry)

@[simp] theorem write_self (body : String) :
    files.write path body path = some (.file body) :=
  Function.update_self _ _ _

theorem write_of_ne {other : String} (h : other ≠ path) (body : String) :
    files.write path body other = files other :=
  Function.update_of_ne h _ _

theorem rename_target {entry : Entry} (h : files source = some entry) :
    files.rename source target target = some entry := by
  simp only [rename, h, Function.update_self]

theorem rename_source (h : source ≠ target) :
    files.rename source target source = none := by
  cases hsource : files source with
  | none => simp only [rename, hsource]
  | some entry =>
      simp only [rename, hsource]
      rw [Function.update_of_ne h, Function.update_self]

theorem rename_of_ne {other : String} (hsource : other ≠ source)
    (htarget : other ≠ target) :
    files.rename source target other = files other := by
  cases hfound : files source with
  | none => simp only [rename, hfound]
  | some entry =>
      simp only [rename, hfound]
      rw [Function.update_of_ne htarget, Function.update_of_ne hsource]

/-- A file written to a free path and removed again leaves no trace. -/
theorem removeFile_write (h : files path = none) (body : String) :
    (files.write path body).removeFile path = files := by
  unfold removeFile
  rw [write_self]
  unfold write
  rw [Function.update_idem, ← h, Function.update_eq_self]

/-- An entry moved to a free path and back leaves no trace. -/
theorem rename_rename (htarget : files target = none) :
    (files.rename source target).rename target source = files := by
  cases hsource : files source with
  | none =>
      have hfree : files.rename source target = files := by
        simp only [rename, hsource]
      rw [hfree, rename, htarget]
  | some entry =>
      funext path
      rw [rename, rename_target files hsource]
      dsimp only
      by_cases hs : path = source
      · rw [hs, Function.update_self, hsource]
      · rw [Function.update_of_ne hs]
        by_cases ht : path = target
        · rw [ht, Function.update_self, htarget]
        · rw [Function.update_of_ne ht, rename_of_ne files hs ht]

/-- What is at the target of a move does not matter. -/
theorem rename_write {entry : Entry} (h : files source = some entry)
    (hne : source ≠ target) (body : String) :
    (files.write target body).rename source target =
      files.rename source target := by
  have hsource : files.write target body source = some entry := by
    rw [write_of_ne files hne, h]
  rw [rename, hsource, rename, h]
  dsimp only
  rw [write, Function.update_comm hne.symm, Function.update_idem]

end Files

end Darcbench
