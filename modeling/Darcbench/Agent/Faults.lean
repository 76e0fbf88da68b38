import Darcbench.Agent.Uninstall

/-!
# An apply or a rollback in which a step fails

Every step of an apply that changes a file can fail, and what was done before
it is then undone.  A rollback goes on after a step that fails.
-/

namespace Darcbench

/-! ## Steps that fail -/

/-- The step of an apply that fails, with what it leaves behind. -/
inductive ApplyFault
  | rename
  | create
  | write (left : String)
  | sync
  | createDirAll
  | receipt (left : Option ReceiptFile)

/-- The step of a rollback that fails. -/
inductive RollbackFault
  | read
  | removeFile
  | rename
  | removeReceipt
  deriving DecidableEq

/-- Moves a file in the way aside. -/
def Layout.moveAsideWith (layout : Layout) (fault : Option ApplyFault)
    (files : Files) : Files × Except String Unit :=
  match fault, files layout.file with
  | some .rename, some _ =>
      (files, .error ("could not move " ++ layout.file ++ " aside"))
  | _, _ => (layout.moveAside files, .ok ())

/-- Creates the file and writes it. -/
def writeConfig (fault : Option ApplyFault) (files : Files)
    (target body : String) : Files × Except String Unit :=
  if (files target).isSome then (files, .error ("could not create " ++ target))
  else
    match fault with
    | some .create => (files, .error ("could not create " ++ target))
    | some (.write left) =>
        (files.write target left, .error ("could not write " ++ target))
    | some .sync =>
        (files.write target body, .error ("could not write " ++ target))
    | _ => (files.write target body, .ok ())

/-- Creates the state directory and writes the receipt. -/
def Machine.writeReceipt (m : Machine) (fault : Option ApplyFault)
    (receipt : Receipt) : Option StateDir × Except String Unit :=
  match fault with
  | some .createDirAll => (m.stateDir, .error ("could not create " ++ m.root))
  | some (.receipt left) =>
      (some ⟨left⟩, .error ("could not write " ++ m.receiptPath))
  | _ => (some ⟨some (.receipt receipt)⟩, .ok ())

/-- The removal of the snippet and the move back, of which one may fail.
Neither result is looked at. -/
def undoFilesWith (fault : Option RollbackFault) (files : Files)
    (target : String) (backup : Option String) : Files :=
  let files := if fault = some .removeFile then files
    else files.removeFile target
  if fault = some .rename then files else restore files target backup

namespace Machine

/-- An installation in which a step may fail.  The steps that undo others do
not. -/
def installWith (m : Machine) (fault : Option ApplyFault) (args : ApplyArgs)
    (server : Server) (location : String) (layout : Layout) :
    Machine × Except String ℕ :=
  let receipt := args.receipt m.files server location layout
  match layout.moveAsideWith fault m.files with
  | (_, .error error) => (m, .error error)
  | (aside, .ok ()) =>
      match writeConfig fault aside layout.file
          (generate layout args.port location) with
      | (files, .error error) =>
          ({ m with files := restore files layout.file receipt.backup },
            .error error)
      | (files, .ok ()) =>
          let undone := undoFiles files layout.file receipt.backup
          match m.writeReceipt fault receipt with
          | (stateDir, .error _) =>
              ({ m with files := undone, stateDir },
                .error ("the configuration was written and then removed, " ++
                  "because the receipt that makes `darcbench proxy " ++
                  "rollback` possible could not be saved. A change this " ++
                  "program cannot record is a change it cannot undo, and " ++
                  "it will not leave one behind"))
          | (stateDir, .ok ()) =>
              match validateSnippet args.host layout with
              | .failed _ _ =>
                  ({ m with files := undone, stateDir := some ⟨none⟩ }, .ok 2)
              | _ => ({ m with files, stateDir }, .ok 0)

/-- An apply in which a step may fail. -/
def applyWith (m : Machine) (fault : Option ApplyFault) (args : ApplyArgs) :
    Machine × Except String ℕ :=
  match args.checked m.files with
  | .error error => (m, .error error)
  | .ok (server, location, layout) =>
      if !args.confirm then (m, .ok 2)
      else if m.receiptFile.isSome then (m, .ok 2)
      else if (m.files layout.file).isSome ∧
          (m.files layout.backup).isSome then
        (m, .error (layout.backup ++ " already exists. Move it somewhere " ++
          "safe first: overwriting it would destroy the only copy of " ++
          "whatever was displaced last time."))
      else m.installWith fault args server location layout

/-- A rollback in which a step may fail. -/
def rollbackWith (m : Machine) (fault : Option RollbackFault)
    (confirm force : Bool) (reference : Option String) :
    Machine × Except String ℕ :=
  match fault, m.receiptFile with
  | some .read, _ | _, none => (m, .ok 2)
  | _, some (.unreadable _) =>
      (m, .error (m.receiptPath ++ " is unreadable"))
  | _, some (.receipt receipt) =>
      if !confirm then (m, .ok 2)
      else if !force && reference.isSome then (m, .ok 2)
      else
        let files := undoFilesWith fault m.files receipt.file receipt.backup
        if fault = some .removeReceipt then
          ({ m with files }, .error ("could not remove " ++ m.receiptPath))
        else ({ m with files, stateDir := some ⟨none⟩ }, .ok 0)

/-! ## What is promised -/

/-- The apply has done all that it is for. -/
structure Applied (m t : Machine) (args : ApplyArgs) (server : Server)
    (location : String) (layout : Layout) : Prop where
  checked : args.checked m.files = .ok (server, location, layout)
  written : t.files layout.file =
    some (.file (generate layout args.port location))
  displaced : ∀ entry, m.files layout.file = some entry →
    t.files layout.backup = some entry
  recorded : t.receiptFile =
    some (.receipt (args.receipt m.files server location layout))

/-- No file and no receipt has changed. -/
structure Untouched (m t : Machine) : Prop where
  files : t.files = m.files
  receiptFile : t.receiptFile = m.receiptFile

/-- The apply does everything or nothing. -/
def AppliesAtomically (m : Machine) (fault : Option ApplyFault)
    (args : ApplyArgs) : Prop :=
  (m.applyWith fault args).2 = .ok 0 ∧
      (∃ server location layout,
        m.Applied (m.applyWith fault args).1 args server location layout) ∨
    m.Untouched (m.applyWith fault args).1

/-- A rollback that reports success has put back what was there before. -/
def RollsBack (before m : Machine) (fault : Option RollbackFault)
    (force : Bool) (reference : Option String) : Prop :=
  (m.rollbackWith fault true force reference).2 = .ok 0 →
    (m.rollbackWith fault true force reference).1.files = before.files

end Machine

/-- The step leaves something behind that is not undone: a snippet that was
created where there was nothing before, or a part of a receipt. -/
def ApplyFault.Leaves (files : Files) (layout : Layout) : ApplyFault → Prop
  | .write _ | .sync => files layout.file = none
  | .receipt left => left ≠ none
  | .rename | .create | .createDirAll => False

/-- An apply with these arguments gets to the step, and the step leaves
something behind. -/
def Machine.LeavesBehind (m : Machine) (fault : Option ApplyFault)
    (args : ApplyArgs) : Prop :=
  args.confirm = true ∧ ∃ server location layout step,
    args.checked m.files = .ok (server, location, layout) ∧
    ¬((m.files layout.file).isSome ∧ (m.files layout.backup).isSome) ∧
    fault = some step ∧ step.Leaves m.files layout

/-- The step is the one that matters: the removal of a snippet in whose place
nothing was, or the move of what was there. -/
def RollbackFault.Spoils (displaced : Bool) : RollbackFault → Prop
  | .removeFile => displaced = false
  | .rename => displaced = true
  | .read | .removeReceipt => False

/-! ## An apply -/

namespace Machine

variable {m : Machine} {args : ApplyArgs} {server : Server}
  {location : String} {layout : Layout}

theorem moveAside_file (layout : Layout) (files : Files) :
    layout.moveAside files layout.file = none := by
  by_cases hsome : (files layout.file).isSome
  · rw [Layout.moveAside, if_pos hsome]
    exact Files.rename_source files layout.file_ne_backup
  · rw [Layout.moveAside, if_neg hsome]
    exact Option.not_isSome_iff_eq_none.mp hsome

/-- What was moved aside comes back, whatever was written in its place. -/
theorem restore_write (layout : Layout) {files : Files}
    (hsome : (files layout.file).isSome)
    (hnone : files layout.backup = none) (body : String) :
    restore ((layout.moveAside files).write layout.file body) layout.file
      (layout.displaced files) = files := by
  obtain ⟨entry, hentry⟩ := Option.isSome_iff_exists.mp hsome
  rw [Layout.moveAside, if_pos hsome, Layout.displaced, if_pos hsome]
  show Files.rename _ layout.backup layout.file = files
  rw [Files.rename_write _ (Files.rename_target files hentry)
    layout.file_ne_backup.symm, Files.rename_rename files hnone]

theorem restore_moveAside (layout : Layout) {files : Files}
    (hfree : ¬((files layout.file).isSome ∧ (files layout.backup).isSome)) :
    restore (layout.moveAside files) layout.file (layout.displaced files) =
      files := by
  by_cases hsome : (files layout.file).isSome
  · have hnone : files layout.backup = none :=
      Option.not_isSome_iff_eq_none.mp fun h => hfree ⟨hsome, h⟩
    rw [Layout.moveAside, if_pos hsome, Layout.displaced, if_pos hsome]
    exact Files.rename_rename files hnone
  · rw [Layout.moveAside, if_neg hsome, Layout.displaced, if_neg hsome]
    rfl

theorem undoFiles_write (layout : Layout) {files : Files}
    (hfree : ¬((files layout.file).isSome ∧ (files layout.backup).isSome))
    (body : String) :
    undoFiles ((layout.moveAside files).write layout.file body) layout.file
      (layout.displaced files) = files := by
  rw [undoFiles, Files.removeFile_write _ (moveAside_file layout files)]
  exact restore_moveAside layout hfree

/-- When every step succeeds, the snippet is installed, unless the validator
rejects it. -/
theorem installWith_done {fault : Option ApplyFault}
    (hmove : layout.moveAsideWith fault m.files =
      (layout.moveAside m.files, .ok ()))
    (hwrite : writeConfig fault (layout.moveAside m.files) layout.file
        (generate layout args.port location) =
      ((layout.moveAside m.files).write layout.file
        (generate layout args.port location), .ok ()))
    (hrecord : m.writeReceipt fault
        (args.receipt m.files server location layout) =
      (some ⟨some (.receipt (args.receipt m.files server location layout))⟩,
        .ok ()))
    (hchecked : args.checked m.files = .ok (server, location, layout))
    (hfree : ¬((m.files layout.file).isSome ∧
      (m.files layout.backup).isSome))
    (hreceipt : m.receiptFile = none) :
    (m.installWith fault args server location layout).2 = .ok 0 ∧
        m.Applied (m.installWith fault args server location layout).1 args
          server location layout ∨
      m.Untouched (m.installWith fault args server location layout).1 := by
  have hinstalled : m.Applied
      { m with
        files := (layout.moveAside m.files).write layout.file
          (generate layout args.port location)
        stateDir := some ⟨some (.receipt
          (args.receipt m.files server location layout))⟩ }
      args server location layout :=
    { checked := hchecked
      written := Files.write_self _ _
      displaced := by
        intro entry hentry
        show Files.write _ _ _ layout.backup = some entry
        rw [Files.write_of_ne _ layout.file_ne_backup.symm, Layout.moveAside,
          if_pos (by rw [hentry]; rfl)]
        exact Files.rename_target _ hentry
      recorded := rfl }
  have hundone := undoFiles_write layout hfree
    (generate layout args.port location)
  rw [installWith, hmove]
  dsimp only
  rw [hwrite]
  dsimp only
  rw [hrecord]
  dsimp only
  cases validateSnippet args.host layout with
  | failed _ _ => exact .inr ⟨hundone, hreceipt.symm⟩
  | passed _ _ => exact .inl ⟨rfl, hinstalled⟩
  | unavailable _ => exact .inl ⟨rfl, hinstalled⟩

/-- An installation does everything or nothing unless its step leaves something
behind. -/
theorem installWith_atomic {fault : Option ApplyFault}
    (hchecked : args.checked m.files = .ok (server, location, layout))
    (hfree : ¬((m.files layout.file).isSome ∧
      (m.files layout.backup).isSome))
    (hreceipt : m.receiptFile = none)
    (hleaves : ∀ step, fault = some step → ¬step.Leaves m.files layout) :
    (m.installWith fault args server location layout).2 = .ok 0 ∧
        m.Applied (m.installWith fault args server location layout).1 args
          server location layout ∨
      m.Untouched (m.installWith fault args server location layout).1 := by
  have haside := moveAside_file layout m.files
  have hrestored := restore_moveAside layout hfree
  have hwritten : ∀ body, (m.files layout.file).isSome →
      restore ((layout.moveAside m.files).write layout.file body) layout.file
        (layout.displaced m.files) = m.files := fun body hsome =>
    restore_write layout hsome
      (Option.not_isSome_iff_eq_none.mp fun h => hfree ⟨hsome, h⟩) body
  have hundone := undoFiles_write layout hfree
    (generate layout args.port location)
  have hcreated : (layout.moveAside m.files layout.file).isSome ≠ true := by
    rw [haside]
    exact Bool.false_ne_true
  cases fault with
  | none =>
      exact installWith_done rfl (if_neg hcreated) rfl hchecked hfree hreceipt
  | some fault =>
      have hstep := hleaves fault rfl
      cases fault with
      | rename =>
          cases hfile : m.files layout.file with
          | none =>
              exact installWith_done
                (by simp only [Layout.moveAsideWith, hfile])
                (if_neg hcreated) rfl hchecked hfree hreceipt
          | some entry =>
              refine .inr ?_
              simp only [installWith, Layout.moveAsideWith, hfile]
              exact ⟨rfl, rfl⟩
      | create =>
          refine .inr ⟨?_, ?_⟩ <;>
            simp only [installWith, Layout.moveAsideWith, writeConfig,
              if_neg hcreated]
          · exact hrestored
          · rfl
      | write left =>
          have hsome := Option.isSome_iff_ne_none.mpr hstep
          refine .inr ⟨?_, ?_⟩ <;>
            simp only [installWith, Layout.moveAsideWith, writeConfig,
              if_neg hcreated]
          · exact hwritten left hsome
          · rfl
      | sync =>
          have hsome := Option.isSome_iff_ne_none.mpr hstep
          refine .inr ⟨?_, ?_⟩ <;>
            simp only [installWith, Layout.moveAsideWith, writeConfig,
              if_neg hcreated]
          · exact hwritten _ hsome
          · rfl
      | createDirAll =>
          refine .inr ⟨?_, ?_⟩ <;>
            simp only [installWith, Layout.moveAsideWith, writeConfig,
              if_neg hcreated, writeReceipt]
          · exact hundone
          · rfl
      | receipt left =>
          have hleft : left = none := not_not.mp hstep
          refine .inr ⟨?_, ?_⟩ <;>
            simp only [installWith, Layout.moveAsideWith, writeConfig,
              if_neg hcreated, writeReceipt, hleft]
          · exact hundone
          · exact hreceipt.symm

/-- What a step leaves behind is seen, and the apply has not reported
success. -/
theorem installWith_leaves (args : ApplyArgs) (server : Server)
    (location : String)
    {step : ApplyFault}
    (hreceipt : m.receiptFile = none) (hleaves : step.Leaves m.files layout) :
    (m.installWith (some step) args server location layout).2 ≠ .ok 0 ∧
      ¬m.Untouched
        (m.installWith (some step) args server location layout).1 := by
  have hcreated : (layout.moveAside m.files layout.file).isSome ≠ true := by
    rw [moveAside_file layout m.files]
    exact Bool.false_ne_true
  -- Nothing was displaced, so that nothing is put back.
  have hkept : ∀ body, m.files layout.file = none →
      restore ((layout.moveAside m.files).write layout.file body) layout.file
        (layout.displaced m.files) layout.file = some (.file body) := by
    intro body hnone
    rw [Layout.displaced, hnone]
    exact Files.write_self _ body
  cases step with
  | rename => exact absurd hleaves not_false
  | create => exact absurd hleaves not_false
  | createDirAll => exact absurd hleaves not_false
  | write left =>
      have hnone : m.files layout.file = none := hleaves
      simp only [installWith, Layout.moveAsideWith, writeConfig,
        if_neg hcreated]
      refine ⟨by simp, fun h => ?_⟩
      have hfile := (congrFun h.files layout.file).symm.trans
        (hkept left hnone)
      rw [hnone] at hfile
      exact Option.some_ne_none _ hfile.symm
  | sync =>
      have hnone : m.files layout.file = none := hleaves
      simp only [installWith, Layout.moveAsideWith, writeConfig,
        if_neg hcreated]
      refine ⟨by simp, fun h => ?_⟩
      have hfile := (congrFun h.files layout.file).symm.trans (hkept _ hnone)
      rw [hnone] at hfile
      exact Option.some_ne_none _ hfile.symm
  | receipt left =>
      have hsome : left ≠ none := hleaves
      simp only [installWith, Layout.moveAsideWith, writeConfig,
        if_neg hcreated, writeReceipt]
      exact ⟨by simp, fun h => hsome (h.receiptFile.trans hreceipt)⟩

/-- An apply on a machine without a receipt does everything or nothing exactly
when no step leaves something behind. -/
theorem appliesAtomically_iff (fault : Option ApplyFault) (args : ApplyArgs)
    (hreceipt : m.receiptFile = none) :
    m.AppliesAtomically fault args ↔ ¬m.LeavesBehind fault args := by
  have hnone : ¬m.receiptFile.isSome = true := by
    rw [hreceipt]
    exact Bool.false_ne_true
  have hsame : m.Untouched m := ⟨rfl, rfl⟩
  unfold AppliesAtomically LeavesBehind applyWith
  cases hchecked : args.checked m.files with
  | error error =>
      refine iff_of_true (.inr hsame) ?_
      rintro ⟨-, _, _, _, _, hok, -⟩
      exact absurd hok nofun
  | ok checked =>
      obtain ⟨server, location, layout⟩ := checked
      dsimp only
      cases hconfirm : args.confirm with
      | false =>
          refine iff_of_true (.inr hsame) ?_
          rintro ⟨hconfirmed, -⟩
          exact Bool.false_ne_true hconfirmed
      | true =>
          simp only [Bool.not_true, Bool.false_eq_true, if_false, if_neg hnone]
          by_cases hfree : (m.files layout.file).isSome ∧
              (m.files layout.backup).isSome
          · rw [if_pos hfree]
            refine iff_of_true (.inr hsame) ?_
            rintro ⟨-, _, _, _, _, hok, hnot, -⟩
            cases hok
            exact hnot hfree
          · rw [if_neg hfree]
            constructor
            · rintro hatomic ⟨-, _, _, _, step, hok, -, rfl, hleaves⟩
              cases hok
              obtain ⟨hfailed, htouched⟩ := installWith_leaves args server
                location hreceipt hleaves
              rcases hatomic with ⟨hdone, -⟩ | huntouched
              · exact hfailed hdone
              · exact htouched huntouched
            · intro hnot
              rcases installWith_atomic hchecked hfree hreceipt
                  (fun step hstep hleaves => hnot ⟨trivial, server, location,
                    layout, step, rfl, hfree, hstep, hleaves⟩) with
                ⟨hdone, happlied⟩ | huntouched
              · exact .inl ⟨hdone, server, location, layout, happlied⟩
              · exact .inr huntouched

/-- Without a step that fails, the commands are those of a machine that writes
what it is asked to. -/
theorem applyWith_none (m : Machine) {args : ApplyArgs}
    (hconfig : args.host.configError = none)
    (hreceipt : args.host.receiptError = none) :
    m.applyWith none args = m.apply args := by
  have hinstall : ∀ server location layout,
      m.installWith none args server location layout =
        m.install args server location layout := by
    intro server location layout
    have hcreated : (layout.moveAside m.files layout.file).isSome ≠ true := by
      rw [moveAside_file layout m.files]
      exact Bool.false_ne_true
    cases hvalidation : validateSnippet args.host layout <;>
      simp only [installWith, install, hconfig, hreceipt, hvalidation,
        Layout.moveAsideWith, writeConfig, writeReceipt, if_neg hcreated]
  unfold applyWith apply
  cases args.checked m.files with
  | error error => rfl
  | ok checked => simp only [hinstall]

theorem rollbackWith_none (m : Machine) (confirm force : Bool)
    (reference : Option String) :
    m.rollbackWith none confirm force reference =
      m.rollback confirm force reference := by
  unfold rollbackWith rollback
  cases m.receiptFile with
  | none => rfl
  | some file => cases file <;> rfl

/-! ## A rollback -/

theorem eq_moveAside_of_ok {fault : Option ApplyFault} {files aside : Files}
    (h : layout.moveAsideWith fault files = (aside, .ok ())) :
    aside = layout.moveAside files := by
  unfold Layout.moveAsideWith at h
  split at h
  · cases h
  · exact (congrArg Prod.fst h).symm

theorem eq_write_of_ok {fault : Option ApplyFault} {files written : Files}
    {target body : String}
    (h : writeConfig fault files target body = (written, .ok ())) :
    written = files.write target body := by
  unfold writeConfig at h
  split at h
  · cases h
  · split at h
    · cases h
    · cases h
    · cases h
    · exact (congrArg Prod.fst h).symm

theorem eq_receipt_of_ok {fault : Option ApplyFault} {receipt : Receipt}
    {stateDir : Option StateDir}
    (h : m.writeReceipt fault receipt = (stateDir, .ok ())) :
    stateDir = some ⟨some (.receipt receipt)⟩ := by
  unfold writeReceipt at h
  split at h
  · cases h
  · cases h
  · exact (congrArg Prod.fst h).symm

/-- An installation that reports success leaves the snippet and the receipt. -/
theorem installWith_ok {fault : Option ApplyFault}
    (h : (m.installWith fault args server location layout).2 = .ok 0) :
    (m.installWith fault args server location layout).1 =
      { m with
        files := (layout.moveAside m.files).write layout.file
          (generate layout args.port location)
        stateDir := some ⟨some (.receipt
          (args.receipt m.files server location layout))⟩ } := by
  revert h
  unfold installWith
  dsimp only
  split
  · nofun
  · rename_i aside haside
    obtain rfl := eq_moveAside_of_ok haside
    split
    · nofun
    · rename_i written hwritten
      obtain rfl := eq_write_of_ok hwritten
      split
      · nofun
      · rename_i stateDir hstateDir
        obtain rfl := eq_receipt_of_ok hstateDir
        split
        · nofun
        · exact fun _ => rfl

/-- An apply that reports success has installed the snippet. -/
theorem applyWith_ok {fault : Option ApplyFault}
    (hchecked : args.checked m.files = .ok (server, location, layout))
    (h : (m.applyWith fault args).2 = .ok 0) :
    ¬((m.files layout.file).isSome ∧ (m.files layout.backup).isSome) ∧
      (m.applyWith fault args).1 =
        { m with
          files := (layout.moveAside m.files).write layout.file
            (generate layout args.port location)
          stateDir := some ⟨some (.receipt
            (args.receipt m.files server location layout))⟩ } := by
  revert h
  unfold applyWith
  rw [hchecked]
  dsimp only
  split_ifs with _ _ hfree
  · nofun
  · nofun
  · nofun
  · exact fun h => ⟨hfree, installWith_ok h⟩

/-- The removal and the move put everything back unless the one that matters
fails. -/
theorem undoFilesWith_eq_iff (undo : Option RollbackFault)
    {files : Files} (layout : Layout)
    (hfree : ¬((files layout.file).isSome ∧ (files layout.backup).isSome))
    (body : String) :
    undoFilesWith undo ((layout.moveAside files).write layout.file body)
        layout.file (layout.displaced files) = files ↔
      ∀ step, undo = some step →
        ¬step.Spoils (files layout.file).isSome := by
  have hundone := undoFiles_write layout hfree body
  have haside := moveAside_file layout files
  cases undo with
  | none => exact iff_of_true hundone nofun
  | some step =>
      have hspoils : (∀ other, some step = some other →
          ¬other.Spoils (files layout.file).isSome) ↔
            ¬step.Spoils (files layout.file).isSome :=
        ⟨fun h => h step rfl, fun h _ hother => Option.some.inj hother ▸ h⟩
      rw [hspoils]
      cases step with
      | read => exact iff_of_true hundone not_false
      | removeReceipt => exact iff_of_true hundone not_false
      | removeFile =>
          show restore _ _ _ = files ↔ ¬(files layout.file).isSome = false
          by_cases hsome : (files layout.file).isSome
          · have hnone : files layout.backup = none :=
              Option.not_isSome_iff_eq_none.mp fun h => hfree ⟨hsome, h⟩
            exact iff_of_true (restore_write layout hsome hnone body)
              (by simp [hsome])
          · refine iff_of_false (fun h => hsome ?_) (by simp [hsome])
            rw [Layout.displaced, if_neg hsome] at h
            rw [← congrFun h layout.file]
            exact congrArg Option.isSome (Files.write_self _ body)
      | rename =>
          show Files.removeFile _ _ = files ↔
            ¬(files layout.file).isSome = true
          rw [Files.removeFile_write _ haside]
          by_cases hsome : (files layout.file).isSome
          · refine iff_of_false (fun h => ?_) (not_not.mpr hsome)
            rw [← congrFun h layout.file, haside] at hsome
            exact Bool.false_ne_true hsome
          · rw [Layout.moveAside, if_neg hsome]
            exact iff_of_true rfl hsome

/-- A rollback that is turned away changes nothing and does not report
success. -/
def TurnedAway (force : Bool) (reference : Option String) : Prop :=
  force = false ∧ reference.isSome = true

/-- A confirmed rollback of a receipt that could be read. -/
theorem rollbackWith_recorded {t : Machine} {undo : Option RollbackFault}
    {receipt : Receipt} (hread : undo ≠ some .read)
    (hreceipt : t.receiptFile = some (.receipt receipt)) (force : Bool)
    (reference : Option String) :
    t.rollbackWith undo true force reference =
      if !force && reference.isSome then (t, .ok 2)
      else if undo = some .removeReceipt then
        ({ t with
          files := undoFilesWith undo t.files receipt.file receipt.backup },
          .error ("could not remove " ++ t.receiptPath))
      else
        ({ t with
          files := undoFilesWith undo t.files receipt.file receipt.backup
          stateDir := some ⟨none⟩ }, .ok 0) := by
  unfold rollbackWith
  rw [hreceipt]
  cases undo with
  | none => rfl
  | some step =>
      cases step with
      | read => exact absurd rfl hread
      | removeFile => rfl
      | rename => rfl
      | removeReceipt => rfl

/-- A confirmed rollback after an apply keeps its word exactly when it is
turned away or no step fails that matters. -/
theorem rollsBack_iff {fault : Option ApplyFault}
    (hchecked : args.checked m.files = .ok (server, location, layout))
    (happlied : (m.applyWith fault args).2 = .ok 0)
    (undo : Option RollbackFault) (force : Bool) (reference : Option String) :
    RollsBack m (m.applyWith fault args).1 undo force reference ↔
      TurnedAway force reference ∨
        ∀ step, undo = some step →
          ¬step.Spoils (m.files layout.file).isSome := by
  obtain ⟨hfree, hstate⟩ := applyWith_ok hchecked happlied
  have hundo := undoFilesWith_eq_iff undo layout hfree
    (generate layout args.port location)
  unfold RollsBack
  rw [hstate]
  by_cases hread : undo = some .read
  · subst hread
    refine iff_of_true nofun (.inr ?_)
    rintro _ ⟨⟩
    exact not_false
  · rw [rollbackWith_recorded hread rfl]
    by_cases haway : TurnedAway force reference
    · obtain ⟨rfl, hreference⟩ := haway
      rw [hreference]
      exact iff_of_true nofun (.inl ⟨rfl, hreference⟩)
    · have hgoes : ¬(!force && reference.isSome) = true := by
        intro h
        rw [Bool.and_eq_true, Bool.not_eq_true'] at h
        exact haway h
      rw [if_neg hgoes, or_iff_right haway]
      by_cases hremove : undo = some .removeReceipt
      · subst hremove
        refine iff_of_true nofun ?_
        rintro _ ⟨⟩
        exact not_false
      · rw [if_neg hremove]
        exact (forall_prop_of_true rfl).trans hundo

/-! ## Both commands -/

/-- An apply on a machine without a receipt is atomic exactly when no step
leaves something behind, and a rollback after an apply that reports success is
its inverse exactly when no step fails that matters. -/
theorem appliesAtomically_and_rollsBack_iff (fault : Option ApplyFault)
    (args : ApplyArgs) (hreceipt : m.receiptFile = none) :
    (m.AppliesAtomically fault args ↔ ¬m.LeavesBehind fault args) ∧
      ∀ server location layout,
        args.checked m.files = .ok (server, location, layout) →
        (m.applyWith fault args).2 = .ok 0 →
        ∀ undo force reference,
          RollsBack m (m.applyWith fault args).1 undo force reference ↔
            TurnedAway force reference ∨
              ∀ step, undo = some step →
                ¬step.Spoils (m.files layout.file).isSome :=
  ⟨appliesAtomically_iff fault args hreceipt,
    fun _ _ _ hchecked happlied => rollsBack_iff hchecked happlied⟩

theorem ok_nginxApply :
    (nginxMachine.applyWith none nginxApply).2 = .ok 0 := by
  rw [applyWith, checked_nginxApply]
  rfl

/-- Nothing fails, and the removal of the snippet fails afterwards. -/
theorem appliesAtomically_and_rollsBack_iff_nginx :
    (nginxMachine.AppliesAtomically none nginxApply ↔
        ¬nginxMachine.LeavesBehind none nginxApply) ∧
      (RollsBack nginxMachine (nginxMachine.applyWith none nginxApply).1
          (some .removeFile) true none ↔
        TurnedAway true none ∨
          ∀ step, some RollbackFault.removeFile = some step →
            ¬step.Spoils (nginxMachine.files Layout.nginx.file).isSome) :=
  have hboth := appliesAtomically_and_rollsBack_iff none nginxApply
    (m := nginxMachine) rfl
  ⟨hboth.1, hboth.2 _ _ _ checked_nginxApply ok_nginxApply _ _ _⟩

/-- The disk is full when the snippet is written: a part of it stays. -/
theorem not_appliesAtomically_fullDisk :
    ¬nginxMachine.AppliesAtomically (some (.write "# Gen")) nginxApply := by
  rw [appliesAtomically_iff _ _ rfl, not_not]
  exact ⟨rfl, .nginx, "/darcbench/", .nginx, .write "# Gen",
    checked_nginxApply, by decide, rfl, rfl⟩

end Machine

end Darcbench
