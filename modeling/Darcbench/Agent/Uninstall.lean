import Darcbench.Agent.Proxy

/-!
# Undoing what lies outside the state directory

A receipt is what makes the snippet of the reverse proxy reversible, and it
lies in the directory that an uninstall removes.  A sequence of commands keeps
everything undoable exactly when no uninstall is confirmed while there is a
receipt.
-/

namespace Darcbench

namespace Receipt

/-- The files with what was in the way of the snippet moved aside. -/
def displace (receipt : Receipt) (before : Files) : Files :=
  match receipt.backup with
  | some backup => before.rename receipt.file backup
  | none => before

/-- The files are those of before with the snippet of the receipt installed. -/
structure Installed (receipt : Receipt) (before files : Files) : Prop where
  /-- A file was displaced exactly if there was one, to a free path. -/
  displaced : match receipt.backup with
    | some backup => receipt.file ≠ backup ∧ before backup = none ∧
        before receipt.file ≠ none
    | none => before receipt.file = none
  written : ∃ body, files = (receipt.displace before).write receipt.file body

variable {receipt : Receipt} {before files : Files}

theorem displace_of_none (h : receipt.backup = none) :
    receipt.displace before = before := by
  rw [displace, h]

theorem displace_of_some {backup : String} (h : receipt.backup = some backup) :
    receipt.displace before = before.rename receipt.file backup := by
  rw [displace, h]

/-- The path of the snippet is free while it is not written. -/
theorem Installed.displace_file (h : receipt.Installed before files) :
    receipt.displace before receipt.file = none := by
  have hdisplaced := h.displaced
  cases hbackup : receipt.backup with
  | none =>
      rw [hbackup] at hdisplaced
      rwa [displace_of_none hbackup]
  | some backup =>
      rw [hbackup] at hdisplaced
      rw [displace_of_some hbackup]
      exact Files.rename_source before hdisplaced.1

/-- Undoing an installed snippet leaves the files as they were. -/
theorem Installed.undoFiles (h : receipt.Installed before files) :
    undoFiles files receipt.file receipt.backup = before := by
  obtain ⟨body, hwritten⟩ := h.written
  have hdisplaced := h.displaced
  rw [Darcbench.undoFiles, hwritten,
    Files.removeFile_write _ h.displace_file]
  cases hbackup : receipt.backup with
  | none => exact displace_of_none hbackup
  | some backup =>
      rw [hbackup] at hdisplaced
      rw [displace_of_some hbackup]
      exact Files.rename_rename before hdisplaced.2.1

/-- The receipt names every path at which there is something else than
before. -/
theorem Installed.named (h : receipt.Installed before files) {path : String}
    (hpath : files path ≠ before path) :
    path = receipt.file ∨ receipt.backup = some path := by
  by_contra hnot
  obtain ⟨hfile, hbackup⟩ := not_or.mp hnot
  obtain ⟨body, hwritten⟩ := h.written
  refine hpath ?_
  rw [hwritten, Files.write_of_ne _ hfile]
  cases hsome : receipt.backup with
  | none => rw [displace_of_none hsome]
  | some backup =>
      have hne : path ≠ backup := by
        intro heq
        exact hbackup (heq ▸ hsome)
      rw [displace_of_some hsome]
      exact Files.rename_of_ne before hfile hne

/-- An installed snippet shows. -/
theorem Installed.ne (h : receipt.Installed before files) :
    files ≠ before := by
  intro hsame
  obtain ⟨body, hwritten⟩ := h.written
  have hdisplaced := h.displaced
  have hfile : files receipt.file = some (.file body) := by
    rw [hwritten, Files.write_self]
  cases hbackup : receipt.backup with
  | none =>
      rw [hbackup] at hdisplaced
      rw [hsame, hdisplaced] at hfile
      exact Option.some_ne_none _ hfile.symm
  | some backup =>
      rw [hbackup] at hdisplaced
      obtain ⟨hne, hfree, hsome⟩ := hdisplaced
      obtain ⟨entry, hentry⟩ := Option.ne_none_iff_exists'.mp hsome
      have haside : files backup = some entry := by
        rw [hwritten, Files.write_of_ne _ hne.symm, displace_of_some hbackup]
        exact Files.rename_target before hentry
      rw [hsame, hfree] at haside
      exact Option.some_ne_none _ haside.symm

end Receipt

namespace Machine

/-! ## What must be undoable -/

/-- There is a receipt in the state directory. -/
def Recorded (m : Machine) : Prop :=
  ∃ receipt, m.receiptFile = some (.receipt receipt)

/-- Whatever is not as it was before is named by a receipt in the state
directory, and a confirmed and forced rollback puts it right. -/
def Undoable (before : Files) (m : Machine) : Prop :=
  m.files ≠ before →
    ∃ receipt, m.receiptFile = some (.receipt receipt) ∧
      (∀ path, m.files path ≠ before path →
        path = receipt.file ∨ receipt.backup = some path) ∧
      ∀ reference, (m.rollback true true reference).1.files = before

/-- A command that is issued with care: an uninstall is confirmed only when
there is no receipt. -/
def Careful (m : Machine) (command : Command) : Prop :=
  command = .uninstall true → ¬m.Recorded

/-- Either nothing outside the state directory has changed, or a receipt is
there and the snippet that it describes is all that has changed. -/
inductive Invariant (before : Files) (m : Machine) : Prop
  | untouched (hreceipt : ¬m.Recorded) (hfiles : m.files = before)
  | applied (receipt : Receipt)
      (hreceipt : m.receiptFile = some (.receipt receipt))
      (hinstalled : receipt.Installed before m.files)

variable {before : Files} {m : Machine}

theorem not_recorded_of_none (h : m.receiptFile = none) : ¬m.Recorded := by
  rintro ⟨receipt, hreceipt⟩
  rw [h] at hreceipt
  exact Option.some_ne_none _ hreceipt.symm

theorem rollback_forced {receipt : Receipt}
    (h : m.receiptFile = some (.receipt receipt)) (reference : Option String) :
    (m.rollback true true reference).1.files =
      undoFiles m.files receipt.file receipt.backup := by
  rw [rollback, h]
  rfl

theorem Invariant.undoable (h : m.Invariant before) : m.Undoable before := by
  intro hchanged
  cases h with
  | untouched _ hfiles => exact absurd hfiles hchanged
  | applied receipt hreceipt hinstalled =>
      refine ⟨receipt, hreceipt, fun _ => hinstalled.named, ?_⟩
      intro reference
      rw [rollback_forced hreceipt, hinstalled.undoFiles]

/-- Without a receipt, what is undoable has nothing to undo. -/
theorem Undoable.files_eq (h : m.Undoable before)
    (hreceipt : ¬m.Recorded) :
    m.files = before := by
  by_contra hchanged
  obtain ⟨receipt, hsome, -⟩ := h hchanged
  exact hreceipt ⟨receipt, hsome⟩

/-! ## What a step preserves -/

end Machine

theorem Layout.file_ne_backup (layout : Layout) :
    layout.file ≠ layout.backup := by
  intro h
  have hlength := congrArg String.length h
  rw [backup, String.length_append] at hlength
  exact absurd hlength (by simp [backupSuffix])

namespace Machine

variable {before : Files} {m : Machine} {args : ApplyArgs}

/-- A snippet that is written to a machine without one is installed. -/
theorem installed_write {layout : Layout} (files : Files) (body : String)
    {receipt : Receipt} (hfile : receipt.file = layout.file)
    (hbackup : receipt.backup = layout.displaced files)
    (hfree : ¬((files layout.file).isSome ∧ (files layout.backup).isSome)) :
    receipt.Installed files
      ((layout.moveAside files).write layout.file body) := by
  have haside : receipt.displace files = layout.moveAside files := by
    rw [Receipt.displace, hbackup, hfile, Layout.displaced, Layout.moveAside]
    split_ifs <;> rfl
  refine ⟨?_, body, by rw [haside, hfile]⟩
  rw [hbackup, hfile, Layout.displaced]
  by_cases hsome : (files layout.file).isSome
  · rw [if_pos hsome]
    have hnone : files layout.backup = none :=
      Option.not_isSome_iff_eq_none.mp fun h => hfree ⟨hsome, h⟩
    exact ⟨layout.file_ne_backup, hnone,
      Option.isSome_iff_ne_none.mp hsome⟩
  · rw [if_neg hsome]
    exact Option.not_isSome_iff_eq_none.mp hsome

/-- Everything an installation can do if the file can be written: it leaves the
files as they were and no receipt, or it installs a snippet under a receipt. -/
theorem install_cases (server : Server) (location : String) (layout : Layout)
    (hreceipt : m.receiptFile = none)
    (hfree : ¬((m.files layout.file).isSome ∧ (m.files layout.backup).isSome))
    (hconfig : args.host.configError = none) :
    (m.install args server location layout).1.Invariant m.files := by
  have hinstalled :
      (args.receipt m.files server location layout).Installed m.files _ :=
    installed_write m.files (generate layout args.port location) rfl rfl hfree
  rw [install, hconfig]
  dsimp only
  cases args.host.receiptError with
  | some _ =>
      exact .untouched (not_recorded_of_none hreceipt) hinstalled.undoFiles
  | none =>
      cases validateSnippet args.host layout with
      | failed _ _ =>
          exact .untouched (not_recorded_of_none rfl) hinstalled.undoFiles
      | passed _ _ => exact .applied _ rfl hinstalled
      | unavailable _ => exact .applied _ rfl hinstalled

/-- An apply changes nothing, or it installs a snippet on a machine without a
receipt. -/
theorem apply_cases (m : Machine) (args : ApplyArgs) :
    (m.apply args).1 = m ∨
      m.receiptFile = none ∧ ∃ server location layout,
        ¬((m.files layout.file).isSome ∧ (m.files layout.backup).isSome) ∧
          m.apply args = m.install args server location layout := by
  rw [apply]
  split
  · exact .inl rfl
  · rename_i server location layout _
    split_ifs with _ hreceipt hfree
    · exact .inl rfl
    · exact .inl rfl
    · exact .inl rfl
    · exact .inr ⟨Option.not_isSome_iff_eq_none.mp hreceipt, server, location,
        layout, hfree, rfl⟩

/-- A rollback changes nothing, or it undoes the files of a receipt and removes
it. -/
theorem rollback_cases (m : Machine) (confirm force : Bool)
    (reference : Option String) :
    (m.rollback confirm force reference).1 = m ∨
      ∃ receipt, m.receiptFile = some (.receipt receipt) ∧
        (m.rollback confirm force reference).1 =
          { m with
            files := undoFiles m.files receipt.file receipt.backup
            stateDir := some ⟨none⟩ } := by
  rw [rollback]
  split
  · exact .inl rfl
  · exact .inl rfl
  · rename_i receipt hreceipt
    split_ifs
    · exact .inl rfl
    · exact .inl rfl
    · exact .inr ⟨receipt, hreceipt, rfl⟩

/-- The snippet of an apply can be written in full. -/
def NoWriteError (command : Command) : Prop :=
  ∀ args, command = .apply args → args.host.configError = none

theorem Invariant.step (h : m.Invariant before) {command : Command}
    (hio : NoWriteError command) (hcareful : m.Careful command) :
    (m.step command).Invariant before := by
  cases command with
  | apply args =>
      change (m.apply args).1.Invariant before
      rcases m.apply_cases args with hsame | ⟨hnone, server, location, layout,
        hfree, happly⟩
      · rwa [hsame]
      · cases h with
        | untouched _ hfiles =>
            rw [happly, ← hfiles]
            exact install_cases server location layout hnone hfree
              (hio args rfl)
        | applied receipt hreceipt _ =>
            exact absurd ⟨receipt, hreceipt⟩ (not_recorded_of_none hnone)
  | rollback confirm force reference =>
      change (m.rollback confirm force reference).1.Invariant before
      rcases m.rollback_cases confirm force reference with
        hsame | ⟨receipt, hreceipt, hundone⟩
      · rwa [hsame]
      · rw [hundone]
        cases h with
        | untouched hnone _ => exact absurd ⟨receipt, hreceipt⟩ hnone
        | applied receipt' hreceipt' hinstalled =>
            rw [hreceipt'] at hreceipt
            injection hreceipt with hreceipt
            injection hreceipt with hreceipt
            subst hreceipt
            exact .untouched (not_recorded_of_none rfl) hinstalled.undoFiles
  | uninstall confirm =>
      cases confirm with
      | false => exact h
      | true =>
          cases h with
          | untouched _ hfiles =>
              exact .untouched (not_recorded_of_none rfl) hfiles
          | applied receipt hreceipt _ =>
              exact absurd ⟨receipt, hreceipt⟩ (hcareful rfl)

/-- An uninstall without care leaves something behind that nothing can undo. -/
theorem Invariant.not_undoable_uninstall (h : m.Invariant before)
    (hreceipt : m.Recorded) :
    ¬(m.step (.uninstall true)).Undoable before := by
  intro hundoable
  have hfiles : m.files = before :=
    hundoable.files_eq (not_recorded_of_none rfl)
  cases h with
  | untouched hnone _ => exact hnone hreceipt
  | applied receipt _ hinstalled => exact hinstalled.ne hfiles

/-! ## Runs -/

/-- In every state of a run, everything is undoable, and after an uninstall
there is nothing to undo. -/
def KeepsUndoable (m : Machine) (commands : List Command) : Prop :=
  ∀ earlier, earlier <+: commands →
    (m.run earlier).Undoable m.files ∧
      ∀ rest, earlier = rest ++ [.uninstall true] →
        (m.run earlier).files = m.files

/-- Every command of a run is issued with care. -/
def CarefulRun (m : Machine) (commands : List Command) : Prop :=
  ∀ earlier command, earlier ++ [command] <+: commands →
    (m.run earlier).Careful command

/-- The invariant holds in every state of a run whose commands are issued with
care as far as they have gone. -/
theorem invariant_run (hfresh : ¬m.Recorded) {commands : List Command}
    (hio : ∀ command ∈ commands, NoWriteError command)
    (hcareful : ∀ earlier command, earlier ++ [command] <+: commands →
      (m.run earlier).Invariant m.files → (m.run earlier).Careful command)
    {earlier : List Command} (hearlier : earlier <+: commands) :
    (m.run earlier).Invariant m.files := by
  induction earlier using List.reverseRecOn with
  | nil => exact .untouched hfresh rfl
  | append_singleton earlier command ih =>
      have hinvariant := ih ((List.prefix_append _ _).trans hearlier)
      have hmem : command ∈ commands := hearlier.subset (by simp)
      rw [run_concat]
      exact hinvariant.step (hio command hmem)
        (hcareful earlier command hearlier hinvariant)

/-- A run keeps everything outside the state directory undoable if and only if
no uninstall is confirmed in it while there is a receipt. -/
theorem keepsUndoable_iff (m : Machine) (hfresh : ¬m.Recorded)
    (commands : List Command)
    (hio : ∀ command ∈ commands, NoWriteError command) :
    m.KeepsUndoable commands ↔ m.CarefulRun commands := by
  constructor
  · intro hkeeps earlier command hstep
    have hcareful : ∀ earlier command, earlier ++ [command] <+: commands →
        (m.run earlier).Invariant m.files →
          (m.run earlier).Careful command := by
      rintro earlier command hstep hinvariant rfl hreceipt
      have hundoable := (hkeeps _ hstep).1
      rw [run_concat] at hundoable
      exact hinvariant.not_undoable_uninstall hreceipt hundoable
    exact hcareful earlier command hstep (invariant_run hfresh hio hcareful
      ((List.prefix_append _ _).trans hstep))
  · intro hcareful earlier hearlier
    have hinvariant := invariant_run hfresh hio
      (fun earlier command hstep _ => hcareful earlier command hstep) hearlier
    refine ⟨hinvariant.undoable, ?_⟩
    rintro rest rfl
    have hnone :
        (m.run (rest ++ [.uninstall true])).receiptFile = none := by
      rw [run_concat]
      rfl
    exact hinvariant.undoable.files_eq (not_recorded_of_none hnone)

/-! ## An uninstall after an apply -/

/-- A machine with nginx on which there is no state directory yet. -/
def nginxMachine : Machine where
  files path :=
    if path = Layout.nginx.marker then some (.file "events \x7b\x7d\n")
    else none
  root := "/var/lib/darcbench"
  stateDir := none

def nginxApply : ApplyArgs where
  server := "nginx"
  port := 7842
  location := "/darcbench/"
  confirm := true
  host :=
    { panels := []
      isDir path := path = Layout.nginx.configRoot
      now := "2026-01-01T00:00:00+00:00"
      nginxCheck := .passed "/usr/sbin/nginx" "syntax is ok"
      configError := none
      receiptError := none }

theorem checked_nginxApply :
    nginxApply.checked nginxMachine.files =
      .ok (.nginx, "/darcbench/", .nginx) := by
  rfl

theorem apply_nginxApply :
    nginxMachine.apply nginxApply =
      nginxMachine.install nginxApply .nginx "/darcbench/" .nginx := by
  rw [apply, checked_nginxApply]
  rfl

theorem noWriteError_nginxApply : NoWriteError (.apply nginxApply) := by
  rintro args ⟨⟩
  rfl

theorem invariant_nginxApply :
    (nginxMachine.step (.apply nginxApply)).Invariant nginxMachine.files :=
  Invariant.step (.untouched (not_recorded_of_none rfl) rfl)
    noWriteError_nginxApply nofun

/-- The snippet is applied, rolled back and the agent uninstalled. -/
theorem keepsUndoable_iff_nginx :
    nginxMachine.KeepsUndoable
        [.apply nginxApply, .rollback true true none, .uninstall true] ↔
      nginxMachine.CarefulRun
        [.apply nginxApply, .rollback true true none, .uninstall true] := by
  refine keepsUndoable_iff nginxMachine (not_recorded_of_none rfl) _ ?_
  intro command hcommand
  rcases List.mem_cons.mp hcommand with rfl | hcommand
  · exact noWriteError_nginxApply
  · rintro args rfl
    exact absurd hcommand (by simp)

/-- The snippet is applied and the agent uninstalled. -/
theorem not_keepsUndoable_nginx :
    ¬nginxMachine.KeepsUndoable [.apply nginxApply, .uninstall true] := by
  intro hkeeps
  refine invariant_nginxApply.not_undoable_uninstall ?_
    (hkeeps _ List.prefix_rfl).1
  rw [step, apply_nginxApply]
  exact ⟨_, rfl⟩

end Machine

end Darcbench
