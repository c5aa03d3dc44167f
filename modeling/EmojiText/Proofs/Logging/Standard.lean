import EmojiText.Proofs.Files.Change
import EmojiText.Proofs.Logging.Paths
import EmojiText.Proofs.Logging.SetUp

/-!
# Set-ups with the usual backend

The usual backend opens both log files of a set-up in the directory that its options name. A set-up
succeeds exactly if its options are accepted and its files can be opened, by
`replace_sinks_standard_iff`. The default options are always accepted, so with them only files can
stand in the way, by `replace_sinks_default_iff`.
-/

namespace EmojiText.Logging

open Procedure

variable {options : Options} {session final : Session}

/-! ### The steps -/

/-- What a set-up does to files: it creates its directory and opens its files, given the directory
in which they are. -/
def openLogs (options : Options) (directory : Path) : FileChange Unit := do
  FileChange.makeDirectories options.directoryPath
  openLog (directory.child "emojicore.log")
  openLog (directory.child "errors.log")

/-- The sinks of a set-up, given the level of the console and the directory of the log files. -/
def withSinks (options : Options) (level : Level) (directory : Path) (logbook : Logbook) :
    Logbook :=
  let console := logbook.clear.add (.console options.level) .console level
  let records :=
    console.add (.file options.recordsFile) (.file (directory.child "emojicore.log") []) .debug
  records.add (.file options.errorsFile) (.file (directory.child "errors.log") " | ") .error

theorem is_fixed_records : IsFixed "emojicore.log" := ⟨by decide +kernel, by decide +kernel⟩

theorem is_fixed_errors : IsFixed "errors.log" := ⟨by decide +kernel, by decide +kernel⟩

/-- A file passes its check if its path is a pattern and it is said when the file is renewed and
dropped. -/
theorem check_eq_ok_iff {file : LogFile} :
    file.check = .ok () ↔ (Pattern.ofText file.pattern).fault = none ∧
      checkRotation file.rotation = .ok () ∧ checkRetention file.retention = .ok () := by
  rw [LogFile.check]
  cases (Pattern.ofText file.pattern).fault <;>
    cases checkRotation file.rotation <;> cases checkRetention file.retention <;>
      simp [bind, Except.bind, throw, throwThe, MonadExceptOf.throw]

/-- When a log file is renewed and dropped is said in a way that is understood. -/
structure Scheduled (file : LogFile) : Prop where
  rotation_eq : checkRotation file.rotation = .ok ()
  retention_eq : checkRetention file.retention = .ok ()

/-- A file of a set-up passes its check and has a path exactly if it is said when it is renewed and
dropped, and there is a directory for it. -/
theorem checked_path_eq_ok_iff {file : LogFile} {name : Text} (hfixed : IsFixed name)
    (hpattern : file.pattern = options.pattern name) {moment : Moment} {files : FileTree}
    {path : Path} :
    (file.check >>= fun _ => file.path moment files) = .ok path ↔ Scheduled file ∧
      ∃ directory, options.openedDirectory moment files = .ok directory ∧
        directory.child name = path := by
  have hbind : (file.check >>= fun _ => file.path moment files) = .ok path ↔
      file.check = .ok () ∧ file.path moment files = .ok path := by
    cases file.check <;> simp [bind, Except.bind]
  rw [hbind, check_eq_ok_iff, LogFile.path_eq_ok_iff hfixed hpattern]
  constructor
  · rintro ⟨⟨_, hrotation, hretention⟩, hdirectory⟩
    exact ⟨⟨hrotation, hretention⟩, hdirectory⟩
  · rintro ⟨⟨hrotation, hretention⟩, directory, hdirectory, hpath⟩
    have hfile := (LogFile.path_eq_ok_iff hfixed hpattern).2 ⟨directory, hdirectory, hpath⟩
    have hfault : (Pattern.ofText file.pattern).fault = none := by
      rw [LogFile.path] at hfile
      split at hfile
      · rename_i hexpand
        exact (expand_eq_ok_iff.1 hexpand).1
      · cases hfile
    exact ⟨⟨hfault, hrotation, hretention⟩, directory, hdirectory, hpath⟩

/-- The file of errors is renewed and dropped in a way that is understood. -/
theorem scheduled_errors (options : Options) : Scheduled options.errorsFile where
  rotation_eq := show checkRotation "5 MB" = .ok () by decide +kernel
  retention_eq := show checkRetention "60 days" = .ok () by decide +kernel

/-- Opening a log file leaves the working directory alone. -/
theorem stays_open_log (path : Path) : FileChange.Stays (openLog path) :=
  (FileChange.stays_make_missing _).bind fun _ => FileChange.stays_open_to_append path

/-- Making directories changes nothing about where the log files are. -/
theorem opened_directory_of_made {moment : Moment} {files made : FileTree} {path : Path}
    (h : files.change (FileChange.makeDirectories path) = (.ok (), made)) :
    options.openedDirectory moment made = options.openedDirectory moment files :=
  options.opened_directory_congr ((FileChange.stays_make_directories path).working_directory_eq h)

/-- Opening a log file changes nothing about where they are, so both are in one directory. -/
theorem opened_directory_of_opened {moment : Moment} {files opened : FileTree} {path : Path}
    (h : files.change (openLog path) = (.ok (), opened)) :
    options.openedDirectory moment opened = options.openedDirectory moment files :=
  options.opened_directory_congr ((stays_open_log path).working_directory_eq h)

/-! ### The whole -/

/-- Options with which the log of a session can be set up, with what the set-up comes to: the level
of the console, the directory of the log files, and the files after it. -/
structure Accepts (options : Options) (session : Session) (level : Level) (directory : Path)
    (files : FileTree) : Prop where
  level_eq : Level.ofLabel? options.level = some level
  scheduled : Scheduled options.recordsFile
  directory_eq : options.openedDirectory session.moment session.files = .ok directory
  change_eq : session.files.change (openLogs options directory) = (.ok (), files)

/-- The sinks of a set-up can take the place of those in use exactly if its options are accepted and
its files can be opened. -/
theorem replace_sinks_standard_iff (hbackend : session.backend = .standard) :
    (runIn session (replaceSinks options)).value = (.ok (), final) ↔
      ∃ level directory files, Accepts options session level directory files ∧
        { session with
          files
          logbook := withSinks options level directory session.logbook } = final := by
  simp only [value_replace_sinks_eq_ok_iff, Options.handlers, value_add_cons_eq_ok_iff, hbackend,
    Session.withSurroundings]
  constructor
  · rintro ⟨made, _, hmade, hremoved, console, hconsole, records, hrecords, errors, herrors,
      hfinal⟩
    cases hremoved
    obtain ⟨level, hlevel, rfl⟩ := add_console_eq_ok_iff.1 hconsole
    obtain ⟨path, opened, hpath, hopened, rfl⟩ := add_file_eq_ok_iff.1 hrecords
    obtain ⟨last, files, hlast, hclosed, rfl⟩ := add_file_eq_ok_iff.1 herrors
    cases hfinal
    obtain ⟨hscheduled, directory, hdirectory, rfl⟩ :=
      (checked_path_eq_ok_iff is_fixed_records rfl).1 hpath
    obtain ⟨_, other, hother, rfl⟩ := (checked_path_eq_ok_iff is_fixed_errors rfl).1 hlast
    have hfirst : options.openedDirectory session.moment session.files = .ok directory :=
      (opened_directory_of_made hmade).symm.trans hdirectory
    have hlast := (opened_directory_of_opened hopened).symm.trans hother
    obtain rfl : directory = other := Except.ok.inj (hdirectory.symm.trans hlast)
    refine ⟨level, directory, files, ⟨hlevel, hscheduled, hfirst, ?_⟩, rfl⟩
    simp only [openLogs, FileTree.change_bind_eq_ok_iff]
    exact ⟨(), made, hmade, (), opened, hopened, hclosed⟩
  · rintro ⟨level, directory, files, haccepts, rfl⟩
    have hchange := haccepts.change_eq
    simp only [openLogs, FileTree.change_bind_eq_ok_iff] at hchange
    obtain ⟨_, made, hmade, _, opened, hopened, hclosed⟩ := hchange
    have hfirst : options.openedDirectory session.moment made = .ok directory :=
      (opened_directory_of_made hmade).trans haccepts.directory_eq
    have hsecond : options.openedDirectory session.moment opened = .ok directory :=
      (opened_directory_of_opened hopened).trans hfirst
    exact ⟨made, _, hmade, rfl, _, add_console_eq_ok_iff.2 ⟨level, haccepts.level_eq, rfl⟩, _,
      add_file_eq_ok_iff.2 ⟨_, opened, (checked_path_eq_ok_iff is_fixed_records rfl).2
        ⟨haccepts.scheduled, directory, hfirst, rfl⟩, hopened, rfl⟩, _,
      add_file_eq_ok_iff.2 ⟨_, files, (checked_path_eq_ok_iff is_fixed_errors rfl).2
        ⟨scheduled_errors options, directory, hsecond, rfl⟩, hclosed, rfl⟩, rfl⟩

/-! ### The default options -/

/-- The directory of the log files of the default options. -/
def defaultDirectory (files : FileTree) : Path := files.absolute ⟨.workingDirectory, ["logs"]⟩

/-- The log files of the default options can be opened. -/
def OpensDefaultLogs (files : FileTree) : Prop :=
  (files.change (openLogs {} (defaultDirectory files))).1 = .ok ()

instance (files : FileTree) : Decidable (OpensDefaultLogs files) :=
  inferInstanceAs (Decidable (_ = _))

/-- The directory of the default options is no pattern of anything else. -/
theorem opened_directory_default (moment : Moment) (files : FileTree) :
    ({} : Options).openedDirectory moment files = .ok (defaultDirectory files) := by
  have hahead : ({} : Options).ahead = "logs/" := by decide +kernel
  have hliteral : Literal ("logs/" : Text) := by decide +kernel
  have hpath : Path.ofText "logs/" = ⟨.workingDirectory, ["logs"]⟩ := by decide +kernel
  rw [Options.openedDirectory, hahead, expand_of_literal hliteral]
  simp only [Except.map, hpath, defaultDirectory]

/-- Only files can stand in the way of a set-up with the default options. -/
theorem replace_sinks_default_iff (hbackend : session.backend = .standard) :
    (∃ ready, (runIn session (replaceSinks {})).value = (.ok (), ready)) ↔
      OpensDefaultLogs session.files := by
  simp only [replace_sinks_standard_iff hbackend]
  constructor
  · rintro ⟨_, level, directory, files, haccepts, _⟩
    cases haccepts.directory_eq.symm.trans (opened_directory_default _ _)
    exact congrArg Prod.fst haccepts.change_eq
  · intro hopens
    rcases hchange : session.files.change (openLogs {} (defaultDirectory session.files))
      with ⟨outcome, files⟩
    rw [OpensDefaultLogs, hchange] at hopens
    have hscheduled : Scheduled (Options.recordsFile {}) :=
      ⟨by decide +kernel, by decide +kernel⟩
    refine ⟨_, .info, _, files, ⟨by decide +kernel, hscheduled, opened_directory_default _ _, ?_⟩,
      rfl⟩
    rw [hchange]
    exact congrArg (·, files) hopens

end EmojiText.Logging
