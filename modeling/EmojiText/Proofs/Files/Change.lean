import EmojiText.Files.Change

/-!
# What changes of files leave alone

Creating directories and opening a file does not move the working directory, so paths in it stand
for the same places before and after. `FileChange.Stays` says so of a change, whether it succeeds or
fails, and passes from its steps to the whole.
-/

namespace EmojiText

variable {α β : Type}

namespace FileTree

variable {tree : FileTree}

/-- What is handed out unless a place is guarded is what was asked for. -/
theorem eq_of_unless_guarded {place : Place} {a b : α} (h : tree.unlessGuarded place a = .ok b) :
    a = b := by
  unfold unlessGuarded at h
  split at h
  · cases h
  · exact Except.ok.inj h

@[simp] theorem change_get : tree.change get = (.ok tree, tree) := rfl

/-- After a change that fails nothing else is changed. -/
@[simp] theorem change_bind (change : FileChange α) (next : α → FileChange β) :
    tree.change (change >>= next)
      = match tree.change change with
        | (.ok a, following) => following.change (next a)
        | (.error error, following) => (.error error, following) := by
  simp only [FileTree.change, ExceptT.run_bind, StateT.run_bind]
  rcases (ExceptT.run change).run tree with ⟨outcome, following⟩
  cases outcome <;> rfl

/-- Two changes succeed one after the other if both do. -/
theorem change_bind_eq_ok_iff {change : FileChange α} {next : α → FileChange β} {b : β}
    {final : FileTree} :
    tree.change (change >>= next) = (.ok b, final) ↔
      ∃ a following, tree.change change = (.ok a, following) ∧
        following.change (next a) = (.ok b, final) := by
  rw [change_bind]
  rcases tree.change change with ⟨error | a, following⟩
  · simp
  · constructor
    · intro h
      exact ⟨a, following, rfl, h⟩
    · rintro ⟨_, _, hsame, h⟩
      cases hsame
      exact h

end FileTree

namespace FileChange

/-- A change leaves the working directory alone, even if it fails. -/
def Stays (change : FileChange α) : Prop :=
  ∀ tree : FileTree, (tree.change change).2.workingDirectory = tree.workingDirectory

theorem stays_pure (a : α) : Stays (pure a : FileChange α) := fun _ => rfl

theorem stays_throw (error : FileError) : Stays (throw error : FileChange α) := fun _ => rfl

theorem Stays.working_directory_eq {change : FileChange α} (h : Stays change)
    {tree following : FileTree} {outcome : Except FileError α}
    (hchange : tree.change change = (outcome, following)) :
    following.workingDirectory = tree.workingDirectory := by
  have hstays := h tree
  rwa [hchange] at hstays

/-- Two changes that leave the working directory alone do so one after the other. -/
theorem Stays.bind {change : FileChange α} {next : α → FileChange β} (h : Stays change)
    (hnext : ∀ a, Stays (next a)) : Stays (change >>= next) := by
  intro tree
  have hstays := h tree
  rw [FileTree.change_bind]
  rcases hchange : tree.change change with ⟨error | a, following⟩
  · rw [hchange] at hstays
    exact hstays
  · rw [hchange] at hstays
    exact (hnext a following).trans hstays

theorem working_directory_of_with_directory {tree following : FileTree} {path : Path}
    (h : withDirectory tree path = .ok following) :
    following.workingDirectory = tree.workingDirectory := by
  unfold withDirectory at h
  repeat' split at h
  any_goals cases h
  rw [← FileTree.eq_of_unless_guarded h, FileTree.put]

/-- Creating one directory leaves the working directory alone. -/
theorem stays_make_directory (path : Path) : Stays (makeDirectory path) := by
  intro tree
  unfold makeDirectory
  split
  · rfl
  simp only [FileTree.change_bind, FileTree.change_get]
  cases hmade : withDirectory tree path with
  | ok following => exact working_directory_of_with_directory hmade
  | error fault =>
      dsimp only
      split <;> rfl

/-- Creating a directory from its end on leaves the working directory alone. -/
theorem stays_make_directories (path : Path) : Stays (makeDirectories path) := by
  unfold makeDirectories
  split
  · exact stays_throw _
  induction path.names.reverse with
  | nil => exact stays_pure ()
  | cons name names ih =>
      intro tree
      rw [makeDirectoriesUpTo, FileTree.change_bind, FileTree.change_get]
      dsimp only
      split
      · exact (ih.bind fun _ => stays_make_directory _) tree
      · exact stays_make_directory _ tree

/-- Creating a directory from the root on leaves the working directory alone. -/
theorem stays_make_missing (path : Path) : Stays (makeMissing path) := by
  unfold makeMissing
  induction path.names.reverse with
  | nil => exact stays_pure ()
  | cons name names ih =>
      intro tree
      rw [makeMissingUpTo, FileTree.change_bind, FileTree.change_get]
      dsimp only
      split
      · exact stays_make_directory _ tree
      · exact (ih.bind fun _ => stays_make_directory _) tree

/-- Opening a file leaves the working directory alone. -/
theorem stays_open_to_append (path : Path) : Stays (openToAppend path) := by
  intro tree
  rw [openToAppend, FileTree.change_bind, FileTree.change_get]
  dsimp only
  cases FileTree.refuse path (writable tree path) <;> rfl

end FileChange

end EmojiText
