import EmojiText.Files.Tree
import EmojiText.Proofs.Text.Parts

/-!
# Names at the end of a path

A plain name behind a slash is one more name of the path, by `of_text_append`. It stays at the end
where the path is taken from the root, by `FileTree.absolute_child`, whatever other names the path
has.
-/

namespace EmojiText

namespace Path

/-- A text behind which one more name can stand: it is empty, or a slash ends it. -/
def Closed (t : Text) : Prop := t = [] ∨ ∃ front, t = front ++ [slash]

/-- A name that stands for itself in a path: it names something, not the parent, and it has no
slash. -/
def IsPlain (name : Text) : Prop := isName name ∧ name ≠ parentName ∧ slash ∉ name

instance (name : Text) : Decidable (IsPlain name) :=
  inferInstanceAs (Decidable (isName name ∧ name ≠ parentName ∧ slash ∉ name))

variable {name t : Text}

/-- A name without a slash adds none at the start of a text. -/
theorem take_while_slash_append (hname : IsPlain name) :
    (t ++ name).takeWhile (· = slash) = t.takeWhile (· = slash) := by
  have hnone : name.takeWhile (· = slash) = [] := by
    rw [List.takeWhile_eq_nil_iff]
    intro hlength
    have hne : name[0] ≠ slash := fun h => hname.2.2 (h ▸ List.getElem_mem hlength)
    simpa using hne
  rw [List.takeWhile_append, hnone, List.append_nil]
  split
  · rename_i hall
    exact ((List.takeWhile_prefix _).eq_of_length hall).symm
  · rfl

/-- Behind a closed text a plain name is one more name of the path. -/
theorem of_text_append (hclosed : Closed t) (hname : IsPlain name) :
    ofText (t ++ name) = (ofText t).child name := by
  have hsplit : name.split slash = [name] := Text.split_of_not_mem hname.2.2
  have hempty : isName [] = false := rfl
  have hnames : ((t ++ name).split slash).filter isName
      = (t.split slash).filter isName ++ [name] := by
    rcases hclosed with rfl | ⟨front, rfl⟩
    · simp [hsplit, hname.1, Text.split, hempty]
    · rw [List.append_assoc, List.singleton_append, Text.split_append_separator,
        Text.split_append_separator, hsplit]
      simp [hname.1, Text.split, hempty]
  rw [ofText, take_while_slash_append hname, hnames]
  rfl

/-- A name that is not the one of the parent stays at the end of a path. -/
theorem collapsed_child (path : Path) (h : name ≠ parentName) :
    (path.child name).collapsed = path.collapsed.child name := by
  simp [collapsed, child, collapseName, h]

end Path

namespace FileTree

/-- In one working directory a path leads to one place. -/
theorem absolute_congr {files other : FileTree}
    (h : files.workingDirectory = other.workingDirectory) (path : Path) :
    files.absolute path = other.absolute path := by
  simp only [absolute, h]

/-- A plain name stays at the end of a path that is taken from the root. -/
theorem absolute_child (files : FileTree) (path : Path) {name : Text}
    (h : name ≠ Path.parentName) :
    files.absolute (path.child name) = (files.absolute path).child name := by
  obtain ⟨base, names⟩ := path
  cases base with
  | workingDirectory =>
      have hcollapsed := Path.collapsed_child ⟨.root, files.workingDirectory ++ names⟩ h
      simpa [absolute, Path.child] using hcollapsed
  | root => exact Path.collapsed_child ⟨.root, names⟩ h
  | secondRoot => exact Path.collapsed_child ⟨.secondRoot, names⟩ h

end FileTree

end EmojiText
