import EmojiText.Files.Tree

/-!
# Paths that are refused

A path is refused before any file is looked at if it has the code point zero, or a surrogate that no
byte of a name stands for: `Path.Unusable` says so, and `refusal_is_some_iff` that no other path is.
Every operation on a path that is refused fails for this reason, and on any other path for a fault
of a file, by `FileTree.refuse_eq_error_iff`.
-/

namespace EmojiText

namespace Encoding

/-- A surrogate that no byte of a name stands for. -/
def IsLone (c : CodePoint) : Prop := (c.isSurrogate && !isByteMark c) = true

instance (c : CodePoint) : Decidable (IsLone c) := inferInstanceAs (Decidable (_ = _))

theorem lone_surrogates_from_is_some_iff {position : Nat} {t : Text} :
    (loneSurrogatesFrom? position t).isSome = true ↔ ∃ c ∈ t, IsLone c := by
  induction t generalizing position with
  | nil => simp [loneSurrogatesFrom?]
  | cons c rest ih =>
      simp only [loneSurrogatesFrom?, List.mem_cons, exists_eq_or_imp]
      split
      · rename_i hlone
        exact iff_of_true rfl (.inl hlone)
      · rename_i hlone
        rw [ih, or_iff_right (show ¬ IsLone c from hlone)]

end Encoding

namespace Path

/-- A path that no system takes: it has the code point zero, or a surrogate that no byte stands
for. -/
def Unusable (path : Path) : Prop :=
  path.holdsZero = true ∨ ∃ c ∈ path.text, Encoding.IsLone c

instance (path : Path) : Decidable path.Unusable :=
  @instDecidableOr _ _ _ (List.decidableBEx Encoding.IsLone path.text)

variable {path : Path}

/-- A path is refused exactly if no system takes it. -/
theorem refusal_is_some_iff : path.refusal?.isSome = true ↔ path.Unusable := by
  have hlone : (Encoding.loneSurrogates? path.text).isSome = true
      ↔ ∃ c ∈ path.text, Encoding.IsLone c := Encoding.lone_surrogates_from_is_some_iff
  unfold refusal? Unusable
  rw [← hlone]
  cases Encoding.loneSurrogates? path.text with
  | some surrogates => simp
  | none => simp

end Path

namespace FileTree

variable {α : Type} {path : Path} {outcome : Except FileFault α} {error : FileError}

/-- An operation fails for its path if that is refused, and else for a fault of the file. -/
theorem refuse_eq_error_iff :
    refuse path outcome = .error error ↔ path.refusal? = some error ∨
      path.refusal? = none ∧ ∃ fault, outcome = .error fault ∧ error = .fault fault path := by
  unfold refuse
  cases path.refusal? with
  | some refusal => simp
  | none =>
      cases outcome with
      | ok a =>
          show Except.ok a = .error error ↔ _
          simp
      | error fault =>
          show Except.error (.fault fault path) = .error error ↔ _
          simp [eq_comm]

end FileTree

end EmojiText
