import EmojiText.Logging.SetUp
import EmojiText.Proofs.Files.Path

/-!
# Where the log files are

The path of a log file is a pattern, and the directory that the options name is a part of it. A text
without braces behind a pattern stands for itself, whatever the pattern is, by
`expand_append_eq_ok_iff`. So all log files of one set-up stand under their own names in one
directory, by `path_eq_ok_iff`, the main statement.
-/

namespace EmojiText.Logging

/-! ### Texts without braces -/

/-- A text without braces, which no pattern can begin or end with. -/
def Literal (t : Text) : Prop := ∀ c ∈ t, c ≠ openingBrace ∧ c ≠ closingBrace

instance (t : Text) : Decidable (Literal t) :=
  List.decidableBAll _ t

variable {front rest : Text} {moment : Moment}

namespace PatternState

variable {state following : PatternState} {c : CodePoint} {pieces : List Piece}

/-- Between fields a code point that is no brace stands for itself. -/
theorem next_between (hopening : c ≠ openingBrace) (hclosing : c ≠ closingBrace) :
    between.next c = .ok ([.code c], between) := by
  simp [next, hopening, hclosing]

/-- Only a brace leads back to what stands between fields. -/
theorem ne_between_of_next (hopening : c ≠ openingBrace) (hclosing : c ≠ closingBrace)
    (hstate : state ≠ between) (h : state.next c = .ok (pieces, following)) :
    following ≠ between := by
  have hname : ∀ read, nextInName read c = .ok (pieces, following) → following ≠ between := by
    intro read h
    simp only [nextInName, hopening, hclosing, if_false] at h
    repeat' split at h
    all_goals
      cases h
      simp
  cases state with
  | between => exact absurd rfl hstate
  | opened =>
      rw [next, if_neg hopening] at h
      exact hname [] h
  | closed => simp [next, hclosing] at h
  | name read => exact hname read h
  | item read =>
      rw [next] at h
      split at h <;> cases h <;> simp
  | mark read =>
      cases h
      simp
  | marked read code =>
      simp only [next, hclosing, if_false] at h
      split at h <;> cases h
      simp
  | format field depth =>
      simp only [next, hopening, hclosing, if_false] at h
      cases h
      simp

/-- A pattern can end between fields only. -/
theorem fault_eq_none_iff : state.fault? = none ↔ state = between := by
  cases state <;> simp [fault?]

end PatternState

namespace Pattern

variable {state : PatternState}

/-- Between fields a text without braces stands for itself. -/
theorem read_from_between (h : Literal rest) :
    readFrom .between rest = ⟨rest.map .code, none⟩ := by
  induction rest with
  | nil => rfl
  | cons c rest ih =>
      obtain ⟨hc, hrest⟩ := List.forall_mem_cons.1 h
      rw [readFrom, PatternState.next_between hc.1 hc.2]
      simp only [ih hrest]
      rfl

/-- A text without braces does not end a field. -/
theorem fault_of_ne_between (h : Literal rest) (hstate : state ≠ .between) :
    (readFrom state rest).fault ≠ none := by
  induction rest generalizing state with
  | nil => exact fun hnone => hstate (PatternState.fault_eq_none_iff.1 hnone)
  | cons c rest ih =>
      obtain ⟨hc, hrest⟩ := List.forall_mem_cons.1 h
      rw [readFrom]
      cases hnext : state.next c with
      | error fault => nofun
      | ok result =>
          exact ih hrest (PatternState.ne_between_of_next hc.1 hc.2 hstate hnext)

/-- A text without braces behind a pattern stands for itself, unless the pattern has a fault. -/
theorem read_from_append (state : PatternState) (front : Text) (h : Literal rest) :
    (readFrom state front).fault = none ∧
        readFrom state (front ++ rest)
          = ⟨(readFrom state front).pieces ++ rest.map .code, none⟩ ∨
      (readFrom state front).fault ≠ none ∧ (readFrom state (front ++ rest)).fault ≠ none := by
  induction front generalizing state with
  | nil =>
      by_cases hstate : state = .between
      · subst hstate
        exact .inl ⟨rfl, read_from_between h⟩
      · exact .inr ⟨fun hnone => hstate (PatternState.fault_eq_none_iff.1 hnone),
          fault_of_ne_between h hstate⟩
  | cons c front ih =>
      rw [List.cons_append, readFrom, readFrom]
      cases hnext : state.next c with
      | error fault => exact .inr ⟨nofun, nofun⟩
      | ok result =>
          obtain ⟨pieces, following⟩ := result
          refine (ih following).imp ?_ id
          rintro ⟨hfault, hread⟩
          refine ⟨hfault, ?_⟩
          simp only [hread, List.append_assoc]

end Pattern

/-! ### Expanded patterns -/

/-- The text of a piece, given how deep its fields may stand. -/
def Piece.expand (moment : Moment) (depth : Nat) : Piece → Except PatternFault Text
  | .code c => .ok [c]
  | .field inner => inner.expand (expandTo moment depth) moment

/-- The text of a pattern whose pieces stand for some texts, unless the pattern has a fault. -/
def Pattern.textOf (pattern : Pattern) (texts : List Text) : Except PatternFault Text :=
  match pattern.fault with
  | some fault => throw fault
  | none => return texts.flatten

theorem expand_eq (moment : Moment) (t : Text) :
    expand moment t
      = (Pattern.ofText t).pieces.mapM (Piece.expand moment 1) >>= (Pattern.ofText t).textOf := by
  rw [expand, maxDepth, expandTo]
  congr

/-- A pattern without a fault expands if all its pieces do, to what they stand for. -/
theorem expand_eq_ok_iff {t text : Text} :
    expand moment t = .ok text ↔ (Pattern.ofText t).fault = none ∧
      ∃ texts, (Pattern.ofText t).pieces.mapM (Piece.expand moment 1) = .ok texts ∧
        texts.flatten = text := by
  rw [expand_eq]
  cases (Pattern.ofText t).pieces.mapM (Piece.expand moment 1) with
  | error fault => simp [bind, Except.bind]
  | ok texts =>
      cases hfault : (Pattern.ofText t).fault <;>
        simp [Pattern.textOf, hfault, bind, Except.bind, pure, Except.pure, throw, throwThe,
          MonadExceptOf.throw]

/-- The pieces of a text without braces stand for itself. -/
theorem map_expand_code (t : Text) :
    (t.map Piece.code).mapM (Piece.expand moment 1) = .ok (t.map fun c => [c]) := by
  induction t with
  | nil => rfl
  | cons c t ih =>
      rw [List.map_cons, List.mapM_cons, ih]
      rfl

/-- A text without braces behind a pattern stands for itself. -/
theorem expand_append_eq_ok_iff (h : Literal rest) {text : Text} :
    expand moment (front ++ rest) = .ok text ↔
      ∃ start, expand moment front = .ok start ∧ start ++ rest = text := by
  have hread := Pattern.read_from_append .between front h
  simp only [expand_eq_ok_iff, Pattern.ofText]
  rcases hread with ⟨hfault, hread⟩ | ⟨hfront, hboth⟩
  · rw [hread, hfault, List.mapM_append, map_expand_code]
    cases (Pattern.readFrom .between front).pieces.mapM (Piece.expand moment 1) with
    | error fault => simp [bind, Except.bind]
    | ok texts =>
        have hrest : (rest.map fun c => [c]).flatten = rest := by
          rw [← List.flatMap_def, List.flatMap_singleton']
        simp [bind, Except.bind, pure, Except.pure, hrest]
  · simp [hfront, hboth]

/-- A text without braces expands to itself. -/
theorem expand_of_literal (h : Literal rest) : expand moment rest = .ok rest := by
  rw [← List.nil_append rest]
  exact (expand_append_eq_ok_iff h).2 ⟨[], rfl, rfl⟩

/-- What a pattern that ends with a slash stands for ends with it, too. -/
theorem closed_of_expand {text : Text} (hclosed : Path.Closed front)
    (h : expand moment front = .ok text) : Path.Closed text := by
  rcases hclosed with rfl | ⟨start, rfl⟩
  · have hnil : expand moment [] = .ok [] := expand_of_literal nofun
    cases h.symm.trans hnil
    exact .inl rfl
  · have hslash : Literal [Path.slash] := by decide +kernel
    obtain ⟨begun, _, rfl⟩ := (expand_append_eq_ok_iff hslash).1 h
    exact .inr ⟨begun, rfl⟩

/-! ### The directory of a set-up -/

namespace Options

variable (options : Options)

/-- The text in front of the names of log files in a pattern. -/
def ahead : Text :=
  Path.rootText options.directoryPath.root
    ++ options.directoryPath.names.flatMap (· ++ [Path.slash])

theorem pattern_eq {name : Text} (hne : name ≠ []) :
    options.pattern name = options.ahead ++ name := by
  have happend : Path.rootText options.directoryPath.root
      ++ Text.join [Path.slash] (options.directoryPath.names ++ [name])
        = options.ahead ++ name := by
    rw [Text.join_concat, ← List.append_assoc, ahead]
  simp only [pattern, Path.child, Path.text, happend]
  split
  · rename_i hnil
    exact absurd (List.append_eq_nil_iff.1 hnil).2 hne
  · rfl

theorem closed_ahead : Path.Closed options.ahead := by
  rw [ahead]
  rcases List.eq_nil_or_concat options.directoryPath.names with hnames | ⟨names, last, hnames⟩
  · rw [hnames]
    cases options.directoryPath.root with
    | workingDirectory => exact .inl rfl
    | root => exact .inr ⟨[], rfl⟩
    | secondRoot => exact .inr ⟨[Path.slash], rfl⟩
  · rw [hnames, List.concat_eq_append, List.flatMap_append, List.flatMap_singleton,
      ← List.append_assoc, ← List.append_assoc]
    exact .inr ⟨_, rfl⟩

/-- The directory in which log files are opened at a moment. -/
def openedDirectory (moment : Moment) (files : FileTree) : Except PatternFault Path :=
  (expand moment options.ahead).map fun text => files.absolute (Path.ofText text)

theorem opened_directory_congr {moment : Moment} {files other : FileTree}
    (h : files.workingDirectory = other.workingDirectory) :
    options.openedDirectory moment files = options.openedDirectory moment other := by
  simp only [openedDirectory, FileTree.absolute_congr h]

end Options

/-- A name that stands for itself, in a path as well as in a pattern. -/
structure IsFixed (name : Text) : Prop where
  plain : Path.IsPlain name
  literal : Literal name

/-- A log file is opened under its name in the directory of its set-up, which is the same for all
files. -/
theorem LogFile.path_eq_ok_iff {file : LogFile} {options : Options} {name : Text}
    (hfixed : IsFixed name) (hpattern : file.pattern = options.pattern name) {files : FileTree}
    {path : Path} :
    file.path moment files = .ok path ↔
      ∃ directory, options.openedDirectory moment files = .ok directory ∧
        directory.child name = path := by
  obtain ⟨hplain, hliteral⟩ := hfixed
  have hne : name ≠ [] := by
    intro hnil
    simp [Path.IsPlain, Path.isName, hnil] at hplain
  rw [LogFile.path, hpattern, options.pattern_eq hne]
  constructor
  · intro h
    split at h
    · rename_i text hexpand
      obtain ⟨start, hstart, rfl⟩ := (expand_append_eq_ok_iff hliteral).1 hexpand
      cases h
      refine ⟨_, by rw [Options.openedDirectory, hstart]; rfl, ?_⟩
      rw [← FileTree.absolute_child _ _ hplain.2.1,
        ← Path.of_text_append (closed_of_expand options.closed_ahead hstart) hplain]
    · cases h
  · rintro ⟨directory, hdirectory, rfl⟩
    rw [Options.openedDirectory] at hdirectory
    cases hstart : expand moment options.ahead with
    | error fault =>
        rw [hstart] at hdirectory
        cases hdirectory
    | ok start =>
        rw [hstart] at hdirectory
        cases hdirectory
        rw [(expand_append_eq_ok_iff hliteral).2 ⟨start, hstart, rfl⟩]
        dsimp only
        rw [Path.of_text_append (closed_of_expand options.closed_ahead hstart) hplain,
          FileTree.absolute_child _ _ hplain.2.1]

end EmojiText.Logging
