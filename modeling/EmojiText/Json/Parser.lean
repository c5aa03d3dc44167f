import EmojiText.Json.Value

/-!
Reading JSON texts.

Each reader takes the rest of the text and gives back what it read together with a strictly shorter
rest, so the readers end without a bound on their steps. A failure counts what was left of the text
when it arose; `SyntaxError.at` turns that count into a line, a column and a position.

Beyond the standard, `NaN`, `Infinity` and `-Infinity` are numbers, and an escaped surrogate may
stand alone; an escaped pair is one code point. Integers have at most 4300 digits. Arrays and
objects nest no deeper than there is room: each takes one level of it while it is read. How much
there is depends on the calls around the reader, so it is given; the few levels that a refusal takes
when it is made are not counted.
-/

namespace EmojiText.Json

/-- The reasons to refuse a text. -/
inductive SyntaxFault where
  | value
  | name
  | colon
  | comma
  | unterminatedString
  | controlCharacter
  | escapeSequence
  | unicodeEscape
  | extraData
  | byteOrderMark
deriving DecidableEq, Repr

/-- The wording of a reason. -/
def SyntaxFault.message : SyntaxFault → Text
  | .value => "Expecting value"
  | .name => "Expecting property name enclosed in double quotes"
  | .colon => "Expecting ':' delimiter"
  | .comma => "Expecting ',' delimiter"
  | .unterminatedString => "Unterminated string starting at"
  | .controlCharacter => "Invalid control character at"
  | .escapeSequence => "Invalid \\escape"
  | .unicodeEscape => "Invalid \\uXXXX escape"
  | .extraData => "Extra data"
  | .byteOrderMark => "Unexpected UTF-8 BOM (decode using utf-8-sig)"

/-- A refusal of a text at a place in it. Lines and columns count from one, positions from zero. -/
structure SyntaxError where
  fault : SyntaxFault
  line : Nat
  column : Nat
  position : Nat
deriving DecidableEq, Repr

/-- The refusal at a position of a text. -/
def SyntaxError.at (text : Text) (fault : SyntaxFault) (position : Nat) : SyntaxError :=
  let before := text.take position
  { fault
    line := before.count Text.lineFeed + 1
    column := (before.reverse.takeWhile (· ≠ Text.lineFeed)).length + 1
    position }

/-- The wording of a refusal. -/
def SyntaxError.message (e : SyntaxError) : Text :=
  e.fault.message ++ ": line " ++ Text.ofNat e.line ++ " column " ++ Text.ofNat e.column
    ++ " (char " ++ Text.ofNat e.position ++ ")"

/-- The values that hold others. -/
inductive Container where
  | array
  | object
deriving DecidableEq, Repr

/-- The name of a container in messages. -/
def Container.label : Container → Text
  | .array => "array"
  | .object => "object"

/-- How deep arrays and objects may nest where nothing else is said. -/
def defaultRoom : Nat := 900

/-- Why a reader stopped: a fault with the length of what was left, an integer with more digits than
are read, or a container for which there is no room. -/
inductive Failure where
  | fault (fault : SyntaxFault) (left : Nat)
  | integerTooLong (digits : Nat)
  | tooDeep (container : Container)
deriving DecidableEq, Repr

/-- What is left of a text after something was read from it. -/
abbrev Rest (s : Text) : Type := { rest : Text // rest.length < s.length }

/-- What a reader gives back. -/
abbrev Reading (α : Type) (s : Text) : Type := Except Failure (α × Rest s)

/-- The characters that may stand between tokens. -/
def isSpace (c : CodePoint) : Bool :=
  c.val = 0x20 || c.val = 0x0A || c.val = 0x0D || c.val = 0x09

/-- The text from the first character on that is no space. -/
def skipSpace (s : Text) : { rest : Text // rest.length ≤ s.length } :=
  ⟨s.dropWhile isSpace, (List.dropWhile_suffix isSpace).length_le⟩

/-! ### Strings -/

/-- The number of a `\u` escape, given what follows the `u`: four hexadecimal digits that do not end
the text. -/
def unicodeUnit? : Text → Option (CodePoint × Text)
  | a :: b :: c :: d :: next :: rest =>
    match a.asciiHexDigit?, b.asciiHexDigit?, c.asciiHexDigit?, d.asciiHexDigit? with
    | some a, some b, some c, some d =>
      (CodePoint.ofNat? (Text.valueOfDigits 16 [a, b, c, d])).map (·, next :: rest)
    | _, _, _, _ => none
  | _ => none

theorem length_unicodeUnit? {s rest : Text} {c : CodePoint} (h : unicodeUnit? s = some (c, rest)) :
    rest.length < s.length := by
  unfold unicodeUnit? at h
  split at h
  · split at h
    · simp only [Option.map_eq_some_iff, Prod.mk.injEq] at h
      obtain ⟨_, _, _, rfl⟩ := h
      simp
    · simp at h
  · simp at h

/-- The code point of a surrogate pair. -/
def joinPair (lead trail : CodePoint) : Option CodePoint :=
  if lead.isLeading && trail.isTrailing then
    CodePoint.ofNat? (0x10000 + (lead.val - 0xD800) * 0x400 + (trail.val - 0xDC00))
  else none

/-- The second unit of an escaped pair, if another escape follows and completes the first unit. -/
def pairAfter? (lead : CodePoint) : Text → Option (CodePoint × Text)
  | slash :: u :: rest =>
    if slash.val = 0x5C && u.val = 0x75 then
      match unicodeUnit? rest with
      | some (trail, rest) => (joinPair lead trail).map (·, rest)
      | none => none
    else none
  | _ => none

theorem length_pairAfter? {s rest : Text} {lead c : CodePoint}
    (h : pairAfter? lead s = some (c, rest)) : rest.length < s.length := by
  unfold pairAfter? at h
  split at h
  · split at h
    · split at h
      · rename_i hunit
        simp only [Option.map_eq_some_iff, Prod.mk.injEq] at h
        obtain ⟨_, _, _, rfl⟩ := h
        have hlength := length_unicodeUnit? hunit
        simp only [List.length_cons]
        omega
      · simp at h
    · simp at h
  · simp at h

/-- The character of an escape with a single letter. -/
def simpleEscape? (c : CodePoint) : Option CodePoint :=
  match c.val with
  | 0x22 => some 0x22
  | 0x5C => some 0x5C
  | 0x2F => some 0x2F
  | 0x62 => some 0x08
  | 0x66 => some 0x0C
  | 0x6E => some 0x0A
  | 0x72 => some 0x0D
  | 0x74 => some 0x09
  | _ => none

/-- Reads a string behind its opening quote. `start` is the text from that quote on and `taken`
holds what was read so far, in reverse. -/
def readString (start : Text) (taken : Text) (s : Text) : Reading Text s :=
  match s with
  | [] => .error (.fault .unterminatedString start.length)
  | c :: rest =>
    if c.val = 0x22 then .ok (taken.reverse, ⟨rest, by simp⟩)
    -- control characters have to be escaped
    else if c.val ≤ 0x1F then .error (.fault .controlCharacter (rest.length + 1))
    else if c.val = 0x5C then
      match rest with
      | [] => .error (.fault .unterminatedString start.length)
      | letter :: after =>
        if letter.val = 0x75 then
          match hunit : unicodeUnit? after with
          | none => .error (.fault .unicodeEscape (after.length + 1))
          | some (unit, next) =>
            have hnext := length_unicodeUnit? hunit
            -- two escapes may spell one code point outside the first plane
            match hpair : pairAfter? unit next with
            | some (joined, next') =>
              have hnext' := length_pairAfter? hpair
              match readString start (joined :: taken) next' with
              | .error e => .error e
              | .ok (t, r) => .ok (t, ⟨r.1, by have := r.2; simp only [List.length_cons]; omega⟩)
            | none =>
              match readString start (unit :: taken) next with
              | .error e => .error e
              | .ok (t, r) => .ok (t, ⟨r.1, by have := r.2; simp only [List.length_cons]; omega⟩)
        else
          match simpleEscape? letter with
          | none => .error (.fault .escapeSequence (after.length + 2))
          | some unit =>
            match readString start (unit :: taken) after with
            | .error e => .error e
            | .ok (t, r) => .ok (t, ⟨r.1, by have := r.2; simp only [List.length_cons]; omega⟩)
    else
      match readString start (c :: taken) rest with
      | .error e => .error e
      | .ok (t, r) => .ok (t, ⟨r.1, by have := r.2; simp only [List.length_cons]; omega⟩)
termination_by s.length
decreasing_by all_goals simp only [List.length_cons]; omega

/-! ### Numbers -/

/-- The most digits that an integer may have. -/
def maxIntegerDigits : Nat := 4300

/-- The digits before the point: a zero alone, or digits that start with another one. -/
def wholeDigits (s : Text) : Text × Text :=
  match s with
  | c :: rest => if c.val = 0x30 then ([c], rest) else Binary64.spanDigits s
  | [] => ([], [])

/-- The digits after a point, if there are any; else the point is not part of the number. -/
def fractionDigits (s : Text) : Option (Text × Text) :=
  match s with
  | c :: rest =>
    if c.val = 0x2E && !(Binary64.spanDigits rest).1.isEmpty then some (Binary64.spanDigits rest)
    else none
  | [] => none

theorem length_spanDigits (s : Text) : (Binary64.spanDigits s).2.length ≤ s.length :=
  (List.dropWhile_suffix _).length_le

theorem length_spanDigits_add (s : Text) :
    (Binary64.spanDigits s).1.length + (Binary64.spanDigits s).2.length = s.length := by
  rw [← List.length_append]
  exact congrArg List.length List.takeWhile_append_dropWhile

theorem length_wholeDigits {s : Text} (h : (wholeDigits s).1.isEmpty = false) :
    (wholeDigits s).2.length < s.length := by
  cases s with
  | nil => simp [wholeDigits] at h
  | cons c rest =>
    rw [wholeDigits] at h ⊢
    split
    · simp
    · rename_i hzero
      rw [if_neg hzero] at h
      have hne : (Binary64.spanDigits (c :: rest)).1 ≠ [] := by
        intro hnil
        rw [hnil] at h
        exact absurd h (by decide)
      have hpos := List.length_pos_iff.2 hne
      have hsplit := length_spanDigits_add (c :: rest)
      omega

theorem length_fractionDigits {s places rest : Text} (h : fractionDigits s = some (places, rest)) :
    rest.length ≤ s.length := by
  unfold fractionDigits at h
  split at h
  · rename_i tail
    split at h
    · have hle := length_spanDigits tail
      simp only [Option.some.injEq] at h
      rw [h] at hle
      simp only [List.length_cons] at hle ⊢
      omega
    · simp at h
  · simp at h

/-- The exponent's sign, if there is one, and what follows it. -/
def exponentSign (s : Text) : Text × Text :=
  match s with
  | c :: rest => if c.val = 0x2B || c.val = 0x2D then ([c], rest) else ([], s)
  | [] => ([], [])

theorem length_exponentSign (s : Text) : (exponentSign s).2.length ≤ s.length := by
  cases s with
  | nil => simp [exponentSign]
  | cons c rest =>
    rw [exponentSign]
    split <;> simp

/-- The exponent after its mark, if it has digits; else the mark is not part of the number. -/
def exponentPart (s : Text) : Option (Int × Text) :=
  match s with
  | c :: rest =>
    if c.val = 0x65 || c.val = 0x45 then
      let sign := exponentSign rest
      let digits := Binary64.spanDigits sign.2
      (Binary64.exponent? (sign.1 ++ digits.1)).map (·, digits.2)
    else none
  | [] => none

theorem length_exponentPart {s rest : Text} {n : Int} (h : exponentPart s = some (n, rest)) :
    rest.length ≤ s.length := by
  unfold exponentPart at h
  split at h
  · rename_i c tail
    split at h
    · simp only [Option.map_eq_some_iff, Prod.mk.injEq] at h
      obtain ⟨_, _, _, rfl⟩ := h
      have hdigits := length_spanDigits (exponentSign tail).2
      have hsign := length_exponentSign tail
      simp only [List.length_cons]
      omega
    · simp at h
  · simp at h

/-- What follows an optional part of a number. -/
def afterPart {α : Type} (part : Option (α × Text)) (s : Text) : Text :=
  match part with
  | some (_, rest) => rest
  | none => s

/-- The parts of a number: its digits before the point, those after it, and its exponent. -/
structure NumberParts where
  negative : Bool
  whole : Text
  places : Option Text
  exponent : Option Int

/-- The parts of an unsigned number at the start of a text and what follows them; `none` if there is
no number. -/
def unsignedNumber? (negative : Bool) (s : Text) : Option (NumberParts × Text) :=
  let whole := wholeDigits s
  if whole.1.isEmpty then none
  else
    let fraction := fractionDigits whole.2
    let rest := afterPart fraction whole.2
    let exponent := exponentPart rest
    some (⟨negative, whole.1, fraction.map (·.1), exponent.map (·.1)⟩, afterPart exponent rest)

theorem length_unsignedNumber? {negative : Bool} {s rest : Text} {parts : NumberParts}
    (h : unsignedNumber? negative s = some (parts, rest)) : rest.length < s.length := by
  simp only [unsignedNumber?] at h
  split at h
  · simp at h
  · rename_i hwhole
    simp only [Option.some.injEq, Prod.mk.injEq] at h
    obtain ⟨_, rfl⟩ := h
    refine Nat.lt_of_le_of_lt ?_ (length_wholeDigits (by simpa using hwhole))
    have hfraction : (afterPart (fractionDigits (wholeDigits s).2) (wholeDigits s).2).length
        ≤ (wholeDigits s).2.length := by
      unfold afterPart
      split
      · rename_i hpart
        exact length_fractionDigits hpart
      · exact Nat.le_refl _
    refine Nat.le_trans ?_ hfraction
    generalize afterPart (fractionDigits (wholeDigits s).2) (wholeDigits s).2 = middle
    unfold afterPart
    split
    · rename_i hpart
      exact length_exponentPart hpart
    · exact Nat.le_refl _

/-- The parts of a number at the start of a text and what follows them. -/
def numberParts? (s : Text) : Option (NumberParts × Text) :=
  match s with
  | c :: rest => if c.val = 0x2D then unsignedNumber? true rest else unsignedNumber? false s
  | [] => none

theorem length_numberParts? {s rest : Text} {parts : NumberParts}
    (h : numberParts? s = some (parts, rest)) : rest.length < s.length := by
  unfold numberParts? at h
  split at h
  · split at h
    · have := length_unsignedNumber? h
      simp only [List.length_cons]
      omega
    · exact length_unsignedNumber? h
  · simp at h

/-- The value of a number: an integer if it has neither a fraction nor an exponent. -/
def NumberParts.value (parts : NumberParts) : Except Failure Json :=
  match parts.places, parts.exponent with
  | none, none =>
    if maxIntegerDigits < parts.whole.length then .error (.integerTooLong parts.whole.length)
    else
      let magnitude : Int := (Binary64.digitRun parts.whole).1
      .ok (.int (if parts.negative then -magnitude else magnitude))
  | places, exponent =>
    let places := places.getD []
    let digits := (Binary64.digitRun (parts.whole ++ places)).1
    .ok (.float (.ofDecimal parts.negative digits (exponent.getD 0 - places.length)))

/-- The words that stand for values. -/
def words : List (Text × Json) := [
  ("null", .null), ("true", .bool true), ("false", .bool false), ("NaN", .float .nan),
  ("Infinity", .float (.infinite false)), ("-Infinity", .float (.infinite true))]

theorem words_ne_nil : ∀ word ∈ words, word.1 ≠ [] := by decide

/-- Reads a word or a number. -/
def readScalar (s : Text) : Reading Json s :=
  match hword : words.find? fun word => word.1.isPrefixOf s with
  | some (word, value) => .ok (value, ⟨s.drop word.length, by
      have hne := List.length_pos_iff.2 (words_ne_nil _ (List.mem_of_find?_eq_some hword))
      have hstart : word.isPrefixOf s = true := by simpa using List.find?_some hword
      have hlength := (List.isPrefixOf_iff_prefix.1 hstart).length_le
      simp only at hne
      simp only [List.length_drop]
      omega⟩)
  | none =>
    match hnumber : numberParts? s with
    | none => .error (.fault .value s.length)
    | some (parts, rest) =>
      match parts.value with
      | .error failure => .error failure
      | .ok value => .ok (value, ⟨rest, length_numberParts? hnumber⟩)

/-! ### Arrays, objects and all values -/

mutual

/-- Reads a value, with so much room for those in it. -/
def readValue (room : Nat) (s : Text) : Reading Json s :=
  match s with
  | [] => .error (.fault .value 0)
  | c :: rest =>
    if c.val = 0x22 then
      match readString (c :: rest) [] rest with
      | .error e => .error e
      | .ok (t, r) => .ok (.string t, ⟨r.1, by have := r.2; simp only [List.length_cons]; omega⟩)
    else if c.val = 0x5B then
      match room with
      | 0 => .error (.tooDeep .array)
      | room + 1 =>
        let inside := skipSpace rest
        have hinside := inside.2
        match h : inside.1 with
        | d :: after =>
          if d.val = 0x5D then
            .ok (.array [], ⟨after, by
              rw [h] at hinside; simp only [List.length_cons] at hinside ⊢; omega⟩)
          else
            match readItems room (d :: after) with
            | .error e => .error e
            | .ok (items, r) => .ok (.array items, ⟨r.1, by
                have := r.2; rw [h] at hinside; simp only [List.length_cons] at *; omega⟩)
        | [] => .error (.fault .value 0)
    else if c.val = 0x7B then
      match room with
      | 0 => .error (.tooDeep .object)
      | room + 1 =>
        let inside := skipSpace rest
        have hinside := inside.2
        match h : inside.1 with
        | d :: after =>
          if d.val = 0x7D then
            .ok (.object [], ⟨after, by
              rw [h] at hinside; simp only [List.length_cons] at hinside ⊢; omega⟩)
          else
            match readMembers room (d :: after) with
            | .error e => .error e
            | .ok (members, r) => .ok (.ofMembers members, ⟨r.1, by
                have := r.2; rw [h] at hinside; simp only [List.length_cons] at *; omega⟩)
        | [] => .error (.fault .name 0)
    else readScalar (c :: rest)
termination_by (s.length, 0)
decreasing_by
  all_goals
    rw [h] at hinside
    simp only [List.length_cons] at *
    apply Prod.Lex.left
    omega

/-- Reads the items of an array up to its closing bracket. -/
def readItems (room : Nat) (s : Text) : Reading (List Json) s :=
  match readValue room s with
  | .error e => .error e
  | .ok (item, r) =>
    have hr := r.2
    let after := skipSpace r.1
    have hafter := after.2
    match h : after.1 with
    | c :: rest =>
      if c.val = 0x5D then
        .ok ([item], ⟨rest, by rw [h] at hafter; simp only [List.length_cons] at hafter; omega⟩)
      else if c.val = 0x2C then
        let next := skipSpace rest
        have hnext := next.2
        match readItems room next.1 with
        | .error e => .error e
        | .ok (items, r') => .ok (item :: items, ⟨r'.1, by
            have := r'.2; rw [h] at hafter; simp only [List.length_cons] at hafter; omega⟩)
      else .error (.fault .comma (rest.length + 1))
    | [] => .error (.fault .comma 0)
termination_by (s.length, 1)
decreasing_by
  · exact Prod.Lex.right _ Nat.zero_lt_one
  · rw [h] at hafter
    simp only [List.length_cons] at hafter
    apply Prod.Lex.left
    show next.1.length < s.length
    omega

/-- Reads the members of an object up to its closing brace. -/
def readMembers (room : Nat) (s : Text) : Reading (List (Text × Json)) s :=
  match s with
  | [] => .error (.fault .name 0)
  | quote :: rest =>
    if quote.val = 0x22 then
      match readString (quote :: rest) [] rest with
      | .error e => .error e
      | .ok (name, r) =>
        have hr := r.2
        let colon := skipSpace r.1
        have hcolon := colon.2
        match h : colon.1 with
        | [] => .error (.fault .colon 0)
        | c :: afterColon =>
          if c.val = 0x3A then
            let start := skipSpace afterColon
            have hstart := start.2
            match readValue room start.1 with
            | .error e => .error e
            | .ok (value, r') =>
              have hr' := r'.2
              let after := skipSpace r'.1
              have hafter := after.2
              match h' : after.1 with
              | [] => .error (.fault .comma 0)
              | d :: rest' =>
                if d.val = 0x7D then
                  .ok ([(name, value)], ⟨rest', by
                    rw [h] at hcolon; rw [h'] at hafter
                    simp only [List.length_cons] at *; omega⟩)
                else if d.val = 0x2C then
                  let next := skipSpace rest'
                  have hnext := next.2
                  match readMembers room next.1 with
                  | .error e => .error e
                  | .ok (members, r'') => .ok ((name, value) :: members, ⟨r''.1, by
                      have := r''.2
                      rw [h] at hcolon; rw [h'] at hafter
                      simp only [List.length_cons] at *; omega⟩)
                else .error (.fault .comma (rest'.length + 1))
          else .error (.fault .colon (afterColon.length + 1))
    else .error (.fault .name (rest.length + 1))
termination_by (s.length, 0)
decreasing_by
  · rw [h] at hcolon
    simp only [List.length_cons] at *
    apply Prod.Lex.left
    show start.1.length < rest.length + 1
    omega
  · rw [h] at hcolon
    rw [h'] at hafter
    simp only [List.length_cons] at *
    apply Prod.Lex.left
    show next.1.length < rest.length + 1
    omega

end

/-- Why a text is not read. -/
inductive ReadError where
  | syntaxError (error : SyntaxError)
  | integerTooLong (digits : Nat)
  | tooDeep (container : Container)
deriving DecidableEq, Repr

/-- A failure as an error at its place in the text. -/
def Failure.at (text : Text) : Failure → ReadError
  | .fault reason left => .syntaxError (.at text reason (text.length - left))
  | .integerTooLong digits => .integerTooLong digits
  | .tooDeep container => .tooDeep container

/-- The value of a JSON text, which may have spaces around it and nothing else. -/
def ofText (text : Text) (room : Nat := defaultRoom) : Except ReadError Json :=
  match readValue room (skipSpace text).1 with
  | .error failure => .error (failure.at text)
  | .ok (value, rest) =>
    match (skipSpace rest.1).1 with
    | [] => .ok value
    | extra => .error ((Failure.fault .extraData extra.length).at text)

end EmojiText.Json
