import EmojiText.Text.Basic

/-!
Log records, and computations that write them.

A computation of type `Logged α` has a value and the records it wrote, in their order; `Attempt ε α`
may also fail with an `ε`, and what it wrote before stays written. `Logged.log_bind` says that a
sequence writes the records of its parts one after the other, `Attempt.outcome_bind` that it fails
with the first part that fails.
-/

namespace EmojiText

/-- The levels of log records. -/
inductive Level where
  | trace
  | debug
  | info
  | success
  | warning
  | error
  | critical
deriving DecidableEq, Repr

namespace Level

/-- All levels, the least severe one first. -/
def all : List Level := [trace, debug, info, success, warning, error, critical]

/-- The severity of a level. -/
def severity : Level → Nat
  | trace => 5
  | debug => 10
  | info => 20
  | success => 25
  | warning => 30
  | error => 40
  | critical => 50

/-- The name of a level. -/
def label : Level → Text
  | trace => "TRACE"
  | debug => "DEBUG"
  | info => "INFO"
  | success => "SUCCESS"
  | warning => "WARNING"
  | error => "ERROR"
  | critical => "CRITICAL"

/-- The level with the given name, letter by letter. -/
def ofLabel? (name : Text) : Option Level := all.find? (·.label = name)

end Level

/-- One message with its level and the name of the part of the program that wrote it, if it gave
one. -/
structure LogRecord where
  level : Level
  origin : Option Text
  message : Text
deriving DecidableEq, Repr

/-- A value and the log records written on the way to it. -/
structure Logged (α : Type) where
  value : α
  log : List LogRecord
deriving Repr

namespace Logged

variable {α β : Type}

instance : Monad Logged where
  map f step := ⟨f step.value, step.log⟩
  pure value := ⟨value, []⟩
  bind step next :=
    let rest := next step.value
    ⟨rest.value, step.log ++ rest.log⟩

/-- Writes records. -/
def write (records : List LogRecord) : Logged Unit := ⟨(), records⟩

/-- Writes one record. -/
def record (level : Level) (origin message : Text) : Logged Unit :=
  write [⟨level, some origin, message⟩]

@[simp] theorem value_pure (a : α) : (pure a : Logged α).value = a := rfl

@[simp] theorem log_pure (a : α) : (pure a : Logged α).log = [] := rfl

@[simp] theorem value_bind (step : Logged α) (next : α → Logged β) :
    (step >>= next).value = (next step.value).value := rfl

@[simp] theorem log_bind (step : Logged α) (next : α → Logged β) :
    (step >>= next).log = step.log ++ (next step.value).log := rfl

@[simp] theorem value_map (f : α → β) (step : Logged α) : (f <$> step).value = f step.value := rfl

@[simp] theorem log_map (f : α → β) (step : Logged α) : (f <$> step).log = step.log := rfl

@[ext] theorem ext {s t : Logged α} (hvalue : s.value = t.value) (hlog : s.log = t.log) :
    s = t := by
  cases s
  cases t
  simp_all

instance : LawfulMonad Logged :=
  LawfulMonad.mk' Logged
    (fun _ => rfl)
    (fun _ _ => Logged.ext rfl (by simp))
    (fun _ _ _ => Logged.ext rfl (by simp))
    (fun _ _ => rfl)
    (fun _ _ => Logged.ext rfl (by simp [SeqLeft.seqLeft]))
    (fun _ _ => Logged.ext rfl (by simp [SeqRight.seqRight]))
    (fun _ _ => Logged.ext rfl (by simp))

end Logged

/-- A computation that may fail and that writes log records in either case. -/
abbrev Attempt (ε α : Type) : Type := ExceptT ε Logged α

namespace Attempt

variable {ε α : Type}

/-- The outcome of an attempt. -/
def outcome (attempt : Attempt ε α) : Except ε α := (ExceptT.run attempt).value

/-- The records that an attempt wrote. -/
def log (attempt : Attempt ε α) : List LogRecord := (ExceptT.run attempt).log

/-- An attempt that writes nothing. -/
def ofExcept (outcome : Except ε α) : Attempt ε α := ExceptT.mk (pure outcome)

@[simp] theorem outcome_pure (a : α) : outcome (pure a : Attempt ε α) = .ok a := rfl

@[simp] theorem outcome_throw (e : ε) : outcome (throw e : Attempt ε α) = .error e := rfl

@[simp] theorem outcome_lift (step : Logged α) :
    outcome (ExceptT.lift step : Attempt ε α) = .ok step.value := rfl

@[simp] theorem outcome_ofExcept (result : Except ε α) : (ofExcept result).outcome = result := rfl

@[simp] theorem outcome_bind {β : Type} (attempt : Attempt ε α) (next : α → Attempt ε β) :
    outcome (attempt >>= next) = attempt.outcome >>= fun a => (next a).outcome := by
  simp only [outcome, ExceptT.run_bind, Logged.value_bind]
  cases (ExceptT.run attempt).value <;> rfl

end Attempt

end EmojiText
