import EmojiText.Command
import EmojiText.Proofs.Session.Holdings
import EmojiText.Proofs.ShortCode.Separator
import EmojiText.Proofs.Text.Parts

/-!
# The lines of the input

Without a command the program replaces the short codes of the input line by line. A line feed
separates tokens, so this is replacing them in the whole input: `replaced_lines` says so for lines
with whatever follows them, and `exists_lines` that every text is made in this way. Only a last line
without an end is printed with one. The main statement is `prints_lines_replaced`, over every run
that gets to a loaded engine.
-/

namespace EmojiText

namespace Command

/-- The lines of a text, joined with their ends, and what follows the last end. -/
theorem exists_lines (t : Text) :
    ∃ front last, t = front.flatMap line ++ last ∧ Text.lineFeed ∉ last ∧
      lines t = front ++ if last = [] then [] else [last] := by
  have hne := Text.split_ne_nil Text.lineFeed t
  let front := (t.split Text.lineFeed).dropLast
  let last := (t.split Text.lineFeed).getLast hne
  have hpieces : t.split Text.lineFeed = front ++ [last] :=
    (List.dropLast_append_getLast hne).symm
  refine ⟨front, last, ?_, ?_, ?_⟩
  · calc
      t = Text.join [Text.lineFeed] (t.split Text.lineFeed) := (Text.join_split _ t).symm
      _ = front.flatMap line ++ last := by
        rw [hpieces, Text.join_concat]
        rfl
  · exact Text.not_mem_of_mem_split (List.getLast_mem hne)
  · unfold lines
    rw [hpieces]
    by_cases hlast : last = []
    · simp [hlast]
    · simp [hlast]

/-- Short codes are replaced in lines as in each of them alone. -/
theorem replaced_lines (index : Index) (front : List Text) (last : Text) :
    index.replaced (front.flatMap line ++ last)
      = front.flatMap (fun t => line (index.replaced t)) ++ index.replaced last := by
  induction front with
  | nil => rfl
  | cons first rest ih =>
      have happend : (first :: rest).flatMap line ++ last
          = first ++ Text.lineFeed :: (rest.flatMap line ++ last) := by
        simp [line]
      rw [happend, index.replaced_append_separator (by decide) (by decide), ih]
      simp [line]

/-- The lines of the input are printed with their short codes replaced. -/
theorem value_filter (engine : Engine) (input : Text) :
    (filter engine input).value
      = (lines (Text.unifyLineEnds input)).flatMap fun t =>
          line (engine.published.index.replaced t) := by
  have hmap : ∀ ts : List Text, (ts.mapM engine.replaceShortCodes).value
      = ts.map engine.published.index.replaced := by
    intro ts
    induction ts with
    | nil => rfl
    | cons t rest ih =>
        have hvalue : (engine.replaceShortCodes t).value = engine.published.index.replaced t :=
          Index.value_replace_short_codes _ t
        simp [List.mapM_cons, hvalue, ih]
  rw [filter, Logged.value_bind, Logged.value_pure, hmap, List.flatMap_map]

/-- A text ends with the end of a line exactly if it has lines and nothing follows them. -/
theorem getLast_lines (front : List Text) {last : Text} (hfeed : Text.lineFeed ∉ last) :
    (front.flatMap line ++ last).getLast? = some Text.lineFeed ↔ front ≠ [] ∧ last = [] := by
  rcases List.eq_nil_or_concat' last with rfl | ⟨others, c, rfl⟩
  · rcases List.eq_nil_or_concat' front with rfl | ⟨lines, t, rfl⟩
    · simp
    · simp [line]
  · have hc : c ≠ Text.lineFeed := by
      rintro rfl
      exact hfeed (List.mem_append_right others (List.mem_singleton_self _))
    simp [hc]

/-- The input is printed with its short codes replaced, and its last line with an end. -/
theorem value_filter_eq (engine : Engine) {input text : Text}
    (hinput : Text.unifyLineEnds input = text) :
    (filter engine input).value
      = if text = [] then [] else if text.getLast? = some Text.lineFeed
        then (engine.replaceShortCodes text).value
        else line (engine.replaceShortCodes text).value := by
  have hreplaced : (engine.replaceShortCodes text).value = engine.published.index.replaced text :=
    Index.value_replace_short_codes _ text
  obtain ⟨front, last, htext, hfeed, hlines⟩ := exists_lines text
  rw [value_filter, hinput, hreplaced, hlines]
  generalize engine.published.index = index
  have hwhole := replaced_lines index front last
  have hend := getLast_lines front hfeed
  rw [← htext] at hwhole hend
  by_cases hlast : last = []
  · -- nothing follows the last end, so the lines are the whole text
    subst hlast
    rw [index.replaced_nil, List.append_nil] at hwhole
    rw [List.append_nil] at htext
    rw [if_pos rfl, List.append_nil, ← hwhole]
    by_cases hfront : front = []
    · subst hfront
      rw [htext]
      exact index.replaced_nil
    · have hfeedLast : text.getLast? = some Text.lineFeed := hend.2 ⟨hfront, rfl⟩
      have hne : text ≠ [] := by
        rintro rfl
        cases hfeedLast
      rw [if_neg hne, if_pos hfeedLast]
  · -- the last line has no end, and it is printed with one
    have hne : text ≠ [] := by
      intro hnil
      rw [hnil] at htext
      exact hlast (List.append_eq_nil_iff.1 htext.symm).2
    rw [if_neg hne, if_neg fun h => hlast (hend.1 h).2, if_neg hlast, List.flatMap_append,
      List.flatMap_singleton, hwhole, line, line, List.append_assoc]

end Command

namespace Invocation

/-- What a run does before it looks at its arguments: it gets the configuration, reports the working
directory and gets the engine. -/
def preparation : Procedure (Made Config × Made Engine) := do
  let config ← Session.getConfig
  let directory := (← get).files.workingPath
  let directoryMessage := "📂 Рабочая директория: " ++ directory.text
  Procedure.write [Command.programRecord .info directoryMessage]
  let engine ← Session.getEngine
  return (config, engine)

variable {session ready : Session} {config : Made Config} {engine : Made Engine} {input : Text}

/-- Nothing is made for a run in a session that has a configuration and an engine. -/
theorem preparation_of_made {made : Nat}
    (h : session.holdings = (some config, some engine, made)) :
    (preparation.runIn session).value
      = (.ok (config, engine), (preparation.runIn session).value.2) := by
  simp only [Session.holdings, Prod.mk.injEq] at h
  obtain ⟨hconfig, hengine, _⟩ := h
  simp [preparation, Session.getConfig, Session.getEngine, hconfig, hengine]

/-- A run without arguments that gets to a loaded engine prints the filtered input. -/
theorem outcome_main_of_loaded
    (h : (preparation.runIn session).value = (.ok (config, engine), ready))
    (hloaded : engine.value.isLoaded = true) :
    ((main ⟨[], input⟩).runIn session).value.1
      = .ok ⟨0, (Command.filter engine.value input).value⟩ := by
  simp only [preparation, Procedure.value_bind_eq_ok_iff, Procedure.value_get,
    Procedure.value_write, Procedure.value_pure, Prod.mk.injEq, Except.ok.injEq] at h
  obtain ⟨_, _, hconfig, _, _, ⟨rfl, rfl⟩, _, _, ⟨_, rfl⟩, _, _, hengine, ⟨rfl, rfl⟩, rfl⟩ := h
  simp only [main, Procedure.value_bind, Procedure.value_get, hconfig, hengine, hloaded,
    Bool.not_true, Bool.false_eq_true, if_false, Procedure.value_write, Procedure.value_pure]

/-- The whole program ends as a run does after the log was set up. -/
theorem outcome_script_of_set_up {invocation : Invocation} {outcome : Outcome}
    (hsetup : (Logging.setUpFromConfig.runIn session).value = (.ok (), ready))
    (hmain : (invocation.main.runIn ready).value.1 = .ok outcome) :
    (invocation.script.runIn session).value.1 = .ok outcome := by
  have hrun : (invocation.main.runIn ready).value
      = (.ok outcome, (invocation.main.runIn ready).value.2) := Prod.ext hmain rfl
  simp only [script, Procedure.value_try_catch, Procedure.value_bind, hsetup]
  rw [hrun]

/-- Short codes are replaced on both sides of a code point alone that is no colon and in no short
code. So a run without arguments that gets to a loaded engine prints the whole input with its short
codes replaced, the last line with an end, and so does the whole program once the log is set up. -/
theorem prints_lines_replaced :
    (∀ (index : Index) (a b : Text) (c : CodePoint), c ≠ Token.colon → Token.isCodeUnit c = false →
      (index.replaceShortCodes (a ++ c :: b)).value
        = (index.replaceShortCodes a).value ++ c :: (index.replaceShortCodes b).value) ∧
    ∀ (session ready : Session) (config : Made Config) (engine : Made Engine) (input : Text),
      (preparation.runIn session).value = (.ok (config, engine), ready) →
      engine.value.isLoaded = true →
      let invocation : Invocation := ⟨[], input⟩
      let text := Text.unifyLineEnds input
      let replaced := (engine.value.replaceShortCodes text).value
      let outcome : Outcome := ⟨0, if text = [] then [] else
        if text.getLast? = some Text.lineFeed then replaced else replaced ++ [Text.lineFeed]⟩
      (invocation.main.runIn session).value.1 = .ok outcome ∧
      ∀ start, (Logging.setUpFromConfig.runIn start).value = (.ok (), session) →
        (invocation.script.runIn start).value.1 = .ok outcome := by
  refine ⟨?_, ?_⟩
  · intro index a b c hcolon hunit
    simp only [Index.value_replace_short_codes]
    exact index.replaced_append_separator hcolon hunit a b
  · intro session ready config engine input hprepared hloaded invocation text replaced outcome
    have hmain : (invocation.main.runIn session).value.1 = .ok outcome := by
      rw [outcome_main_of_loaded hprepared hloaded, Command.value_filter_eq engine.value rfl]
      rfl
    exact ⟨hmain, fun start hsetup => outcome_script_of_set_up hsetup hmain⟩

/-- Two lines, the second without an end, in a session with an engine that knows two short codes. -/
theorem prints_lines_replaced_of_two_lines :
    let record : Record := ⟨["a", "b"], "1F600", [0x1F600], none, ∅⟩
    let config : Made Config := ⟨0, {}⟩
    let engine : Made Engine := ⟨1, ⟨{}, ⟨(Index.build [record]).value, #[], .twitter⟩, true, none⟩⟩
    let start : Session := {
      environment := ∅, files := .empty [], config := some config, engine := some engine
      made := 2, moment := { seconds := 0 } }
    let session := (Logging.setUpFromConfig.runIn start).value.2
    let input : Text := ":a:b\r\n:b::c:"
    let outcome : Outcome := ⟨0, "😀b\n😀:c:\n"⟩
    ((Logging.setUpFromConfig.runIn start).value = (.ok (), session) ∧
      engine.value.isLoaded = true ∧ Text.lineFeed ≠ Token.colon ∧
      Token.isCodeUnit Text.lineFeed = false) ∧
    (engine.value.published.index.replaceShortCodes ":a:b\n:b::c:").value = "😀b\n😀:c:" ∧
    ((main ⟨[], input⟩).runIn session).value.1 = .ok outcome ∧
      ((script ⟨[], input⟩).runIn start).value.1 = .ok outcome := by
  intro record config engine start session input outcome
  have hsetup : (Logging.setUpFromConfig.runIn start).value = (.ok (), session) := by
    have hvalue : ∀ value : Except Failure Unit × Session,
        value.1.isOk = true → value = (.ok (), value.2) := by
      rintro ⟨_ | _, following⟩ hok
      · cases hok
      · rfl
    exact hvalue _ (by decide +kernel)
  have hholdings : session.holdings = (some config, some engine, 2) :=
    Logging.holdings_set_up_from_config rfl
  have hcolon : Text.lineFeed ≠ Token.colon := by decide
  have hunit : Token.isCodeUnit Text.lineFeed = false := by decide
  obtain ⟨hlocal, hprints⟩ := prints_lines_replaced
  have hreplaced := hlocal engine.value.published.index ":a:b" ":b::c:" _ hcolon hunit
  have hfront : (engine.value.published.index.replaceShortCodes ":a:b").value = "😀b" := by
    decide +kernel
  have hbehind : (engine.value.published.index.replaceShortCodes ":b::c:").value = "😀:c:" := by
    decide +kernel
  rw [hfront, hbehind] at hreplaced
  obtain ⟨hmain, hscript⟩ := hprints session _ config engine input
    (preparation_of_made hholdings) rfl
  refine ⟨⟨hsetup, rfl, hcolon, hunit⟩, hreplaced, hmain.trans ?_, (hscript start hsetup).trans ?_⟩
  · exact congrArg Except.ok (by decide +kernel)
  · exact congrArg Except.ok (by decide +kernel)

end Invocation

end EmojiText
