import EmojiText.Logging.SetUp
import EmojiText.Proofs.Logging.Backend

/-!
# What a set-up of the log leaves

A set-up that succeeds leaves one sink for each of its handlers and no others, whatever sinks were
in use before, and whatever failed to be added before: `Installed` says so, with numbers that were
not given out when the set-up began. All that is asked of the backend is that it is lawful. The main
statement is `installed_of_set_up`.
-/

namespace EmojiText.Logging

open Procedure

variable {options : Options} {session start final : Session}

/-! ### Sinks one after the other -/

/-- Sinks that were added for some handlers, in their order, since a logbook was as it is. -/
structure AddedFor (handlers : List Handler) (logbook : Logbook) (sinks : List Sink) : Prop where
  handlers_eq : sinks.map Sink.handler = handlers
  added_le : ∀ sink ∈ sinks, logbook.added ≤ sink.number
  ascending : sinks.Pairwise fun first second => first.number < second.number

/-- Sinks are added for handlers exactly if one is added for the first, and then for the others. -/
theorem value_add_cons_eq_ok_iff {handler : Handler} {handlers : List Handler} :
    (runIn session (addAll (handler :: handlers))).value = (.ok (), final) ↔
      ∃ around, session.backend.add handler session.surroundings = (.ok (), around) ∧
        (runIn (session.withSurroundings around) (addAll handlers)).value = (.ok (), final) := by
  rw [addAll, value_bind_eq_ok_iff]
  simp only [value_operate_eq_ok_iff]
  constructor
  · rintro ⟨_, _, ⟨around, hadd, rfl⟩, hrest⟩
    exact ⟨around, hadd, hrest⟩
  · rintro ⟨around, hadd, hrest⟩
    exact ⟨(), _, ⟨around, hadd, rfl⟩, hrest⟩

/-- Additions that succeed add one sink for each handler. -/
theorem added_for_of_add_all {handlers : List Handler} (hlawful : session.backend.Lawful)
    (h : (runIn session (addAll handlers)).value = (.ok (), final)) :
    ∃ sinks, final.logbook.sinks = session.logbook.sinks ++ sinks ∧
      AddedFor handlers session.logbook sinks := by
  induction handlers generalizing session with
  | nil =>
      cases h
      exact ⟨[], (List.append_nil _).symm, rfl, List.forall_mem_nil _, .nil⟩
  | cons handler handlers ih =>
      obtain ⟨around, hadd, hrest⟩ := value_add_cons_eq_ok_iff.1 h
      have hadded := hlawful.added_le_add handler session.surroundings
      rw [hadd] at hadded
      obtain ⟨sink, hhandler, hnumber, hsinks⟩ := hlawful.add_ok hadd
      have hbackend : (session.withSurroundings around).backend.Lawful := hlawful
      obtain ⟨sinks, hfinal, hsame, hle, hascending⟩ := ih hbackend hrest
      have hlt : sink.number < around.logbook.added :=
        around.logbook.numbered sink (hsinks ▸ List.mem_append_right _ (List.mem_singleton_self _))
      refine ⟨sink :: sinks, ?_, ?_, ?_, ?_⟩
      · rw [hfinal, Session.withSurroundings, hsinks, List.append_assoc, List.singleton_append]
        rfl
      · rw [List.map_cons, hhandler, hsame]
      · rintro other (_ | ⟨_, hmem⟩)
        · exact hnumber
        · exact Nat.le_trans hadded (hle other hmem)
      · exact .cons (fun other hmem => Nat.lt_of_lt_of_le hlt (hle other hmem)) hascending

/-! ### The whole -/

/-- No sink of a session is one that was in use in an earlier session. -/
def NewerSinks (start final : Session) : Prop :=
  ∀ old ∈ start.logbook.sinks, ∀ sink ∈ final.logbook.sinks, old.number < sink.number

/-- The sinks of a session are those of one set-up, which began in an earlier session: there is one
for each of its handlers, in their order, and none was there when it began. -/
structure Installed (options : Options) (start final : Session) : Prop extends
    AddedFor options.handlers start.logbook final.logbook.sinks where
  newer : NewerSinks start final

/-- Sinks whose numbers were not given out when a set-up began are newer than those in use then. -/
theorem newer_of_added_le
    (h : ∀ sink ∈ final.logbook.sinks, start.logbook.added ≤ sink.number) :
    NewerSinks start final := fun old hold sink hsink =>
  Nat.lt_of_lt_of_le (start.logbook.numbered old hold) (h sink hsink)

/-- Sinks take the place of those in use if the directory is there, no sink is left of those in use,
and one is added for each handler. -/
theorem value_replace_sinks_eq_ok_iff :
    (runIn session (replaceSinks options)).value = (.ok (), final) ↔ ∃ files around,
      session.files.change (FileChange.makeDirectories options.directoryPath) = (.ok (), files) ∧
      session.backend.removeAll { session.surroundings with files } = (.ok (), around) ∧
      (runIn (session.withSurroundings around) (addAll options.handlers)).value
        = (.ok (), final) := by
  simp only [replaceSinks, value_bind_eq_ok_iff, value_change_files_eq_ok_iff,
    value_operate_eq_ok_iff]
  constructor
  · rintro ⟨_, _, ⟨files, hmade, rfl⟩, _, _, ⟨around, hremoved, rfl⟩, hadds⟩
    exact ⟨files, around, hmade, hremoved, hadds⟩
  · rintro ⟨files, around, hmade, hremoved, hadds⟩
    exact ⟨(), _, ⟨files, hmade, rfl⟩, (), _, ⟨around, hremoved, rfl⟩, hadds⟩

/-- Sinks that take the place of others are those of one set-up. -/
theorem installed_of_replace_sinks (hlawful : session.backend.Lawful)
    (h : (runIn session (replaceSinks options)).value = (.ok (), final)) :
    Installed options session final := by
  obtain ⟨files, around, _, hremoved, hadds⟩ := value_replace_sinks_eq_ok_iff.1 h
  have hadded := hlawful.added_le_remove { session.surroundings with files }
  rw [hremoved] at hadded
  have hbackend : (session.withSurroundings around).backend.Lawful := hlawful
  obtain ⟨sinks, hfinal, hfor⟩ := added_for_of_add_all hbackend hadds
  rw [Session.withSurroundings, hlawful.remove_ok hremoved, List.nil_append] at hfinal
  have hle : ∀ sink ∈ sinks, session.logbook.added ≤ sink.number :=
    fun sink hmem => Nat.le_trans hadded (hfor.added_le sink hmem)
  rw [← hfinal] at hfor hle
  exact ⟨{ hfor with added_le := hle }, newer_of_added_le hle⟩

/-- A set-up succeeds exactly if its sinks can take the place of those in use; then the reports on
it are written. -/
theorem value_set_up_eq_ok_iff :
    (runIn session (setUp options)).value = (.ok (), final) ↔
      ∃ ready, (runIn session (replaceSinks options)).value = (.ok (), ready) ∧
        (runIn ready (write (reports options))).value.2 = final := by
  rw [setUp, value_bind_eq_ok_iff]
  constructor
  · rintro ⟨_, ready, hready, hreports⟩
    exact ⟨ready, hready, congrArg Prod.snd hreports⟩
  · rintro ⟨ready, hready, rfl⟩
    exact ⟨(), ready, hready, rfl⟩

/-! ### The count of sinks -/

theorem counts_add_all (handlers : List Handler) : Counts (addAll handlers) := by
  induction handlers with
  | nil => exact counts_pure ()
  | cons handler handlers ih => exact (counts_add handler).bind fun _ => ih

/-- Replacing sinks counts them, also where it stops half-way. -/
theorem counts_replace_sinks (options : Options) : Counts (replaceSinks options) :=
  (counts_change_files _).bind fun _ => counts_remove_all.bind fun _ => counts_add_all _

theorem counts_set_up (options : Options) : Counts (setUp options) :=
  (counts_replace_sinks options).bind fun _ => counts_write _

theorem sinks_write (hlawful : session.backend.Lawful) (records : List LogRecord) :
    (runIn session (write records)).value.2.logbook.sinks = session.logbook.sinks :=
  (hlawful.foldl_emit records).1

/-- Records that are written leave the sinks of a set-up. -/
theorem Installed.write (h : Installed options start session) (hlawful : session.backend.Lawful)
    (records : List LogRecord) :
    Installed options start (runIn session (Procedure.write records)).value.2 where
  toAddedFor := by
    rw [sinks_write hlawful]
    exact h.toAddedFor
  newer := by
    rw [NewerSinks, sinks_write hlawful]
    exact h.newer

/-- A set-up that succeeds leaves its own sinks and no others. -/
theorem installed_of_set_up (hlawful : session.backend.Lawful)
    (h : (runIn session (setUp options)).value = (.ok (), final)) :
    Installed options session final := by
  obtain ⟨ready, hready, rfl⟩ := value_set_up_eq_ok_iff.1 h
  have hbackend := (counts_replace_sinks options session hlawful).1
  rw [hready] at hbackend
  exact (installed_of_replace_sinks hlawful hready).write (hbackend ▸ hlawful) (reports options)

end EmojiText.Logging
