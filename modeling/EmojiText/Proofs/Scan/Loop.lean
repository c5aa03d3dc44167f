import EmojiText.Proofs.Scan.NormalForm
import Mathlib

/-!
# Scanning by a loop over positions

A loop with two cursors that computes `Index.scan`. One cursor stands where the loop looks next, the
other one at the end of the last emoji; what lies between them is plain text that no segment covers
yet. A turn of the loop steps over a trailing surrogate, takes an emoji, or steps over a code point
at which no emoji starts. Every turn advances the first cursor and keeps `OnCourse`, so the loop
ends, and `scan_loop_ends` says with which segments.
-/

namespace EmojiText

/-- Where the loop stands: the position it looks at next, the end of the last emoji, and the
segments up to that end. -/
structure ScanState where
  position : Nat
  lastEnd : Nat
  segments : List Segment

namespace ScanState

/-- Where the loop starts. -/
def start : ScanState := ⟨0, 0, []⟩

/-- The segments up to the position: the text behind the last emoji becomes one more run, unless
there is none. -/
def flushed (text : Text) (state : ScanState) : List Segment :=
  if state.lastEnd < state.position then
    state.segments ++ [.plain (text.extract state.lastEnd state.position)]
  else state.segments

section Turns

variable (index : Index) (handleOf : index.Id → Option Handle) (text : Text)

/-- One turn of the loop. There is none at the end of the text, nor after a failed look-up. -/
def next (state : ScanState) : Option ScanState := do
  let unit ← text[state.position]?
  if unit.isTrailing then some { state with position := state.position + 1 }
  else match index.matchAt text state.position with
    | .error _ => none
    | .ok none => some { state with position := state.position + 1 }
    | .ok (some id) =>
      -- the length of the record's own text decides where the loop goes on
      let stop := state.position + (index.text id).length
      some ⟨stop, stop, state.flushed text ++ [.emoji (index.record id) (handleOf id)]⟩

/-- Exactly this many turns, of which none may be missing. -/
def run : Nat → ScanState → Option ScanState
  | 0, state => some state
  | turns + 1, state => next index handleOf text state >>= run turns

/-- The segments so far and those of the rest make up the scan of the text. -/
structure OnCourse (state : ScanState) : Prop where
  lastEnd_le : state.lastEnd ≤ state.position
  position_le : state.position ≤ text.length
  segments_eq : state.segments ++ index.scanFrom handleOf
      (text.extract state.lastEnd state.position).reverse (text.drop state.position)
    = index.scan handleOf text

variable {index : Index} {handleOf : index.Id → Option Handle} {text : Text}
  {state following : ScanState}

/-- The text between the cursors grows by the code point under the first one. -/
theorem extract_succ {first last : Nat} {unit : CodePoint} (hle : first ≤ last)
    (hunit : text[last]? = some unit) :
    text.extract first (last + 1) = text.extract first last ++ [unit] := by
  have hplace : first + (last - first) = last := by omega
  simp only [List.extract_eq_take_drop]
  rw [Nat.succ_sub hle, List.take_add_one, List.getElem?_drop, hplace, hunit]
  rfl

/-- Behind the flushed segments stands what a run of the text between the cursors is put in front
of. -/
theorem flushed_append (hcourse : OnCourse index handleOf text state) (segments : List Segment) :
    state.flushed text ++ segments
      = state.segments
        ++ Segment.consPlain (text.extract state.lastEnd state.position).reverse segments := by
  have hlength : (text.extract state.lastEnd state.position).length
      = state.position - state.lastEnd := by
    have hle := hcourse.position_le
    simp only [List.extract_eq_take_drop, List.length_take, List.length_drop]
    omega
  unfold flushed Segment.consPlain
  by_cases hlt : state.lastEnd < state.position
  · have hne : (text.extract state.lastEnd state.position).reverse.isEmpty = false := by
      rw [List.isEmpty_reverse, List.isEmpty_eq_false_iff, ← List.length_pos_iff]
      omega
    rw [if_pos hlt, hne]
    simp
  · have hnil : (text.extract state.lastEnd state.position).reverse.isEmpty = true := by
      rw [List.isEmpty_reverse, List.isEmpty_iff, ← List.length_eq_zero_iff]
      omega
    rw [if_neg hlt, hnil]
    rfl

/-- At its start the loop is on course. -/
theorem on_course_start : OnCourse index handleOf text start where
  lastEnd_le := Nat.le_refl 0
  position_le := Nat.zero_le _
  segments_eq := by simp [start, Index.scan]

/-- A code point at which no emoji starts may be stepped over. -/
theorem OnCourse.step_over {unit : CodePoint} (hcourse : OnCourse index handleOf text state)
    (hunit : text[state.position]? = some unit)
    (hnone : index.emojiAtStart? (text.drop state.position) = none) :
    OnCourse index handleOf text { state with position := state.position + 1 } where
  lastEnd_le := Nat.le_succ_of_le hcourse.lastEnd_le
  position_le := (List.getElem?_eq_some_iff.1 hunit).1
  segments_eq := by
    obtain ⟨hlt, hget⟩ := List.getElem?_eq_some_iff.1 hunit
    have hdrop : text.drop state.position = unit :: text.drop (state.position + 1) := by
      rw [List.drop_eq_getElem_cons hlt, hget]
    have heq := hcourse.segments_eq
    rw [hdrop] at heq hnone
    rw [Index.scan_from_of_none hnone] at heq
    rw [extract_succ hcourse.lastEnd_le hunit, List.reverse_append]
    exact heq

/-- An emoji that starts at the position may be taken. -/
theorem OnCourse.take_emoji {id : index.Id} (hcourse : OnCourse index handleOf text state)
    (hsome : index.emojiAtStart? (text.drop state.position) = some id) :
    OnCourse index handleOf text
      ⟨state.position + (index.text id).length, state.position + (index.text id).length,
        state.flushed text ++ [.emoji (index.record id) (handleOf id)]⟩ where
  lastEnd_le := Nat.le_refl _
  position_le := by
    have hle := (Index.prefix_of_match_start (Index.emoji_at_start_eq_some.1 hsome).2).length_le
    have hposition := hcourse.position_le
    rw [List.length_drop] at hle
    show state.position + (index.text id).length ≤ text.length
    omega
  segments_eq := by
    have heq := hcourse.segments_eq
    cases hdrop : text.drop state.position with
    | nil => simp [hdrop, Index.emojiAtStart?, Index.matchStart] at hsome
    | cons unit rest =>
        rw [hdrop] at hsome heq
        rw [Index.scan_from_of_some hsome, ← flushed_append hcourse, ← hdrop,
          List.drop_drop] at heq
        simpa using heq

/-- Every turn advances the loop: a step by one code point, an emoji by its text, which is never
empty. -/
theorem position_lt_of_next (hnext : next index handleOf text state = some following) :
    state.position < following.position := by
  simp only [next, bind, Option.bind_eq_some_iff] at hnext
  obtain ⟨unit, _, hnext⟩ := hnext
  split at hnext
  · cases hnext
    exact Nat.lt_succ_self _
  · split at hnext
    · cases hnext
    · cases hnext
      exact Nat.lt_succ_self _
    · rename_i id _
      cases hnext
      have hpos := List.length_pos_iff.2 (index.text_id_ne_nil id)
      show state.position < state.position + (index.text id).length
      omega

/-- Where the loop is on course and not at the end, it takes a turn that keeps it on course. -/
theorem OnCourse.progress (hcourse : OnCourse index handleOf text state)
    (hlt : state.position < text.length) :
    ∃ following, next index handleOf text state = some following ∧
      OnCourse index handleOf text following := by
  have hunit : text[state.position]? = some text[state.position] := List.getElem?_eq_getElem hlt
  have hhead : (text.drop state.position).head? = some text[state.position] := by
    rw [List.head?_drop, hunit]
  unfold next
  rw [hunit, Option.bind_eq_bind, Option.bind_some, Index.match_at_of_lt hlt]
  by_cases htrailing : text[state.position].isTrailing = true
  · have hnone : index.emojiAtStart? (text.drop state.position) = none := by
      simp [Index.emojiAtStart?, hhead, htrailing]
    rw [if_pos htrailing]
    exact ⟨_, rfl, hcourse.step_over hunit hnone⟩
  · have hmatch : index.emojiAtStart? (text.drop state.position)
        = index.matchStart (text.drop state.position) := by
      simp [Index.emojiAtStart?, hhead, htrailing]
    rw [if_neg htrailing, ← hmatch]
    cases hemoji : index.emojiAtStart? (text.drop state.position) with
    | none => exact ⟨_, rfl, hcourse.step_over hunit hemoji⟩
    | some id => exact ⟨_, rfl, hcourse.take_emoji hemoji⟩

/-- From any state on course the loop reaches the end of the text, in at most as many turns as code
points are left. -/
theorem OnCourse.run_ends (hcourse : OnCourse index handleOf text state) :
    ∃ turns final, turns ≤ text.length - state.position ∧
      run index handleOf text turns state = some final ∧
      final.position = text.length ∧ OnCourse index handleOf text final := by
  induction hleft : text.length - state.position using Nat.strong_induction_on
    generalizing state with
  | _ left ih =>
      have hle := hcourse.position_le
      by_cases hlt : state.position < text.length
      · obtain ⟨following, hnext, hfollowing⟩ := hcourse.progress hlt
        have hadvance := position_lt_of_next hnext
        obtain ⟨turns, final, hturns, hrun, hend, hfinal⟩ :=
          ih (text.length - following.position) (by omega) hfollowing rfl
        refine ⟨turns + 1, final, by omega, ?_, hend, hfinal⟩
        rw [run, hnext]
        exact hrun
      · exact ⟨0, state, Nat.zero_le _, rfl, by omega, hcourse⟩

/-- At the end of the text, flushing the last run completes the segments of the scan. -/
theorem OnCourse.flushed_eq_scan (hcourse : OnCourse index handleOf text state)
    (hend : state.position = text.length) : state.flushed text = index.scan handleOf text := by
  have heq := hcourse.segments_eq
  have hnil : text.drop state.position = [] := List.drop_eq_nil_of_le hend.ge
  rw [hnil, Index.scanFrom, ← flushed_append hcourse, List.append_nil] at heq
  exact heq

end Turns

end ScanState

/-- Over the index of any records, the loop ends: every turn advances it, and after at most one turn
for each code point it has reached the end of the text without a failed look-up. Its segments are
those of the scan, they cover the text exactly, and they are in normal form. -/
theorem scan_loop_ends (records : List Record)
    (handleOf : (Index.build records).value.Id → Option Handle) (text : Text) :
    let index := (Index.build records).value
    (∀ state following, ScanState.next index handleOf text state = some following →
      state.position < following.position) ∧
    (∃ turns final, turns ≤ text.length ∧
      ScanState.run index handleOf text turns .start = some final ∧
      ScanState.next index handleOf text final = none ∧
      final.position = text.length ∧ final.flushed text = index.scan handleOf text) ∧
    (index.scan handleOf text).flatMap Segment.text = text ∧
    Segment.NormalForm (index.scan handleOf text) := by
  intro index
  refine ⟨fun _ _ => ScanState.position_lt_of_next, ?_, index.flat_map_text_scan handleOf text,
    index.normal_form_scan handleOf text⟩
  have hstart : ScanState.OnCourse index handleOf text .start := ScanState.on_course_start
  obtain ⟨turns, final, hturns, hrun, hend, hfinal⟩ := hstart.run_ends
  refine ⟨turns, final, hturns, hrun, ?_, hend, hfinal.flushed_eq_scan hend⟩
  simp [ScanState.next, hend]

/-- A turn in front of `ab` passes the record of `a` over and advances by two. -/
theorem scan_loop_advances_by_match :
    let records : List Record := [⟨[], [], [0x61], none, ∅⟩, ⟨[], [], [0x61, 0x62], none, ∅⟩]
    let text : Text := [0x63, 0xDC00, 0x61, 0x62]
    let first : ScanState := ⟨2, 0, []⟩
    let second : ScanState :=
      ⟨4, 4, [.plain [0x63, 0xDC00], .emoji ⟨[], [], [0x61, 0x62], none, ∅⟩ none]⟩
    ScanState.next (Index.build records).value (fun _ => none) text first = some second ∧
      first.position < second.position := by
  intro records text first second
  have hnext : ScanState.next (Index.build records).value (fun _ => none) text first
      = some second := by cbv
  exact ⟨hnext, (scan_loop_ends records (fun _ => none) text).1 first second hnext⟩

end EmojiText
