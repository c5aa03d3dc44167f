import EmojiText.Proofs.Scan.Match
import EmojiText.ShortCode
import Mathlib.Logic.IsEmpty.Basic

/-!
# Indexes without records

An index without records finds nothing: it leaves every text one run of plain text, and no short
code in it is replaced.
-/

namespace EmojiText.Index

variable {index : Index}

/-- Without records there are no numbers of records. -/
theorem is_empty_id (h : index.size = 0) : IsEmpty index.Id := by
  constructor
  intro id
  have hlt : id.val < index.size := id.isLt
  omega

/-- Without records a run of plain text goes on to the end. -/
theorem scan_from_of_size_zero (h : index.size = 0) (handleOf : index.Id → Option Handle)
    (run text : Text) :
    index.scanFrom handleOf run text = Segment.consPlain (text.reverse ++ run) [] := by
  have := is_empty_id h
  refine scan_from_of_none_starts fun part _ => ?_
  exact Option.eq_none_iff_forall_ne_some.2 fun id => isEmptyElim id

/-- Without records an empty text has no segment, and another one is a single run. -/
theorem scan_of_size_zero (h : index.size = 0) (handleOf : index.Id → Option Handle)
    (text : Text) :
    index.scan handleOf text = if text = [] then [] else [.plain text] := by
  rw [scan, scan_from_of_size_zero h, List.append_nil, Segment.consPlain]
  simp

/-- Without records no short code is replaced. -/
theorem replaced_of_size_zero (h : index.size = 0) (text : Text) : index.replaced text = text := by
  have := is_empty_id h
  have hnone : ∀ code, index.ofShortCode? code = none := by
    intro code
    rw [ofShortCode?, Option.map_eq_none_iff]
    exact Option.eq_none_iff_forall_ne_some.2 fun id => isEmptyElim id
  have hknown : index.knownTokens text = [] := by
    rw [knownTokens, List.filterMap_eq_nil_iff]
    intro token _
    rw [hnone, Option.map_none]
  rw [replaced, hknown, List.foldl_nil]

end EmojiText.Index
