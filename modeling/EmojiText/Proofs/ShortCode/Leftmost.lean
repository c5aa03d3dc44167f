import EmojiText.ShortCode
import Mathlib.Data.List.Pairwise
import Mathlib.Data.List.Sort
import Mathlib.Data.List.TakeWhile

/-!
# The tokens of a text

Which tokens a text has, said without reading it from left to right. Tokens are chosen from the
left: the chosen ones do not overlap, and a token is only left out because a chosen one that starts
earlier covers its start. `leftmost_iff` says that each text has exactly one such choice, the one
that `Token.all` computes.
-/

namespace EmojiText.Token

/-- The code points of short codes, one by one. -/
def codeUnits : Text :=
  "-+_0123456789ABCDEFGHIJKLMNOPQRSTUVWXYZabcdefghijklmnopqrstuvwxyz"

/-- A short code has plain letters, digits and three signs, and nothing else. -/
theorem is_code_unit_iff {c : CodePoint} : isCodeUnit c = true ↔ c ∈ codeUnits := by
  have hsmall : ∀ n : Fin 0x80,
      isCodeUnit (n.castLE (by decide)) = true ↔ n.castLE (by decide) ∈ codeUnits := by
    decide +kernel
  by_cases hlt : c.val < 0x80
  · exact hsmall ⟨c.val, hlt⟩
  · refine iff_of_false ?_ fun hmem => hlt ?_
    · simp only [isCodeUnit, Bool.or_eq_true, Bool.and_eq_true, decide_eq_true_eq]
      omega
    · have hall : ∀ d ∈ codeUnits, d.val < 0x80 := List.forall_iff_forall_mem.1 (by decide)
      exact hall c hmem

/-- The code of a token between its colons. -/
def span (token : Token) : Text := colon :: token.code ++ [colon]

/-- The position behind a token. -/
def stop (token : Token) : Nat := token.start + token.length

/-- The token stands in a text: its code is not empty, has code units only, and its span is found
where the token starts. -/
structure StandsIn (text : Text) (token : Token) : Prop where
  code_ne_nil : token.code ≠ []
  code_units : ∀ c ∈ token.code, isCodeUnit c = true
  starts : token.span <+: text.drop token.start

/-- Tokens chosen from the left: none overlaps another one, and one that is not chosen starts inside
a chosen one that starts earlier. -/
structure Leftmost (text : Text) (tokens : List Token) : Prop where
  stands : ∀ token ∈ tokens, token.StandsIn text
  disjoint : tokens.Pairwise fun first second => first.stop ≤ second.start
  complete : ∀ token : Token, token.StandsIn text → token ∉ tokens →
    ∃ chosen ∈ tokens, chosen.start < token.start ∧ token.start < chosen.stop

variable {text code after : Text} {token : Token} {position : Nat}

/-- The span of a token is as long as the token. -/
@[simp] theorem length_span (token : Token) : token.span.length = token.length := by
  simp [span, length]

/-- The closing colon of a token stands behind the opening one. -/
theorem succ_start_lt_stop (token : Token) : token.start + 1 < token.stop := by
  simp [stop, length]

/-- A token starts before it stops. -/
theorem start_lt_stop (token : Token) : token.start < token.stop :=
  Nat.lt_of_succ_lt token.succ_start_lt_stop

/-- A token ends inside the text. -/
theorem StandsIn.stop_le (h : token.StandsIn text) : token.stop ≤ text.length := by
  have hle := h.starts.length_le
  have hpos : 0 < token.length := by simp [length]
  rw [length_span, List.length_drop] at hle
  unfold stop
  omega

/-- A colon is no part of a code. -/
theorem colon_not_unit : isCodeUnit colon = false := by decide

/-- Reading a code at the start of a text finds what stands between the first two colons. -/
theorem code_at_start_eq_some :
    codeAtStart? text = some (code, after) ↔
      text = colon :: code ++ colon :: after ∧ code ≠ [] ∧ ∀ c ∈ code, isCodeUnit c = true := by
  constructor
  · intro h
    unfold codeAtStart? at h
    split at h
    · cases h
    · rename_i c rest
      split at h
      · rename_i hc
        split at h
        · cases h
        · rename_i d tail hdrop
          dsimp only at h
          split at h
          · rename_i hcode
            obtain ⟨rfl, hne⟩ := hcode
            cases h
            have hrest := List.takeWhile_append_dropWhile (p := isCodeUnit) (l := rest)
            rw [hdrop] at hrest
            exact ⟨by rw [hc, List.cons_append, hrest], hne, fun c => List.mem_takeWhile_imp⟩
          · cases h
      · cases h
  · rintro ⟨rfl, hne, hunits⟩
    have htake : (code ++ colon :: after).takeWhile isCodeUnit = code := by
      rw [List.takeWhile_append_of_pos hunits]
      simp [colon_not_unit]
    have hdrop : (code ++ colon :: after).dropWhile isCodeUnit = colon :: after := by
      rw [List.dropWhile_append_of_pos hunits]
      simp [colon_not_unit]
    simp [codeAtStart?, htake, hdrop, hne]

/-- A token that stands where a code is read has that code. -/
theorem StandsIn.code_at_start (h : token.StandsIn text) :
    ∃ after, codeAtStart? (text.drop token.start) = some (token.code, after) := by
  obtain ⟨after, happend⟩ := h.starts
  refine ⟨after, code_at_start_eq_some.2 ⟨?_, h.code_ne_nil, h.code_units⟩⟩
  rw [← happend]
  simp [span]

/-- Where a code is read, a token stands. -/
theorem stands_of_code_at_start
    (h : codeAtStart? (text.drop position) = some (code, after)) :
    StandsIn text ⟨position, code⟩ := by
  obtain ⟨hdrop, hne, hunits⟩ := code_at_start_eq_some.1 h
  refine ⟨hne, hunits, after, ?_⟩
  rw [hdrop]
  simp [span]

/-- Behind a token stands what is left after its code was read. -/
theorem drop_stop (h : codeAtStart? (text.drop position) = some (code, after)) :
    text.drop (position + Token.length ⟨position, code⟩) = after := by
  rw [← List.drop_drop, (code_at_start_eq_some.1 h).1]
  simp [length]

/-! ### The choice that is computed -/

variable {full : Text}

/-- Behind the first code point at a position the next position begins. -/
theorem drop_succ {c : CodePoint} {rest : Text} (h : full.drop position = c :: rest) :
    full.drop (position + 1) = rest := by
  rw [← List.drop_drop, h]
  rfl

/-- A token at the start of a text comes before those behind it. -/
theorem all_from_of_code (h : codeAtStart? text = some (code, after)) :
    allFrom position text
      = ⟨position, code⟩ :: allFrom (position + Token.length ⟨position, code⟩) after := by
  cases text with
  | nil => cases h
  | cons c rest =>
      rw [allFrom]
      split
      · rename_i h'
        obtain ⟨rfl, rfl⟩ := Prod.mk.inj (Option.some.inj (h'.symm.trans h))
        rfl
      · rename_i h'
        cases h'.symm.trans h

/-- A code point with which no token starts is passed over. -/
theorem all_from_cons_of_no_code {c : CodePoint} {rest : Text}
    (h : codeAtStart? (c :: rest) = none) :
    allFrom position (c :: rest) = allFrom (position + 1) rest := by
  rw [allFrom]
  split
  · rename_i h'
    cases h'.symm.trans h
  · rfl

/-- The tokens from a position on start there or later, and they stand in the text. -/
theorem stands_of_mem_all_from (hfull : full.drop position = text)
    (hmem : token ∈ allFrom position text) : position ≤ token.start ∧ token.StandsIn full := by
  fun_induction allFrom position text with
  | case1 => cases hmem
  | case2 position c rest code after h first ih =>
      rw [← hfull] at h
      rcases List.mem_cons.1 hmem with rfl | hmem
      · exact ⟨Nat.le_refl _, stands_of_code_at_start h⟩
      · obtain ⟨hle, hstands⟩ := ih (drop_stop h) hmem
        exact ⟨Nat.le_trans (Nat.le_add_right _ _) hle, hstands⟩
  | case3 position c rest h ih =>
      obtain ⟨hle, hstands⟩ := ih (drop_succ hfull) hmem
      exact ⟨Nat.le_of_succ_le hle, hstands⟩

/-- The tokens from a position on do not overlap. -/
theorem disjoint_all_from (hfull : full.drop position = text) :
    (allFrom position text).Pairwise fun first second => first.stop ≤ second.start := by
  fun_induction allFrom position text with
  | case1 => exact .nil
  | case2 position c rest code after h first ih =>
      rw [← hfull] at h
      refine .cons ?_ (ih (drop_stop h))
      intro second hmem
      exact (stands_of_mem_all_from (drop_stop h) hmem).1
  | case3 position c rest h ih => exact ih (drop_succ hfull)

/-- A token that stands at a position or later, and is not among the tokens from there on, starts
inside one of them. -/
theorem complete_all_from (hfull : full.drop position = text) (hstands : token.StandsIn full)
    (hle : position ≤ token.start) (hmem : token ∉ allFrom position text) :
    ∃ chosen ∈ allFrom position text, chosen.start < token.start ∧ token.start < chosen.stop := by
  fun_induction allFrom position text with
  | case1 position =>
      -- nothing is left of the text in which a token could stand
      have hlength := hstands.stop_le
      have hstart := token.start_lt_stop
      have hnil := List.drop_eq_nil_iff.1 hfull
      omega
  | case2 position c rest code after h first ih =>
      rw [← hfull] at h
      rcases Nat.eq_or_lt_of_le hle with heq | hlt
      · obtain ⟨behind, hcode⟩ := hstands.code_at_start
        rw [← heq, h] at hcode
        obtain ⟨rfl, _⟩ := Prod.mk.inj (Option.some.inj hcode)
        exact absurd (List.mem_cons.2 (.inl (by cases token; cases heq; rfl))) hmem
      · by_cases hinside : token.start < first.stop
        · exact ⟨first, List.mem_cons_self, hlt, hinside⟩
        · obtain ⟨chosen, hchosen, hcovers⟩ := ih (drop_stop h) (Nat.le_of_not_lt hinside)
            (fun hrest => hmem (List.mem_cons_of_mem _ hrest))
          exact ⟨chosen, List.mem_cons_of_mem _ hchosen, hcovers⟩
  | case3 position c rest h ih =>
      rcases Nat.eq_or_lt_of_le hle with heq | hlt
      · obtain ⟨behind, hcode⟩ := hstands.code_at_start
        rw [← heq, hfull, h] at hcode
        cases hcode
      · exact ih (drop_succ hfull) hlt hmem

/-- The tokens of a text are chosen from the left. -/
theorem leftmost_all (text : Text) : Leftmost text (all text) where
  stands _ hmem := (stands_of_mem_all_from rfl hmem).2
  disjoint := disjoint_all_from rfl
  complete _ hstands hmem := complete_all_from rfl hstands (Nat.zero_le _) hmem

/-! ### There is no other choice -/

variable {tokens other : List Token}

/-- Chosen tokens stand in the order in which they start. -/
theorem Leftmost.ascending (h : Leftmost text tokens) :
    tokens.Pairwise fun first second => first.start < second.start :=
  h.disjoint.imp fun hle => Nat.lt_of_lt_of_le (start_lt_stop _) hle

/-- Chosen tokens do not overlap. -/
theorem Leftmost.apart {first second : Token} (h : Leftmost text tokens) (hfirst : first ∈ tokens)
    (hsecond : second ∈ tokens) (hne : first ≠ second) :
    first.stop ≤ second.start ∨ second.stop ≤ first.start := by
  have hsymm : tokens.Pairwise fun a b => a.stop ≤ b.start ∨ b.stop ≤ a.start :=
    h.disjoint.imp .inl
  have : Std.Symm fun a b : Token => a.stop ≤ b.start ∨ b.stop ≤ a.start :=
    ⟨fun _ _ => Or.symm⟩
  exact hsymm.forall hfirst hsecond hne

/-- No chosen token starts inside another one that starts earlier. -/
theorem Leftmost.not_inside {first second : Token} (h : Leftmost text tokens)
    (hfirst : first ∈ tokens) (hsecond : second ∈ tokens) (hlt : first.start < second.start) :
    first.stop ≤ second.start := by
  have hne : first ≠ second := by
    rintro rfl
    exact Nat.lt_irrefl _ hlt
  rcases h.apart hfirst hsecond hne with hle | hle
  · exact hle
  · have hstop := second.start_lt_stop
    omega

/-- A token of one choice belongs to every other choice. -/
theorem Leftmost.mem_of_mem (h : Leftmost text tokens) (hother : Leftmost text other)
    (hmem : token ∈ tokens) : token ∈ other := by
  -- were it left out, an earlier token would cover its start, and that one belongs to both
  induction hstart : token.start using Nat.strong_induction_on
    generalizing token tokens other with
  | _ start ih =>
      by_contra hnot
      obtain ⟨chosen, hchosen, hlt, hinside⟩ := hother.complete token (h.stands token hmem) hnot
      have hboth := ih chosen.start (hstart ▸ hlt) hother h hchosen rfl
      exact absurd (h.not_inside hboth hmem hlt) (Nat.not_le.2 hinside)

/-- Each text has exactly one choice of tokens from the left. -/
theorem leftmost_iff : Leftmost text tokens ↔ tokens = all text := by
  constructor
  · intro h
    have : Std.Asymm fun first second : Token => first.start < second.start :=
      ⟨fun _ _ => Nat.lt_asymm⟩
    refine h.ascending.eq_of_mem_iff (leftmost_all text).ascending ?_
    intro token
    exact ⟨h.mem_of_mem (leftmost_all text), (leftmost_all text).mem_of_mem h⟩
  · rintro rfl
    exact leftmost_all text

end EmojiText.Token
