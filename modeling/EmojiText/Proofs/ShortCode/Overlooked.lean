import EmojiText.Proofs.ShortCode.Separator

/-!
# Known codes that are overlooked

A token uses up both of its colons, whether its code is known or not. So a known code between colons
is not replaced if the colon in front of it closes another token, and where that token is unknown it
stays in a piece of the text that is kept: after `10:30` the closing colon of a time takes the place
of the one that opens a code. `overlooked_iff_behind_unknown` says that this is the only way in
which a piece that is kept can have a known code, and `overlooked_behind_time` is such a text.
-/

namespace EmojiText

namespace Token

/-- The pieces of a text outside of tokens, from a position on: in front of the first token, between
neighbours, and behind the last one. -/
def outside (text : Text) (position : Nat) : List Token → List Text
  | [] => [text.drop position]
  | token :: tokens => text.extract position token.start :: outside text token.stop tokens

/-- Pieces of a text, with other texts in the places between them. -/
def interleaved : List Text → List Text → Text
  | [], _ => []
  | piece :: pieces, [] => piece ++ interleaved pieces []
  | piece :: pieces, image :: images => piece ++ image ++ interleaved pieces images

variable {text front : Text} {position first last : Nat} {token other : Token}
  {tokens : List Token}

/-! ### Pieces and their interleaving -/

/-- What stands in front of the first piece stands in front of the whole. -/
theorem interleaved_cons_append (front piece : Text) (pieces images : List Text) :
    interleaved ((front ++ piece) :: pieces) images
      = front ++ interleaved (piece :: pieces) images := by
  cases images with
  | nil => simp only [interleaved, List.append_assoc]
  | cons image images => simp only [interleaved, List.append_assoc]

/-- A part of a text and the part behind it make up one part. -/
theorem extract_append_extract (text : Text) (hfirst : position ≤ first) (hlast : first ≤ last) :
    text.extract position first ++ text.extract first last = text.extract position last := by
  have hsum : last - position = (first - position) + (last - first) := by omega
  have hplace : position + (first - position) = first := by omega
  simp only [List.extract_eq_take_drop]
  rw [hsum, List.take_add, List.drop_drop, hplace]

/-- A part of a text and all that stands behind it make up one end of the text. -/
theorem extract_append_drop (text : Text) (hfirst : position ≤ first) :
    text.extract position first ++ text.drop first = text.drop position := by
  have hplace : position + (first - position) = first := by omega
  have hsplit := List.take_append_drop (first - position) (text.drop position)
  rw [List.drop_drop, hplace] at hsplit
  rw [List.extract_eq_take_drop]
  exact hsplit

/-- Moving the position back makes the first piece longer. -/
theorem interleaved_outside (hfirst : position ≤ first) (h : ∀ token ∈ tokens, first ≤ token.start)
    (images : List Text) :
    interleaved (outside text position tokens) images
      = text.extract position first ++ interleaved (outside text first tokens) images := by
  cases tokens with
  | nil =>
      rw [outside, ← extract_append_drop text hfirst]
      exact interleaved_cons_append ..
  | cons token tokens =>
      rw [outside, ← extract_append_extract text hfirst (h token List.mem_cons_self)]
      exact interleaved_cons_append ..

/-- Rewriting keeps the pieces outside of the tokens that have a replacement, and puts the
replacements between them. -/
theorem rewritten_eq_interleaved (replacement : Text → Option Text)
    (hstands : ∀ token ∈ tokens, token.StandsIn text)
    (hle : ∀ token ∈ tokens, position ≤ token.start)
    (hdisjoint : tokens.Pairwise fun first second => first.stop ≤ second.start) :
    rewritten replacement text position tokens
      = interleaved
          (outside text position (tokens.filter fun token => (replacement token.code).isSome))
          (tokens.filterMap fun token => replacement token.code) := by
  induction tokens generalizing position with
  | nil =>
      show text.drop position = text.drop position ++ []
      rw [List.append_nil]
  | cons token tokens ih =>
      obtain ⟨hbehind, hdisjoint⟩ := List.pairwise_cons.1 hdisjoint
      obtain ⟨htoken, hrest⟩ := List.forall_mem_cons.1 hstands
      have hstart := hle token List.mem_cons_self
      have hrewritten := ih hrest hbehind hdisjoint
      cases himage : replacement token.code with
      | none =>
          -- the token joins the piece around it
          have hstop : position ≤ token.stop :=
            Nat.le_trans hstart (Nat.le_of_lt token.start_lt_stop)
          have hspan : text.extract position token.start ++ token.span
              = text.extract position token.stop := by
            have hdrop := htoken.drop_eq hstart
            rw [← extract_append_drop text hstop] at hdrop
            exact (List.append_cancel_right hdrop).symm
          have hkept : ∀ other ∈ tokens.filter fun token => (replacement token.code).isSome,
              token.stop ≤ other.start :=
            fun other hmem => hbehind other (List.mem_filter.1 hmem).1
          have hreplaced : (token :: tokens).filter (fun token => (replacement token.code).isSome)
              = tokens.filter fun token => (replacement token.code).isSome :=
            List.filter_cons_of_neg (by simp [himage])
          have himages : (token :: tokens).filterMap (fun token => replacement token.code)
              = tokens.filterMap fun token => replacement token.code :=
            List.filterMap_cons_none himage
          rw [rewritten, himage, Option.getD_none, hspan, hrewritten,
            hreplaced, himages]
          exact (interleaved_outside hstop hkept _).symm
      | some image =>
          have hreplaced : (token :: tokens).filter (fun token => (replacement token.code).isSome)
              = token :: tokens.filter fun token => (replacement token.code).isSome :=
            List.filter_cons_of_pos (by simp [himage])
          have himages : (token :: tokens).filterMap (fun token => replacement token.code)
              = image :: tokens.filterMap fun token => replacement token.code :=
            List.filterMap_cons_some himage
          rw [rewritten, himage, Option.getD_some, hrewritten,
            hreplaced, himages]
          rfl

/-! ### Tokens in pieces -/

/-- A token stands in an end of a text exactly if it stands in the text at the place moved by the
length of what is left out. -/
theorem stands_in_drop_iff :
    token.StandsIn (text.drop first) ↔ StandsIn text ⟨first + token.start, token.code⟩ := by
  constructor
  · rintro ⟨hne, hunits, hstarts⟩
    exact ⟨hne, hunits, by rwa [List.drop_drop] at hstarts⟩
  · rintro ⟨hne, hunits, hstarts⟩
    exact ⟨hne, hunits, by rwa [List.drop_drop]⟩

/-- A token stands in a part of a text exactly if it stands in the text at the moved place and ends
in front of the end of the part. -/
theorem stands_in_extract_iff :
    token.StandsIn (text.extract first last) ↔
      StandsIn text ⟨first + token.start, token.code⟩ ∧ first + token.stop ≤ last := by
  have hlength : 0 < token.length := by simp [length]
  have hstarts : token.span <+: (text.extract first last).drop token.start ↔
      token.span <+: text.drop (first + token.start) ∧ first + token.stop ≤ last := by
    rw [List.extract_eq_take_drop, List.drop_take, List.prefix_take_iff, List.drop_drop,
      length_span]
    refine and_congr_right fun _ => ?_
    unfold stop
    omega
  constructor
  · rintro ⟨hne, hunits, h⟩
    obtain ⟨hwhole, hend⟩ := hstarts.1 h
    exact ⟨⟨hne, hunits, hwhole⟩, hend⟩
  · rintro ⟨⟨hne, hunits, hwhole⟩, hend⟩
    exact ⟨hne, hunits, hstarts.2 ⟨hwhole, hend⟩⟩

/-- The codes of the tokens that stand in the pieces outside of tokens are those of the tokens in
the text that overlap none of them. -/
theorem exists_stands_outside_iff (text : Text) (P : Text → Prop)
    (hle : ∀ token ∈ tokens, position ≤ token.start)
    (hdisjoint : tokens.Pairwise fun first second => first.stop ≤ second.start) :
    (∃ piece ∈ outside text position tokens, ∃ token : Token,
        token.StandsIn piece ∧ P token.code) ↔
      ∃ token : Token, token.StandsIn text ∧ P token.code ∧ position ≤ token.start ∧
        ∀ other ∈ tokens, token.stop ≤ other.start ∨ other.stop ≤ token.start := by
  induction tokens generalizing position with
  | nil =>
      simp only [outside, List.mem_singleton, exists_eq_left, stands_in_drop_iff]
      constructor
      · rintro ⟨token, hstands, hcode⟩
        exact ⟨⟨position + token.start, token.code⟩, hstands, hcode, Nat.le_add_right _ _, by simp⟩
      · rintro ⟨token, hstands, hcode, hstart, _⟩
        refine ⟨⟨token.start - position, token.code⟩, ?_, hcode⟩
        rwa [Nat.add_sub_cancel' hstart]
  | cons known tokens ih =>
      obtain ⟨hbehind, hdisjoint⟩ := List.pairwise_cons.1 hdisjoint
      have hknown := hle known List.mem_cons_self
      have hstop := known.start_lt_stop
      simp only [outside, List.mem_cons, exists_eq_or_imp, ih hbehind hdisjoint,
        stands_in_extract_iff, forall_eq_or_imp]
      constructor
      · rintro (⟨token, ⟨hstands, hend⟩, hcode⟩ | ⟨token, hstands, hcode, hstart, hclear⟩)
        · -- in front of the first token, and so in front of all others
          have hfront : position + token.stop = stop ⟨position + token.start, token.code⟩ :=
            (Nat.add_assoc ..).symm
          rw [hfront] at hend
          refine ⟨_, hstands, hcode, Nat.le_add_right _ _, .inl hend, ?_⟩
          intro other hmem
          have hlater := hbehind other hmem
          exact .inl (by omega)
        · exact ⟨token, hstands, hcode, by omega, .inr hstart, hclear⟩
      · rintro ⟨token, hstands, hcode, hstart, hend | hend, hclear⟩
        · refine .inl ⟨⟨token.start - position, token.code⟩, ?_, hcode⟩
          have hplace : position + (token.start - position) = token.start := by omega
          have hlast : position + stop ⟨token.start - position, token.code⟩ = token.stop := by
            unfold stop
            rw [← Nat.add_assoc, hplace]
            rfl
          rw [hlast]
          exact ⟨by rwa [hplace], hend⟩
        · exact .inr ⟨token, hstands, hcode, hend, hclear⟩

/-! ### Tokens that overlap -/

/-- A token that stands in a text has its code points there. -/
theorem StandsIn.get_eq (h : token.StandsIn text) {place : Nat} (hplace : place < token.length) :
    text[token.start + place]? = token.span[place]? := by
  obtain ⟨after, happend⟩ := h.starts
  rw [← List.getElem?_drop, ← happend, List.getElem?_append_left (by rwa [length_span])]

/-- If a token starts inside another one, the one starts with the colon that closes the other. -/
theorem StandsIn.stop_eq_of_overlap (h : token.StandsIn text) (hother : other.StandsIn text)
    (hlt : token.start < other.start) (hinside : other.start < token.stop) :
    token.stop = other.start + 1 := by
  obtain ⟨place, hplace⟩ : ∃ place, other.start = token.start + (place + 1) :=
    ⟨other.start - token.start - 1, by omega⟩
  have hlength : token.stop = token.start + (token.code.length + 2) := rfl
  by_contra hne
  -- the colon would stand in the code
  have hcode : place < token.code.length := by omega
  have hcolon : text[other.start + 0]? = some colon := hother.get_eq (by simp [length])
  have hunit : text[other.start]? = some token.code[place] := by
    rw [hplace, h.get_eq (by simp only [length]; omega), span, List.cons_append,
      List.getElem?_cons_succ, List.getElem?_append_left hcode, List.getElem?_eq_getElem hcode]
  have hsame : token.code[place] = colon := Option.some.inj (hunit.symm.trans hcolon)
  have hunits := h.code_units _ (List.getElem_mem hcode)
  rw [hsame, colon_not_unit] at hunits
  cases hunits

/-- A token that stands in a text is one of the chosen ones exactly if none of them closes with its
opening colon. -/
theorem Leftmost.mem_iff (h : Leftmost text tokens) :
    token ∈ tokens ↔
      token.StandsIn text ∧ ¬ ∃ earlier ∈ tokens, earlier.stop = token.start + 1 := by
  constructor
  · intro hmem
    refine ⟨h.stands token hmem, ?_⟩
    rintro ⟨earlier, hearlier, hstop⟩
    have hback := earlier.succ_start_lt_stop
    have hapart := h.not_inside hearlier hmem (by omega)
    omega
  · rintro ⟨hstands, hnone⟩
    by_contra hnot
    obtain ⟨chosen, hchosen, hlt, hinside⟩ := h.complete token hstands hnot
    exact hnone ⟨chosen, hchosen,
      (h.stands chosen hchosen).stop_eq_of_overlap hstands hlt hinside⟩

end Token

namespace Index

variable {index : Index} {text : Text} {token : Token}

/-- The tokens of a text that are replaced. -/
def replacedTokens (index : Index) (text : Text) : List Token := (index.knownTokens text).map (·.1)

/-- A known code stands in the text between colons. -/
def HasKnown (index : Index) (text : Text) : Prop :=
  ∃ token : Token, token.StandsIn text ∧ (index.ofShortCode? token.code).isSome

/-- The tokens with a known code are replaced. -/
theorem replaced_tokens_eq_filter (index : Index) (text : Text) :
    index.replacedTokens text
      = (Token.all text).filter fun token => (index.ofShortCode? token.code).isSome := by
  unfold replacedTokens knownTokens
  induction Token.all text with
  | nil => rfl
  | cons token tokens ih =>
      cases hknown : index.ofShortCode? token.code with
      | none => simpa [hknown] using ih
      | some record => simpa [hknown] using ih

/-- The texts of the records that are found are the replacements of the tokens. -/
theorem map_text_find_short_codes (index : Index) (text : Text) :
    (index.findShortCodes text).map Record.text
      = (Token.all text).filterMap
          fun token => (index.ofShortCode? token.code).map Record.text := by
  simp [findShortCodes, knownTokens, List.map_filterMap, Function.comp_def]

/-- The result of replacing short codes has the pieces outside of the replaced tokens, with the
texts of the records between them. -/
theorem replaced_eq_interleaved (index : Index) (text : Text) :
    index.replaced text
      = Token.interleaved (Token.outside text 0 (index.replacedTokens text))
          ((index.findShortCodes text).map Record.text) := by
  have hall := Token.leftmost_all text
  have hrewritten := Token.rewritten_eq_interleaved
    (fun code => (index.ofShortCode? code).map Record.text) hall.stands
    (fun token _ => Nat.zero_le token.start) hall.disjoint
  simp only [Option.isSome_map] at hrewritten
  have hsubstitute : Token.rewritten (fun code => (index.ofShortCode? code).map Record.text) text 0
      (Token.all text) = Token.substitute _ text := Token.rewritten_all_from rfl
  rw [replaced_eq_substitute, ← hsubstitute, replaced_tokens_eq_filter, map_text_find_short_codes]
  exact hrewritten

/-- The replaced tokens are those with a known code. -/
theorem mem_replaced_tokens :
    token ∈ index.replacedTokens text ↔
      token ∈ Token.all text ∧ (index.ofShortCode? token.code).isSome = true := by
  rw [replaced_tokens_eq_filter, List.mem_filter]

/-- A token with a known code that overlaps no replaced one opens with the colon that closes an
unknown token, and does not close with the one that opens a replaced token. -/
theorem behind_unknown_of_clear (hstands : token.StandsIn text)
    (hknown : (index.ofShortCode? token.code).isSome = true)
    (hclear : ∀ other ∈ index.replacedTokens text,
      token.stop ≤ other.start ∨ other.stop ≤ token.start) :
    (∃ unknown ∈ Token.all text, index.ofShortCode? unknown.code = none ∧
        unknown.stop = token.start + 1) ∧
      ¬ ∃ next ∈ index.replacedTokens text, next.start + 1 = token.stop := by
  have hlt := token.succ_start_lt_stop
  have hnot : token ∉ Token.all text := by
    intro hmem
    have hself := hclear token (mem_replaced_tokens.2 ⟨hmem, hknown⟩)
    omega
  rw [(Token.leftmost_all text).mem_iff] at hnot
  obtain ⟨earlier, hearlier, hstop⟩ := not_not.1 (not_and.1 hnot hstands)
  refine ⟨⟨earlier, hearlier, ?_, hstop⟩, ?_⟩
  · -- a replaced token would overlap this one
    by_contra hsome
    have hapart := hclear earlier
      (mem_replaced_tokens.2 ⟨hearlier, Option.isSome_iff_ne_none.2 hsome⟩)
    have hback := earlier.succ_start_lt_stop
    omega
  · rintro ⟨next, hnext, hstart⟩
    have hapart := hclear next hnext
    have hback := next.start_lt_stop
    omega

/-- Such a token overlaps no replaced one. -/
theorem clear_of_behind_unknown (hstands : token.StandsIn text) {unknown : Token}
    (hunknown : unknown ∈ Token.all text) (hnone : index.ofShortCode? unknown.code = none)
    (hstop : unknown.stop = token.start + 1)
    (hnext : ¬ ∃ next ∈ index.replacedTokens text, next.start + 1 = token.stop) :
    ∀ other ∈ index.replacedTokens text, token.stop ≤ other.start ∨ other.stop ≤ token.start := by
  intro other hother
  obtain ⟨hmem, hsome⟩ := mem_replaced_tokens.1 hother
  have hne : unknown ≠ other := by
    rintro rfl
    rw [hnone] at hsome
    cases hsome
  have hall := Token.leftmost_all text
  have hback := unknown.succ_start_lt_stop
  by_contra hoverlap
  rw [not_or, Nat.not_le, Nat.not_le] at hoverlap
  rcases hall.apart hunknown hmem hne with hbehind | hfront
  · -- the replaced token starts inside this one, so it starts with its closing colon
    have hclose := hstands.stop_eq_of_overlap (hall.stands other hmem) (by omega) hoverlap.1
    exact hnext ⟨other, hother, hclose.symm⟩
  · omega

/-- The result of replacing short codes consists of the pieces of the text outside of the replaced
tokens and of the texts of the records between them. A token is replaced exactly if it stands in the
text, its code is known, and no token closes with its opening colon. So a piece has a known code
left exactly if this code opens with the colon that closes an unknown token, and does not close with
one that opens a replaced token. -/
theorem overlooked_iff_behind_unknown (index : Index) (text : Text) :
    let pieces := Token.outside text 0 (index.replacedTokens text)
    (index.replaceShortCodes text).value
      = Token.interleaved pieces ((index.findShortCodes text).map Record.text) ∧
    (∀ token, token ∈ index.replacedTokens text ↔
      token.StandsIn text ∧ (index.ofShortCode? token.code).isSome ∧
        ¬ ∃ earlier ∈ Token.all text, earlier.stop = token.start + 1) ∧
    ((∃ piece ∈ pieces, index.HasKnown piece) ↔
      ∃ token : Token, token.StandsIn text ∧ (index.ofShortCode? token.code).isSome ∧
        (∃ unknown ∈ Token.all text, index.ofShortCode? unknown.code = none ∧
          unknown.stop = token.start + 1) ∧
        ¬ ∃ next ∈ index.replacedTokens text, next.start + 1 = token.stop) := by
  intro pieces
  have hall := Token.leftmost_all text
  refine ⟨?_, ?_, ?_⟩
  · rw [value_replace_short_codes]
    exact index.replaced_eq_interleaved text
  · intro token
    rw [mem_replaced_tokens, hall.mem_iff]
    tauto
  · have hdisjoint : (index.replacedTokens text).Pairwise
        fun first second => first.stop ≤ second.start := by
      rw [replaced_tokens_eq_filter]
      exact hall.disjoint.filter _
    have hpieces := Token.exists_stands_outside_iff text
      (fun code => (index.ofShortCode? code).isSome = true)
      (fun token _ => Nat.zero_le token.start) hdisjoint
    refine hpieces.trans (exists_congr fun token => ?_)
    refine and_congr_right fun hstands => and_congr_right fun hknown => ?_
    constructor
    · rintro ⟨_, hclear⟩
      exact behind_unknown_of_clear hstands hknown hclear
    · rintro ⟨⟨unknown, hunknown, hnone, hstop⟩, hnext⟩
      exact ⟨Nat.zero_le _, clear_of_behind_unknown hstands hunknown hnone hstop hnext⟩

/-- One token is replaced, and the same one behind a time is left in the last piece. -/
example :
    let index := (build [⟨["smile"], "1F604", [0x1F604], none, ∅⟩]).value
    let text : Text := ":smile: 10:30:smile:"
    (index.replaceShortCodes text).value = "😄 10:30:smile:" ∧
      Token.outside text 0 (index.replacedTokens text) = ["", " 10:30:smile:"] := by
  decide +kernel

/-- A time in front of a known code keeps it from being replaced: the text stays as it is, in one
piece, and the code stands in it. -/
theorem overlooked_behind_time :
    let index := (build [⟨["smile"], "1F604", [0x1F604], none, ∅⟩]).value
    let text : Text := "10:30:smile:"
    (index.replaceShortCodes text).value = text ∧
    Token.outside text 0 (index.replacedTokens text) = [text] ∧
    index.HasKnown text := by
  intro index text
  have hreplaced : (index.replaceShortCodes text).value = text := by decide +kernel
  have hpieces : Token.outside text 0 (index.replacedTokens text) = [text] := by decide +kernel
  have hknown : (index.ofShortCode? "smile").isSome = true := by decide +kernel
  have hunits : ∀ c ∈ ("smile" : Text), Token.isCodeUnit c = true :=
    List.all_eq_true.1 (by decide +kernel)
  exact ⟨hreplaced, hpieces, ⟨5, "smile"⟩, ⟨by decide, hunits, [], by decide⟩, hknown⟩

end Index

end EmojiText
