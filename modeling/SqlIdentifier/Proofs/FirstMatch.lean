import SqlIdentifier.Proofs.Locality
import SqlIdentifier.Proofs.SpanSoundness

namespace SqlIdentifier

theorem Text.boundaries_increasing (position : Nat) (text : List Char) :
    (boundaries position text).Pairwise (· < ·) := by
  induction text generalizing position with
  | nil => exact List.pairwise_singleton _ _
  | cons c rest ih =>
    rw [boundaries, List.pairwise_cons]
    refine ⟨?_, ih (position + c.utf8Size)⟩
    intro later member
    obtain ⟨before, after, _, rfl⟩ := mem_boundaries.mp member
    have positive := c.utf8Size_pos
    omega

theorem Cursor.Reaches.eq_of_ended {cursor behind : Cursor} (reaches : cursor.Reaches behind)
    (ended : cursor.rest = []) : behind = cursor := by
  obtain ⟨taken, passes⟩ := reaches
  have nothing : taken ++ behind.rest = [] := passes.rest.symm.trans ended
  rw [(List.append_eq_nil_iff.mp nothing).1] at passes
  exact passes_nil_iff.mp passes

namespace Pattern

section Search

variable {pattern : Pattern} {text : List Char} {position : Nat} {span : Span}

theorem boundary_of_matchAt? (found : pattern.matchAt? text position = some span) :
    span.start = position ∧ position ∈ Text.boundaries 0 text := by
  obtain ⟨⟨_, captures⟩, matched, rfl⟩ := Option.map_eq_some_iff.mp found
  obtain ⟨starts, placed⟩ := submatchesAt?_span_wellPlaced matched
  refine ⟨starts, ?_⟩
  rw [← starts]
  exact placed.startBoundary

theorem matchAt?_eq_none_of_not_mem (inside : position ∉ Text.boundaries 0 text) :
    pattern.matchAt? text position = none := by
  rw [matchAt?, submatchesAt?_eq_none_of_not_mem pattern inside, Option.map_none]

theorem find?_eq_some_iff :
    pattern.find? text = some span ↔
      pattern.matchAt? text span.start = some span ∧
        ∀ earlier < span.start, pattern.matchAt? text earlier = none := by
  have increasing := Text.boundaries_increasing 0 text
  rw [find?, List.findSome?_eq_some_iff]
  constructor
  · rintro ⟨tried, place, later, places, matched, failed⟩
    obtain ⟨rfl, _⟩ := boundary_of_matchAt? matched
    refine ⟨matched, fun earlier less => ?_⟩
    by_cases boundary : earlier ∈ Text.boundaries 0 text
    · -- the boundaries ascend, so that one before the match has been tried
      rw [places, List.pairwise_append, List.pairwise_cons] at increasing
      rw [places, List.mem_append, List.mem_cons] at boundary
      rcases boundary with before | rfl | behind
      · exact failed earlier before
      · exact absurd less (Nat.lt_irrefl _)
      · exact absurd less (Nat.lt_asymm (increasing.2.1.1 earlier behind))
    · exact matchAt?_eq_none_of_not_mem boundary
  · rintro ⟨matched, failed⟩
    obtain ⟨_, boundary⟩ := boundary_of_matchAt? matched
    obtain ⟨tried, later, places⟩ := List.append_of_mem boundary
    refine ⟨tried, span.start, later, places, matched, fun earlier before => failed earlier ?_⟩
    rw [places, List.pairwise_append] at increasing
    exact increasing.2.2 earlier before span.start List.mem_cons_self

theorem find?_eq_none_iff :
    pattern.find? text = none ↔ ∀ position, pattern.matchAt? text position = none := by
  rw [find?, List.findSome?_eq_none_iff]
  constructor
  · intro failed position
    by_cases boundary : position ∈ Text.boundaries 0 text
    · exact failed position boundary
    · exact matchAt?_eq_none_of_not_mem boundary
  · intro failed position _
    exact failed position

end Search

/-- Each counted step moves, so that a repetition that ends where it started has counted none. -/
theorem repeatStep_unmoved {step : State → Bool × State}
    (matched : ∀ {state after}, step state = (true, after) → state.LeadsTo after)
    (failed : ∀ {state after}, step state = (false, after) → after = state)
    {limit count : Nat} {state : State}
    (unmoved : (repeatStep step limit count state).2.cursor.position = state.cursor.position) :
    (repeatStep step limit count state).1 = count := by
  cases limit with
  | zero => rfl
  | succ limit =>
    rw [repeatStep] at unmoved ⊢
    split at unmoved
    · rfl
    · rename_i after stepped
      split at unmoved
      · rename_i same
        rw [if_pos same]
      · rename_i moved
        have first := (matched stepped).moved.position_le
        have others : after.LeadsTo (repeatStep step limit (count + 1) after).2 :=
          leadsTo_runClosed.repeatStep matched failed limit (count + 1) after
        have onwards := others.moved.position_le
        omega

mutual

/-- A pattern that matches somewhere without moving also matches where the text has ended. Its
consuming parts did not take part, and no code point follows that could forbid the match. -/
theorem run_ended : ∀ (pattern : Pattern) {state after ended : State},
    pattern.run state = (true, after) → after.cursor.position = state.cursor.position →
      ended.cursor.rest = [] → ∃ last, pattern.run ended = (true, last)
  | oneOf _, _, _, _, matched, unmoved, _ => by
    obtain ⟨c, behind, _, passes, rfl⟩ := run_oneOf_iff.mp matched
    exact absurd (passes.position_eq_iff.mp unmoved) (List.cons_ne_nil c [])
  | char expected, _, _, _, matched, unmoved, _ => by
    obtain ⟨behind, passes, rfl⟩ := run_char_iff.mp matched
    exact absurd (passes.position_eq_iff.mp unmoved) (List.cons_ne_nil expected [])
  | literal _, _, _, ended, matched, unmoved, _ => by
    obtain ⟨behind, passes, rfl⟩ := run_literal_iff.mp matched
    obtain rfl := passes.position_eq_iff.mp unmoved
    exact ⟨_, run_literal_iff.mpr ⟨ended.cursor, Cursor.passes_nil_iff.mpr rfl, rfl⟩⟩
  | keyword _, _, _, ended, matched, unmoved, _ => by
    obtain ⟨word, behind, agree, passes, rfl⟩ := run_keyword_iff.mp matched
    obtain rfl := passes.position_eq_iff.mp unmoved
    exact ⟨_, run_keyword_iff.mpr
      ⟨[], ended.cursor, agree, Cursor.passes_nil_iff.mpr rfl, rfl⟩⟩
  | seq items, _, _, _, matched, unmoved, atEnd => by
    obtain ⟨last, run⟩ := runAll_ended items (run_seq_iff.mp matched) unmoved atEnd
    exact ⟨last, run_seq_iff.mpr run⟩
  | choice alternatives, _, _, _, matched, unmoved, atEnd =>
    run_choice_ended alternatives matched unmoved atEnd
  | rounds item least most, state, _, _, matched, unmoved, _ => by
    rw [run_rounds_eq] at matched
    split at matched
    · simp at matched
    · rename_i enough
      obtain rfl := (Prod.mk.inj matched).2
      have uncounted : (repeatStep item.run (stepLimit most state) 0 state).1 = 0 :=
        repeatStep_unmoved (leadsTo_runClosed.run item) (run_eq_false item) unmoved
      rw [run_rounds_eq, if_neg (by omega)]
      exact ⟨_, rfl⟩
  | capture group inner, _, _, _, matched, unmoved, atEnd => by
    obtain ⟨middle, innerMatched, rfl⟩ := run_capture_iff.mp matched
    obtain ⟨last, run⟩ := run_ended inner innerMatched unmoved atEnd
    exact ⟨_, run_capture_iff.mpr ⟨last, run, rfl⟩⟩
  | notFollowedBy _, _, _, ended, _, _, atEnd => by
    refine ⟨ended, run_notFollowedBy_iff.mpr ⟨?_, rfl⟩⟩
    simp [atEnd]

theorem runAll_ended : ∀ (items : List Pattern) {state after ended : State},
    runAll items state = (true, after) → after.cursor.position = state.cursor.position →
      ended.cursor.rest = [] → ∃ last, runAll items ended = (true, last)
  | [], _, _, ended, _, _, _ => ⟨ended, rfl⟩
  | item :: later, _, _, _, matched, unmoved, atEnd => by
    obtain ⟨middle, first, rest⟩ := runAll_cons_iff.mp matched
    have toMiddle := (leadsTo_runClosed.run item first).moved.position_le
    have fromMiddle := (leadsTo_runClosed.runAll later rest).moved.position_le
    obtain ⟨reached, run⟩ := run_ended item first (by omega) atEnd
    have stayed := (leadsTo_runClosed.run item run).moved.eq_of_ended atEnd
    obtain ⟨last, run'⟩ := runAll_ended later rest (by omega) (by rw [stayed, atEnd])
    exact ⟨last, runAll_cons_iff.mpr ⟨reached, run, run'⟩⟩

theorem run_choice_ended : ∀ (alternatives : List Pattern) {state after ended : State},
    (choice alternatives).run state = (true, after) →
      after.cursor.position = state.cursor.position →
      ended.cursor.rest = [] → ∃ last, (choice alternatives).run ended = (true, last)
  | [], _, _, _, matched, _, _ => by simp [run, runFirst] at matched
  | alternative :: others, state, after, ended, matched, unmoved, atEnd => by
    simp only [run_choice_cons_iff] at matched ⊢
    rcases matched with chosen | ⟨_, later⟩
    · obtain ⟨last, run⟩ := run_ended alternative chosen unmoved atEnd
      exact ⟨last, Or.inl run⟩
    · -- at the end an alternative may match that did not match before
      by_cases earlier : ∃ last, alternative.run ended = (true, last)
      · obtain ⟨last, run⟩ := earlier
        exact ⟨last, Or.inl run⟩
      · obtain ⟨last, run⟩ := run_choice_ended others later unmoved atEnd
        have failed := run_eq_false_iff.mpr fun last run => earlier ⟨last, run⟩
        exact ⟨last, Or.inr ⟨failed, run⟩⟩

end

theorem accepts_nil_iff_matchAt? {pattern : Pattern} :
    pattern.accepts [] = true ↔ pattern.matchAt? [] 0 = some ⟨0, 0⟩ := by
  rw [accepts, Option.any_eq_true]
  constructor
  · rintro ⟨⟨start, stop⟩, matched, covers⟩
    obtain rfl : start = 0 := (boundary_of_matchAt? matched).1
    obtain rfl : stop = 0 := beq_iff_eq.mp covers
    exact matched
  · intro matched
    exact ⟨⟨0, 0⟩, matched, rfl⟩

/-- To match the empty text is to match nothing somewhere. -/
theorem accepts_nil_iff {pattern : Pattern} :
    pattern.accepts [] = true ↔
      ∃ text position, pattern.matchAt? text position = some ⟨position, position⟩ := by
  rw [accepts_nil_iff_matchAt?]
  constructor
  · intro matched
    exact ⟨[], 0, matched⟩
  · rintro ⟨text, position, matched⟩
    obtain ⟨⟨_, captures⟩, submatch, rfl⟩ := Option.map_eq_some_iff.mp matched
    obtain ⟨cursor, here, matched⟩ := Option.bind_eq_some_iff.mp submatch
    obtain ⟨behind, run, ends⟩ := matchFrom?_eq_some_iff.mp matched
    obtain ⟨starts, stops⟩ := Span.mk.inj ends
    have atEnd : (State.mk (.start []) {}).cursor.rest = [] := rfl
    obtain ⟨last, run'⟩ := run_ended pattern run (stops.symm.trans starts) atEnd
    have stayed := (leadsTo_runClosed.run pattern run').moved.eq_of_ended atEnd
    have found : pattern.matchFrom? (.start []) = some (⟨0, 0⟩, last.captures) :=
      matchFrom?_eq_some_iff.mpr ⟨last.cursor, run', by rw [stayed]; rfl⟩
    rw [matchAt?, submatchesAt?]
    exact Option.map_eq_some_iff.mpr ⟨_, Option.bind_eq_some_iff.mpr ⟨.start [], rfl, found⟩, rfl⟩

/-- What matches the empty text matches at the end of every text, since matching looks only ahead. -/
theorem matchAt?_byteSize {pattern : Pattern} (empty : pattern.accepts [] = true)
    (text : List Char) :
    pattern.matchAt? text (Text.byteSize text) =
      some ⟨Text.byteSize text, Text.byteSize text⟩ := by
  obtain ⟨found, submatch, covers⟩ :=
    Option.map_eq_some_iff.mp (accepts_nil_iff_matchAt?.mp empty)
  have moved := pattern.submatchesAt?_append text [] 0
  rw [List.append_nil, Nat.add_zero, submatch, Option.map_some] at moved
  rw [matchAt?, moved, Option.map_some, Prod.map_fst, covers]
  rfl

/-- The first match in a text starts before every other place where the pattern matches, and none is
found exactly if the pattern matches at no offset at all, be it between code points or inside one. A
pattern that can match nothing, in the empty text or anywhere else, is found at the end of the text at
the latest. -/
theorem find?_leftmost (pattern : Pattern) (text : List Char) :
    (∀ span, pattern.find? text = some span ↔
      pattern.matchAt? text span.start = some span ∧
        ∀ earlier < span.start, pattern.matchAt? text earlier = none) ∧
    (pattern.find? text = none ↔ ∀ position, pattern.matchAt? text position = none) ∧
    (pattern.accepts [] = true ↔
      ∃ other position, pattern.matchAt? other position = some ⟨position, position⟩) ∧
    (pattern.accepts [] = true →
      ∃ span, pattern.find? text = some span ∧ span.start ≤ Text.byteSize text) := by
  refine ⟨fun _ => find?_eq_some_iff, find?_eq_none_iff, accepts_nil_iff, ?_⟩
  intro empty
  have atEnd := matchAt?_byteSize empty text
  cases found : pattern.find? text with
  | none =>
    rw [find?_eq_none_iff.mp found] at atEnd
    simp at atEnd
  | some span =>
    refine ⟨span, rfl, Nat.le_of_not_lt fun past => ?_⟩
    rw [(find?_eq_some_iff.mp found).2 _ past] at atEnd
    simp at atEnd

/-- Before code points of two and three bytes, and inside them, the pattern does not match, so that
it is found at the end. -/
theorem find?_leftmost_atEnd :
    let pattern := notFollowedBy .nonAscii
    let text := ['é', '€']
    pattern.accepts [] = true ∧ pattern.find? text = some ⟨5, 5⟩ ∧
      (∃ span, pattern.find? text = some span ∧ span.start ≤ 5) ∧
      ∀ earlier < 5, pattern.matchAt? text earlier = none := by
  intro pattern text
  have empty : pattern.accepts [] = true := by decide
  have found : pattern.find? text = some ⟨5, 5⟩ := by decide
  obtain ⟨leftmost, _, _, latest⟩ := find?_leftmost pattern text
  exact ⟨empty, found, latest empty, ((leftmost _).mp found).2⟩

end Pattern

end SqlIdentifier
