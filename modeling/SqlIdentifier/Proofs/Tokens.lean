import SqlIdentifier.Proofs.Shape

namespace SqlIdentifier.Grammar

open Pattern Identifier

theorem run_regularToken_iff {start part : CharClass} {state after : State} :
    (regularToken start part).run state = (true, after) ↔
      ∃ first parts behind, start.contains first = true ∧
        (∀ c ∈ parts, part.contains c = true) ∧
        (∀ c ∈ behind.rest.head?, part.contains c = false) ∧
        state.cursor.Passes (first :: parts) behind ∧ after = { state with cursor := behind } := by
  simp only [regularToken, run_seq_iff, runAll_cons_iff, runAll_nil_iff, run_oneOf_iff,
    run_rounds_oneOf_iff]
  constructor
  · intro matched
    obtain ⟨_, ⟨first, middle, starts, passes, rfl⟩, _,
      ⟨parts, behind, continues, _, complete, _, later, rfl⟩, rfl⟩ := matched
    have outside := complete.resolve_right (by simp)
    exact ⟨first, parts, behind, starts, continues, outside, passes.trans later, rfl⟩
  · intro found
    obtain ⟨first, parts, behind, starts, continues, outside, passes, rfl⟩ := found
    obtain ⟨middle, one, later⟩ := Cursor.passes_cons_iff.mp passes
    exact ⟨_, ⟨first, middle, starts, one, rfl⟩, _,
      ⟨parts, behind, continues, by simp, Or.inl outside, Nat.zero_le _, later, rfl⟩, rfl⟩

/-- With a bound the whole run has to fit: the look-ahead refuses every shorter piece of it. -/
theorem run_cappedRegular_iff {mostParts : Nat} {start part : CharClass} {state after : State} :
    (cappedRegular mostParts start part).run state = (true, after) ↔
      ∃ first parts behind, start.contains first = true ∧
        (∀ c ∈ parts, part.contains c = true) ∧ parts.length ≤ mostParts ∧
        (∀ c ∈ behind.rest.head?, part.contains c = false) ∧
        state.cursor.Passes (first :: parts) behind ∧ after = { state with cursor := behind } := by
  simp only [cappedRegular, run_seq_iff, runAll_cons_iff, runAll_nil_iff, run_oneOf_iff,
    run_rounds_oneOf_iff, run_notFollowedBy_iff]
  constructor
  · intro matched
    obtain ⟨_, ⟨first, middle, starts, passes, rfl⟩, _,
      ⟨parts, behind, continues, bounded, _, _, later, rfl⟩, _, ⟨outside, rfl⟩, rfl⟩ := matched
    exact ⟨first, parts, behind, starts, continues, bounded mostParts rfl, outside,
      passes.trans later, rfl⟩
  · intro found
    obtain ⟨first, parts, behind, starts, continues, bounded, outside, passes, rfl⟩ := found
    obtain ⟨middle, one, later⟩ := Cursor.passes_cons_iff.mp passes
    exact ⟨_, ⟨first, middle, starts, one, rfl⟩, _,
      ⟨parts, behind, continues, by simpa using bounded, Or.inl outside, Nat.zero_le _, later, rfl⟩,
      _, ⟨outside, rfl⟩, rfl⟩

theorem quotedUnit_reads : quotedUnit.Reads QuotedUnit := by
  intro state after
  have noChoice : ¬ (choice []).run state = (true, after) := by simp [run, runFirst]
  rw [quotedUnit, run_choice_cons_iff, run_choice_cons_iff, run_oneOf_iff, run_literal_iff,
    (oneOf_reads _).run_eq_false_iff, CharClass.startsNoItem_iff]
  constructor
  · intro matched
    rcases matched with ⟨c, behind, member, passes, moved⟩ | ⟨_, ⟨behind, passes, moved⟩ | ⟨_, chosen⟩⟩
    · exact ⟨[c], behind, Or.inl ⟨c, CharClass.notDoubleQuote_contains_iff.mp member, rfl⟩,
        passes, moved⟩
    · exact ⟨['"', '"'], behind, Or.inr rfl, passes, moved⟩
    · exact absurd chosen noChoice
  · intro found
    obtain ⟨_, behind, ⟨c, plain, rfl⟩ | rfl, passes, moved⟩ := found
    · exact Or.inl ⟨c, behind, CharClass.notDoubleQuote_contains_iff.mpr plain, passes, moved⟩
    · refine Or.inr ⟨?_, Or.inl ⟨behind, passes, moved⟩⟩
      intro c first
      rw [passes.rest] at first
      cases Option.some.inj first
      rfl

/-- Quote, body and quote, and what follows them: the body is the possessive run of units that a
single quote ends. -/
theorem runAll_quoted_iff {most : Option Nat} {later : List Pattern} {state after : State} :
    runAll (quoted most ++ later) state = (true, after) ↔
      ∃ (body : Body) (behind : Cursor),
        PossessiveRun QuotedUnit most body.units ('"' :: behind.rest) ∧
        state.cursor.Passes ('"' :: (body.text ++ ['"'])) behind ∧
        runAll later ⟨behind, state.captures.record .body
          ⟨state.cursor.position + 1, state.cursor.position + 1 + Text.byteSize body.text⟩⟩ =
            (true, after) := by
  simp only [quoted, List.cons_append, List.nil_append, runAll_cons_iff, run_char_iff,
    run_capture_iff, quotedUnit_reads.run_rounds_iff quotedUnit_prefixCode]
  have quoteSize (position : Nat) : position + Text.byteSize ['"'] = position + 1 := rfl
  constructor
  · intro matched
    obtain ⟨_, ⟨opened, opening, rfl⟩, _, ⟨_, ⟨units, ended, run, enough, inner, rfl⟩, rfl⟩, _,
      ⟨behind, closing, rfl⟩, matched⟩ := matched
    have nonempty : units ≠ [] := List.length_pos_iff.mp enough
    refine ⟨⟨units, nonempty, run.areItems⟩, behind, ?_, opening.trans (inner.trans closing), ?_⟩
    · have closed := closing.rest
      simp only [List.singleton_append] at closed
      rwa [← closed]
    · simpa only [inner.position, opening.position, quoteSize, Body.text] using matched
  · intro found
    obtain ⟨body, behind, run, passes, matched⟩ := found
    obtain ⟨opened, opening, passes⟩ := Cursor.passes_cons_iff.mp passes
    obtain ⟨ended, inner, closing⟩ := Cursor.passes_append_iff.mp passes
    refine ⟨_, ⟨opened, opening, rfl⟩, _, ⟨_, ⟨body.units, ended, ?_, ?_, inner, rfl⟩, rfl⟩, _,
      ⟨behind, closing, rfl⟩, ?_⟩
    · have closed := closing.rest
      simp only [List.singleton_append] at closed
      rwa [closed]
    · exact List.length_pos_iff.mpr body.nonempty
    · simpa only [inner.position, opening.position, quoteSize, Body.text] using matched

theorem run_optionalWhiteSpace_iff {state after : State} :
    optionalWhiteSpace.run state = (true, after) ↔
      ∃ blanks behind, (∀ c ∈ blanks, CharClass.whiteSpace.contains c = true) ∧
        (∀ c ∈ behind.rest.head?, CharClass.whiteSpace.contains c = false) ∧
        state.cursor.Passes blanks behind ∧ after = { state with cursor := behind } := by
  simp only [optionalWhiteSpace, run_rounds_oneOf_iff]
  constructor
  · intro matched
    obtain ⟨blanks, behind, members, _, complete, _, passes, moved⟩ := matched
    exact ⟨blanks, behind, members, complete.resolve_right (by simp), passes, moved⟩
  · intro found
    obtain ⟨blanks, behind, members, outside, passes, moved⟩ := found
    exact ⟨blanks, behind, members, by simp, Or.inl outside, Nat.zero_le _, passes, moved⟩

/-- The item of the clause's pattern reads a whole clause; a clause that breaks off anywhere leaves
nothing behind, since the sequence returns to its start. -/
theorem run_clause_iff {state after : State} :
    (seq [optionalWhiteSpace, keyword "UESCAPE".toList, optionalWhiteSpace, char '\'',
      capture .escape (oneOf .escapeCharacter), char '\'']).run state = (true, after) ↔
      ∃ (clause : Clause) (behind : Cursor), state.cursor.Passes clause.text behind ∧
        after = ⟨behind, state.captures.record .escape
          (clause.escapeSpan state.cursor.position)⟩ := by
  simp only [run_seq_iff, runAll_cons_iff, runAll_nil_iff, run_optionalWhiteSpace_iff,
    run_keyword_iff, run_char_iff, run_capture_iff, run_oneOf_iff]
  constructor
  · intro matched
    obtain ⟨_, ⟨before, c1, beforeBlank, _, passBefore, rfl⟩, _,
      ⟨word, c2, isKeyword, passWord, rfl⟩, _, ⟨between, c3, betweenBlank, _, passBetween, rfl⟩, _,
      ⟨c4, passQuote, rfl⟩, _, ⟨_, ⟨escape, c5, isEscape, passEscape, rfl⟩, rfl⟩, _,
      ⟨behind, passClosing, rfl⟩, rfl⟩ := matched
    refine ⟨⟨before, word, between, escape, beforeBlank, isKeyword, betweenBlank, isEscape⟩, behind,
      ?_, ?_⟩
    · exact passBefore.trans (passWord.trans (passBetween.trans
        (passQuote.trans (passEscape.trans passClosing))))
    · have start := (passBefore.trans (passWord.trans (passBetween.trans passQuote))).position
      rw [Clause.escapeSpan, ← start, passEscape.position]
      rfl
  · intro found
    obtain ⟨clause, behind, passes, rfl⟩ := found
    obtain ⟨c1, passBefore, passes⟩ := Cursor.passes_append_iff.mp passes
    obtain ⟨c2, passWord, passes⟩ := Cursor.passes_append_iff.mp passes
    obtain ⟨c3, passBetween, passes⟩ := Cursor.passes_append_iff.mp passes
    obtain ⟨c4, passQuote, passes⟩ := Cursor.passes_cons_iff.mp passes
    obtain ⟨c5, passEscape, passClosing⟩ := Cursor.passes_cons_iff.mp passes
    have wordNext := clause.word_not_blank c2.rest
    rw [← passWord.rest] at wordNext
    have quoteNext := Clause.quote_not_blank c4.rest
    rw [← List.singleton_append, ← passQuote.rest] at quoteNext
    refine ⟨_, ⟨clause.before, c1, clause.beforeBlank, wordNext, passBefore, rfl⟩, _,
      ⟨clause.word, c2, clause.isKeyword, passWord, rfl⟩, _,
      ⟨clause.between, c3, clause.betweenBlank, quoteNext, passBetween, rfl⟩, _,
      ⟨c4, passQuote, rfl⟩, _, ⟨_, ⟨clause.escape, c5, clause.isEscape, passEscape, rfl⟩, rfl⟩, _,
      ⟨behind, passClosing, rfl⟩, ?_⟩
    have start := (passBefore.trans (passWord.trans (passBetween.trans passQuote))).position
    rw [Clause.escapeSpan, ← start, passEscape.position]
    rfl

/-- The optional clause matches everywhere: it takes a whole clause or nothing. -/
theorem run_escapeClause_iff {state after : State} :
    escapeClause.run state = (true, after) ↔
      (∃ (clause : Clause) (behind : Cursor), state.cursor.Passes clause.text behind ∧
        after = ⟨behind, state.captures.record .escape
          (clause.escapeSpan state.cursor.position)⟩) ∨
      (∀ (clause : Clause) more, state.cursor.rest ≠ clause.text ++ more) ∧ after = state := by
  rw [escapeClause, run_optional_iff, run_clause_iff, Pattern.run_eq_false_iff]
  simp only [ne_eq, run_clause_iff, not_exists, not_and]
  constructor
  · intro matched
    rcases matched with found | ⟨noClause, rfl⟩
    · exact Or.inl found
    · refine Or.inr ⟨?_, rfl⟩
      intro clause more ahead
      obtain ⟨behind, passes, _⟩ := Cursor.exists_passes ahead
      exact noClause _ clause behind passes rfl
  · intro found
    rcases found with found | ⟨noClause, rfl⟩
    · exact Or.inl found
    · refine Or.inr ⟨?_, rfl⟩
      intro _ clause behind passes _
      exact noClause clause behind.rest passes.rest

/-- A form's pattern, run from a cursor with nothing recorded, matches exactly the closed shape of
that form which stands there. -/
def MatchesShapes (pattern : Pattern) (kind : Kind) : Prop :=
  ∀ cursor after, pattern.run { cursor } = (true, after) ↔
    ∃ (shape : Shape) (behind : Cursor), shape.kind = kind ∧ cursor.Passes shape.text behind ∧
      shape.ClosedBy behind.rest ∧ after = ⟨behind, shape.captures cursor.position⟩

theorem isoPostgresRegularToken_matchesShapes :
    MatchesShapes isoPostgresRegularToken .regular := by
  intro cursor after
  rw [isoPostgresRegularToken, run_regularToken_iff]
  constructor
  · intro matched
    obtain ⟨first, parts, behind, starts, continues, outside, passes, moved⟩ := matched
    exact ⟨.regular first parts starts continues, behind, rfl, passes, outside, moved⟩
  · intro found
    obtain ⟨shape, behind, isRegular, passes, closed, moved⟩ := found
    cases shape with
    | regular first parts starts continues =>
      exact ⟨first, parts, behind, starts, continues, closed, passes, moved⟩
    | delimited => simp [Shape.kind] at isRegular
    | unicodeDelimited => simp [Shape.kind] at isRegular

/-- Without a bound the body's run of units is complete if its quote is not doubled. -/
theorem possessiveRun_body_iff {body : Body} {after : List Char} :
    PossessiveRun QuotedUnit none body.units ('"' :: after) ↔ after.head? ≠ some '"' := by
  rw [← startsNoItem_quote_iff]
  constructor
  · intro run
    exact run.complete.resolve_right (by simp)
  · intro ended
    exact ⟨body.areUnits, by simp, Or.inl ended⟩

theorem delimitedToken_matchesShapes : MatchesShapes delimitedToken .delimited := by
  intro cursor after
  rw [delimitedToken, run_seq_iff, ← List.append_nil (quoted none), runAll_quoted_iff]
  simp only [possessiveRun_body_iff, runAll_nil_iff]
  constructor
  · intro matched
    obtain ⟨body, behind, single, passes, moved⟩ := matched
    exact ⟨.delimited body, behind, rfl, passes, single, moved⟩
  · intro found
    obtain ⟨shape, behind, isDelimited, passes, closed, moved⟩ := found
    cases shape with
    | regular => simp [Shape.kind] at isDelimited
    | delimited body => exact ⟨body, behind, closed, passes, moved⟩
    | unicodeDelimited => simp [Shape.kind] at isDelimited

theorem unicodePrefix_position {cursor opened : Cursor} {letter : Char}
    (isLetter : letter ∈ ['U', 'u']) (first : cursor.Passes [letter, '&'] opened) :
    opened.position = cursor.position + 2 := by
  rw [first.position, Text.byteSize_cons, Text.utf8Size_unicodeLetter letter isLetter]
  rfl

theorem run_unicodePrefix_iff {later : List Pattern} {state after : State} :
    runAll ([oneOf (.chars ['U', 'u']), char '&'] ++ later) state = (true, after) ↔
      ∃ letter behind, letter ∈ ['U', 'u'] ∧ state.cursor.Passes [letter, '&'] behind ∧
        runAll later { state with cursor := behind } = (true, after) := by
  simp only [List.cons_append, List.nil_append, runAll_cons_iff, run_oneOf_iff, run_char_iff,
    CharClass.contains, List.contains_iff_mem]
  constructor
  · intro matched
    obtain ⟨_, ⟨letter, middle, isLetter, passes, rfl⟩, _, ⟨behind, more, rfl⟩, rest⟩ := matched
    exact ⟨letter, behind, isLetter, passes.trans more, rest⟩
  · intro found
    obtain ⟨letter, behind, isLetter, passes, rest⟩ := found
    obtain ⟨middle, one, more⟩ := Cursor.passes_cons_iff.mp passes
    exact ⟨_, ⟨letter, middle, isLetter, one, rfl⟩, _, ⟨behind, more, rfl⟩, rest⟩

/-- The prefix and the quoted body behind it, with the places in which they leave the cursor. -/
theorem passes_unicode_iff {cursor behind : Cursor} {letter : Char} {body : Body}
    {clause : List Char} :
    cursor.Passes (letter :: '&' :: '"' :: (body.text ++ '"' :: clause)) behind ↔
      ∃ opened closed, cursor.Passes [letter, '&'] opened ∧
        opened.Passes ('"' :: (body.text ++ ['"'])) closed ∧ closed.Passes clause behind := by
  have parts : letter :: '&' :: '"' :: (body.text ++ '"' :: clause) =
      [letter, '&'] ++ ('"' :: (body.text ++ ['"']) ++ clause) := by simp
  rw [parts, Cursor.passes_append_iff]
  constructor
  · intro passes
    obtain ⟨opened, first, later⟩ := passes
    obtain ⟨closed, quoted, last⟩ := Cursor.passes_append_iff.mp later
    exact ⟨opened, closed, first, quoted, last⟩
  · intro passes
    obtain ⟨opened, closed, first, quoted, last⟩ := passes
    exact ⟨opened, first, quoted.trans last⟩

theorem unicodeDelimited_matchesShapes : MatchesShapes unicodeDelimited .unicodeDelimited := by
  intro cursor after
  rw [unicodeDelimited, run_seq_iff, List.append_assoc, run_unicodePrefix_iff]
  simp only [runAll_quoted_iff, possessiveRun_body_iff, runAll_cons_iff, runAll_nil_iff,
    run_escapeClause_iff]
  have closedPosition {opened closed : Cursor} {body : Body}
      (quoted : opened.Passes ('"' :: (body.text ++ ['"'])) closed) :
      closed.position = opened.position + 1 + Text.byteSize body.text + 1 := by
    rw [quoted.position, Text.byteSize_cons, Text.byteSize_append]
    show opened.position + (1 + (Text.byteSize body.text + 1)) = _
    omega
  constructor
  · intro matched
    obtain ⟨letter, opened, isLetter, first, body, closed, single, quoted, _, clause, rfl⟩ := matched
    have openedAt := unicodePrefix_position isLetter first
    rcases clause with ⟨clause, behind, named, rfl⟩ | ⟨noClause, rfl⟩
    · refine ⟨.unicodeDelimited letter isLetter body (some clause), behind, rfl,
        passes_unicode_iff.mpr ⟨opened, closed, first, quoted, named⟩, trivial, ?_⟩
      simp only [closedPosition quoted, openedAt]
      rfl
    · refine ⟨.unicodeDelimited letter isLetter body none, closed, rfl,
        passes_unicode_iff.mpr ⟨opened, closed, first, quoted, Cursor.passes_nil_iff.mpr rfl⟩,
        ⟨single, noClause⟩, ?_⟩
      simp only [openedAt]
      rfl
  · intro found
    obtain ⟨shape, behind, isUnicode, passes, isClosed, rfl⟩ := found
    cases shape with
    | regular => simp [Shape.kind] at isUnicode
    | delimited => simp [Shape.kind] at isUnicode
    | unicodeDelimited letter isLetter body clause =>
      obtain ⟨opened, closed, first, quoted, last⟩ := passes_unicode_iff.mp passes
      have openedAt := unicodePrefix_position isLetter first
      have single := Shape.head?_clause_append isClosed
      rw [← last.rest] at single
      refine ⟨letter, opened, isLetter, first, body, closed, single, quoted, _, ?_, rfl⟩
      cases clause with
      | some clause =>
        refine Or.inl ⟨clause, behind, last, ?_⟩
        simp only [closedPosition quoted, openedAt]
        rfl
      | none =>
        obtain rfl := Cursor.passes_nil_iff.mp last
        refine Or.inr ⟨isClosed.2, ?_⟩
        simp only [openedAt]
        rfl

/-- Each form of an identifier is recognised by its own shapes and by no others. -/
theorem forms_matchShapes {form : Form} (listed : form ∈ forms) :
    MatchesShapes form.pattern form.kind := by
  simp only [forms, List.mem_cons, List.not_mem_nil, or_false] at listed
  rcases listed with rfl | rfl | rfl
  · exact isoPostgresRegularToken_matchesShapes
  · exact delimitedToken_matchesShapes
  · exact unicodeDelimited_matchesShapes

end SqlIdentifier.Grammar
