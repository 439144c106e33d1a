import SqlIdentifier.Proofs.PatternRun

namespace SqlIdentifier

namespace Cursor

/-- The second cursor stands where the first one does or further on in the same text. -/
def Reaches (cursor behind : Cursor) : Prop :=
  ∃ taken, cursor.Passes taken behind

theorem Reaches.refl (cursor : Cursor) : cursor.Reaches cursor :=
  ⟨[], passes_nil_iff.mpr rfl⟩

theorem Reaches.trans {cursor middle behind : Cursor} (first : cursor.Reaches middle)
    (second : middle.Reaches behind) : cursor.Reaches behind := by
  obtain ⟨taken, passes⟩ := first
  obtain ⟨more, passes'⟩ := second
  exact ⟨taken ++ more, passes.trans passes'⟩

theorem Reaches.position_le {cursor behind : Cursor} (reaches : cursor.Reaches behind) :
    cursor.position ≤ behind.position := by
  obtain ⟨taken, passes⟩ := reaches
  have moved := passes.position
  omega

/-- The span starts and ends at cursors on the way from the one cursor to the other. -/
def Encloses (cursor behind : Cursor) (span : Span) : Prop :=
  ∃ first last, cursor.Reaches first ∧ first.Reaches last ∧ last.Reaches behind ∧
    span = ⟨first.position, last.position⟩

theorem Encloses.widen {cursor cursor' behind behind' : Cursor} {span : Span}
    (encloses : cursor.Encloses behind span) (before : cursor'.Reaches cursor)
    (after : behind.Reaches behind') : cursor'.Encloses behind' span := by
  obtain ⟨first, last, toFirst, between, fromLast, same⟩ := encloses
  exact ⟨first, last, before.trans toFirst, between, fromLast.trans after, same⟩

end Cursor

namespace Pattern

/-- A relation that lasts through the parts of a run: it holds of a state and itself, from one part
to the next, of every move over a text, and of recording what a run has passed. -/
structure RunClosed (Relates : State → State → Prop) : Prop where
  refl (state : State) : Relates state state
  trans {state middle after : State} :
    Relates state middle → Relates middle after → Relates state after
  move {state : State} {taken : List Char} {behind : Cursor} :
    state.cursor.Passes taken behind → Relates state { state with cursor := behind }
  record {state after : State} (group : Group) : Relates state after →
    Relates state { after with
      captures := after.captures.record group ⟨state.cursor.position, after.cursor.position⟩ }

section Closed

variable {Relates : State → State → Prop}

/-- The loop of a repetition only strings steps together: the step that ends it either fails, and
then changes nothing, or is kept. -/
theorem RunClosed.repeatStep (closed : RunClosed Relates) {step : State → Bool × State}
    (matched : ∀ {state after}, step state = (true, after) → Relates state after)
    (failed : ∀ {state after}, step state = (false, after) → after = state)
    (limit count : Nat) (state : State) :
    Relates state (repeatStep step limit count state).2 := by
  induction limit generalizing count state with
  | zero => exact closed.refl state
  | succ limit ih =>
    rw [Pattern.repeatStep]
    split
    · rename_i after stopped
      rw [failed stopped]
      exact closed.refl state
    · rename_i after stepped
      split
      · exact matched stepped
      · exact closed.trans (matched stepped) (ih (count + 1) after)

mutual

/-- Every match of a pattern relates the states before and after it. -/
theorem RunClosed.run (closed : RunClosed Relates) : ∀ (pattern : Pattern) {state after : State},
    pattern.run state = (true, after) → Relates state after
  | oneOf _, _, _, matched => by
    obtain ⟨c, behind, _, passes, rfl⟩ := run_oneOf_iff.mp matched
    exact closed.move passes
  | char _, _, _, matched => by
    obtain ⟨behind, passes, rfl⟩ := run_char_iff.mp matched
    exact closed.move passes
  | literal _, _, _, matched => by
    obtain ⟨behind, passes, rfl⟩ := run_literal_iff.mp matched
    exact closed.move passes
  | keyword _, _, _, matched => by
    obtain ⟨word, behind, _, passes, rfl⟩ := run_keyword_iff.mp matched
    exact closed.move passes
  | seq items, _, _, matched => closed.runAll items (run_seq_iff.mp matched)
  | choice alternatives, _, _, matched =>
    closed.runFirst alternatives (by simpa only [Pattern.run] using matched)
  | rounds item least most, state, after, matched => by
    have loop := closed.repeatStep (closed.run item) (run_eq_false item)
      (stepLimit most state) 0 state
    unfold Pattern.run at matched
    split at matched
    rename_i count reached looped
    rw [looped] at loop
    -- with too few rounds the repetition would have failed
    split at matched
    · simp at matched
    · rw [← (Prod.mk.inj matched).2]
      exact loop
  | capture group inner, _, _, matched => by
    obtain ⟨middle, innerMatched, rfl⟩ := run_capture_iff.mp matched
    exact closed.record group (closed.run inner innerMatched)
  | notFollowedBy _, _, _, matched => by
    obtain ⟨_, rfl⟩ := run_notFollowedBy_iff.mp matched
    exact closed.refl _

theorem RunClosed.runAll (closed : RunClosed Relates) :
    ∀ (items : List Pattern) {state after : State},
      runAll items state = (true, after) → Relates state after
  | [], _, _, matched => by
    rw [runAll_nil_iff.mp matched]
    exact closed.refl _
  | item :: later, _, _, matched => by
    obtain ⟨middle, first, rest⟩ := runAll_cons_iff.mp matched
    exact closed.trans (closed.run item first) (closed.runAll later rest)

theorem RunClosed.runFirst (closed : RunClosed Relates) :
    ∀ (alternatives : List Pattern) {state after : State},
      runFirst alternatives state = (true, after) → Relates state after
  | [], _, _, matched => by simp [Pattern.runFirst] at matched
  | alternative :: others, state, after, matched => by
    unfold Pattern.runFirst at matched
    split at matched
    · rename_i chosen
      rw [← (Prod.mk.inj matched).2]
      exact closed.run alternative chosen
    · rename_i middle failed
      rw [run_eq_false alternative failed] at matched
      exact closed.runFirst others matched

end

end Closed

/-- The second state is further on in the text, and each of its spans was recorded already in the
first one or lies between the two. -/
structure State.LeadsTo (state after : State) : Prop where
  moved : state.cursor.Reaches after.cursor
  recorded {group : Group} {span : Span} : after.captures.get? group = some span →
    state.captures.get? group = some span ∨ state.cursor.Encloses after.cursor span

theorem leadsTo_runClosed : RunClosed State.LeadsTo where
  refl state := ⟨.refl state.cursor, Or.inl⟩
  trans := by
    intro state middle after first second
    refine ⟨first.moved.trans second.moved, ?_⟩
    intro group span atAfter
    rcases second.recorded atAfter with atMiddle | later
    · exact (first.recorded atMiddle).imp_right fun earlier =>
        earlier.widen (.refl _) second.moved
    · exact Or.inr (later.widen first.moved (.refl _))
  move := fun passes => ⟨⟨_, passes⟩, Or.inl⟩
  record := by
    intro state after group earlier
    refine ⟨earlier.moved, ?_⟩
    intro other span atOther
    rw [Captures.get?_record] at atOther
    split at atOther
    · refine Or.inr ⟨state.cursor, after.cursor, .refl _, earlier.moved, .refl _, ?_⟩
      exact (Option.some.inj atOther).symm
    · exact earlier.recorded atOther

/-- After a failure the later alternatives start as if they were the first. -/
theorem run_choice_of_failed {pattern : Pattern} {state : State}
    (failed : pattern.run state = (false, state)) (others : List Pattern) :
    (choice (pattern :: others)).run state = (choice others).run state := by
  simp only [run, runFirst, failed]

/-- A repetition that fails in its first round, and needs none, passes over nothing. -/
theorem run_rounds_of_failed {pattern : Pattern} {state : State}
    (failed : pattern.run state = (false, state)) (most : Option Nat) :
    (rounds pattern 0 most).run state = (true, state) := by
  have stopped (limit : Nat) : repeatStep pattern.run limit 0 state = (0, state) := by
    cases limit with
    | zero => rfl
    | succ limit => simp only [repeatStep, failed]
  simp only [run, stopped, Nat.lt_irrefl, if_false]

/-- A pattern that fails at a place in a text leaves the cursor there and the spans recorded before
as they were, whatever parts of it have matched. So a choice goes on with its other alternatives, and
a repetition stops, as if the pattern had not been tried. -/
theorem run_failed_unchanged (pattern : Pattern) {text : List Char} {position : Nat}
    {cursor : Cursor} (captures : Captures) {after : State}
    (here : Cursor.at? text position = some cursor)
    (failed : pattern.run ⟨cursor, captures⟩ = (false, after)) :
    after.cursor.position = position ∧ after = ⟨cursor, captures⟩ ∧
      (∀ others, (choice (pattern :: others)).run ⟨cursor, captures⟩ =
        (choice others).run ⟨cursor, captures⟩) ∧
      ∀ most, (rounds pattern 0 most).run ⟨cursor, captures⟩ = (true, ⟨cursor, captures⟩) := by
  have unchanged := run_eq_false pattern failed
  rw [unchanged] at failed
  refine ⟨?_, unchanged, run_choice_of_failed failed, run_rounds_of_failed failed⟩
  rw [unchanged]
  exact (Cursor.at?_eq_some_iff.mp here).1

/-- Behind a letter of two bytes a round that passes over nothing has recorded a span before its
repetition fails for want of rounds. Both this span and that of the letter are gone. -/
theorem run_failed_unchanged_after_recording :
    let pattern := seq [capture .body (char 'é'),
      rounds (capture .escape (notFollowedBy (.chars ['é']))) 1 none]
    let state : State := ⟨⟨1, ['é', 'y']⟩, { body := some ⟨0, 1⟩ }⟩
    Cursor.at? ['x', 'é', 'y'] 1 = some state.cursor ∧ pattern.run state = (false, state) ∧
      (capture .body (char 'é')).run state = (true, ⟨⟨3, ['y']⟩, { body := some ⟨1, 3⟩ }⟩) ∧
      (rounds pattern 0 none).run state = (true, state) := by
  intro pattern state
  have here : Cursor.at? ['x', 'é', 'y'] 1 = some state.cursor := by decide
  have failed : pattern.run state = (false, state) := by decide
  have recorded : (capture .body (char 'é')).run state =
      (true, ⟨⟨3, ['y']⟩, { body := some ⟨1, 3⟩ }⟩) := by decide
  exact ⟨here, failed, recorded, (run_failed_unchanged pattern _ here failed).2.2.2 none⟩

end Pattern

end SqlIdentifier
