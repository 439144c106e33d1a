import SqlIdentifier.Pattern
import SqlIdentifier.Proofs.Passage

namespace SqlIdentifier.Pattern

theorem State.moveTo_eq_true_iff {state after : State} {found : Option Cursor} :
    state.moveTo found = (true, after) ↔
      ∃ behind, found = some behind ∧ after = { state with cursor := behind } := by
  cases found with
  | none => simp [State.moveTo]
  | some behind =>
    simp only [State.moveTo, Prod.mk.injEq, true_and, Option.some.injEq, exists_eq_left']
    exact eq_comm

theorem State.moveTo_eq_false {state after : State} {found : Option Cursor}
    (failed : state.moveTo found = (false, after)) : after = state := by
  cases found with
  | none => exact (Prod.mk.inj failed).2.symm
  | some behind => simp [State.moveTo] at failed

mutual

/-- A pattern that does not match leaves cursor and captures as they were, whatever part of it has
matched before. Choices and captures rely on this for the patterns inside them. -/
theorem run_eq_false : ∀ (pattern : Pattern) {state after : State},
    pattern.run state = (false, after) → after = state
  | oneOf _, _, _, failed => State.moveTo_eq_false (by simpa only [run] using failed)
  | char _, _, _, failed => State.moveTo_eq_false (by simpa only [run] using failed)
  | literal _, _, _, failed => State.moveTo_eq_false (by simpa only [run] using failed)
  | keyword _, _, _, failed => State.moveTo_eq_false (by simpa only [run] using failed)
  | seq items, state, after, failed => by
    unfold run at failed
    split at failed
    · simp at failed
    · exact (Prod.mk.inj failed).2.symm
  | choice alternatives, _, _, failed =>
    runFirst_eq_false alternatives (by simpa only [run] using failed)
  | rounds item least most, state, after, failed => by
    unfold run at failed
    split at failed
    split at failed
    · exact (Prod.mk.inj failed).2.symm
    · simp at failed
  | capture group inner, state, after, failed => by
    unfold run at failed
    split at failed
    · rename_i innerAfter innerFailed
      have unchanged := run_eq_false inner innerFailed
      rw [← unchanged]
      exact (Prod.mk.inj failed).2.symm
    · simp at failed
  | notFollowedBy k, state, after, failed => by
    simp only [run, Prod.mk.injEq] at failed
    exact failed.2.symm

theorem runFirst_eq_false : ∀ (alternatives : List Pattern) {state after : State},
    runFirst alternatives state = (false, after) → after = state
  | [], _, _, failed => (Prod.mk.inj failed).2.symm
  | alternative :: others, state, after, failed => by
    unfold runFirst at failed
    split at failed
    · simp at failed
    · rename_i middle firstFailed
      have unchanged := run_eq_false alternative firstFailed
      rw [unchanged] at failed
      exact runFirst_eq_false others failed

end

theorem run_oneOf_iff {k : CharClass} {state after : State} :
    (oneOf k).run state = (true, after) ↔
      ∃ c behind, k.contains c = true ∧ state.cursor.Passes [c] behind ∧
        after = { state with cursor := behind } := by
  simp only [run, State.moveTo_eq_true_iff, Option.map_eq_some_iff, Prod.exists,
    Cursor.nextIf?_eq_some_iff]
  constructor
  · intro matched
    obtain ⟨_, ⟨c, behind, ⟨member, passes⟩, rfl⟩, moved⟩ := matched
    exact ⟨c, behind, member, passes, moved⟩
  · intro found
    obtain ⟨c, behind, member, passes, moved⟩ := found
    exact ⟨behind, ⟨c, behind, ⟨member, passes⟩, rfl⟩, moved⟩

theorem run_char_iff {expected : Char} {state after : State} :
    (char expected).run state = (true, after) ↔
      ∃ behind, state.cursor.Passes [expected] behind ∧ after = { state with cursor := behind } := by
  simp only [run, State.moveTo_eq_true_iff, Cursor.accept?_eq_some_iff]

theorem run_literal_iff {expected : List Char} {state after : State} :
    (literal expected).run state = (true, after) ↔
      ∃ behind, state.cursor.Passes expected behind ∧ after = { state with cursor := behind } := by
  simp only [run, State.moveTo_eq_true_iff, Cursor.acceptText?_eq_some_iff]

theorem run_keyword_iff {expected : List Char} {state after : State} :
    (keyword expected).run state = (true, after) ↔
      ∃ word behind, Text.eqIgnoringCase word expected = true ∧ state.cursor.Passes word behind ∧
        after = { state with cursor := behind } := by
  simp only [run, State.moveTo_eq_true_iff, Cursor.acceptWord?_eq_some_iff]
  constructor
  · intro matched
    obtain ⟨behind, ⟨word, agree, passes⟩, moved⟩ := matched
    exact ⟨word, behind, agree, passes, moved⟩
  · intro found
    obtain ⟨word, behind, agree, passes, moved⟩ := found
    exact ⟨behind, ⟨word, agree, passes⟩, moved⟩

theorem run_notFollowedBy_iff {k : CharClass} {state after : State} :
    (notFollowedBy k).run state = (true, after) ↔
      (∀ c ∈ state.cursor.rest.head?, k.contains c = false) ∧ after = state := by
  simp only [run, Prod.mk.injEq, Bool.not_eq_true', Cursor.peek?]
  rw [eq_comm (a := state)]
  cases state.cursor.rest with
  | nil => simp
  | cons c rest => simp

theorem run_seq_iff {items : List Pattern} {state after : State} :
    (seq items).run state = (true, after) ↔ runAll items state = (true, after) := by
  unfold run
  split
  · rename_i matched
    rw [matched]
  · rename_i failed
    simp [failed]

theorem runAll_nil_iff {state after : State} :
    runAll [] state = (true, after) ↔ after = state := by
  simp only [runAll, Prod.mk.injEq, true_and]
  exact eq_comm

theorem runAll_cons_iff {item : Pattern} {later : List Pattern} {state after : State} :
    runAll (item :: later) state = (true, after) ↔
      ∃ middle, item.run state = (true, middle) ∧ runAll later middle = (true, after) := by
  rw [runAll]
  split
  · rename_i failed
    simp [failed]
  · rename_i middle matched
    simp [matched]

theorem run_choice_cons_iff {alternative : Pattern} {others : List Pattern} {state after : State} :
    (choice (alternative :: others)).run state = (true, after) ↔
      alternative.run state = (true, after) ∨
        alternative.run state = (false, state) ∧ (choice others).run state = (true, after) := by
  simp only [run, runFirst]
  split
  · rename_i matched
    simp [matched]
  · rename_i middle failed
    have unchanged := run_eq_false alternative failed
    subst unchanged
    simp [failed]

theorem run_capture_iff {group : Group} {inner : Pattern} {state after : State} :
    (capture group inner).run state = (true, after) ↔
      ∃ middle, inner.run state = (true, middle) ∧
        after = { middle with
          captures := middle.captures.record group
            ⟨state.cursor.position, middle.cursor.position⟩ } := by
  rw [run]
  split
  · rename_i failed
    simp [failed]
  · rename_i middle matched
    simp only [matched, Prod.mk.injEq, true_and, exists_eq_left']
    exact eq_comm

/-- Whether a pattern matches is decided by whether it can end in any state. -/
theorem run_eq_false_iff {pattern : Pattern} {state : State} :
    pattern.run state = (false, state) ↔ ∀ after, pattern.run state ≠ (true, after) := by
  constructor
  · intro failed after matched
    rw [failed] at matched
    simp at matched
  · intro unmatched
    cases outcome : pattern.run state with
    | mk matched after =>
      cases matched with
      | false => rw [run_eq_false pattern outcome]
      | true => exact absurd outcome (unmatched after)

theorem run_rounds_eq (item : Pattern) (least : Nat) (most : Option Nat) (state : State) :
    (rounds item least most).run state =
      if (repeatStep item.run (stepLimit most state) 0 state).1 < least then (false, state)
      else (true, (repeatStep item.run (stepLimit most state) 0 state).2) := by
  rw [run]

/-- At most one round, and none needed: the pattern if it matches, and otherwise nothing. -/
theorem run_optional_iff {item : Pattern} {state after : State} :
    (rounds item 0 (some 1)).run state = (true, after) ↔
      item.run state = (true, after) ∨ item.run state = (false, state) ∧ after = state := by
  simp only [run, stepLimit, Option.getD_some, Nat.not_lt_zero, if_false, Prod.mk.injEq, true_and]
  rw [repeatStep]
  split
  · rename_i middle failed
    have unchanged := run_eq_false item failed
    subst unchanged
    simp only [failed, Prod.mk.injEq, Bool.false_eq_true, false_and, true_and, false_or]
    exact eq_comm
  · rename_i middle matched
    simp only [matched, repeatStep, Prod.mk.injEq, true_and, Bool.true_eq_false, false_and, or_false]
    split <;> rfl

theorem matchFrom?_eq_some_iff {pattern : Pattern} {cursor : Cursor} {span : Span}
    {captures : Captures} :
    pattern.matchFrom? cursor = some (span, captures) ↔
      ∃ behind, pattern.run { cursor } = (true, ⟨behind, captures⟩) ∧
        span = ⟨cursor.position, behind.position⟩ := by
  unfold matchFrom?
  split
  · rename_i failed
    simp [failed]
  · rename_i after matched
    obtain ⟨behind, recorded⟩ := after
    simp only [matched, Option.some.injEq, Prod.mk.injEq, true_and, State.mk.injEq]
    constructor
    · intro matched
      obtain ⟨rfl, rfl⟩ := matched
      exact ⟨behind, ⟨rfl, rfl⟩, rfl⟩
    · intro found
      obtain ⟨_, ⟨rfl, rfl⟩, rfl⟩ := found
      exact ⟨rfl, rfl⟩

end SqlIdentifier.Pattern
