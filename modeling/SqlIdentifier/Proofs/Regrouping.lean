import SqlIdentifier.Grammar
import SqlIdentifier.Proofs.PatternRun

namespace SqlIdentifier.Pattern

/-- Two patterns that match alike from a state also fail alike, since a failure leaves no trace. -/
theorem run_ext {pattern pattern' : Pattern} {state : State}
    (alike : ∀ after, pattern.run state = (true, after) ↔ pattern'.run state = (true, after)) :
    pattern.run state = pattern'.run state := by
  cases outcome : pattern.run state with
  | mk matched after =>
    cases matched with
    | true => exact ((alike after).mp outcome).symm
    | false =>
      have unchanged := run_eq_false pattern outcome
      subst unchanged
      have unmatched := run_eq_false_iff.mp outcome
      symm
      refine run_eq_false_iff.mpr fun after matched => ?_
      exact unmatched after ((alike after).mpr matched)

theorem run_seq_append_iff {first later : List Pattern} {state after : State} :
    (seq (first ++ later)).run state = (true, after) ↔
      ∃ middle, (seq first).run state = (true, middle) ∧
        (seq later).run middle = (true, after) := by
  simp only [run_seq_iff]
  induction first generalizing state with
  | nil => simp only [List.nil_append, runAll_nil_iff, exists_eq_left]
  | cons item others ih =>
    simp only [List.cons_append, runAll_cons_iff, ih]
    constructor
    · rintro ⟨reached, matched, middle, rest, last⟩
      exact ⟨middle, ⟨reached, matched, rest⟩, last⟩
    · rintro ⟨middle, ⟨reached, matched, rest⟩, last⟩
      exact ⟨reached, matched, middle, rest, last⟩

theorem run_seq_singleton (pattern : Pattern) (state : State) :
    (seq [pattern]).run state = pattern.run state := by
  refine run_ext fun after => ?_
  simp only [run_seq_iff, runAll_cons_iff, runAll_nil_iff, exists_eq_right']

theorem run_choice_cons (alternative : Pattern) (others : List Pattern) (state : State) :
    (choice (alternative :: others)).run state =
      if (alternative.run state).1 then alternative.run state else (choice others).run state := by
  simp only [run, runFirst]
  split
  · rename_i matched
    rw [matched, if_pos rfl]
  · rename_i failed
    rw [failed, run_eq_false alternative failed, if_neg Bool.false_ne_true]

/-- A choice has no state of its own to return to, so that its alternatives may be tried in two
parts. -/
theorem run_choice_append (first others : List Pattern) (state : State) :
    (choice (first ++ others)).run state =
      if ((choice first).run state).1 then (choice first).run state
      else (choice others).run state := by
  induction first with
  | nil => simp [run, runFirst]
  | cons alternative rest ih =>
    rw [List.cons_append, run_choice_cons, run_choice_cons, ih]
    by_cases matched : (alternative.run state).1 = true
    · simp only [if_pos matched]
    · simp only [if_neg matched]

theorem run_choice_singleton (pattern : Pattern) (state : State) :
    (choice [pattern]).run state = pattern.run state := by
  refine run_ext fun after => ?_
  rw [run_choice_cons_iff]
  simp [run, runFirst]

theorem run_seq_in_seq (before inner after : List Pattern) (state : State) :
    (seq (before ++ [seq inner] ++ after)).run state =
      (seq (before ++ inner ++ after)).run state := by
  refine run_ext fun last => ?_
  simp only [run_seq_append_iff, run_seq_singleton]

theorem run_choice_in_choice (before inner after : List Pattern) (state : State) :
    (choice (before ++ [choice inner] ++ after)).run state =
      (choice (before ++ inner ++ after)).run state := by
  simp only [run_choice_append, run_choice_singleton]

/-- The patterns differ only in how sequences inside sequences and choices inside choices are
grouped, wherever these stand. -/
inductive Regroups : Pattern → Pattern → Prop
  | refl (pattern : Pattern) : Regroups pattern pattern
  | symm {pattern pattern' : Pattern} : Regroups pattern pattern' → Regroups pattern' pattern
  | trans {pattern middle pattern' : Pattern} :
      Regroups pattern middle → Regroups middle pattern' → Regroups pattern pattern'
  | seqInSeq (before inner after : List Pattern) :
      Regroups (seq (before ++ [seq inner] ++ after)) (seq (before ++ inner ++ after))
  | choiceInChoice (before inner after : List Pattern) :
      Regroups (choice (before ++ [choice inner] ++ after)) (choice (before ++ inner ++ after))
  | item {pattern pattern' : Pattern} (before after : List Pattern) : Regroups pattern pattern' →
      Regroups (seq (before ++ [pattern] ++ after)) (seq (before ++ [pattern'] ++ after))
  | alternative {pattern pattern' : Pattern} (before after : List Pattern) :
      Regroups pattern pattern' →
      Regroups (choice (before ++ [pattern] ++ after)) (choice (before ++ [pattern'] ++ after))
  | round {pattern pattern' : Pattern} (least : Nat) (most : Option Nat) :
      Regroups pattern pattern' → Regroups (rounds pattern least most) (rounds pattern' least most)
  | captured {pattern pattern' : Pattern} (group : Group) :
      Regroups pattern pattern' → Regroups (capture group pattern) (capture group pattern')

theorem Regroups.run_eq {pattern pattern' : Pattern} (regroups : Regroups pattern pattern') :
    pattern.run = pattern'.run := by
  induction regroups with
  | refl => rfl
  | symm _ ih => exact ih.symm
  | trans _ _ first second => exact first.trans second
  | seqInSeq before inner after => exact funext (run_seq_in_seq before inner after)
  | choiceInChoice before inner after => exact funext (run_choice_in_choice before inner after)
  | item before after _ ih =>
    funext state
    refine run_ext fun last => ?_
    simp only [run_seq_append_iff, run_seq_singleton, ih]
  | alternative before after _ ih =>
    funext state
    simp only [run_choice_append, run_choice_singleton, ih]
  | round least most _ ih =>
    funext state
    simp only [run, ih]
  | captured group _ ih =>
    funext state
    simp only [run, ih]

theorem Regroups.submatchesAt?_eq {pattern pattern' : Pattern}
    (regroups : Regroups pattern pattern') : pattern.submatchesAt? = pattern'.submatchesAt? := by
  have sameMatches : pattern.matchFrom? = pattern'.matchFrom? := by
    funext cursor
    simp only [matchFrom?, regroups.run_eq]
  funext text position
  rw [submatchesAt?, submatchesAt?, sameMatches]

/-- A sequence inside a sequence can be taken apart, and so can a choice inside a choice: from every
state the pattern matches or fails as before, ends at the same place and has recorded the same spans.
So patterns that differ only in their grouping, at any depth, cannot be told apart by what they match
in a text, at a position, as a whole or first. -/
theorem regrouping_unobserved :
    (∀ (before inner after : List Pattern) (state : State),
      (seq (before ++ [seq inner] ++ after)).run state =
          (seq (before ++ inner ++ after)).run state ∧
        (choice (before ++ [choice inner] ++ after)).run state =
          (choice (before ++ inner ++ after)).run state) ∧
    ∀ pattern pattern' : Pattern, Regroups pattern pattern' →
      (∀ state, pattern.run state = pattern'.run state) ∧
      (∀ text position,
        pattern.submatchesAt? text position = pattern'.submatchesAt? text position) ∧
      ∀ text, pattern.accepts text = pattern'.accepts text ∧
        pattern.find? text = pattern'.find? text := by
  refine ⟨?_, ?_⟩
  · intro before inner after state
    exact ⟨run_seq_in_seq before inner after state, run_choice_in_choice before inner after state⟩
  · intro pattern pattern' regroups
    have sameSubmatches := regroups.submatchesAt?_eq
    have sameSpans : pattern.matchAt? = pattern'.matchAt? := by
      funext text position
      rw [matchAt?, matchAt?, sameSubmatches]
    refine ⟨congrFun regroups.run_eq, fun text => congrFun (congrFun sameSubmatches text), ?_⟩
    intro text
    exact ⟨by rw [accepts, accepts, sameSpans], by rw [find?, find?, sameSpans]⟩

/-- A Unicode delimited identifier is a letter, an ampersand, a delimited token and a clause, whether
the token is a pattern of its own or not. A clause with a character that cannot introduce escapes is
given up with all that was recorded in it. -/
theorem regrouping_unobserved_token :
    let grouped := seq [oneOf (.chars ['U', 'u']), char '&', Grammar.delimitedToken,
      Grammar.escapeClause]
    Regroups grouped Grammar.unicodeDelimited ∧
      grouped.submatchesAt? "u&\"é\" uescape '!'".toList 0 =
        some (⟨0, 18⟩, { body := some ⟨3, 5⟩, escape := some ⟨16, 17⟩ }) ∧
      grouped.submatchesAt? "u&\"é\" uescape '+'".toList 0 =
        some (⟨0, 6⟩, { body := some ⟨3, 5⟩ }) := by
  intro grouped
  have regroups : Regroups grouped Grammar.unicodeDelimited :=
    .seqInSeq [oneOf (.chars ['U', 'u']), char '&'] (Grammar.quoted none) [Grammar.escapeClause]
  have same := (regrouping_unobserved.2 grouped Grammar.unicodeDelimited regroups).2.1
  refine ⟨regroups, ?_, ?_⟩
  · rw [same]
    decide +kernel
  · rw [same]
    decide +kernel

end SqlIdentifier.Pattern
