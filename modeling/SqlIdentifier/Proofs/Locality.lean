import SqlIdentifier.Proofs.Anchoring

namespace SqlIdentifier

def Span.shift (offset : Nat) (span : Span) : Span :=
  ⟨offset + span.start, offset + span.stop⟩

def Captures.shift (offset : Nat) (captures : Captures) : Captures :=
  ⟨captures.body.map (Span.shift offset), captures.escape.map (Span.shift offset)⟩

/-- The same place, with further bytes before the text. -/
def Cursor.shift (offset : Nat) (cursor : Cursor) : Cursor :=
  ⟨offset + cursor.position, cursor.rest⟩

def Pattern.State.shift (offset : Nat) (state : State) : State :=
  ⟨state.cursor.shift offset, state.captures.shift offset⟩

@[simp]
theorem Span.size_shift (offset : Nat) (span : Span) : (span.shift offset).size = span.size := by
  simp only [size, shift]
  omega

namespace Captures

variable (offset : Nat) (captures : Captures)

@[simp]
theorem get?_shift (group : Group) :
    (captures.shift offset).get? group = (captures.get? group).map (Span.shift offset) := by
  cases group <;> rfl

theorem record_shift (group : Group) (span : Span) :
    (captures.shift offset).record group (span.shift offset) =
      (captures.record group span).shift offset := by
  cases group <;> rfl

end Captures

namespace Cursor

variable (offset : Nat) (cursor : Cursor)

@[simp]
theorem rest_shift : (cursor.shift offset).rest = cursor.rest := rfl

@[simp]
theorem peek?_shift : (cursor.shift offset).peek? = cursor.peek? := rfl

theorem next?_shift :
    (cursor.shift offset).next? = cursor.next?.map (Prod.map id (shift offset)) := by
  obtain ⟨position, rest⟩ := cursor
  cases rest with
  | nil => rfl
  | cons c rest => simp only [next?, shift, Option.map_some, Prod.map, id_eq, Nat.add_assoc]

theorem skip_shift (count : Nat) :
    (cursor.shift offset).skip count = (cursor.skip count).shift offset := by
  induction count generalizing cursor with
  | zero => rfl
  | succ count ih =>
    rw [skip, skip, next?_shift]
    cases cursor.next? with
    | none => rfl
    | some found => exact ih found.2

theorem nextIf?_shift (accepts : Char → Bool) :
    ((cursor.shift offset).nextIf? accepts).map Prod.snd =
      ((cursor.nextIf? accepts).map Prod.snd).map (shift offset) := by
  rw [nextIf?, nextIf?, next?_shift]
  cases cursor.next? with
  | none => rfl
  | some found =>
    simp only [Option.map_some, Prod.map, id_eq]
    split <;> rfl

theorem accept?_shift (expected : Char) :
    (cursor.shift offset).accept? expected = (cursor.accept? expected).map (shift offset) :=
  nextIf?_shift offset cursor (· == expected)

theorem acceptText?_shift (expected : List Char) :
    (cursor.shift offset).acceptText? expected =
      (cursor.acceptText? expected).map (shift offset) := by
  rw [acceptText?, acceptText?, rest_shift, skip_shift]
  split <;> rfl

theorem acceptWord?_shift (expected : List Char) :
    (cursor.shift offset).acceptWord? expected =
      (cursor.acceptWord? expected).map (shift offset) := by
  rw [acceptWord?, acceptWord?, rest_shift]
  cases Text.splitAt? cursor.rest (Text.byteSize expected) with
  | none => rfl
  | some cut =>
    simp only [shift, Nat.add_assoc]
    split <;> rfl

end Cursor

namespace Pattern

/-- What came of an attempt, at the place moved on by a number of bytes. -/
def shiftOutcome (offset : Nat) : Bool × State → Bool × State :=
  Prod.map id (State.shift offset)

theorem State.moveTo_shift (offset : Nat) (state : State) (found : Option Cursor) :
    (state.shift offset).moveTo (found.map (Cursor.shift offset)) =
      shiftOutcome offset (state.moveTo found) := by
  cases found <;> rfl

/-- The loop of a repetition compares positions with each other only. -/
theorem repeatStep_shift {offset : Nat} {step : State → Bool × State}
    (stepped : ∀ state, step (state.shift offset) = shiftOutcome offset (step state))
    (limit count : Nat) (state : State) :
    repeatStep step limit count (state.shift offset) =
      Prod.map id (State.shift offset) (repeatStep step limit count state) := by
  induction limit generalizing count state with
  | zero => rfl
  | succ limit ih =>
    rw [repeatStep, repeatStep, stepped]
    obtain ⟨matched, after⟩ := step state
    cases matched with
    | false => rfl
    | true =>
      have samePlace : (after.shift offset).cursor.position = (state.shift offset).cursor.position ↔
          after.cursor.position = state.cursor.position := Nat.add_left_cancel_iff
      simp only [shiftOutcome, Prod.map, id_eq, samePlace]
      split
      · rfl
      · exact ih (count + 1) after

mutual

/-- A run further on in a text does the same as the run in front of the same text ahead. -/
theorem run_shift (offset : Nat) : ∀ (pattern : Pattern) (state : State),
    pattern.run (state.shift offset) = shiftOutcome offset (pattern.run state)
  | oneOf k, state => by
    rw [run, run, ← state.moveTo_shift, ← Cursor.nextIf?_shift]
    rfl
  | char expected, state => by
    rw [run, run, ← state.moveTo_shift, ← Cursor.accept?_shift]
    rfl
  | literal expected, state => by
    rw [run, run, ← state.moveTo_shift, ← Cursor.acceptText?_shift]
    rfl
  | keyword expected, state => by
    rw [run, run, ← state.moveTo_shift, ← Cursor.acceptWord?_shift]
    rfl
  | seq items, state => by
    rw [run, run, runAll_shift offset items state]
    obtain ⟨matched, after⟩ := runAll items state
    cases matched <;> rfl
  | choice alternatives, state => by
    rw [run, run, runFirst_shift offset alternatives state]
  | rounds item least most, state => by
    have loop := repeatStep_shift (run_shift offset item) (stepLimit most state) 0 state
    -- without a bound of its own the loop is limited by the code points ahead
    have sameLimit : stepLimit most (state.shift offset) = stepLimit most state := rfl
    rw [run, run, sameLimit, loop]
    simp only [Prod.map, id_eq]
    split <;> rfl
  | capture group inner, state => by
    rw [run, run, run_shift offset inner state]
    obtain ⟨matched, after⟩ := run inner state
    cases matched with
    | false => rfl
    | true =>
      have recorded := Captures.record_shift offset after.captures group
        ⟨state.cursor.position, after.cursor.position⟩
      simp only [shiftOutcome, Prod.map, id_eq, State.shift, ← recorded]
      rfl
  | notFollowedBy k, state => by
    rw [run, run]
    rfl

theorem runAll_shift (offset : Nat) : ∀ (items : List Pattern) (state : State),
    runAll items (state.shift offset) = shiftOutcome offset (runAll items state)
  | [], _ => rfl
  | item :: later, state => by
    rw [runAll, runAll, run_shift offset item state]
    obtain ⟨matched, after⟩ := run item state
    cases matched with
    | false => rfl
    | true => exact runAll_shift offset later after

theorem runFirst_shift (offset : Nat) : ∀ (alternatives : List Pattern) (state : State),
    runFirst alternatives (state.shift offset) = shiftOutcome offset (runFirst alternatives state)
  | [], _ => rfl
  | alternative :: others, state => by
    rw [runFirst, runFirst, run_shift offset alternative state]
    obtain ⟨matched, after⟩ := run alternative state
    cases matched with
    | true => rfl
    | false => exact runFirst_shift offset others after

end

theorem matchFrom?_shift (offset : Nat) (pattern : Pattern) (cursor : Cursor) :
    pattern.matchFrom? (cursor.shift offset) =
      (pattern.matchFrom? cursor).map (Prod.map (Span.shift offset) (Captures.shift offset)) := by
  have moved := run_shift offset pattern { cursor }
  have start : State.shift offset { cursor } = { cursor := cursor.shift offset } := rfl
  rw [start] at moved
  rw [matchFrom?, matchFrom?, moved]
  obtain ⟨matched, after⟩ := pattern.run { cursor }
  cases matched <;> rfl

end Pattern

/-- A cut behind the text in front is a cut of the text itself. -/
theorem Text.splitAt?_append (before text : List Char) (position : Nat) :
    splitAt? (before ++ text) (byteSize before + position) =
      (splitAt? text position).map (Prod.map (before ++ ·) id) := by
  refine Option.ext fun cut => ?_
  obtain ⟨upTo, rest⟩ := cut
  simp only [Option.map_eq_some_iff, Prod.exists, Prod.map, id_eq, Prod.mk.injEq,
    splitAt?_eq_some_iff]
  constructor
  · intro found
    obtain ⟨parts, size⟩ := found
    obtain ⟨middle, rfl, rfl⟩ := exists_between parts (by omega)
    rw [byteSize_append] at size
    exact ⟨middle, rest, ⟨rfl, by omega⟩, rfl, rfl⟩
  · intro found
    obtain ⟨middle, rest', ⟨rfl, rfl⟩, rfl, rfl⟩ := found
    exact ⟨(List.append_assoc ..).symm, (byteSize_append ..).symm⟩

theorem Cursor.at?_append (before text : List Char) (position : Nat) :
    at? (before ++ text) (Text.byteSize before + position) =
      (at? text position).map (shift (Text.byteSize before)) := by
  rw [at?, at?, Text.splitAt?_append, Option.map_map, Option.map_map]
  rfl

theorem Span.slice?_append (before text : List Char) (span : Span) :
    (span.shift (Text.byteSize before)).slice? (before ++ text) = span.slice? text := by
  simp only [slice?, shift, Text.splitAt?_append, Option.bind_eq_bind, Option.bind_map]
  refine Option.bind_congr fun cut _ => ?_
  simp only [Function.comp_apply, Prod.map, Text.splitAt?_append, Option.bind_map]
  rfl

theorem Pattern.submatchesAt?_append (pattern : Pattern) (before text : List Char)
    (position : Nat) :
    pattern.submatchesAt? (before ++ text) (Text.byteSize before + position) =
      (pattern.submatchesAt? text position).map
        (Prod.map (Span.shift (Text.byteSize before)) (Captures.shift (Text.byteSize before))) := by
  rw [submatchesAt?, submatchesAt?, Cursor.at?_append, Option.bind_map, Option.map_bind]
  refine Option.bind_congr fun cursor _ => ?_
  exact matchFrom?_shift (Text.byteSize before) pattern cursor

namespace Identifier

def Candidate.shift (offset : Nat) (candidate : Candidate) : Candidate :=
  ⟨candidate.kind, candidate.span.shift offset, candidate.captures.shift offset⟩

/-- The same identifier, recognised further on by a number of bytes. -/
def Match.shift (offset : Nat) (found : Match) : Match :=
  found.withSpan (found.span.shift offset)

theorem Form.candidateAt?_append (form : Form) (before text : List Char) (position : Nat) :
    form.candidateAt? (before ++ text) (Text.byteSize before + position) =
      (form.candidateAt? text position).map (Candidate.shift (Text.byteSize before)) := by
  rw [candidateAt?, candidateAt?, Pattern.submatchesAt?_append, Option.map_map, Option.map_map]
  rfl

theorem Match.ofCandidate?_append (before text : List Char) (candidate : Candidate) :
    ofCandidate? (before ++ text) (candidate.shift (Text.byteSize before)) =
      (ofCandidate? text candidate).map (shift (Text.byteSize before)) := by
  obtain ⟨kind, span, captures⟩ := candidate
  have part (group : Group) :
      ((captures.shift (Text.byteSize before)).get? group).bind (·.slice? (before ++ text)) =
        (captures.get? group).bind (·.slice? text) := by
    rw [Captures.get?_shift, Option.bind_map]
    exact Option.bind_congr fun recorded _ => Span.slice?_append before text recorded
  cases kind with
  | regular =>
    simp only [ofCandidate?, Candidate.shift, Span.slice?_append, Option.map_map]
    rfl
  | delimited =>
    simp only [ofCandidate?, Candidate.shift, part, Option.map_map]
    rfl
  | unicodeDelimited =>
    simp only [ofCandidate?, Candidate.shift, part, Option.map_map]
    rfl

/-- Which candidate is the longest is decided by sizes, which stay the same. -/
theorem Candidate.longer_shift (offset : Nat) (best : Option Candidate) (next : Candidate) :
    longer (best.map (shift offset)) (next.shift offset) =
      (longer best next).map (shift offset) := by
  cases best with
  | none => rfl
  | some earlier =>
    simp only [longer, Option.map_some, shift, Span.size_shift]
    split <;> rfl

theorem Candidate.foldl_longer_shift (offset : Nat) (candidates : List Candidate)
    (best : Option Candidate) :
    (candidates.map (shift offset)).foldl longer (best.map (shift offset)) =
      (candidates.foldl longer best).map (shift offset) := by
  induction candidates generalizing best with
  | nil => rfl
  | cons next others ih => rw [List.map_cons, List.foldl_cons, List.foldl_cons, longer_shift, ih]

theorem matchAt?_append (before text : List Char) (position : Nat) :
    matchAt? (before ++ text) (Text.byteSize before + position) =
      (matchAt? text position).map (Match.shift (Text.byteSize before)) := by
  have candidates : forms.filterMap
      (·.candidateAt? (before ++ text) (Text.byteSize before + position)) =
        (forms.filterMap (·.candidateAt? text position)).map
          (Candidate.shift (Text.byteSize before)) := by
    simp only [Form.candidateAt?_append, List.map_filterMap]
  have longest := Candidate.foldl_longer_shift (Text.byteSize before)
    (forms.filterMap (·.candidateAt? text position)) none
  rw [Option.map_none] at longest
  rw [matchAt?, matchAt?, candidates, longest, Option.bind_map, Option.map_bind]
  exact Option.bind_congr fun candidate _ => Match.ofCandidate?_append before text candidate

end Identifier

open Identifier

/-- Matching depends only on the text from the position on. Whatever text is put in front, a pattern
matches at the place moved on by its bytes exactly if it matched before, with the span and all that
is recorded moved along; and the identifier recognised there is the same but for its span, so that
its form, its parts, its escape character and the text that it stands for are the same. -/
theorem matching_looks_only_ahead (pattern : Pattern) (before text : List Char) (position : Nat) :
    pattern.submatchesAt? (before ++ text) (Text.byteSize before + position) =
      (pattern.submatchesAt? text position).map (fun (span, captures) =>
        (span.shift (Text.byteSize before), captures.shift (Text.byteSize before))) ∧
    matchAt? (before ++ text) (Text.byteSize before + position) =
      (matchAt? text position).map (fun found =>
        found.withSpan (found.span.shift (Text.byteSize before))) ∧
    (matchAt? (before ++ text) (Text.byteSize before + position)).map
        (fun found => (found.kind, found.escapeInEffect, found.decode)) =
      (matchAt? text position).map
        (fun found => (found.kind, found.escapeInEffect, found.decode)) := by
  refine ⟨pattern.submatchesAt?_append before text position,
    matchAt?_append before text position, ?_⟩
  rw [matchAt?_append, Option.map_map]
  congr 1
  funext found
  cases found <;> rfl

/-- Behind a quote and a letter of two bytes, a quoted text is recognised as it is at the start. -/
example :
    matchAt? ("\"é".toList ++ "\"a\"".toList) (3 + 0) = some (.delimited ⟨3, 6⟩ ['a']) ∧
      matchAt? "\"a\"".toList 0 = some (.delimited ⟨0, 3⟩ ['a']) := by
  decide +kernel

end SqlIdentifier
