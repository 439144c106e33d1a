import SqlIdentifier.Proofs.Recognition
import SqlIdentifier.Proofs.RunEffects

namespace SqlIdentifier

theorem Text.byteSize_le_of_mem_boundaries {text : List Char} {offset : Nat}
    (boundary : offset ∈ Text.boundaries 0 text) : offset ≤ Text.byteSize text := by
  obtain ⟨before, after, rfl, rfl⟩ := Text.mem_boundaries.mp boundary
  rw [Text.byteSize_append]
  omega

namespace Span

/-- The span covers whole code points of a text, not before one offset and not past another. -/
structure WellPlaced (text : List Char) (least most : Nat) (span : Span) : Prop where
  least_le : least ≤ span.start
  ordered : span.start ≤ span.stop
  le_most : span.stop ≤ most
  startBoundary : span.start ∈ Text.boundaries 0 text
  stopBoundary : span.stop ∈ Text.boundaries 0 text

/-- What a well placed span covers can be cut out, and fills as many bytes as the span has. -/
theorem WellPlaced.exists_slice {text : List Char} {least most : Nat} {span : Span}
    (placed : span.WellPlaced text least most) :
    ∃ covered, span.slice? text = some covered ∧ span.size? = some (Text.byteSize covered) := by
  obtain ⟨before, rest, parts, start⟩ := Text.mem_boundaries.mp placed.startBoundary
  obtain ⟨upTo, after, parts', stop⟩ := Text.mem_boundaries.mp placed.stopBoundary
  rw [Nat.zero_add] at start stop
  have ordered := placed.ordered
  have earlier : Text.byteSize before ≤ Text.byteSize upTo := by rwa [← start, ← stop]
  obtain ⟨covered, rfl, _⟩ := Text.exists_between (parts.symm.trans parts') earlier
  refine ⟨covered, slice?_eq_some_iff.mpr ⟨before, after, parts', start, stop⟩, ?_⟩
  rw [Text.byteSize_append] at stop
  rw [size?, if_pos ordered, size]
  congr 1
  omega

end Span

namespace Cursor

theorem at?_eq_some_iff_reaches {text : List Char} {position : Nat} {cursor : Cursor} :
    at? text position = some cursor ↔
      cursor.position = position ∧ (start text).Reaches cursor := by
  rw [at?_eq_some_iff]
  constructor
  · intro found
    obtain ⟨here, before, parts, size⟩ := found
    exact ⟨here, before, parts, by rw [here, size]; exact (Nat.zero_add _).symm⟩
  · intro found
    obtain ⟨here, before, passes⟩ := found
    refine ⟨here, before, passes.rest, ?_⟩
    rw [← here, passes.position]
    exact Nat.zero_add _

theorem Reaches.mem_boundaries {text : List Char} {cursor : Cursor}
    (reaches : (start text).Reaches cursor) : cursor.position ∈ Text.boundaries 0 text := by
  obtain ⟨before, passes⟩ := reaches
  exact Text.mem_boundaries.mpr ⟨before, cursor.rest, passes.rest, passes.position⟩

theorem at?_eq_none_of_not_mem {text : List Char} {position : Nat}
    (inside : position ∉ Text.boundaries 0 text) : at? text position = none := by
  cases found : at? text position with
  | none => rfl
  | some cursor =>
    obtain ⟨rfl, reaches⟩ := at?_eq_some_iff_reaches.mp found
    exact absurd reaches.mem_boundaries inside

theorem Encloses.wellPlaced {text : List Char} {cursor behind : Cursor} {span : Span}
    (encloses : cursor.Encloses behind span) (reaches : (start text).Reaches cursor) :
    span.WellPlaced text cursor.position behind.position := by
  obtain ⟨first, last, toFirst, between, fromLast, rfl⟩ := encloses
  have atFirst := reaches.trans toFirst
  exact ⟨toFirst.position_le, between.position_le, fromLast.position_le, atFirst.mem_boundaries,
    (atFirst.trans between).mem_boundaries⟩

end Cursor

namespace Pattern

variable {pattern : Pattern} {text : List Char} {position : Nat} {span : Span}
  {captures : Captures}

/-- A match starts and ends at cursors in the text, and all that it records lies between them. -/
theorem submatchesAt?_encloses
    (found : pattern.submatchesAt? text position = some (span, captures)) :
    ∃ cursor behind, (Cursor.start text).Reaches cursor ∧ cursor.Reaches behind ∧
      position = cursor.position ∧ span = ⟨cursor.position, behind.position⟩ ∧
      ∀ group recorded, captures.get? group = some recorded → cursor.Encloses behind recorded := by
  obtain ⟨cursor, here, matched⟩ := Option.bind_eq_some_iff.mp found
  obtain ⟨same, reaches⟩ := Cursor.at?_eq_some_iff_reaches.mp here
  obtain ⟨behind, run, atSpan⟩ := matchFrom?_eq_some_iff.mp matched
  have leads := leadsTo_runClosed.run pattern run
  refine ⟨cursor, behind, reaches, leads.moved, same.symm, atSpan, ?_⟩
  intro group recorded atGroup
  refine (leads.recorded atGroup).resolve_left ?_
  -- nothing was recorded before the match
  cases group <;> simp [Captures.get?]

theorem submatchesAt?_span_wellPlaced
    (found : pattern.submatchesAt? text position = some (span, captures)) :
    span.start = position ∧ span.WellPlaced text position (Text.byteSize text) := by
  obtain ⟨cursor, behind, reaches, moved, rfl, rfl, _⟩ := submatchesAt?_encloses found
  have stops := (reaches.trans moved).mem_boundaries
  exact ⟨rfl, Nat.le_refl _, moved.position_le, Text.byteSize_le_of_mem_boundaries stops,
    reaches.mem_boundaries, stops⟩

theorem submatchesAt?_recorded_wellPlaced
    (found : pattern.submatchesAt? text position = some (span, captures)) {group : Group}
    {recorded : Span} (atGroup : captures.get? group = some recorded) :
    recorded.WellPlaced text position span.stop := by
  obtain ⟨cursor, behind, reaches, _, rfl, rfl, encloses⟩ := submatchesAt?_encloses found
  exact (encloses group recorded atGroup).wellPlaced reaches

theorem submatchesAt?_eq_none_of_not_mem (pattern : Pattern)
    (inside : position ∉ Text.boundaries 0 text) : pattern.submatchesAt? text position = none := by
  rw [submatchesAt?, Cursor.at?_eq_none_of_not_mem inside, Option.bind_none]

end Pattern

open Identifier

/-- Every span that a pattern reports is sound. A match starts at the given offset, and it and all
spans recorded on the way lie inside the text and between code points, those recorded inside the
match. So each of them has a size and covers a text of that size. At an offset past the end or
inside a code point nothing matches. And what one of the forms of identifiers has matched is always
an identifier, since none of its parts is lost when they are cut from the text. -/
theorem Pattern.submatchesAt?_spans_sound (pattern : Pattern) (text : List Char) (position : Nat) :
    (∀ span captures, pattern.submatchesAt? text position = some (span, captures) →
      span.start = position ∧ span.WellPlaced text position (Text.byteSize text) ∧
      (∀ group recorded, captures.get? group = some recorded →
        recorded.WellPlaced text position span.stop) ∧
      ∀ reported, reported = span ∨ (∃ group, captures.get? group = some reported) →
        ∃ covered, reported.slice? text = some covered ∧
          reported.size? = some (Text.byteSize covered)) ∧
    (Text.byteSize text < position ∨ position ∉ Text.boundaries 0 text →
      pattern.submatchesAt? text position = none) ∧
    (∀ form ∈ forms, ∀ candidate, form.candidateAt? text position = some candidate →
      ∃ found, Match.ofCandidate? text candidate = some found) := by
  refine ⟨?_, ?_, ?_⟩
  · intro span captures found
    obtain ⟨starts, placed⟩ := submatchesAt?_span_wellPlaced found
    refine ⟨starts, placed, fun _ _ => submatchesAt?_recorded_wellPlaced found, ?_⟩
    rintro reported (rfl | ⟨group, atGroup⟩)
    · exact placed.exists_slice
    · exact (submatchesAt?_recorded_wellPlaced found atGroup).exists_slice
  · intro outside
    refine submatchesAt?_eq_none_of_not_mem pattern ?_
    rcases outside with past | inside
    · exact fun boundary =>
        Nat.not_lt_of_le (Text.byteSize_le_of_mem_boundaries boundary) past
    · exact inside
  · intro form listed candidate matched
    obtain ⟨shape, _, stands, rfl⟩ := (candidateAt?_eq_some_iff listed).mp matched
    exact ⟨_, ofCandidate?_candidate stands⟩

/-- In a text of code points of one, two and three bytes the rounds of a repetition record the body
one over the other, and an escape that covers nothing is recorded behind it. -/
theorem Pattern.submatchesAt?_spans_sound_rounds :
    let pattern := seq [rounds (capture .body (oneOf .nonAscii)) 1 none,
      capture .escape (rounds (char 'x') 0 none)]
    let text := ['a', 'é', '€']
    pattern.submatchesAt? text 1 =
        some (⟨1, 6⟩, { body := some ⟨3, 6⟩, escape := some ⟨6, 6⟩ }) ∧
      (Span.mk 3 6).WellPlaced text 1 6 ∧ (Span.mk 6 6).WellPlaced text 1 6 ∧
      (∃ covered, (Span.mk 3 6).slice? text = some covered ∧
        (Span.mk 3 6).size? = some (Text.byteSize covered)) ∧
      2 ∉ Text.boundaries 0 text ∧ pattern.submatchesAt? text 2 = none ∧
      ∃ candidate found, Form.candidateAt? ⟨.regular, Grammar.isoPostgresRegularToken⟩ text 1 =
        some candidate ∧ Match.ofCandidate? text candidate = some found := by
  intro pattern text
  have matched : pattern.submatchesAt? text 1 =
      some (⟨1, 6⟩, { body := some ⟨3, 6⟩, escape := some ⟨6, 6⟩ }) := by
    decide
  have inside : 2 ∉ Text.boundaries 0 text := by decide
  have recognised : Grammar.isoPostgresRegularToken.submatchesAt? text 1 = some (⟨1, 3⟩, {}) := by
    decide +kernel
  have candidate : Form.candidateAt? ⟨.regular, Grammar.isoPostgresRegularToken⟩ text 1 =
      some ⟨.regular, ⟨1, 3⟩, {}⟩ := by
    rw [Form.candidateAt?, recognised]
    rfl
  obtain ⟨reported, _, identified⟩ := submatchesAt?_spans_sound pattern text 1
  obtain ⟨_, _, recorded, sliced⟩ := reported _ _ matched
  obtain ⟨found, cut⟩ := identified _ (by simp [forms]) _ candidate
  have unmatched := (submatchesAt?_spans_sound pattern text 2).2.1 (Or.inr inside)
  exact ⟨matched, recorded .body _ rfl, recorded .escape _ rfl, sliced _ (Or.inr ⟨.body, rfl⟩),
    inside, unmatched, _, found, candidate, cut⟩

end SqlIdentifier
