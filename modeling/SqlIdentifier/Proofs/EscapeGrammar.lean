import SqlIdentifier.Proofs.Escapes

namespace SqlIdentifier.Identifier

/-- The text is made of units that stand for the characters of the decoded text. -/
def DecodesTo (escape : Char) (text decoded : List Char) : Prop :=
  ∃ pieces : List (List Char × Char), (∀ piece ∈ pieces, EscapeUnit escape piece.1 piece.2) ∧
    text = pieces.flatMap Prod.fst ∧ decoded = pieces.map Prod.snd

/-- Neither the escape character comes next nor a numeral. -/
def StartsNoEscape (escape : Char) (text : List Char) : Prop :=
  text.head? ≠ some escape ∧ ∀ numeral value more, Numeral numeral value → text ≠ numeral ++ more

/-- Behind units, at the given byte offset, stands an escape character that introduces nothing. -/
def MalformedAt (escape : Char) (text : List Char) (offset : Nat) : Prop :=
  ∃ units decoded rest, DecodesTo escape units decoded ∧ text = units ++ escape :: rest ∧
    offset = Text.byteSize units ∧ StartsNoEscape escape rest

/-- Behind units, at the given byte offset, stands an escape with the number of a surrogate or one
above all characters. -/
def InvalidAt (escape : Char) (text : List Char) (offset value : Nat) : Prop :=
  ∃ units decoded numeral rest, DecodesTo escape units decoded ∧
    text = units ++ escape :: (numeral ++ rest) ∧ offset = Text.byteSize units ∧
    Numeral numeral value ∧ ((0xD800 ≤ value ∧ value ≤ 0xDFFF) ∨ 0x10FFFF < value)

theorem readNumber?_eq_none {cursor : Cursor}
    (noNumeral : ∀ numeral value more, Numeral numeral value → cursor.rest ≠ numeral ++ more) :
    readNumber? cursor = none := by
  cases read : readNumber? cursor with
  | none => rfl
  | some found =>
    obtain ⟨value, behind⟩ := found
    obtain ⟨numeral, isNumeral, passes⟩ := readNumber?_eq_some_iff.mp read
    exact absurd passes.rest (noNumeral numeral value behind.rest isNumeral)

theorem readEscape_malformed {escape : Char} {offset : Nat} {cursor : Cursor}
    (nothing : StartsNoEscape escape cursor.rest) :
    readEscape escape offset cursor = .error (.malformedEscape offset escape) := by
  rw [readEscape_eq, accept?_eq_none nothing.1, readNumber?_eq_none nothing.2]

section Legal

variable {escape : Char} (legal : CharClass.escapeCharacter.contains escape = true)

include legal

/-- At one place in a text at most one unit stands, and it stands for one character: the decoder
could not read two different ones there. -/
theorem EscapeUnit.unique {unit unit' more more' : List Char} {c c' : Char}
    (isUnit : EscapeUnit escape unit c) (isUnit' : EscapeUnit escape unit' c')
    (same : unit ++ more = unit' ++ more') : unit = unit' ∧ c = c' := by
  obtain ⟨behind, passes, left⟩ := Cursor.exists_passes
    (show (Cursor.start (unit ++ more)).rest = unit ++ more from rfl)
  obtain ⟨behind', passes', left'⟩ := Cursor.exists_passes
    (show (Cursor.start (unit ++ more)).rest = unit' ++ more' from same)
  rcases isUnit.plain_or_read legal passes 0 with ⟨plain, rfl⟩ | ⟨middle, first, read⟩
  · rcases isUnit'.plain_or_read legal passes' 0 with ⟨_, rfl⟩ | ⟨middle', first', _⟩
    · have equal := (List.cons.inj same).1
      exact ⟨by rw [equal], equal⟩
    · exact absurd (List.cons.inj first'.rest).1 plain
  · rcases isUnit'.plain_or_read legal passes' 0 with ⟨plain', rfl⟩ | ⟨middle', first', read'⟩
    · have ahead := same.symm.trans first.rest
      exact absurd (List.cons.inj ahead).1 plain'
    · rw [first.unique first'] at read
      obtain ⟨sameChar, sameBehind⟩ := Prod.mk.inj (Except.ok.inj (read.symm.trans read'))
      have sameMore : more = more' := by rw [← left, ← left', sameBehind]
      rw [sameMore] at same
      exact ⟨List.append_cancel_right same, sameChar⟩

/-- A text is divided into units in one way only. -/
theorem pieces_unique {pieces pieces' : List (List Char × Char)}
    (areUnits : ∀ piece ∈ pieces, EscapeUnit escape piece.1 piece.2)
    (areUnits' : ∀ piece ∈ pieces', EscapeUnit escape piece.1 piece.2)
    (same : pieces.flatMap Prod.fst = pieces'.flatMap Prod.fst) : pieces = pieces' := by
  have notEmpty {unit : List Char} {c : Char} {later : List Char}
      (isUnit : EscapeUnit escape unit c) : unit ++ later ≠ [] := by
    cases isUnit <;> simp
  induction pieces generalizing pieces' with
  | nil =>
    cases pieces' with
    | nil => rfl
    | cons piece' later' => exact absurd same.symm (notEmpty (areUnits' piece' List.mem_cons_self))
  | cons piece later ih =>
    cases pieces' with
    | nil => exact absurd same (notEmpty (areUnits piece List.mem_cons_self))
    | cons piece' later' =>
      rw [List.flatMap_cons, List.flatMap_cons] at same
      obtain ⟨sameUnit, sameChar⟩ := (areUnits piece List.mem_cons_self).unique legal
        (areUnits' piece' List.mem_cons_self) same
      rw [sameUnit] at same
      have sameLater := ih (fun other member => areUnits other (List.mem_cons_of_mem _ member))
        (fun other member => areUnits' other (List.mem_cons_of_mem _ member))
        (List.append_cancel_left same)
      rw [sameLater, Prod.ext sameUnit sameChar]

theorem DecodesTo.unescape_eq {text decoded : List Char} (spelled : DecodesTo escape text decoded) :
    unescape escape text = .ok decoded := by
  obtain ⟨pieces, areUnits, rfl, rfl⟩ := spelled
  exact unescape_units legal areUnits

/-- Behind units the decoder goes on as from there, and an error there is the error of the whole. -/
theorem DecodesTo.unescape_append {units decoded rest : List Char} {error : Error}
    (spelled : DecodesTo escape units decoded)
    (failed : unescapeFrom escape ⟨Text.byteSize units, rest⟩ = .error error) :
    unescape escape (units ++ rest) = .error error := by
  obtain ⟨pieces, areUnits, rfl, _⟩ := spelled
  obtain ⟨behind, passes, left⟩ := Cursor.exists_passes
    (show (Cursor.start (pieces.flatMap Prod.fst ++ rest)).rest = _ from rfl)
  have reached : behind = ⟨Text.byteSize (pieces.flatMap Prod.fst), rest⟩ := by
    refine passes.unique ⟨rfl, ?_⟩
    exact (Nat.zero_add _).symm
  rw [unescape, unescapeFrom_units legal areUnits passes, reached, failed]
  rfl

theorem MalformedAt.unescape_eq {text : List Char} {offset : Nat}
    (malformed : MalformedAt escape text offset) :
    unescape escape text = .error (.malformedEscape offset escape) := by
  obtain ⟨units, decoded, rest, spelled, rfl, rfl, nothing⟩ := malformed
  obtain ⟨behind, first, left⟩ := Cursor.exists_passes
    (show (Cursor.mk (Text.byteSize units) (escape :: rest)).rest = [escape] ++ rest from rfl)
  have read : readEscape escape (Text.byteSize units) behind = _ :=
    readEscape_malformed (by rw [left]; exact nothing)
  exact spelled.unescape_append legal (by rw [unescapeFrom_read first, read])

theorem InvalidAt.unescape_eq {text : List Char} {offset value : Nat}
    (invalid : InvalidAt escape text offset value) :
    unescape escape text = .error (.invalidCodePoint offset value) := by
  obtain ⟨units, decoded, numeral, rest, spelled, rfl, rfl, isNumeral, noScalar⟩ := invalid
  obtain ⟨middle, first, left⟩ := Cursor.exists_passes
    (show (Cursor.mk (Text.byteSize units) (escape :: (numeral ++ rest))).rest =
      [escape] ++ (numeral ++ rest) from rfl)
  obtain ⟨behind, passes, _⟩ := Cursor.exists_passes left
  have read := readEscape_numeral legal (Text.byteSize units) isNumeral passes
  rw [Unicode.scalar?_eq_none_iff.mpr noScalar] at read
  exact spelled.unescape_append legal (by rw [unescapeFrom_read first, read])

end Legal

/-- How a text can be taken by the grammar: as units to its end, or up to the first escape character
that starts none. -/
def HasOutcome (escape : Char) (text : List Char) : Prop :=
  (∃ decoded, DecodesTo escape text decoded) ∨ (∃ offset, MalformedAt escape text offset) ∨
    ∃ offset value, InvalidAt escape text offset value

theorem DecodesTo.cons {escape c : Char} {unit text decoded : List Char}
    (isUnit : EscapeUnit escape unit c) (spelled : DecodesTo escape text decoded) :
    DecodesTo escape (unit ++ text) (c :: decoded) := by
  obtain ⟨pieces, areUnits, rfl, rfl⟩ := spelled
  refine ⟨(unit, c) :: pieces, ?_, rfl, rfl⟩
  intro piece member
  rcases List.mem_cons.mp member with rfl | later
  · exact isUnit
  · exact areUnits piece later

theorem decodesTo_nil (escape : Char) : DecodesTo escape [] [] :=
  ⟨[], by simp, rfl, rfl⟩

theorem HasOutcome.cons {escape c : Char} {unit text : List Char}
    (isUnit : EscapeUnit escape unit c) (outcome : HasOutcome escape text) :
    HasOutcome escape (unit ++ text) := by
  rcases outcome with ⟨decoded, spelled⟩ | ⟨offset, units, decoded, rest, spelled, rfl, _, nothing⟩ |
    ⟨offset, value, units, decoded, numeral, rest, spelled, rfl, _, isNumeral, noScalar⟩
  · exact Or.inl ⟨c :: decoded, spelled.cons isUnit⟩
  · exact Or.inr (Or.inl ⟨_, unit ++ units, c :: decoded, rest, spelled.cons isUnit,
      (List.append_assoc ..).symm, rfl, nothing⟩)
  · exact Or.inr (Or.inr ⟨_, value, unit ++ units, c :: decoded, numeral, rest, spelled.cons isUnit,
      (List.append_assoc ..).symm, rfl, isNumeral, noScalar⟩)

/-- Every text has an outcome. The induction takes one unit from the front, and where there is none
the outcome is an error at this place. -/
theorem hasOutcome (escape : Char) (text : List Char) : HasOutcome escape text := by
  induction size : text.length using Nat.strongRecOn generalizing text with
  | _ size ih =>
    subst size
    cases text with
    | nil => exact Or.inl ⟨[], decodesTo_nil escape⟩
    | cons c rest =>
      by_cases introduces : c = escape
      case neg => exact (ih rest.length (by simp) rest rfl).cons (.plain introduces)
      subst introduces
      by_cases doubled : rest.head? = some c
      · obtain ⟨later, rfl⟩ := List.head?_eq_some_iff.mp doubled
        exact (ih later.length (by simp only [List.length_cons]; omega) later rfl).cons .doubled
      by_cases numbered : ∃ numeral value more, Numeral numeral value ∧ rest = numeral ++ more
      · obtain ⟨numeral, value, more, isNumeral, rfl⟩ := numbered
        cases scalar : Unicode.scalar? value with
        | some d =>
          rw [Unicode.scalar?_eq_some_iff.mp scalar] at isNumeral
          have shorter : more.length < (c :: (numeral ++ more)).length := by
            simp only [List.length_cons, List.length_append]
            omega
          exact (ih more.length shorter more rfl).cons isNumeral.escapeUnit
        | none =>
          exact Or.inr (Or.inr ⟨0, value, [], [], numeral, more, decodesTo_nil c, rfl, rfl, isNumeral,
            Unicode.scalar?_eq_none_iff.mp scalar⟩)
      · refine Or.inr (Or.inl ⟨0, [], [], rest, decodesTo_nil c, rfl, rfl, doubled, ?_⟩)
        intro numeral value more isNumeral ahead
        exact numbered ⟨numeral, value, more, isNumeral, ahead⟩

section Legal

variable {escape : Char} (legal : CharClass.escapeCharacter.contains escape = true)

include legal

/-- What the decoder gives for each of the outcomes. -/
theorem unescape_outcome (text : List Char) :
    (∃ decoded, DecodesTo escape text decoded ∧ unescape escape text = .ok decoded) ∨
    (∃ offset, MalformedAt escape text offset ∧
      unescape escape text = .error (.malformedEscape offset escape)) ∨
    ∃ offset value, InvalidAt escape text offset value ∧
      unescape escape text = .error (.invalidCodePoint offset value) := by
  rcases hasOutcome escape text with ⟨decoded, spelled⟩ | ⟨offset, malformed⟩ |
    ⟨offset, value, invalid⟩
  · exact Or.inl ⟨decoded, spelled, spelled.unescape_eq legal⟩
  · exact Or.inr (Or.inl ⟨offset, malformed, malformed.unescape_eq legal⟩)
  · exact Or.inr (Or.inr ⟨offset, value, invalid, invalid.unescape_eq legal⟩)

theorem unescape_eq_ok_iff {text decoded : List Char} :
    unescape escape text = .ok decoded ↔ DecodesTo escape text decoded := by
  refine ⟨fun unescaped => ?_, fun spelled => spelled.unescape_eq legal⟩
  rcases unescape_outcome legal text with ⟨_, spelled, same⟩ | ⟨_, _, same⟩ | ⟨_, _, _, same⟩
  · rw [Except.ok.inj (unescaped.symm.trans same)]
    exact spelled
  · simp [unescaped] at same
  · simp [unescaped] at same

theorem unescape_eq_malformed_iff {text : List Char} {offset : Nat} {reported : Char} :
    unescape escape text = .error (.malformedEscape offset reported) ↔
      reported = escape ∧ MalformedAt escape text offset := by
  constructor
  · intro unescaped
    rcases unescape_outcome legal text with ⟨_, _, same⟩ | ⟨_, malformed, same⟩ | ⟨_, _, _, same⟩
    · simp [unescaped] at same
    · obtain ⟨rfl, rfl⟩ := Error.malformedEscape.inj (Except.error.inj (unescaped.symm.trans same))
      exact ⟨rfl, malformed⟩
    · simp [unescaped] at same
  · rintro ⟨rfl, malformed⟩
    exact malformed.unescape_eq legal

theorem unescape_eq_invalid_iff {text : List Char} {offset value : Nat} :
    unescape escape text = .error (.invalidCodePoint offset value) ↔
      InvalidAt escape text offset value := by
  refine ⟨fun unescaped => ?_, fun invalid => invalid.unescape_eq legal⟩
  rcases unescape_outcome legal text with ⟨_, _, same⟩ | ⟨_, _, same⟩ | ⟨_, _, invalid, same⟩
  · simp [unescaped] at same
  · simp [unescaped] at same
  · obtain ⟨rfl, rfl⟩ := Error.invalidCodePoint.inj (Except.error.inj (unescaped.symm.trans same))
    exact invalid

end Legal

/-- Escapes are decoded exactly by the grammar of escape units. A unit is a character other than the
escape character, this character twice, or it with a numeral for a character. A text made of units
decodes to what they stand for, and its units are determined; any other text is refused at the first
escape character that starts no unit, as malformed if no numeral follows it and as invalid if the
numeral belongs to no character. Every text has exactly one of these outcomes. -/
theorem unescape_grammar {escape : Char}
    (legal : CharClass.escapeCharacter.contains escape = true) (text : List Char) :
    (∀ unit c, EscapeUnit escape unit c ↔
      (c ≠ escape ∧ unit = [c]) ∨ (c = escape ∧ unit = [escape, escape]) ∨
        ∃ numeral, Numeral numeral c.toNat ∧ unit = escape :: numeral) ∧
    (∀ decoded, unescape escape text = .ok decoded ↔ DecodesTo escape text decoded) ∧
    (∀ pieces pieces' : List (List Char × Char),
      (∀ piece ∈ pieces, EscapeUnit escape piece.1 piece.2) →
      (∀ piece ∈ pieces', EscapeUnit escape piece.1 piece.2) →
      pieces.flatMap Prod.fst = text → pieces'.flatMap Prod.fst = text → pieces = pieces') ∧
    (∀ offset reported, unescape escape text = .error (.malformedEscape offset reported) ↔
      reported = escape ∧ MalformedAt escape text offset) ∧
    (∀ offset value, unescape escape text = .error (.invalidCodePoint offset value) ↔
      InvalidAt escape text offset value) ∧
    ((∃ decoded, DecodesTo escape text decoded) ∨ (∃ offset, MalformedAt escape text offset) ∨
      ∃ offset value, InvalidAt escape text offset value) ∧
    (∀ decoded offset, ¬ (DecodesTo escape text decoded ∧ MalformedAt escape text offset)) ∧
    (∀ decoded offset value,
      ¬ (DecodesTo escape text decoded ∧ InvalidAt escape text offset value)) ∧
    (∀ offset offset' value,
      ¬ (MalformedAt escape text offset ∧ InvalidAt escape text offset' value)) := by
  refine ⟨fun _ _ => escapeUnit_iff, fun _ => unescape_eq_ok_iff legal, ?_,
    fun _ _ => unescape_eq_malformed_iff legal, fun _ _ => unescape_eq_invalid_iff legal,
    hasOutcome escape text, ?_, ?_, ?_⟩
  · intro pieces pieces' areUnits areUnits' same same'
    exact pieces_unique legal areUnits areUnits' (same.trans same'.symm)
  -- no two outcomes meet, since the decoder gives one result
  · rintro decoded offset ⟨spelled, malformed⟩
    simpa [spelled.unescape_eq legal] using malformed.unescape_eq legal
  · rintro decoded offset value ⟨spelled, invalid⟩
    simpa [spelled.unescape_eq legal] using invalid.unescape_eq legal
  · rintro offset offset' value ⟨malformed, invalid⟩
    simpa [malformed.unescape_eq legal] using invalid.unescape_eq legal

/-- A doubled escape character hides the digits behind it; an escape that breaks off and one for a
surrogate are found behind other units, at their offsets in bytes. -/
theorem unescape_grammar_exclamation :
    CharClass.escapeCharacter.contains '!' = true ∧
      DecodesTo '!' "é!!0041!0041!+01F600".toList "é!0041A😀".toList ∧
      MalformedAt '!' "é!!!+01F60".toList 4 ∧ InvalidAt '!' "é!d800!".toList 2 0xD800 := by
  have legal : CharClass.escapeCharacter.contains '!' = true := by
    simp [CharClass.escapeCharacter, CharClass.hexDigit, CharClass.whiteSpace]
  have decoded : unescape '!' "é!!0041!0041!+01F600".toList = .ok "é!0041A😀".toList := by
    with_unfolding_all rfl
  have malformed : unescape '!' "é!!!+01F60".toList = .error (.malformedEscape 4 '!') := by
    with_unfolding_all rfl
  have invalid : unescape '!' "é!d800!".toList = .error (.invalidCodePoint 2 0xD800) := by
    with_unfolding_all rfl
  obtain ⟨_, decodes, _⟩ := unescape_grammar legal "é!!0041!0041!+01F600".toList
  obtain ⟨_, _, _, breaksOff, _⟩ := unescape_grammar legal "é!!!+01F60".toList
  obtain ⟨_, _, _, _, surrogate, _⟩ := unescape_grammar legal "é!d800!".toList
  exact ⟨legal, (decodes _).mp decoded, ((breaksOff _ _).mp malformed).2,
    (surrogate _ _).mp invalid⟩

end SqlIdentifier.Identifier
