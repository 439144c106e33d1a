import SqlIdentifier.Proofs.Escapes
import SqlIdentifier.Proofs.Tokens

namespace SqlIdentifier.Identifier

namespace Shape

/-- The shape stands in the text at a byte offset, and what follows does not carry it on. -/
def StandsAt (shape : Shape) (text : List Char) (position : Nat) : Prop :=
  ∃ before after, text = before ++ (shape.text ++ after) ∧ position = Text.byteSize before ∧
    shape.ClosedBy after

/-- What the form of the shape matches where the shape stands. -/
def candidate (position : Nat) (shape : Shape) : Candidate :=
  ⟨shape.kind, ⟨position, position + Text.byteSize shape.text⟩, shape.captures position⟩

theorem standsAt_whole (shape : Shape) : shape.StandsAt shape.text 0 :=
  ⟨[], [], (List.append_nil _).symm, rfl, shape.closedBy_nil⟩

/-- At the start of a text and up to its end, a shape is all of the text. -/
theorem StandsAt.text_eq {shape : Shape} {text : List Char} (stands : shape.StandsAt text 0)
    (covers : Text.byteSize shape.text = Text.byteSize text) : shape.text = text := by
  obtain ⟨before, after, rfl, start, _⟩ := stands
  rw [Text.byteSize_append, Text.byteSize_append] at covers
  have noBefore := Text.eq_nil_of_byteSize start.symm
  have noAfter : after = [] := Text.eq_nil_of_byteSize (by omega)
  rw [noBefore, noAfter, List.nil_append, List.append_nil]

end Shape

theorem slice?_of_parts (before covered after : List Char) {start : Nat}
    (offset : start = Text.byteSize before) :
    (Span.mk start (start + Text.byteSize covered)).slice? (before ++ (covered ++ after)) =
      some covered := by
  refine Span.slice?_eq_some_iff.mpr ⟨before, after, (List.append_assoc ..).symm, offset, ?_⟩
  rw [Text.byteSize_append, offset]

/-- The grammar of a form matches exactly the shapes of this form, with the spans of their parts. -/
theorem submatchesAt?_eq_some_iff {form : Form} (listed : form ∈ forms) {text : List Char}
    {position : Nat} {found : Span × Captures} :
    form.pattern.submatchesAt? text position = some found ↔
      ∃ shape : Shape, shape.kind = form.kind ∧ shape.StandsAt text position ∧
        found = (⟨position, position + Text.byteSize shape.text⟩, shape.captures position) := by
  have matchesShapes := Grammar.forms_matchShapes listed
  obtain ⟨span, captures⟩ := found
  simp only [Pattern.submatchesAt?, Option.bind_eq_some_iff, Cursor.at?_eq_some_iff,
    Pattern.matchFrom?_eq_some_iff]
  constructor
  · intro recognised
    obtain ⟨cursor, ⟨here, before, parts, offset⟩, behind, run, atSpan⟩ := recognised
    obtain ⟨shape, behind', sameKind, passes, closed, after⟩ := (matchesShapes cursor _).mp run
    obtain ⟨rfl, rfl⟩ := Pattern.State.mk.inj after
    refine ⟨shape, sameKind, ⟨before, behind.rest, ?_, offset, closed⟩, ?_⟩
    · rw [parts, passes.rest]
    · rw [atSpan, passes.position, here]
  · intro found
    obtain ⟨shape, sameKind, ⟨before, after, parts, offset, closed⟩, same⟩ := found
    obtain ⟨rfl, rfl⟩ := Prod.mk.inj same
    obtain ⟨behind, passes, left⟩ := Cursor.exists_passes
      (show (Cursor.mk position (shape.text ++ after)).rest = shape.text ++ after from rfl)
    refine ⟨⟨position, shape.text ++ after⟩, ⟨rfl, before, parts, offset⟩, behind, ?_, ?_⟩
    · exact (matchesShapes _ _).mpr ⟨shape, behind, sameKind, passes, by rw [left]; exact closed, rfl⟩
    · rw [passes.position]

theorem candidateAt?_eq_some_iff {form : Form} (listed : form ∈ forms) {text : List Char}
    {position : Nat} {found : Candidate} :
    form.candidateAt? text position = some found ↔
      ∃ shape : Shape, shape.kind = form.kind ∧ shape.StandsAt text position ∧
        found = shape.candidate position := by
  simp only [Form.candidateAt?, Option.map_eq_some_iff, submatchesAt?_eq_some_iff listed]
  constructor
  · rintro ⟨_, ⟨shape, sameKind, stands, rfl⟩, rfl⟩
    exact ⟨shape, sameKind, stands, by rw [Shape.candidate, sameKind]⟩
  · rintro ⟨shape, sameKind, stands, rfl⟩
    exact ⟨_, ⟨shape, sameKind, stands, rfl⟩, by rw [Shape.candidate, sameKind]⟩

section Unicode

variable {letter : Char} {isLetter : letter ∈ ['U', 'u']} {body : Body} {clause : Option Clause}
  {text before after : List Char} {position : Nat}

theorem unicode_opened (isLetter : letter ∈ ['U', 'u']) (offset : position = Text.byteSize before) :
    position + 3 = Text.byteSize (before ++ [letter, '&', '"']) := by
  rw [Text.byteSize_append, offset, Text.byteSize_cons, Text.utf8Size_unicodeLetter letter isLetter]
  rfl

theorem unicode_regroup
    (parts : text = before ++ ((Shape.unicodeDelimited letter isLetter body clause).text ++ after)) :
    text = before ++ [letter, '&', '"'] ++
      (body.text ++ '"' :: ((clause.map Clause.text).getD [] ++ after)) := by
  rw [parts]
  simp [Shape.text]

theorem slice?_unicodeBody
    (parts : text = before ++ ((Shape.unicodeDelimited letter isLetter body clause).text ++ after))
    (offset : position = Text.byteSize before) :
    (Span.mk (position + 3) (position + 3 + Text.byteSize body.text)).slice? text =
      some body.text := by
  rw [unicode_regroup parts]
  exact slice?_of_parts _ _ _ (unicode_opened isLetter offset)

theorem slice?_escape {clause : Clause}
    (parts : text =
      before ++ ((Shape.unicodeDelimited letter isLetter body (some clause)).text ++ after))
    (offset : position = Text.byteSize before) :
    (clause.escapeSpan (position + 3 + Text.byteSize body.text + 1)).slice? text =
      some [clause.escape] := by
  let upTo := before ++ [letter, '&', '"'] ++ body.text ++ ['"'] ++
    (clause.before ++ (clause.word ++ (clause.between ++ ['\''])))
  have regroup : text = upTo ++ ([clause.escape] ++ '\'' :: after) := by
    rw [unicode_regroup parts]
    simp [upTo, Clause.text]
  have start : position + 3 + Text.byteSize body.text + 1 +
      Text.byteSize (clause.before ++ (clause.word ++ (clause.between ++ ['\'']))) =
        Text.byteSize upTo := by
    have opened := unicode_opened isLetter offset
    have quote : Text.byteSize ['"'] = 1 := rfl
    simp only [upTo, Text.byteSize_append] at opened ⊢
    omega
  rw [regroup]
  exact slice?_of_parts upTo [clause.escape] ('\'' :: after) start

end Unicode

theorem slice?_delimitedBody {body : Body} {text before after : List Char} {position : Nat}
    (parts : text = before ++ ((Shape.delimited body).text ++ after))
    (offset : position = Text.byteSize before) :
    (Span.mk (position + 1) (position + 1 + Text.byteSize body.text)).slice? text =
      some body.text := by
  have regroup : text = before ++ ['"'] ++ (body.text ++ '"' :: after) := by
    rw [parts]
    simp [Shape.text]
  have start : position + 1 = Text.byteSize (before ++ ['"']) := by
    rw [Text.byteSize_append, offset]
    rfl
  rw [regroup]
  exact slice?_of_parts _ _ _ start

/-- Cutting the parts from the text never loses a match. -/
theorem ofCandidate?_candidate {shape : Shape} {text : List Char} {position : Nat}
    (stands : shape.StandsAt text position) :
    Match.ofCandidate? text (shape.candidate position) = some (shape.matchAt position) := by
  obtain ⟨before, after, parts, offset, _⟩ := stands
  cases shape with
  | regular first later starts continues =>
    have whole := slice?_of_parts before (first :: later) after offset
    simp only [Match.ofCandidate?, Shape.candidate, Shape.kind, Shape.text, parts, whole,
      Option.map_some, Shape.matchAt]
  | delimited body =>
    simp only [Match.ofCandidate?, Shape.candidate, Shape.kind, Shape.captures, Captures.get?,
      Option.bind_some, slice?_delimitedBody parts offset, Option.map_some, Shape.matchAt]
  | unicodeDelimited letter isLetter body clause =>
    simp only [Match.ofCandidate?, Shape.candidate, Shape.kind, Shape.captures, Captures.get?,
      Option.bind_some, slice?_unicodeBody parts offset, Option.map_some, Shape.matchAt]
    cases clause with
    | none => rfl
    | some clause => simp only [Option.map_some, Option.bind_some, slice?_escape parts offset,
        List.head?_cons]

/-- A form covers a whole text exactly with a shape that has this text. -/
theorem coversWhole_iff {form : Form} (listed : form ∈ forms) {text : List Char} {found : Match} :
    ((form.candidateAt? text 0).bind fun candidate =>
      if candidate.span.stop = Text.byteSize text then Match.ofCandidate? text candidate
      else none) = some found ↔
      ∃ shape : Shape, shape.kind = form.kind ∧ shape.text = text ∧ found = shape.matchAt 0 := by
  simp only [Option.bind_eq_some_iff, candidateAt?_eq_some_iff listed]
  constructor
  · intro covered
    obtain ⟨_, ⟨shape, sameKind, stands, rfl⟩, cut⟩ := covered
    split at cut
    · rename_i covers
      have size : Text.byteSize shape.text = Text.byteSize text := (Nat.zero_add _).symm.trans covers
      rw [ofCandidate?_candidate stands] at cut
      exact ⟨shape, sameKind, stands.text_eq size, (Option.some.inj cut).symm⟩
    · simp at cut
  · intro shaped
    obtain ⟨shape, sameKind, rfl, rfl⟩ := shaped
    have covers : (shape.candidate 0).span.stop = Text.byteSize shape.text := Nat.zero_add _
    refine ⟨_, ⟨shape, sameKind, shape.standsAt_whole, rfl⟩, ?_⟩
    rw [if_pos covers, ofCandidate?_candidate shape.standsAt_whole]

theorem exists_form (kind : Kind) : ∃ form ∈ forms, form.kind = kind := by
  cases kind <;> simp [forms]

/-- A whole text is recognised exactly as the shape that it spells. The order in which the forms are
tried does not matter, as no text has two of them. -/
theorem matchWhole?_eq_some_iff {text : List Char} {found : Match} :
    matchWhole? text = some found ↔
      ∃ shape : Shape, shape.text = text ∧ found = shape.matchAt 0 := by
  constructor
  · intro recognised
    obtain ⟨form, listed, covered⟩ := List.exists_of_findSome?_eq_some recognised
    obtain ⟨shape, _, sameText, sameMatch⟩ := (coversWhole_iff listed).mp covered
    exact ⟨shape, sameText, sameMatch⟩
  · intro shaped
    obtain ⟨shape, sameText, rfl⟩ := shaped
    obtain ⟨form, listed, sameKind⟩ := exists_form shape.kind
    have covered := (coversWhole_iff listed).mpr ⟨shape, sameKind.symm, sameText, rfl⟩
    -- whichever form is found first, its shape has the same text and is therefore this one
    cases recognised : matchWhole? text with
    | none =>
      have refused := List.findSome?_eq_none_iff.mp recognised form listed
      rw [covered] at refused
      simp at refused
    | some other =>
      obtain ⟨form', listed', covered'⟩ := List.exists_of_findSome?_eq_some recognised
      obtain ⟨shape', _, sameText', rfl⟩ := (coversWhole_iff listed').mp covered'
      rw [Shape.text_injective (sameText'.trans sameText.symm)]

theorem matchWhole?_text (shape : Shape) : matchWhole? shape.text = some (shape.matchAt 0) :=
  matchWhole?_eq_some_iff.mpr ⟨shape, rfl, rfl⟩

theorem matchWhole?_eq_none_iff {text : List Char} :
    matchWhole? text = none ↔ ∀ shape : Shape, shape.text ≠ text := by
  constructor
  · intro refused shape sameText
    rw [← sameText, matchWhole?_text] at refused
    simp at refused
  · intro shapeless
    cases recognised : matchWhole? text with
    | none => rfl
    | some found =>
      obtain ⟨shape, sameText, _⟩ := matchWhole?_eq_some_iff.mp recognised
      exact absurd sameText (shapeless shape)

theorem checkLength_ne_noMatch {text : List Char} {position : Nat} :
    checkLength text ≠ .error (.noMatch position) := by
  unfold checkLength
  split <;> simp

theorem decode_ne_noMatch (found : Match) {position : Nat} :
    found.decode ≠ .error (.noMatch position) := by
  cases found with
  | regular => exact checkLength_ne_noMatch
  | delimited => exact checkLength_ne_noMatch
  | unicodeDelimited span body escape =>
    rw [Match.decode]
    cases decoded : unescape (escape.getD defaultEscape) (halveQuotes body) with
    | ok text => exact checkLength_ne_noMatch
    | error error =>
      intro same
      rw [unescape] at decoded
      rw [Except.error.inj same] at decoded
      exact unescapeFrom_ne_noMatch decoded

/-- Only a text without any of the forms is reported as no identifier. -/
theorem parse_eq_noMatch_iff {text : List Char} :
    parse text = .error (.noMatch 0) ↔ matchWhole? text = none := by
  unfold parse
  split
  · rename_i refused
    simp [refused]
  · rename_i found recognised
    simp [recognised, decode_ne_noMatch found]

theorem matchWhole?_regular_iff {text covered : List Char} {span : Span} :
    matchWhole? text = some (.regular span covered) ↔
      span = ⟨0, Text.byteSize text⟩ ∧ covered = text ∧
        ∃ first parts, text = first :: parts ∧ CharClass.isoPostgresStart.contains first = true ∧
          ∀ c ∈ parts, CharClass.isoPostgresPart.contains c = true := by
  rw [matchWhole?_eq_some_iff]
  constructor
  · intro recognised
    obtain ⟨shape, rfl, same⟩ := recognised
    cases shape with
    | regular first parts starts continues =>
      obtain ⟨rfl, rfl⟩ := Match.regular.inj same
      exact ⟨by rw [Nat.zero_add], rfl, first, parts, rfl, starts, continues⟩
    | delimited => simp [Shape.matchAt] at same
    | unicodeDelimited => simp [Shape.matchAt] at same
  · intro spelled
    obtain ⟨rfl, rfl, first, parts, rfl, starts, continues⟩ := spelled
    exact ⟨.regular first parts starts continues, rfl, by rw [Shape.matchAt, Nat.zero_add]; rfl⟩

theorem matchWhole?_delimited_iff {text body : List Char} {span : Span} :
    matchWhole? text = some (.delimited span body) ↔
      span = ⟨0, Text.byteSize text⟩ ∧ text = '"' :: (body ++ ['"']) ∧
        ∃ units : Body, body = units.text := by
  rw [matchWhole?_eq_some_iff]
  constructor
  · intro recognised
    obtain ⟨shape, rfl, same⟩ := recognised
    cases shape with
    | regular => simp [Shape.matchAt] at same
    | delimited units =>
      obtain ⟨rfl, rfl⟩ := Match.delimited.inj same
      exact ⟨by rw [Nat.zero_add], rfl, units, rfl⟩
    | unicodeDelimited => simp [Shape.matchAt] at same
  · intro spelled
    obtain ⟨rfl, rfl, units, rfl⟩ := spelled
    exact ⟨.delimited units, rfl, by rw [Shape.matchAt, Nat.zero_add]; rfl⟩

theorem matchWhole?_unicodeDelimited_iff {text body : List Char} {span : Span}
    {escape : Option Char} :
    matchWhole? text = some (.unicodeDelimited span body escape) ↔
      span = ⟨0, Text.byteSize text⟩ ∧ ∃ (letter : Char) (units : Body) (clause : Option Clause),
        letter ∈ ['U', 'u'] ∧ body = units.text ∧ escape = clause.map Clause.escape ∧
        text = letter :: '&' :: '"' :: (body ++ '"' :: (clause.map Clause.text).getD []) := by
  rw [matchWhole?_eq_some_iff]
  constructor
  · intro recognised
    obtain ⟨shape, rfl, same⟩ := recognised
    cases shape with
    | regular => simp [Shape.matchAt] at same
    | delimited => simp [Shape.matchAt] at same
    | unicodeDelimited letter isLetter units clause =>
      obtain ⟨rfl, rfl, rfl⟩ := Match.unicodeDelimited.inj same
      exact ⟨by rw [Nat.zero_add], letter, units, clause, isLetter, rfl, rfl, rfl⟩
  · intro spelled
    obtain ⟨rfl, letter, units, clause, isLetter, rfl, rfl, rfl⟩ := spelled
    exact ⟨.unicodeDelimited letter isLetter units clause, rfl, by
      rw [Shape.matchAt, Nat.zero_add]; rfl⟩

/-- Whole texts are recognised exactly by the grammar of shapes: a regular identifier is a start
code point with parts behind it; a delimited one is a body of units in double quotes; a Unicode
delimited one has the prefix, a body and an optional clause. The match carries the parts and covers
the text, a text has at most one shape, with one division into parts, and what has none is refused. -/
theorem matchWhole?_grammar (text : List Char) :
    (∀ span covered, matchWhole? text = some (.regular span covered) ↔
      span = ⟨0, Text.byteSize text⟩ ∧ covered = text ∧
        ∃ first parts, text = first :: parts ∧ CharClass.isoPostgresStart.contains first = true ∧
          ∀ c ∈ parts, CharClass.isoPostgresPart.contains c = true) ∧
    (∀ span body, matchWhole? text = some (.delimited span body) ↔
      span = ⟨0, Text.byteSize text⟩ ∧ text = '"' :: (body ++ ['"']) ∧
        ∃ units : Body, body = units.text) ∧
    (∀ span body escape, matchWhole? text = some (.unicodeDelimited span body escape) ↔
      span = ⟨0, Text.byteSize text⟩ ∧ ∃ (letter : Char) (units : Body) (clause : Option Clause),
        letter ∈ ['U', 'u'] ∧ body = units.text ∧ escape = clause.map Clause.escape ∧
        text = letter :: '&' :: '"' :: (body ++ '"' :: (clause.map Clause.text).getD [])) ∧
    (∀ shape shape' : Shape, shape.text = text → shape'.text = text → shape = shape') ∧
    (matchWhole? text = none ↔ ∀ shape : Shape, shape.text ≠ text) ∧
    (parse text = .error (.noMatch 0) ↔ ∀ shape : Shape, shape.text ≠ text) := by
  refine ⟨fun _ _ => matchWhole?_regular_iff, fun _ _ => matchWhole?_delimited_iff,
    fun _ _ _ => matchWhole?_unicodeDelimited_iff, ?_, matchWhole?_eq_none_iff, ?_⟩
  · intro shape shape' sameText sameText'
    exact Shape.text_injective (sameText.trans sameText'.symm)
  · rw [parse_eq_noMatch_iff, matchWhole?_eq_none_iff]

end SqlIdentifier.Identifier
