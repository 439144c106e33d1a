import SqlIdentifier.Proofs.Anchoring
import SqlIdentifier.Proofs.ScanLoop

namespace SqlIdentifier

namespace Span

def Covers (span : Span) (offset : Nat) : Prop :=
  span.start ≤ offset ∧ offset < span.stop

def Meets (span other : Span) : Prop :=
  span.start < other.stop ∧ other.start < span.stop

end Span

namespace Identifier

/-- What an identifier's span is in the text where it is recognised. -/
structure SpanIn (text : List Char) (span : Span) : Prop where
  nonempty : span.start < span.stop
  inside : span.stop ≤ Text.byteSize text
  startBoundary : span.start ∈ Text.boundaries 0 text
  stopBoundary : span.stop ∈ Text.boundaries 0 text

section Recognised

variable {text : List Char} {position : Nat} {found : Match}

theorem start_of_matchAt? (recognised : matchAt? text position = some found) :
    found.span.start = position := by
  obtain ⟨shape, _, rfl, _⟩ := matchAt?_eq_some_iff.mp recognised
  rw [Shape.span_matchAt]

theorem spanIn_of_matchAt? (recognised : matchAt? text position = some found) :
    SpanIn text found.span := by
  obtain ⟨shape, ⟨before, after, parts, offset, _⟩, rfl, _⟩ := matchAt?_eq_some_iff.mp recognised
  have positive := Text.byteSize_pos shape.text_ne_nil
  have size := congrArg Text.byteSize parts
  rw [Text.byteSize_append, Text.byteSize_append] at size
  rw [Shape.span_matchAt]
  refine ⟨?_, ?_, ?_, ?_⟩
  · show position < position + Text.byteSize shape.text
    omega
  · show position + Text.byteSize shape.text ≤ Text.byteSize text
    omega
  · exact Text.mem_boundaries.mpr ⟨before, _, parts, by rw [Nat.zero_add, offset]⟩
  · refine Text.mem_boundaries.mpr ⟨before ++ shape.text, after, ?_, ?_⟩
    · rw [parts, List.append_assoc]
    · rw [Text.byteSize_append, Nat.zero_add, offset]

theorem exists_closed_of_matchAt? (recognised : matchAt? text position = some found) :
    ∃ (shape : Shape) (before after : List Char), found = shape.matchAt position ∧
      text = before ++ shape.text ++ after ∧
      found.span.stop = Text.byteSize (before ++ shape.text) ∧ shape.ClosedBy after := by
  obtain ⟨shape, ⟨before, after, parts, offset, closed⟩, rfl, _⟩ :=
    matchAt?_eq_some_iff.mp recognised
  refine ⟨shape, before, after, rfl, ?_, ?_, closed⟩
  · rw [parts, List.append_assoc]
  · rw [Shape.span_matchAt, Text.byteSize_append, offset]

end Recognised

/-- The loop ends from every place in a text. Each round leaves less text ahead. -/
theorem exists_scanRun {text before rest : List Char} (parts : text = before ++ rest) :
    ∃ tokens, ScanRun text (Text.byteSize before) tokens := by
  induction size : rest.length using Nat.strongRecOn generalizing before rest with
  | _ size ih =>
    subst size
    cases rest with
    | nil =>
      rw [List.append_nil] at parts
      exact ⟨[], .done (Nat.le_of_eq (congrArg Text.byteSize parts))⟩
    | cons c later =>
      cases outcome : matchAt? text (Text.byteSize before) with
      | none =>
        have regroup : text = before ++ [c] ++ later := by rw [parts, List.append_cons]
        obtain ⟨tokens, run⟩ := ih later.length (by simp) regroup rfl
        rw [Text.byteSize_append] at run
        exact ⟨tokens, .skip parts rfl outcome run⟩
      | some found =>
        obtain ⟨shape, ⟨before', after, parts', offset, _⟩, rfl, _⟩ :=
          matchAt?_eq_some_iff.mp outcome
        obtain ⟨rfl, ahead⟩ := Text.append_inj_of_byteSize offset (parts.symm.trans parts')
        have started : Text.byteSize before < Text.byteSize text := by
          have positive := c.utf8Size_pos
          rw [parts, Text.byteSize_append, Text.byteSize_cons]
          omega
        have shorter : after.length < (c :: later).length := by
          have positive := List.length_pos_iff.mpr shape.text_ne_nil
          rw [ahead, List.length_append]
          omega
        have regroup : text = before ++ shape.text ++ after := by rw [parts', List.append_assoc]
        obtain ⟨tokens, run⟩ := ih after.length shorter regroup rfl
        refine ⟨shape.matchAt (Text.byteSize before) :: tokens, .token started outcome ?_⟩
        rw [Shape.span_matchAt]
        rwa [Text.byteSize_append] at run

theorem scan_run (text : List Char) : ScanRun text 0 (scan text) := by
  obtain ⟨tokens, run⟩ := exists_scanRun (List.nil_append text).symm
  have same : scan text = tokens := run.eq_scan
  rw [same]
  exact run

namespace ScanRun

variable {text : List Char} {position : Nat} {tokens : List Match}

/-- Every identifier found starts at or behind the place from which the loop runs, and is what is
recognised at its own start. -/
theorem recognised (run : ScanRun text position tokens) :
    ∀ found ∈ tokens, position ≤ found.span.start ∧
      matchAt? text found.span.start = some found := by
  induction run with
  | done => simp
  | @token position first later started matched _ ih =>
    have start := start_of_matchAt? matched
    have nonempty := (spanIn_of_matchAt? matched).nonempty
    intro found member
    rcases List.mem_cons.mp member with rfl | later
    · exact ⟨by omega, by rw [start]; exact matched⟩
    · obtain ⟨behind, again⟩ := ih found later
      exact ⟨by omega, again⟩
  | skip parts offset refused _ ih =>
    intro found member
    obtain ⟨behind, again⟩ := ih found member
    exact ⟨by omega, again⟩

theorem ordered (run : ScanRun text position tokens) :
    tokens.Pairwise fun earlier later =>
      earlier.span.start < later.span.start ∧ earlier.span.stop ≤ later.span.start := by
  induction run with
  | done => exact .nil
  | @token position first rest started matched later ih =>
    refine List.pairwise_cons.mpr ⟨?_, ih⟩
    intro found member
    have nonempty := (spanIn_of_matchAt? matched).nonempty
    have behind := (later.recognised found member).1
    exact ⟨by omega, behind⟩
  | skip _ _ _ _ ih => exact ih

/-- At every code point from which the loop runs on and that no identifier covers, nothing is
recognised. The loop stops at each of them: it skips one code point at a time. -/
theorem uncovered (run : ScanRun text position tokens) {before after : List Char} {c : Char}
    (parts : text = before ++ c :: after) (ahead : position ≤ Text.byteSize before)
    (free : ∀ found ∈ tokens, ¬ found.span.Covers (Text.byteSize before)) :
    matchAt? text (Text.byteSize before) = none := by
  induction run with
  | done atEnd =>
    have size := congrArg Text.byteSize parts
    have positive := c.utf8Size_pos
    rw [Text.byteSize_append, Text.byteSize_cons] at size
    omega
  | @token position first rest started matched later ih =>
    have start := start_of_matchAt? matched
    have outside := free first List.mem_cons_self
    have behind : first.span.stop ≤ Text.byteSize before := by
      unfold Span.Covers at outside
      omega
    exact ih behind fun found member => free found (List.mem_cons_of_mem first member)
  | @skip position before' after' d rest parts' offset refused later ih =>
    by_cases here : position = Text.byteSize before
    · rw [← here]
      exact refused
    · -- the next code point boundary is behind the skipped code point
      have first : before' ++ d :: after' = before ++ c :: after := parts'.symm.trans parts
      obtain ⟨middle, reached, rest⟩ := Text.exists_between first (by omega)
      have behind : position + d.utf8Size ≤ Text.byteSize before := by
        cases middle with
        | nil =>
          rw [List.append_nil] at reached
          rw [reached] at here
          exact absurd offset here
        | cons e others =>
          obtain ⟨rfl, _⟩ := List.cons.inj rest
          rw [reached, Text.byteSize_append, Text.byteSize_cons]
          omega
      exact ih behind free

end ScanRun

/-- What may stand directly behind an identifier that has just ended. -/
theorem kinds_of_touching {text : List Char} {position : Nat} {first second : Match}
    (recognised : matchAt? text position = some first)
    (touching : matchAt? text first.span.stop = some second) :
    (first.kind = .regular → second.kind = .delimited) ∧
    (first.kind = .delimited ∨ (∃ span body, first = .unicodeDelimited span body none) →
      second.kind ≠ .delimited) := by
  obtain ⟨shape, before, after, rfl, parts, stop, closed⟩ := exists_closed_of_matchAt? recognised
  obtain ⟨shape', ⟨before', after', parts', offset', _⟩, rfl, _⟩ :=
    matchAt?_eq_some_iff.mp touching
  obtain ⟨_, rfl⟩ := Text.append_inj_of_byteSize (stop.symm.trans offset')
    (parts.symm.trans parts')
  rw [Shape.kind_matchAt, Shape.kind_matchAt]
  constructor
  · intro isRegular
    cases shape with
    | regular =>
      -- the other two forms start with a part, which would have carried the first one on
      have ended {c : Char} {later : List Char} (same : shape'.text = c :: later)
          (opens : CharClass.isoPostgresStart.contains c = true) : False := by
        have outside := closed c (by rw [same]; rfl)
        exact CharClass.not_inside_and_outside (CharClass.isoPostgresStart_contained opens) outside
      cases shape' with
      | regular c parts begins => exact (ended rfl begins).elim
      | delimited => rfl
      | unicodeDelimited letter isLetter =>
        exact (ended rfl (CharClass.isoPostgresStart_unicodeLetter letter isLetter)).elim
    | delimited => simp [Shape.kind] at isRegular
    | unicodeDelimited => simp [Shape.kind] at isRegular
  · intro quoted isDelimited
    have noQuote : (shape'.text ++ after').head? ≠ some '"' := by
      cases shape with
      | regular => simp [Shape.kind, Shape.matchAt] at quoted
      | delimited => exact closed
      | unicodeDelimited letter isLetter body clause =>
        cases clause with
        | none => exact closed.1
        | some clause => simp [Shape.kind, Shape.matchAt] at quoted
    cases shape' with
    | regular => simp [Shape.kind] at isDelimited
    | delimited => exact noQuote rfl
    | unicodeDelimited => simp [Shape.kind] at isDelimited

/-- A quoted identifier ends with a quote, which is no part of a regular one. -/
theorem Shape.exists_last {shape : Shape} (quoted : shape.kind ≠ .regular) :
    ∃ front last, shape.text = front ++ [last] ∧
      CharClass.isoPostgresPart.contains last = false := by
  have doubleQuote : CharClass.isoPostgresPart.contains '"' = false :=
    CharClass.isoPostgresPart_not_punctuation '"' (by simp)
  have singleQuote : CharClass.isoPostgresPart.contains '\'' = false :=
    CharClass.isoPostgresPart_not_punctuation '\'' (by simp)
  cases shape with
  | regular => exact absurd rfl quoted
  | delimited body => exact ⟨'"' :: body.text, '"', rfl, doubleQuote⟩
  | unicodeDelimited letter isLetter body clause =>
    cases clause with
    | none => exact ⟨letter :: '&' :: '"' :: body.text, '"', rfl, doubleQuote⟩
    | some clause =>
      refine ⟨letter :: '&' :: '"' :: (body.text ++ '"' :: (clause.before ++ (clause.word ++
        (clause.between ++ ['\'', clause.escape])))), '\'', ?_, singleQuote⟩
      simp [Shape.text, Clause.text]

/-- An identifier does not end inside of a run of parts: the quoted forms do not end with a part, and
a regular identifier takes all of them. -/
theorem not_ends_inside_parts {text before parts after : List Char} {position : Nat} {found : Match}
    (recognised : matchAt? text position = some found) (split : text = before ++ (parts ++ after))
    (members : ∀ c ∈ parts, CharClass.isoPostgresPart.contains c = true)
    (begun : Text.byteSize before < found.span.stop)
    (unfinished : found.span.stop < Text.byteSize (before ++ parts)) : False := by
  obtain ⟨shape, front, rest, _, split', stop, closed⟩ := exists_closed_of_matchAt? recognised
  rw [stop] at begun unfinished
  obtain ⟨taken, reached, ahead⟩ := Text.exists_between (split.symm.trans split') (by omega)
  have within : Text.byteSize taken < Text.byteSize parts := by
    rw [reached, Text.byteSize_append, Text.byteSize_append] at unfinished
    omega
  obtain ⟨left, whole, behind⟩ := Text.exists_between ahead.symm (by omega)
  have someTaken : taken ≠ [] := by
    rintro rfl
    rw [reached, List.append_nil] at begun
    omega
  have someLeft : left ≠ [] := by
    rintro rfl
    rw [whole, List.append_nil] at within
    omega
  by_cases isRegular : shape.kind = .regular
  · obtain ⟨next, later, rfl⟩ := List.exists_cons_of_ne_nil someLeft
    have part := members next (by rw [whole]; simp)
    cases shape with
    | regular =>
      exact CharClass.not_inside_and_outside part (closed next (by rw [behind]; rfl))
    | delimited => simp [Shape.kind] at isRegular
    | unicodeDelimited => simp [Shape.kind] at isRegular
  · obtain ⟨init, last, atShape, outside⟩ := shape.exists_last isRegular
    have ends : (before ++ taken).getLast? = some last := by
      rw [← reached, atShape, ← List.append_assoc, List.getLast?_concat]
    rw [List.getLast?_append, List.getLast?_eq_some_getLast someTaken, Option.some_or] at ends
    have ofTaken : last ∈ taken := by
      rw [← Option.some.inj ends]
      exact List.getLast_mem someTaken
    have part := members last (by rw [whole]; exact List.mem_append_left left ofTaken)
    exact CharClass.not_inside_and_outside part outside

/-- No two identifiers of a scan have a share in one run of parts. -/
theorem ScanRun.parts_undivided {text before parts after : List Char} {position : Nat}
    {tokens : List Match} (run : ScanRun text position tokens)
    (split : text = before ++ (parts ++ after))
    (members : ∀ c ∈ parts, CharClass.isoPostgresPart.contains c = true) :
    tokens.Pairwise fun earlier later =>
      ¬ (earlier.span.Meets ⟨Text.byteSize before, Text.byteSize (before ++ parts)⟩ ∧
        later.span.Meets ⟨Text.byteSize before, Text.byteSize (before ++ parts)⟩) := by
  refine run.ordered.imp_of_mem ?_
  rintro earlier later member _ ⟨_, apart⟩ ⟨⟨_, begun⟩, ⟨unfinished, _⟩⟩
  have again := (run.recognised earlier member).2
  exact not_ends_inside_parts again split members begun (Nat.lt_of_le_of_lt apart unfinished)

section Bodies

variable {text before after : List Char} {body : Body}

theorem matchAt?_quotedBody (parts : text = before ++ '"' :: (body.text ++ '"' :: after))
    (single : after.head? ≠ some '"') :
    matchAt? text (Text.byteSize before) =
      some (.delimited ⟨Text.byteSize before, Text.byteSize before + Text.byteSize body.text + 2⟩
        body.text) := by
  have stands : (Shape.delimited body).StandsAt text (Text.byteSize before) :=
    ⟨before, after, by rw [parts]; simp [Shape.text], rfl, single⟩
  have quote : '"'.utf8Size = 1 := by decide
  rw [matchAt?_of_quoted stands (by simp [Shape.kind])]
  simp only [Shape.matchAt, Shape.text, Text.byteSize_cons, Text.byteSize_append, Text.byteSize_nil,
    quote, Option.some.injEq, Match.delimited.injEq, Span.mk.injEq, true_and, and_true]
  omega

theorem matchAt?_unicodeBody {letter : Char} (isLetter : letter ∈ ['U', 'u'])
    (parts : text = before ++ letter :: '&' :: '"' :: (body.text ++ '"' :: after))
    (single : after.head? ≠ some '"') :
    ∃ span escape,
      matchAt? text (Text.byteSize before) = some (.unicodeDelimited span body.text escape) ∧
      Text.byteSize (before ++ letter :: '&' :: '"' :: (body.text ++ ['"'])) ≤ span.stop := by
  -- whether a clause follows or not, an identifier with this body stands here
  have found (clause : Option Clause) (more : List Char)
      (split : after = (clause.map Clause.text).getD [] ++ more)
      (closed : (Shape.unicodeDelimited letter isLetter body clause).ClosedBy more) :
      matchAt? text (Text.byteSize before) =
        some ((Shape.unicodeDelimited letter isLetter body clause).matchAt
          (Text.byteSize before)) := by
    refine matchAt?_of_quoted ⟨before, more, ?_, rfl, closed⟩ (by simp [Shape.kind])
    rw [parts, split]
    simp [Shape.text]
  have long (clause : Option Clause) :
      Text.byteSize (before ++ letter :: '&' :: '"' :: (body.text ++ ['"'])) ≤
        Text.byteSize before +
          Text.byteSize (Shape.unicodeDelimited letter isLetter body clause).text := by
    simp only [Shape.text, Text.byteSize_append, Text.byteSize_cons, Text.byteSize_nil]
    omega
  by_cases named : ∃ (clause : Clause) (more : List Char), after = clause.text ++ more
  · obtain ⟨clause, more, split⟩ := named
    exact ⟨_, _, found (some clause) more split trivial, long (some clause)⟩
  · refine ⟨_, _, found none after rfl ⟨single, ?_⟩, long none⟩
    intro clause more split
    exact named ⟨clause, more, split⟩

end Bodies

/-- What a scan of any text finds. The loop ends, with one result. The spans are not empty, lie inside
the text between code points, in order and apart; each identifier is what is recognised at its start,
and at code points that none covers nothing is recognised. Where two identifiers touch, a delimited
one follows a regular one, and none follows a delimited one or a Unicode delimited one without a
clause. So no run of parts is divided between two identifiers, and a quoted body at the start of one
belongs to it as a whole. -/
theorem scan_tokens (text : List Char) :
    ScanRun text 0 (scan text) ∧ (∀ tokens, ScanRun text 0 tokens → tokens = scan text) ∧
    (∀ found ∈ scan text, SpanIn text found.span ∧
      matchAt? text found.span.start = some found) ∧
    ((scan text).Pairwise fun earlier later =>
      earlier.span.start < later.span.start ∧ earlier.span.stop ≤ later.span.start) ∧
    (∀ before c after, text = before ++ c :: after →
      (∀ found ∈ scan text, ¬ found.span.Covers (Text.byteSize before)) →
      matchAt? text (Text.byteSize before) = none) ∧
    (∀ first second, [first, second] <:+: scan text → first.span.stop = second.span.start →
      (first.kind = .regular → second.kind = .delimited) ∧
      (first.kind = .delimited ∨ (∃ span body, first = .unicodeDelimited span body none) →
        second.kind ≠ .delimited)) ∧
    (∀ before parts after, text = before ++ (parts ++ after) →
      (∀ c ∈ parts, CharClass.isoPostgresPart.contains c = true) →
      (scan text).Pairwise fun earlier later =>
        ¬ (earlier.span.Meets ⟨Text.byteSize before, Text.byteSize (before ++ parts)⟩ ∧
          later.span.Meets ⟨Text.byteSize before, Text.byteSize (before ++ parts)⟩)) ∧
    (∀ found ∈ scan text, ∀ (before : List Char) (body : Body) (after : List Char),
      found.span.start = Text.byteSize before → after.head? ≠ some '"' →
      (text = before ++ '"' :: (body.text ++ '"' :: after) →
        found = .delimited
          ⟨Text.byteSize before, Text.byteSize before + Text.byteSize body.text + 2⟩ body.text) ∧
      (∀ letter ∈ ['U', 'u'], text = before ++ letter :: '&' :: '"' :: (body.text ++ '"' :: after) →
        ∃ span escape, found = .unicodeDelimited span body.text escape ∧
          Text.byteSize (before ++ letter :: '&' :: '"' :: (body.text ++ ['"'])) ≤ span.stop)) := by
  have run := scan_run text
  have again (found : Match) (member : found ∈ scan text) :
      matchAt? text found.span.start = some found := (run.recognised found member).2
  refine ⟨run, fun _ other => other.eq_scan.symm, ?_, run.ordered, ?_, ?_, ?_, ?_⟩
  · intro found member
    exact ⟨spanIn_of_matchAt? (again found member), again found member⟩
  · intro before c after parts free
    exact run.uncovered parts (Nat.zero_le _) free
  · intro first second consecutive touch
    have firstFound := again first (consecutive.subset (by simp))
    have secondFound := again second (consecutive.subset (by simp))
    rw [← touch] at secondFound
    exact kinds_of_touching firstFound secondFound
  · intro before parts after split members
    exact run.parts_undivided split members
  · intro found member before body after start single
    have recognised := again found member
    rw [start] at recognised
    constructor
    · intro parts
      exact Option.some.inj (recognised.symm.trans (matchAt?_quotedBody parts single))
    · intro letter isLetter parts
      obtain ⟨span, escape, same, long⟩ := matchAt?_unicodeBody isLetter parts single
      exact ⟨span, escape, Option.some.inj (recognised.symm.trans same), long⟩

/-- Three identifiers that touch, a regular, a delimited and a Unicode delimited one. -/
theorem scan_tokens_touching :
    scan "ab\"c\"u&\"d\"".toList =
      [.regular ⟨0, 2⟩ ['a', 'b'], .delimited ⟨2, 5⟩ ['c'],
        .unicodeDelimited ⟨5, 10⟩ ['d'] none] ∧
    (Match.regular ⟨0, 2⟩ ['a', 'b']).span.stop = (Match.delimited ⟨2, 5⟩ ['c']).span.start ∧
    (Match.delimited ⟨2, 5⟩ ['c']).kind = .delimited ∧
    (Match.unicodeDelimited ⟨5, 10⟩ ['d'] none).kind ≠ .delimited := by
  have found : scan "ab\"c\"u&\"d\"".toList =
      [.regular ⟨0, 2⟩ ['a', 'b'], .delimited ⟨2, 5⟩ ['c'],
        .unicodeDelimited ⟨5, 10⟩ ['d'] none] := by
    decide +kernel
  obtain ⟨_, _, _, _, _, touching, _⟩ := scan_tokens "ab\"c\"u&\"d\"".toList
  rw [found] at touching
  have early := touching (.regular ⟨0, 2⟩ ['a', 'b']) (.delimited ⟨2, 5⟩ ['c'])
    ⟨[], [.unicodeDelimited ⟨5, 10⟩ ['d'] none], rfl⟩ rfl
  have late := touching (.delimited ⟨2, 5⟩ ['c']) (.unicodeDelimited ⟨5, 10⟩ ['d'] none)
    ⟨[.regular ⟨0, 2⟩ ['a', 'b']], [], rfl⟩ rfl
  exact ⟨found, rfl, early.1 rfl, late.2 (Or.inl rfl)⟩

end Identifier

end SqlIdentifier
