import SqlIdentifier.Proofs.Dispatch

namespace SqlIdentifier.Identifier

/-- The same identifier at another place. -/
def Match.withSpan (span : Span) : Match → Match
  | regular _ text => .regular span text
  | delimited _ body => .delimited span body
  | unicodeDelimited _ body escape => .unicodeDelimited span body escape

@[simp]
theorem Match.decode_withSpan (found : Match) (span : Span) :
    (found.withSpan span).decode = found.decode := by
  cases found <;> rfl

/-- The text starts at a byte offset as a Unicode delimited identifier does. -/
def UnicodePrefixAt (text : List Char) (position : Nat) : Prop :=
  ∃ before letter after, letter ∈ ['U', 'u'] ∧ text = before ++ letter :: '&' :: '"' :: after ∧
    position = Text.byteSize before

theorem form_eq_of_kind {form form' : Form} (listed : form ∈ forms) (listed' : form' ∈ forms)
    (sameKind : form.kind = form'.kind) : form = form' := by
  simp only [forms, List.mem_cons, List.not_mem_nil, or_false] at listed listed'
  rcases listed with rfl | rfl | rfl <;> rcases listed' with rfl | rfl | rfl <;> simp_all

namespace Shape

variable {shape shape' : Shape} {text : List Char} {position : Nat}

theorem matchAt_withSpan (shape : Shape) (position : Nat) :
    (shape.matchAt position).withSpan ⟨0, Text.byteSize shape.text⟩ = shape.matchAt 0 := by
  cases shape <;> simp only [matchAt, Match.withSpan, Nat.zero_add]

theorem StandsAt.slice?_span (stands : shape.StandsAt text position) :
    (shape.matchAt position).span.slice? text = some shape.text := by
  obtain ⟨before, after, parts, offset, _⟩ := stands
  rw [span_matchAt, parts]
  exact slice?_of_parts before shape.text after offset

theorem StandsAt.unicodePrefixAt (stands : shape.StandsAt text position)
    (isUnicode : shape.kind = .unicodeDelimited) : UnicodePrefixAt text position := by
  obtain ⟨before, after, parts, offset, _⟩ := stands
  cases shape with
  | regular => simp [kind] at isUnicode
  | delimited => simp [kind] at isUnicode
  | unicodeDelimited letter isLetter body clause =>
    have opened : text = before ++ letter :: '&' :: '"' ::
        (body.text ++ '"' :: (clause.map Clause.text).getD [] ++ after) := parts
    exact ⟨before, letter, _, isLetter, opened, offset⟩

/-- A Unicode delimited identifier has at least its prefix and two quotes. -/
theorem one_lt_byteSize (isUnicode : shape.kind = .unicodeDelimited) :
    1 < Text.byteSize shape.text := by
  have long := Text.length_le_byteSize shape.text
  cases shape with
  | regular => simp [kind] at isUnicode
  | delimited => simp [kind] at isUnicode
  | unicodeDelimited letter isLetter body clause =>
    simp only [text, List.length_cons, List.length_append] at long
    simp only [text]
    omega

/-- Two shapes at one place have one form, or a Unicode delimited identifier starts there. -/
theorem StandsAt.kind_eq_or_unicodePrefixAt (stands : shape.StandsAt text position)
    (stands' : shape'.StandsAt text position) :
    shape.kind = shape'.kind ∨ UnicodePrefixAt text position := by
  obtain ⟨after, after', same, _, _⟩ := stands.together stands'
  rcases kind_cases same with sameKind | ⟨_, isUnicode⟩ | ⟨_, isUnicode⟩
  · exact Or.inl sameKind
  · exact Or.inr (stands'.unicodePrefixAt isUnicode)
  · exact Or.inr (stands.unicodePrefixAt isUnicode)

end Shape

namespace UnicodePrefixAt

variable {text : List Char} {position : Nat}

/-- As a regular identifier the letter of the prefix stands alone, since an ampersand is no part. -/
theorem exists_letter (opened : UnicodePrefixAt text position) :
    ∃ shape : Shape, shape.StandsAt text position ∧
      shape.candidate position = ⟨.regular, ⟨position, position + 1⟩, {}⟩ := by
  obtain ⟨before, letter, after, isLetter, parts, offset⟩ := opened
  have starts := CharClass.isoPostgresStart_unicodeLetter letter isLetter
  have size := Text.utf8Size_unicodeLetter letter isLetter
  have ended : CharClass.isoPostgresPart.contains '&' = false :=
    CharClass.isoPostgresPart_not_punctuation '&' (by simp)
  refine ⟨.regular letter [] starts (by simp), ⟨before, '&' :: '"' :: after, parts, offset, ?_⟩, ?_⟩
  · exact CharClass.head?_outside ended _
  · simp only [Shape.candidate, Shape.kind, Shape.text, Shape.captures, Text.byteSize_cons,
      Text.byteSize_nil, size, Nat.add_zero]

theorem not_delimited (opened : UnicodePrefixAt text position) {shape : Shape}
    (stands : shape.StandsAt text position) : shape.kind ≠ .delimited := by
  intro isDelimited
  obtain ⟨letter, standsLetter, found⟩ := opened.exists_letter
  have isRegular : letter.kind = .regular := congrArg Candidate.kind found
  obtain ⟨_, _, same, _, _⟩ := standsLetter.together stands
  rcases Shape.kind_cases same with sameKind | ⟨_, isUnicode⟩ | ⟨only, _⟩
  · simp [← sameKind, isRegular] at isDelimited
  · simp [isUnicode] at isDelimited
  · simp [only.isRegular] at isDelimited

end UnicodePrefixAt

/-- A quoted identifier is what is recognised wherever it stands: only the letter of its prefix can
stand there besides, and that is shorter. -/
theorem matchAt?_of_quoted {shape : Shape} {text : List Char} {position : Nat}
    (stands : shape.StandsAt text position) (quoted : shape.kind ≠ .regular) :
    matchAt? text position = some (shape.matchAt position) := by
  refine matchAt?_eq_some_iff.mpr ⟨shape, stands, rfl, ?_⟩
  intro other standsOther
  obtain ⟨after, after', same, closed, closed'⟩ := stands.together standsOther
  rcases Shape.kind_cases same with sameKind | ⟨letter, _⟩ | ⟨letter, isUnicode⟩
  · obtain ⟨rfl, _⟩ := Shape.unique sameKind closed closed' same
    exact Nat.le_refl _
  · exact absurd letter.isRegular quoted
  · obtain ⟨found, standsLetter, atLetter⟩ :=
      (stands.unicodePrefixAt isUnicode).exists_letter
    have isRegular : found.kind = .regular := congrArg Candidate.kind atLetter
    obtain ⟨_, _, equal, ended, ended'⟩ := standsOther.together standsLetter
    have sameShape := (Shape.unique (letter.isRegular.trans isRegular.symm) ended ended' equal).1
    have one : Text.byteSize found.text = 1 := by
      rw [← Shape.size_candidate found position, atLetter]
      simp [Span.size]
    have more := Shape.one_lt_byteSize isUnicode
    rw [sameShape]
    omega

/-- Whole texts are recognised as what stands at their start and reaches to their end. -/
theorem matchWhole?_iff_matchAt?_zero {text : List Char} {found : Match} :
    matchWhole? text = some found ↔
      matchAt? text 0 = some found ∧ found.span.stop = Text.byteSize text := by
  rw [matchWhole?_eq_some_iff]
  constructor
  · intro recognised
    obtain ⟨shape, rfl, rfl⟩ := recognised
    refine ⟨matchAt?_eq_some_iff.mpr ⟨shape, shape.standsAt_whole, rfl, ?_⟩, ?_⟩
    · intro other stands
      obtain ⟨before, after, parts, _, _⟩ := stands
      have size := congrArg Text.byteSize parts
      rw [Text.byteSize_append, Text.byteSize_append] at size
      omega
    · rw [Shape.span_matchAt, Nat.zero_add]
  · intro recognised
    obtain ⟨anchored, covers⟩ := recognised
    obtain ⟨shape, stands, rfl, _⟩ := matchAt?_eq_some_iff.mp anchored
    rw [Shape.span_matchAt, Nat.zero_add] at covers
    exact ⟨shape, stands.text_eq covers, rfl⟩

theorem isSome_matchAt?_iff {text : List Char} {position : Nat} :
    (matchAt? text position).isSome ↔
      ∃ form ∈ forms, (form.candidateAt? text position).isSome := by
  constructor
  · intro recognised
    obtain ⟨found, same⟩ := Option.isSome_iff_exists.mp recognised
    obtain ⟨shape, stands, _⟩ := matchAt?_eq_some_iff.mp same
    obtain ⟨form, listed, sameKind⟩ := exists_form shape.kind
    have candidate := (candidateAt?_eq_some_iff listed).mpr ⟨shape, sameKind.symm, stands, rfl⟩
    exact ⟨form, listed, Option.isSome_iff_exists.mpr ⟨_, candidate⟩⟩
  · intro matched
    obtain ⟨form, listed, isCandidate⟩ := matched
    obtain ⟨candidate, found⟩ := Option.isSome_iff_exists.mp isCandidate
    obtain ⟨shape, _, stands, _⟩ := (candidateAt?_eq_some_iff listed).mp found
    obtain ⟨longest, _, recognised, _⟩ := exists_longestShape stands
    exact Option.isSome_iff_exists.mpr ⟨_, recognised⟩

section Candidates

variable {form form' : Form} {text : List Char} {position : Nat} {found found' : Candidate}

theorem form_eq_or_unicodePrefixAt (listed : form ∈ forms) (listed' : form' ∈ forms)
    (matched : form.candidateAt? text position = some found)
    (matched' : form'.candidateAt? text position = some found') :
    form = form' ∨ UnicodePrefixAt text position := by
  obtain ⟨shape, sameKind, stands, _⟩ := (candidateAt?_eq_some_iff listed).mp matched
  obtain ⟨shape', sameKind', stands', _⟩ := (candidateAt?_eq_some_iff listed').mp matched'
  refine (stands.kind_eq_or_unicodePrefixAt stands').imp_left ?_
  intro equal
  exact form_eq_of_kind listed listed' (by rw [← sameKind, ← sameKind', equal])

/-- Two forms never match the same number of bytes, so that their order decides nothing. -/
theorem form_eq_of_size (listed : form ∈ forms) (listed' : form' ∈ forms)
    (matched : form.candidateAt? text position = some found)
    (matched' : form'.candidateAt? text position = some found')
    (sameSize : found.span.size = found'.span.size) : form = form' := by
  obtain ⟨shape, sameKind, stands, rfl⟩ := (candidateAt?_eq_some_iff listed).mp matched
  obtain ⟨shape', sameKind', stands', rfl⟩ := (candidateAt?_eq_some_iff listed').mp matched'
  rw [Shape.size_candidate, Shape.size_candidate] at sameSize
  have sameShape := stands.eq_of_size stands' sameSize
  exact form_eq_of_kind listed listed' (by rw [← sameKind, ← sameKind', sameShape])

theorem candidateAt?_regular (opened : UnicodePrefixAt text position) (listed : form ∈ forms)
    (isRegular : form.kind = .regular) :
    form.candidateAt? text position = some ⟨.regular, ⟨position, position + 1⟩, {}⟩ := by
  obtain ⟨shape, stands, atLetter⟩ := opened.exists_letter
  have sameKind : shape.kind = form.kind := (congrArg Candidate.kind atLetter).trans isRegular.symm
  exact (candidateAt?_eq_some_iff listed).mpr ⟨shape, sameKind, stands, atLetter.symm⟩

theorem candidateAt?_delimited (opened : UnicodePrefixAt text position) (listed : form ∈ forms)
    (isDelimited : form.kind = .delimited) : form.candidateAt? text position = none := by
  cases matched : form.candidateAt? text position with
  | none => rfl
  | some found =>
    obtain ⟨shape, sameKind, stands, _⟩ := (candidateAt?_eq_some_iff listed).mp matched
    exact absurd (sameKind.trans isDelimited) (opened.not_delimited stands)

theorem candidateAt?_unicodeDelimited (listed : form ∈ forms)
    (isUnicode : form.kind = .unicodeDelimited)
    (matched : form.candidateAt? text position = some found) :
    1 < found.span.size ∧ ∃ recognised, Match.ofCandidate? text found = some recognised ∧
      matchAt? text position = some recognised := by
  obtain ⟨shape, sameKind, stands, rfl⟩ := (candidateAt?_eq_some_iff listed).mp matched
  have unicodeShape := sameKind.trans isUnicode
  refine ⟨?_, _, ofCandidate?_candidate stands, matchAt?_of_quoted stands (by simp [unicodeShape])⟩
  rw [Shape.size_candidate]
  exact Shape.one_lt_byteSize unicodeShape

end Candidates

/-- What is recognised at a position is recognised as a whole once it is cut out of the text. -/
theorem matchWhole?_slice {text : List Char} {position : Nat} {found : Match}
    (recognised : matchAt? text position = some found) :
    ∃ covered, found.span.slice? text = some covered ∧
      matchWhole? covered = some (found.withSpan ⟨0, found.span.size⟩) := by
  obtain ⟨shape, stands, rfl, _⟩ := matchAt?_eq_some_iff.mp recognised
  have size : (shape.matchAt position).span.size = Text.byteSize shape.text := by
    rw [Shape.span_matchAt]
    exact Nat.add_sub_cancel_left ..
  refine ⟨shape.text, stands.slice?_span, ?_⟩
  rw [size, Shape.matchAt_withSpan, matchWhole?_text]

/-- Recognising at a position and recognising a whole text agree. A whole text is recognised as what
stands at its start and covers it. At one position at most one form matches, except where the text
starts as a Unicode delimited identifier does: there the regular form takes the letter alone, the
delimited form nothing, and the third form, if it matches, takes more and is the result. No two forms
match equally much, and something is recognised where any form matches. What is recognised, cut out
of the text, is recognised again as the same identifier and stands for the same text. -/
theorem matchAt?_agrees_matchWhole? (text : List Char) (position : Nat) :
    (∀ found, matchWhole? text = some found ↔
      matchAt? text 0 = some found ∧ found.span.stop = Text.byteSize text) ∧
    (∀ form ∈ forms, ∀ form' ∈ forms, ∀ found found',
      form.candidateAt? text position = some found →
      form'.candidateAt? text position = some found' →
      (form = form' ∨ UnicodePrefixAt text position) ∧
        (found.span.size = found'.span.size → form = form')) ∧
    (UnicodePrefixAt text position → ∀ form ∈ forms,
      (form.kind = .regular →
        form.candidateAt? text position = some ⟨.regular, ⟨position, position + 1⟩, {}⟩) ∧
      (form.kind = .delimited → form.candidateAt? text position = none) ∧
      (form.kind = .unicodeDelimited → ∀ found, form.candidateAt? text position = some found →
        1 < found.span.size ∧ ∃ recognised, Match.ofCandidate? text found = some recognised ∧
          matchAt? text position = some recognised)) ∧
    ((matchAt? text position).isSome ↔
      ∃ form ∈ forms, (form.candidateAt? text position).isSome) ∧
    (∀ found, matchAt? text position = some found →
      ∃ covered, found.span.slice? text = some covered ∧
        matchWhole? covered = some (found.withSpan ⟨0, found.span.size⟩) ∧
        parse covered = found.decode) := by
  refine ⟨fun _ => matchWhole?_iff_matchAt?_zero, ?_, ?_, isSome_matchAt?_iff, ?_⟩
  · intro form listed form' listed' found found' matched matched'
    exact ⟨form_eq_or_unicodePrefixAt listed listed' matched matched',
      form_eq_of_size listed listed' matched matched'⟩
  · intro opened form listed
    exact ⟨candidateAt?_regular opened listed, candidateAt?_delimited opened listed,
      fun isUnicode _ matched => candidateAt?_unicodeDelimited listed isUnicode matched⟩
  · intro found recognised
    obtain ⟨covered, cut, whole⟩ := matchWhole?_slice recognised
    refine ⟨covered, cut, whole, ?_⟩
    rw [parse, whole]
    exact found.decode_withSpan _

/-- Behind a character of two bytes the letter of the prefix competes with the identifier that it
starts, and the clause in front of a further quote belongs to what is cut out. -/
theorem matchAt?_agrees_matchWhole?_clause :
    UnicodePrefixAt "éu&\"x\"\"\" Uescape'!''".toList 2 ∧
      Form.candidateAt? ⟨.regular, Grammar.isoPostgresRegularToken⟩
        "éu&\"x\"\"\" Uescape'!''".toList 2 = some ⟨.regular, ⟨2, 3⟩, {}⟩ ∧
      matchAt? "éu&\"x\"\"\" Uescape'!''".toList 2 =
        some (.unicodeDelimited ⟨2, 20⟩ "x\"\"".toList (some '!')) ∧
      ∃ covered, (Span.mk 2 20).slice? "éu&\"x\"\"\" Uescape'!''".toList = some covered ∧
        matchWhole? covered = some (.unicodeDelimited ⟨0, 18⟩ "x\"\"".toList (some '!')) ∧
        parse covered = .ok "x\"".toList := by
  have opened : UnicodePrefixAt "éu&\"x\"\"\" Uescape'!''".toList 2 :=
    ⟨['é'], 'u', "x\"\"\" Uescape'!''".toList, by simp, by decide, by decide⟩
  have recognised : matchAt? "éu&\"x\"\"\" Uescape'!''".toList 2 =
      some (.unicodeDelimited ⟨2, 20⟩ "x\"\"".toList (some '!')) := by
    decide +kernel
  have decoded : Match.decode (.unicodeDelimited ⟨2, 20⟩ "x\"\"".toList (some '!')) =
      .ok "x\"".toList := by
    with_unfolding_all rfl
  obtain ⟨_, _, competing, _, again⟩ :=
    matchAt?_agrees_matchWhole? "éu&\"x\"\"\" Uescape'!''".toList 2
  obtain ⟨covered, cut, whole, parsed⟩ := again _ recognised
  have letter := (competing opened ⟨.regular, Grammar.isoPostgresRegularToken⟩ (by simp [forms])).1
  exact ⟨opened, letter rfl, recognised, covered, cut, whole, parsed.trans decoded⟩

end SqlIdentifier.Identifier
