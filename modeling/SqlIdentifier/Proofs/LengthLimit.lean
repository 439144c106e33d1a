import SqlIdentifier.Proofs.Dispatch
import SqlIdentifier.Proofs.RoundTrip
import SqlIdentifier.Proofs.UnitLimit
import SqlIdentifier.Report

namespace SqlIdentifier.Identifier

/-- Halving leaves one code point of each unit. -/
theorem Body.length_halveQuotes (body : Body) :
    (halveQuotes body.text).length = body.units.length := by
  obtain ⟨source, _, written, length⟩ := body.exists_source
  rw [written, halveQuotes_doubleQuotes, length]

/-- A whole text leaves no quote behind the closing one, so that nothing is cut off at the limit. -/
theorem accepts_quoted_iff {limit : Nat} {text : List Char} :
    (Pattern.seq (Grammar.quoted (some limit))).accepts text = true ↔
      ∃ body : Body, (Shape.delimited body).text = text ∧ body.units.length ≤ limit := by
  simp only [Pattern.accepts_iff_submatchesAt?, Grammar.submatchesAt?_limited_iff]
  constructor
  · intro accepted
    obtain ⟨_, ⟨body, after, ⟨before, rfl, start⟩, few, _, rfl⟩, covers⟩ := accepted
    obtain rfl := Text.eq_nil_of_byteSize start.symm
    have ends : 0 + Text.byteSize body.text + 2 =
        Text.byteSize body.text + 2 + Text.byteSize after :=
          covers.trans (Grammar.byteSize_quoted body after)
    obtain rfl : after = [] := Text.eq_nil_of_byteSize (by omega)
    exact ⟨body, rfl, few⟩
  · intro spelled
    obtain ⟨body, rfl, few⟩ := spelled
    refine ⟨_, ⟨body, [], ⟨[], rfl, rfl⟩, few, Or.inl (by simp), rfl⟩, ?_⟩
    rw [Shape.text, Grammar.byteSize_quoted, Grammar.quotedMatch]
    simp

/-- The text that an identifier without escapes stands for, if that is not too long. -/
def Shape.plainValue : Shape → List Char
  | regular first parts _ _ => first :: parts
  | delimited body => halveQuotes body.text
  | unicodeDelimited _ _ body _ => halveQuotes body.text

theorem Shape.decode_plain {shape : Shape} (plain : shape.kind ≠ .unicodeDelimited)
    (position : Nat) : (shape.matchAt position).decode = checkLength shape.plainValue := by
  cases shape with
  | regular => rfl
  | delimited => rfl
  | unicodeDelimited => exact absurd rfl plain

/-- The grammar accepts the identifiers of one form that stand for a text within the limit. -/
def AcceptsWithinLimit (pattern : Pattern) (kind : Kind) : Prop :=
  ∀ text, pattern.accepts text = true ↔
    ∃ shape : Shape, shape.text = text ∧ shape.kind = kind ∧ shape.plainValue.length ≤ 128

theorem isoPostgresRegular_acceptsWithinLimit :
    AcceptsWithinLimit Grammar.isoPostgresRegular .regular := by
  intro text
  rw [Grammar.isoPostgresRegular, Grammar.accepts_cappedRegular_iff]
  constructor
  · intro spelled
    obtain ⟨first, parts, rfl, starts, continues, few⟩ := spelled
    have within : parts.length ≤ 127 := few
    refine ⟨.regular first parts starts continues, rfl, rfl, ?_⟩
    rw [Shape.plainValue, List.length_cons]
    omega
  · intro shaped
    obtain ⟨shape, rfl, isRegular, within⟩ := shaped
    cases shape with
    | regular first parts starts continues =>
      rw [Shape.plainValue, List.length_cons] at within
      refine ⟨first, parts, rfl, starts, continues, ?_⟩
      show parts.length ≤ 127
      omega
    | delimited => simp [Shape.kind] at isRegular
    | unicodeDelimited => simp [Shape.kind] at isRegular

theorem delimited_acceptsWithinLimit : AcceptsWithinLimit Grammar.delimited .delimited := by
  intro text
  rw [Grammar.delimited, accepts_quoted_iff]
  constructor
  · intro spelled
    obtain ⟨body, rfl, few⟩ := spelled
    refine ⟨.delimited body, rfl, rfl, ?_⟩
    rw [Shape.plainValue, body.length_halveQuotes]
    exact few
  · intro shaped
    obtain ⟨shape, rfl, isDelimited, within⟩ := shaped
    cases shape with
    | regular => simp [Shape.kind] at isDelimited
    | delimited body =>
      rw [Shape.plainValue, body.length_halveQuotes] at within
      exact ⟨body, rfl, within⟩
    | unicodeDelimited => simp [Shape.kind] at isDelimited

theorem checkLength_eq_ok_iff {text value : List Char} :
    checkLength text = .ok value ↔ text.length ≤ 128 ∧ value = text := by
  rw [checkLength_eq]
  split
  · rename_i within
    simp [within, eq_comm]
  · rename_i long
    simp [long]

theorem checkLength_of_long {text : List Char} (long : 128 < text.length) :
    checkLength text = .error (.lengthExceeded text.length 128) := by
  rw [checkLength_eq, if_neg (by omega)]

section Limited

variable {pattern : Pattern} {kind : Kind}

/-- The limit of the grammar and that of decoding are one. -/
theorem AcceptsWithinLimit.accepts_iff_decode (limited : AcceptsWithinLimit pattern kind)
    (plain : kind ≠ .unicodeDelimited) (text : List Char) :
    pattern.accepts text = true ↔
      ∃ found value, matchWhole? text = some found ∧ found.kind = kind ∧
        found.decode = .ok value := by
  rw [limited text]
  constructor
  · intro shaped
    obtain ⟨shape, rfl, sameKind, within⟩ := shaped
    refine ⟨shape.matchAt 0, shape.plainValue, matchWhole?_text shape, ?_, ?_⟩
    · rw [Shape.kind_matchAt, sameKind]
    · rw [Shape.decode_plain (by rwa [sameKind])]
      exact checkLength_eq_ok_iff.mpr ⟨within, rfl⟩
  · intro decoded
    obtain ⟨found, value, recognised, sameKind, decodes⟩ := decoded
    obtain ⟨shape, rfl, rfl⟩ := matchWhole?_eq_some_iff.mp recognised
    rw [Shape.kind_matchAt] at sameKind
    rw [Shape.decode_plain (by rwa [sameKind])] at decodes
    exact ⟨shape, rfl, sameKind, (checkLength_eq_ok_iff.mp decodes).1⟩

/-- What the grammar refuses although it has the form is too long for decoding. -/
theorem AcceptsWithinLimit.decode_of_refused (limited : AcceptsWithinLimit pattern kind)
    (plain : kind ≠ .unicodeDelimited) (shape : Shape) (sameKind : shape.kind = kind)
    (refused : pattern.accepts shape.text = false) :
    128 < shape.plainValue.length ∧
      (shape.matchAt 0).decode = .error (.lengthExceeded shape.plainValue.length 128) := by
  have long : 128 < shape.plainValue.length := by
    refine Nat.lt_of_not_le fun within => ?_
    rw [(limited shape.text).mpr ⟨shape, rfl, sameKind, within⟩] at refused
    simp at refused
  refine ⟨long, ?_⟩
  rw [Shape.decode_plain (by rwa [sameKind])]
  exact checkLength_of_long long

end Limited

/-- A regular identifier stands for itself. -/
theorem value_of_regular {text value : List Char} {found : Match}
    (recognised : matchWhole? text = some found) (isRegular : found.kind = .regular)
    (decodes : found.decode = .ok value) : value = text := by
  obtain ⟨shape, rfl, rfl⟩ := matchWhole?_eq_some_iff.mp recognised
  rw [Shape.kind_matchAt] at isRegular
  rw [decode_regular isRegular] at decodes
  exact (checkLength_eq_ok_iff.mp decodes).2

theorem isoPostgresRegular_accepts_iff {text value : List Char} :
    Grammar.isoPostgresRegular.accepts text = true ∧ value = text ↔
      ∃ found, matchWhole? text = some found ∧ found.kind = .regular ∧
        found.decode = .ok value := by
  have agrees := isoPostgresRegular_acceptsWithinLimit.accepts_iff_decode (by decide) text
  constructor
  · intro accepted
    obtain ⟨accepted, rfl⟩ := accepted
    obtain ⟨found, value', recognised, isRegular, decodes⟩ := agrees.mp accepted
    rw [value_of_regular recognised isRegular decodes] at decodes
    exact ⟨found, recognised, isRegular, decodes⟩
  · intro decoded
    obtain ⟨found, recognised, isRegular, decodes⟩ := decoded
    exact ⟨agrees.mpr ⟨found, value, recognised, isRegular, decodes⟩,
      value_of_regular recognised isRegular decodes⟩

theorem decode_regular_of_refused {text covered : List Char} {span : Span}
    (recognised : matchWhole? text = some (.regular span covered))
    (refused : Grammar.isoPostgresRegular.accepts text = false) :
    128 < text.length ∧
      (Match.regular span covered).decode = .error (.lengthExceeded text.length 128) := by
  obtain ⟨rfl, rfl, first, parts, rfl, starts, continues⟩ := matchWhole?_regular_iff.mp recognised
  exact isoPostgresRegular_acceptsWithinLimit.decode_of_refused (by decide)
    (.regular first parts starts continues) rfl refused

theorem decode_delimited_of_refused {text body : List Char} {span : Span}
    (recognised : matchWhole? text = some (.delimited span body))
    (refused : Grammar.delimited.accepts text = false) :
    ∃ divided : Body, divided.text = body ∧ 128 < divided.units.length ∧
      (Match.delimited span body).decode =
        .error (.lengthExceeded divided.units.length 128) := by
  obtain ⟨rfl, rfl, divided, rfl⟩ := matchWhole?_delimited_iff.mp recognised
  obtain ⟨long, decodes⟩ := delimited_acceptsWithinLimit.decode_of_refused (by decide)
    (.delimited divided) rfl refused
  rw [Shape.plainValue, divided.length_halveQuotes] at long decodes
  exact ⟨divided, rfl, long, decodes⟩

end SqlIdentifier.Identifier

namespace SqlIdentifier.Report

theorem check_eq (dialect : Dialect) (text : String) :
    check dialect text = ⟨text, .checked dialect (dialect.grammar.accepts text.toList)
      (dialect.grammar.matchAt? text.toList 0)⟩ := rfl

theorem decode_eq_decoded_iff {text : String} {kind : Identifier.Kind} {value : List Char} :
    decode text = ⟨text, .decoded kind value⟩ ↔
      ∃ found, Identifier.matchWhole? text.toList = some found ∧ found.kind = kind ∧
        found.decode = .ok value := by
  unfold decode
  split
  · rename_i refused
    simp [refused]
  · rename_i found recognised
    simp only [recognised, Option.some.injEq, exists_eq_left']
    split
    · rename_i value' decoded
      simp [decoded]
    · rename_i error failed
      simp [failed]

end SqlIdentifier.Report

namespace SqlIdentifier.Identifier

/-- The limit that the grammars set is the limit that decoding checks. A whole text is accepted as a
regular or as a delimited identifier with the limit exactly if it is recognised in this form without
one and decodes, a regular identifier to itself. If it is recognised but not accepted, decoding
reports the number of its code points or of the units of its body, which is more than 128. So a text
passes the check of regular identifiers exactly if it is reported as decoded, in this form and to
itself. -/
theorem accepts_agrees_decode (text : List Char) :
    (∀ value, Grammar.isoPostgresRegular.accepts text = true ∧ value = text ↔
      ∃ found, matchWhole? text = some found ∧ found.kind = .regular ∧
        found.decode = .ok value) ∧
    (Grammar.delimited.accepts text = true ↔
      ∃ found value, matchWhole? text = some found ∧ found.kind = .delimited ∧
        found.decode = .ok value) ∧
    (∀ span covered, matchWhole? text = some (.regular span covered) →
      Grammar.isoPostgresRegular.accepts text = false →
      128 < text.length ∧
        (Match.regular span covered).decode = .error (.lengthExceeded text.length 128)) ∧
    (∀ span body, matchWhole? text = some (.delimited span body) →
      Grammar.delimited.accepts text = false →
      ∃ divided : Body, divided.text = body ∧ 128 < divided.units.length ∧
        (Match.delimited span body).decode =
          .error (.lengthExceeded divided.units.length 128)) ∧
    ((∃ span, Report.check .isoPostgres (String.ofList text) =
        ⟨String.ofList text, .checked .isoPostgres true span⟩) ↔
      Report.decode (String.ofList text) = ⟨String.ofList text, .decoded .regular text⟩) := by
  refine ⟨fun _ => isoPostgresRegular_accepts_iff,
    delimited_acceptsWithinLimit.accepts_iff_decode (by decide) text,
    fun _ _ => decode_regular_of_refused, fun _ _ => decode_delimited_of_refused, ?_⟩
  rw [Report.decode_eq_decoded_iff, Report.check_eq, String.toList_ofList,
    ← isoPostgresRegular_accepts_iff]
  simp [Dialect.grammar]

/-- A name of 129 letters, and 128 letters with two quotes behind them as a body, are recognised,
but neither is accepted with the limit. -/
theorem accepts_agrees_decode_overlong :
    let name := List.replicate 129 'q'
    let body := List.replicate 128 'q' ++ ['"', '"']
    let quoted := '"' :: (body ++ ['"'])
    matchWhole? name = some (.regular ⟨0, 129⟩ name) ∧
      Grammar.isoPostgresRegular.accepts name = false ∧
      (Match.regular ⟨0, 129⟩ name).decode = .error (.lengthExceeded 129 128) ∧
      matchWhole? quoted = some (.delimited ⟨0, 132⟩ body) ∧
      Grammar.delimited.accepts quoted = false ∧
      ∃ divided : Body, divided.text = body ∧ 128 < divided.units.length ∧
        (Match.delimited ⟨0, 132⟩ body).decode =
          .error (.lengthExceeded divided.units.length 128) := by
  intro name body quoted
  have recognised : matchWhole? name = some (.regular ⟨0, 129⟩ name) := by decide +kernel
  have refused : Grammar.isoPostgresRegular.accepts name = false := by decide +kernel
  have recognised' : matchWhole? quoted = some (.delimited ⟨0, 132⟩ body) := by decide +kernel
  have refused' : Grammar.delimited.accepts quoted = false := by decide +kernel
  have regular := (accepts_agrees_decode name).2.2.1 _ _ recognised refused
  have delimited := (accepts_agrees_decode quoted).2.2.2.1 _ _ recognised' refused'
  exact ⟨recognised, refused, regular.2, recognised', refused', delimited⟩

end SqlIdentifier.Identifier
