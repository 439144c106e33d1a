import SqlIdentifier.Proofs.LengthLimit

namespace SqlIdentifier.Identifier

section Delimited

variable {text text' source source' : List Char}

theorem doubleQuotes_injective (same : doubleQuotes source = doubleQuotes source') :
    source = source' := by
  have halved := congrArg halveQuotes same
  rwa [halveQuotes_doubleQuotes, halveQuotes_doubleQuotes] at halved

theorem delimited_injective (same : delimited source = delimited source') : source = source' := by
  have inner : doubleQuotes source ++ ['"'] = doubleQuotes source' ++ ['"'] :=
    (List.cons.inj same).2
  exact doubleQuotes_injective (List.append_cancel_right inner)

/-- The quotes of a body stand in pairs, although halving looks for pairs anywhere in the text. -/
theorem Body.doubleQuotes_halveQuotes (body : Body) :
    doubleQuotes (halveQuotes body.text) = body.text := by
  obtain ⟨source, _, written, _⟩ := body.exists_source
  rw [written, halveQuotes_doubleQuotes]

theorem Body.halveQuotes_ne_nil (body : Body) : halveQuotes body.text ≠ [] := by
  obtain ⟨source, nonempty, written, _⟩ := body.exists_source
  rwa [written, halveQuotes_doubleQuotes]

/-- The grammar of a form accepts the texts of its shapes. -/
theorem accepts_form_iff {form : Form} (listed : form ∈ forms) :
    form.pattern.accepts text = true ↔
      ∃ shape : Shape, shape.kind = form.kind ∧ shape.text = text := by
  simp only [Pattern.accepts_iff_submatchesAt?, submatchesAt?_eq_some_iff listed]
  constructor
  · rintro ⟨_, ⟨shape, sameKind, stands, rfl⟩, covers⟩
    exact ⟨shape, sameKind, stands.text_eq ((Nat.zero_add _).symm.trans covers)⟩
  · rintro ⟨shape, sameKind, rfl⟩
    exact ⟨_, ⟨shape, sameKind, shape.standsAt_whole, rfl⟩, Nat.zero_add _⟩

theorem accepts_delimitedToken_iff :
    Grammar.delimitedToken.accepts text = true ↔
      ∃ source, source ≠ [] ∧ text = delimited source := by
  have listed : Form.mk .delimited Grammar.delimitedToken ∈ forms := by simp [forms]
  rw [accepts_form_iff listed]
  constructor
  · intro shaped
    obtain ⟨shape, isDelimited, rfl⟩ := shaped
    cases shape with
    | regular => simp [Shape.kind] at isDelimited
    | delimited body =>
      obtain ⟨source, nonempty, written, _⟩ := body.exists_source
      refine ⟨source, nonempty, ?_⟩
      rw [Shape.text, written]
      rfl
    | unicodeDelimited => simp [Shape.kind] at isDelimited
  · intro written
    obtain ⟨source, nonempty, rfl⟩ := written
    obtain ⟨body, sameText, _⟩ := exists_delimitedShape nonempty
    exact ⟨.delimited body, rfl, sameText⟩

theorem delimited_halveQuotes {span : Span} {body : List Char}
    (recognised : matchWhole? text = some (.delimited span body)) :
    delimited (halveQuotes body) = text := by
  obtain ⟨_, rfl, units, rfl⟩ := matchWhole?_delimited_iff.mp recognised
  rw [delimited, units.doubleQuotes_halveQuotes]
  rfl

/-- Tokens that are read as the same text are the same, since either is this text in quotes. -/
theorem eq_of_halveQuotes {span span' : Span} {body body' : List Char}
    (recognised : matchWhole? text = some (.delimited span body))
    (recognised' : matchWhole? text' = some (.delimited span' body'))
    (same : halveQuotes body = halveQuotes body') : text = text' := by
  rw [← delimited_halveQuotes recognised, ← delimited_halveQuotes recognised', same]

end Delimited

/-- Delimited identifiers are exactly the non-empty texts in quotes. One that is recognised is the
text for which it stands, written in quotes; this text has one code point for each unit of the body,
which is divided into units in one way only. A text in quotes determines the text. Different
identifiers stand for different texts, of whatever length they are, and never decode to one text. -/
theorem delimited_undoes_halveQuotes :
    (∀ text span body, matchWhole? text = some (.delimited span body) →
      delimited (halveQuotes body) = text ∧
      ∃ divided : Body, divided.text = body ∧
        (∀ other : Body, other.text = body → other = divided) ∧
        (halveQuotes body).length = divided.units.length ∧ 1 ≤ (halveQuotes body).length) ∧
    (∀ text, Grammar.delimitedToken.accepts text = true ↔
      ∃ source, source ≠ [] ∧ text = delimited source) ∧
    (∀ source source', delimited source = delimited source' → source = source') ∧
    (∀ text text' span span' body body',
      matchWhole? text = some (.delimited span body) →
      matchWhole? text' = some (.delimited span' body') → text ≠ text' →
      halveQuotes body ≠ halveQuotes body' ∧
        ∀ value, ¬ ((Match.delimited span body).decode = .ok value ∧
          (Match.delimited span' body').decode = .ok value)) := by
  refine ⟨?_, fun _ => accepts_delimitedToken_iff, fun _ _ => delimited_injective, ?_⟩
  · intro text span body recognised
    refine ⟨delimited_halveQuotes recognised, ?_⟩
    obtain ⟨_, _, divided, rfl⟩ := matchWhole?_delimited_iff.mp recognised
    refine ⟨divided, rfl, fun other same => Grammar.body_units_unique same,
      divided.length_halveQuotes, ?_⟩
    exact List.length_pos_iff.mpr divided.halveQuotes_ne_nil
  · intro text text' span span' body body' recognised recognised' different
    have apart : halveQuotes body ≠ halveQuotes body' := fun same =>
      different (eq_of_halveQuotes recognised recognised' same)
    refine ⟨apart, ?_⟩
    rintro value ⟨decodes, decodes'⟩
    have read := (checkLength_eq_ok_iff.mp decodes).2
    have read' := (checkLength_eq_ok_iff.mp decodes').2
    exact apart (read.symm.trans read')

/-- A body that is only a pair of quotes, and one that has a pair at either end. -/
theorem delimited_undoes_halveQuotes_pairs :
    matchWhole? "\"\"\"\"".toList = some (.delimited ⟨0, 4⟩ "\"\"".toList) ∧
      matchWhole? "\"\"\"é\"\"\"".toList = some (.delimited ⟨0, 8⟩ "\"\"é\"\"".toList) ∧
      delimited (halveQuotes "\"\"é\"\"".toList) = "\"\"\"é\"\"\"".toList ∧
      halveQuotes "\"\"".toList ≠ halveQuotes "\"\"é\"\"".toList := by
  have pair : matchWhole? "\"\"\"\"".toList = some (.delimited ⟨0, 4⟩ "\"\"".toList) := by
    decide +kernel
  have pairs : matchWhole? "\"\"\"é\"\"\"".toList =
      some (.delimited ⟨0, 8⟩ "\"\"é\"\"".toList) := by decide +kernel
  have different : "\"\"\"\"".toList ≠ "\"\"\"é\"\"\"".toList := by decide
  obtain ⟨undoes, _, _, apart⟩ := delimited_undoes_halveQuotes
  exact ⟨pair, pairs, (undoes _ _ _ pairs).1, (apart _ _ _ _ _ _ pair pairs different).1⟩

/-- A text for which an identifier can stand. -/
structure Nameable (value : List Char) : Prop where
  nonempty : value ≠ []
  within : value.length ≤ 128

/-- The first round of the decoder gives a character or fails. -/
theorem unescape_ne_nil {escape : Char} {text decoded : List Char} (nonempty : text ≠ [])
    (unescaped : unescape escape text = .ok decoded) : decoded ≠ [] := by
  have fromMap {c : Char} {rest : Except Error (List Char)}
      (read : rest.map (c :: ·) = .ok decoded) : decoded ≠ [] := by
    cases rest with
    | error => simp [Except.map] at read
    | ok later =>
      rw [← Except.ok.inj read]
      exact List.cons_ne_nil c later
  obtain ⟨c, rest, rfl⟩ := List.exists_cons_of_ne_nil nonempty
  obtain ⟨behind, next, _⟩ := Cursor.exists_passes
    (show (Cursor.start (c :: rest)).rest = [c] ++ rest from rfl)
  rw [unescape] at unescaped
  by_cases introduces : c = escape
  · rw [introduces] at next unescaped
    rw [unescapeFrom_read next] at unescaped
    split at unescaped
    · simp at unescaped
    · exact fromMap unescaped
  · rw [unescapeFrom_plain next introduces] at unescaped
    exact fromMap unescaped

theorem nameable_of_checkLength {text value : List Char} (nonempty : text ≠ [])
    (checked : checkLength text = .ok value) : Nameable value := by
  obtain ⟨within, rfl⟩ := checkLength_eq_ok_iff.mp checked
  exact ⟨nonempty, within⟩

/-- Whatever form an identifier has, it is not read as the empty text, since each unit and each
escape stands for a character. -/
theorem nameable_of_decode {shape : Shape} {position : Nat} {value : List Char}
    (decodes : (shape.matchAt position).decode = .ok value) : Nameable value := by
  cases shape with
  | regular first parts => exact nameable_of_checkLength (List.cons_ne_nil first parts) decodes
  | delimited body => exact nameable_of_checkLength body.halveQuotes_ne_nil decodes
  | unicodeDelimited letter isLetter body clause =>
    rw [Shape.matchAt, Match.decode] at decodes
    cases unescaped : unescape ((clause.map Clause.escape).getD defaultEscape)
        (halveQuotes body.text) with
    | error error =>
      rw [unescaped] at decodes
      exact absurd decodes (by simp [bind, Except.bind])
    | ok raw =>
      rw [unescaped] at decodes
      exact nameable_of_checkLength (unescape_ne_nil body.halveQuotes_ne_nil unescaped) decodes

theorem nameable_of_parse {text value : List Char} (reads : parse text = .ok value) :
    Nameable value := by
  unfold parse at reads
  split at reads
  · simp at reads
  · rename_i found recognised
    obtain ⟨shape, _, rfl⟩ := matchWhole?_eq_some_iff.mp recognised
    exact nameable_of_decode reads

/-- Whatever way of writing is taken, a text that can be read is read back. -/
theorem Nameable.parse_spelled {value written : List Char} (nameable : Nameable value)
    (spelled : Spells value written) : parse written = .ok value := by
  rw [spelled.parse_eq nameable.nonempty]
  exact checkLength_eq_ok_iff.mpr ⟨nameable.within, rfl⟩

theorem Nameable.normalForm_injective {value value' : List Char} (nameable : Nameable value)
    (nameable' : Nameable value') (same : normalForm value = normalForm value') :
    value = value' := by
  have reads := nameable.parse_spelled .normalForm
  rw [same, nameable'.parse_spelled .normalForm] at reads
  exact (Except.ok.inj reads).symm

/-- The normal form of the text for which an identifier stands. -/
def normalize (text : List Char) : Except Error (List Char) :=
  (parse text).map normalForm

theorem normalize_of_parse {text value : List Char} (reads : parse text = .ok value) :
    normalize text = .ok (normalForm value) := by
  rw [normalize, reads]
  rfl

/-- The normal form tells what is read, and nothing else of the text. -/
theorem normalize_eq_iff {text value : List Char} (reads : parse text = .ok value)
    (other : List Char) : normalize other = normalize text ↔ parse other = .ok value := by
  constructor
  · intro same
    rw [normalize_of_parse reads] at same
    cases read : parse other with
    | error error =>
      rw [normalize, read] at same
      simp [Except.map] at same
    | ok value' =>
      rw [normalize_of_parse read] at same
      have equal := (nameable_of_parse read).normalForm_injective (nameable_of_parse reads)
        (Except.ok.inj same)
      rw [equal]
  · intro read
    rw [normalize_of_parse read, normalize_of_parse reads]

/-- An identifier that can be read stands for a text of 1 to 128 code points. Its normal form is
read as the same text and is its own normal form, and with any legal escape character the text is
read back as well from its Unicode delimited form. Two identifiers have one normal form exactly if
they are read as one text. -/
theorem normalize_idempotent {text value : List Char} (reads : parse text = .ok value) :
    1 ≤ value.length ∧ value.length ≤ 128 ∧
    normalize text = .ok (normalForm value) ∧
    parse (normalForm value) = .ok value ∧
    normalize (normalForm value) = .ok (normalForm value) ∧
    (∀ escape, CharClass.escapeCharacter.contains escape = true →
      ∃ written, unicodeDelimited escape value = .ok written ∧ parse written = .ok value) ∧
    (∀ other, normalize other = normalize text ↔ parse other = .ok value) := by
  have nameable := nameable_of_parse reads
  have readsBack := nameable.parse_spelled .normalForm
  refine ⟨List.length_pos_iff.mpr nameable.nonempty, nameable.within, normalize_of_parse reads,
    readsBack, normalize_of_parse readsBack, ?_, normalize_eq_iff reads⟩
  intro escape legal
  obtain ⟨shape, wrote, _⟩ := exists_unicodeShape legal nameable.nonempty
  exact ⟨shape.text, wrote, nameable.parse_spelled (.unicodeDelimited wrote)⟩

/-- The escapes stand for a letter and for a quote, which makes the normal form a delimited one. -/
theorem normalize_idempotent_escapes :
    parse "u&\"!0064!+000022\"\"\" UeScApE '!'".toList = .ok "d\"\"".toList ∧
      normalize "u&\"!0064!+000022\"\"\" UeScApE '!'".toList = .ok "\"d\"\"\"\"\"".toList ∧
      normalize "\"d\"\"\"\"\"".toList = .ok "\"d\"\"\"\"\"".toList := by
  have reads : parse "u&\"!0064!+000022\"\"\" UeScApE '!'".toList = .ok "d\"\"".toList := by
    with_unfolding_all rfl
  have written : normalForm "d\"\"".toList = "\"d\"\"\"\"\"".toList := by decide +kernel
  obtain ⟨_, _, normal, _, again, _⟩ := normalize_idempotent reads
  rw [written] at normal again
  exact ⟨reads, normal, again⟩

end SqlIdentifier.Identifier
