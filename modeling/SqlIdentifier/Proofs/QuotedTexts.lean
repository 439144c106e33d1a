import SqlIdentifier.Proofs.NormalForm
import SqlIdentifier.Proofs.ReportedTexts

namespace SqlIdentifier

namespace Identifier

/-- How a text is quoted: in plain quotes, or with escapes if there is a character for them. -/
def Quotes (escape : Option Char) (text written : List Char) : Prop :=
  match escape with
  | none => written = delimited text
  | some escape => unicodeDelimited escape text = .ok written

/-- The form of what is quoted. -/
def quotedKind (unicode : Bool) : Kind :=
  if unicode then .unicodeDelimited else .delimited

/-- A quote that is not doubled closes a body and does not start one. -/
theorem Body.text_append_ne_quote (body : Body) {after : List Char}
    (single : after.head? ≠ some '"') (more : List Char) : body.text ++ more ≠ '"' :: after := by
  intro same
  obtain ⟨unit, later, units⟩ := List.exists_cons_of_ne_nil body.nonempty
  have isUnit := body.areUnits unit (by rw [units]; exact List.mem_cons_self)
  rw [Body.text, units, List.flatten_cons, List.append_assoc] at same
  exact startsNoItem_quote_iff.mpr single unit _ isUnit same.symm

theorem matchWhole?_delimited_nil : matchWhole? (delimited []) = none := by
  decide +kernel

/-- Whatever clause is written behind it, two quotes hold no body. -/
theorem matchWhole?_unicodeDelimited_nil {escape : Char} {written : List Char}
    (wrote : unicodeDelimited escape [] = .ok written) : matchWhole? written = none := by
  obtain ⟨_, parts⟩ := unicodeDelimited_eq_ok_iff.mp wrote
  refine matchWhole?_eq_none_iff.mpr fun shape sameText => ?_
  replace sameText : shape.text = 'U' :: '&' :: '"' :: '"' :: escapeClause escape :=
    sameText.trans parts
  cases shape with
  | regular first later _ continues =>
    have ampersand : '&' ∈ later := by
      rw [(List.cons.inj sameText).2]
      exact List.mem_cons_self
    have outside := CharClass.isoPostgresPart_not_punctuation '&' (by simp)
    exact CharClass.not_inside_and_outside (continues '&' ampersand) outside
  | delimited body => simp [Shape.text] at sameText
  | unicodeDelimited letter isLetter body clause =>
    simp only [Shape.text, List.cons.injEq, true_and] at sameText
    refine body.text_append_ne_quote ?_ _ sameText.2
    unfold escapeClause
    split <;> simp

section Quotes

variable {escape : Option Char} {text written : List Char}

theorem Quotes.exists_match (quotes : Quotes escape text written) (nonempty : text ≠ []) :
    ∃ found, matchWhole? written = some found ∧ found.kind = quotedKind escape.isSome ∧
      found.decode = checkLength text := by
  cases escape with
  | none =>
    obtain ⟨body, sameText, decodes⟩ := exists_delimitedShape nonempty
    rw [show written = delimited text from quotes, ← sameText]
    exact ⟨_, matchWhole?_text _, rfl, decodes 0⟩
  | some escape =>
    obtain ⟨legal, _⟩ := unicodeDelimited_eq_ok_iff.mp quotes
    obtain ⟨shape, wrote, reads⟩ := exists_unicodeShape legal nonempty
    obtain ⟨isUnicode, _, decodes⟩ := reads 0
    rw [Except.ok.inj (quotes.symm.trans wrote)]
    exact ⟨_, matchWhole?_text shape, isUnicode, decodes⟩

theorem Quotes.refused (quotes : Quotes escape [] written) : matchWhole? written = none := by
  cases escape with
  | none =>
    rw [show written = delimited [] from quotes]
    exact matchWhole?_delimited_nil
  | some escape => exact matchWhole?_unicodeDelimited_nil quotes

end Quotes

end Identifier

namespace Report

/-- What the text is written as, if the report says so. -/
def written (report : Report) : String :=
  match report.verdict with
  | .quoted value => String.ofList value
  | _ => ""

theorem quote_of_passed {escape : Option Char} {text : String}
    (accepted : (quote escape text).passed = true) :
    quote escape text = ⟨text, .quoted (quote escape text).written.toList⟩ ∧
      Identifier.Quotes escape text.toList (quote escape text).written.toList := by
  cases escape with
  | none => simp [quote, written, Identifier.Quotes]
  | some escape =>
    cases wrote : Identifier.unicodeDelimited escape text.toList with
    | error error => simp [quote, wrote, passed] at accepted
    | ok value => simp [quote, written, Identifier.Quotes, wrote]

section Decode

variable {escape : Option Char} {text quoted : String}

theorem decode_quoted (quotes : Identifier.Quotes escape text.toList quoted.toList)
    (short : text.length ≤ 128) (nonempty : text ≠ "") :
    decode quoted = ⟨quoted, .decoded (Identifier.quotedKind escape.isSome) text.toList⟩ := by
  obtain ⟨found, recognised, sameKind, decodes⟩ := quotes.exists_match (by simpa using nonempty)
  refine decode_eq_decoded_iff.mpr ⟨found, recognised, sameKind, ?_⟩
  rw [decodes]
  exact Identifier.checkLength_eq_ok_iff.mpr ⟨by rwa [String.length_toList], rfl⟩

theorem decode_of_refused (refused : Identifier.matchWhole? text.toList = none) :
    decode text = ⟨text, .failed (.noMatch 0)⟩ := by
  simp only [decode, refused]

end Decode

end Report

namespace Command

variable {unicode : Bool} {escape : Option Char} {config : Config} {text : String}

theorem quote_of_passed (accepted : ((quote unicode escape).report config text).passed = true) :
    (quote unicode escape).report config text =
        ⟨text, .quoted ((quote unicode escape).report config text).written.toList⟩ ∧
      ∃ inEffect : Option Char, inEffect.isSome = unicode ∧
        Identifier.Quotes inEffect text.toList
          ((quote unicode escape).report config text).written.toList := by
  obtain ⟨reported, quotes⟩ := Report.quote_of_passed accepted
  exact ⟨reported, _, by cases unicode <;> rfl, quotes⟩

theorem decode_quoted (accepted : ((quote unicode escape).report config text).passed = true)
    (short : text.length ≤ 128) (nonempty : text ≠ "") :
    Report.decode ((quote unicode escape).report config text).written =
      ⟨((quote unicode escape).report config text).written,
        .decoded (Identifier.quotedKind unicode) text.toList⟩ := by
  obtain ⟨_, inEffect, same, quotes⟩ := quote_of_passed accepted
  have decoded := Report.decode_quoted quotes short nonempty
  rwa [same] at decoded

theorem refused_quoted_empty (accepted : ((quote unicode escape).report config "").passed = true) :
    Identifier.matchWhole? ((quote unicode escape).report config "").written.toList = none := by
  obtain ⟨_, inEffect, _, quotes⟩ := quote_of_passed accepted
  exact quotes.refused

end Command

namespace Request

variable {texts : List String} {format : Option Report.Format} {config : Config}

/-- If a command succeeds, the report on each of the texts says so. -/
theorem passed_of_succeeded {command : Command} (nonempty : texts ≠ [])
    (succeeded : (run ⟨command, texts, format⟩ config).failure = none) :
    ∀ text ∈ texts, (command.report config text).passed = true := by
  intro text member
  rw [failure_eq nonempty, Failure.ofCount_eq_none_iff, Command.failures,
    List.countP_eq_zero] at succeeded
  rw [command.passed_report, Bool.not_eq_true']
  exact Bool.eq_false_iff.mpr (succeeded text member)

theorem failures_decode_map {write : String → String} (config : Config)
    (decoded : ∀ text ∈ texts, text ≠ "" → (Report.decode (write text)).passed = true)
    (refused : "" ∈ texts → (Report.decode (write "")).passed = false) :
    Command.decode.failures config (texts.map write) = texts.count "" := by
  rw [Command.failures, List.countP_map]
  refine List.countP_congr fun text member => ?_
  have reported := Command.decode.passed_report config (write text)
  by_cases empty : text = ""
  · rw [empty] at member reported ⊢
    rw [Command.report, refused member] at reported
    simpa using reported
  · rw [Command.report, decoded text member empty] at reported
    simpa [empty] using reported

/-- If texts of at most 128 code points are quoted without a failure, what is written for each of
them but the empty one is an identifier of the form that was asked for, and is reported as decoded to
the text. What is written for the empty text is not recognised, and no other text could be, since no
identifier stands for the empty text. So decoding fails for as many texts as are empty. -/
theorem quoted_texts_decoded (unicode : Bool) (escape : Option Char)
    (format format' : Option Report.Format) (config config' : Config) (nonempty : texts ≠ [])
    (short : ∀ text ∈ texts, text.length ≤ 128)
    (succeeded : (run ⟨.quote unicode escape, texts, format⟩ config).failure = none) :
    ∃ write : String → String,
      (∀ text ∈ texts,
        (Command.quote unicode escape).report config text =
          ⟨text, .quoted (write text).toList⟩ ∧
        (text ≠ "" →
          (∃ found, Identifier.matchWhole? (write text).toList = some found ∧
            found.kind = Identifier.quotedKind unicode) ∧
          Command.decode.report config' (write text) =
            ⟨write text, .decoded (Identifier.quotedKind unicode) text.toList⟩) ∧
        (text = "" →
          Identifier.matchWhole? (write text).toList = none ∧
          Command.decode.report config' (write text) = ⟨write text, .failed (.noMatch 0)⟩)) ∧
      (run ⟨.decode, texts.map write, format'⟩ config').failure =
        Failure.ofCount (texts.count "") ∧
      ∀ written, Identifier.parse written ≠ .ok [] := by
  have accepted := passed_of_succeeded nonempty succeeded
  refine ⟨fun text => ((Command.quote unicode escape).report config text).written, ?_, ?_, ?_⟩
  · intro text member
    refine ⟨(Command.quote_of_passed (accepted text member)).1, ?_, ?_⟩
    · intro full
      have decoded := Command.decode_quoted (accepted text member) (short text member) full
      obtain ⟨found, recognised, sameKind, _⟩ := Report.decode_eq_decoded_iff.mp decoded
      exact ⟨⟨found, recognised, sameKind⟩, decoded⟩
    · rintro rfl
      have refused := Command.refused_quoted_empty (accepted "" member)
      exact ⟨refused, Report.decode_of_refused refused⟩
  · rw [failure_eq (by simpa using nonempty), failures_decode_map config' ?_ ?_]
    · intro text member full
      rw [Command.decode_quoted (accepted text member) (short text member) full]
      rfl
    · intro member
      rw [Report.decode_of_refused (Command.refused_quoted_empty (accepted "" member))]
      rfl
  · intro written read
    exact (Identifier.nameable_of_parse read).nonempty rfl

/-- A text of two bytes with a quote behind it is read back from what is written for it with an
escape character of the configuration, and the empty text is not. -/
theorem quoted_texts_decoded_empty :
    let texts := ["é\"", ""]
    let config : Config := { escape := '!' }
    texts ≠ [] ∧ (∀ text ∈ texts, text.length ≤ 128) ∧
      (run ⟨.quote true none, texts, none⟩ config).failure = none ∧
      ∃ write : String → String,
        (Command.quote true none).report config "é\"" = ⟨"é\"", .quoted (write "é\"").toList⟩ ∧
        Command.decode.report {} (write "é\"") =
          ⟨write "é\"", .decoded .unicodeDelimited "é\"".toList⟩ ∧
        Command.decode.report {} (write "") = ⟨write "", .failed (.noMatch 0)⟩ ∧
        (run ⟨.decode, texts.map write, none⟩ {}).failure =
          some (.validation "1 argument(s) failed") := by
  intro texts config
  have nonempty : texts ≠ [] := List.cons_ne_nil _ _
  have short : ∀ text ∈ texts, text.length ≤ 128 := by decide
  have succeeded : (run ⟨.quote true none, texts, none⟩ config).failure = none := by decide +kernel
  obtain ⟨write, each, failed, _⟩ :=
    quoted_texts_decoded true none none none config {} nonempty short succeeded
  have counted : texts.count "" = 1 := by decide
  rw [counted] at failed
  obtain ⟨reported, full, _⟩ := each "é\"" (by simp [texts])
  obtain ⟨_, _, empty⟩ := each "" (by simp [texts])
  exact ⟨nonempty, short, succeeded, write, reported, (full (by decide)).2, (empty rfl).2, failed⟩

/-- The empty text is reported as quoted, and what is written for it is no identifier. -/
theorem quoted_empty_text_refused :
    ¬ ∀ (unicode : Bool) (escape : Option Char) (format : Option Report.Format)
      (config config' : Config) (texts : List String), texts ≠ [] →
      (∀ text ∈ texts, text.length ≤ 128) →
      (run ⟨.quote unicode escape, texts, format⟩ config).failure = none →
      ∀ text ∈ texts, ∃ (written : String) (found : Identifier.Match),
        (Command.quote unicode escape).report config text = ⟨text, .quoted written.toList⟩ ∧
        Identifier.matchWhole? written.toList = some found ∧
        found.kind = Identifier.quotedKind unicode ∧
        Command.decode.report config' written = ⟨written, .decoded found.kind text.toList⟩ := by
  intro readBack
  obtain ⟨written, found, quoted, recognised, _⟩ :=
    readBack false none none {} {} [""] (by simp) (by simp) (by decide +kernel) "" (by simp)
  have same : written.toList = Identifier.delimited [] :=
    (Verdict.quoted.inj (congrArg Report.verdict quoted)).symm
  rw [same, Identifier.matchWhole?_delimited_nil] at recognised
  simp at recognised

end Request

end SqlIdentifier
