import SqlIdentifier.Proofs.JsonReports
import SqlIdentifier.Proofs.RoundTrip

namespace SqlIdentifier

namespace Report

theorem passed_eq_false_iff {report : Report} :
    report.passed = false ↔
      (∃ dialect span, report.verdict = .checked dialect false span) ∨
        ∃ error, report.verdict = .failed error := by
  obtain ⟨text, verdict⟩ := report
  cases verdict <;> simp [passed]

theorem passed_decode (text : String) :
    (decode text).passed = (Identifier.parse text.toList).isOk := by
  unfold decode Identifier.parse
  cases Identifier.matchWhole? text.toList with
  | none => rfl
  | some found =>
    cases decoded : found.decode with
    | ok value => simp only [decoded, passed, Except.isOk, Except.toBool]
    | error error => simp only [decoded, passed, Except.isOk, Except.toBool]

theorem passed_quote (escape : Option Char) (text : String) :
    (quote escape text).passed = escape.all CharClass.escapeCharacter.contains := by
  cases escape with
  | none => rfl
  | some escape =>
    cases legal : CharClass.escapeCharacter.contains escape with
    | true => simp [quote, Identifier.unicodeDelimited, legal, passed]
    | false => simp [quote, Identifier.unicodeDelimited, legal, passed]

theorem render_text_append (first second : List Report) :
    render .text (first ++ second) = render .text first ++ render .text second := by
  simp only [render, List.map_append, String.join_append]

theorem toList_render_text (reports : List Report) :
    (render .text reports).toList = reports.flatMap fun report => report.line.toList ++ ['\n'] := by
  simp [render, List.flatMap_map]

end Report

/-- The text is one document, which is an array of these items, and the end of a line. -/
def Json.PrintsArray (printed : String) (items : List Json) : Prop :=
  ∃ document, printed.toList = document ++ ['\n'] ∧ Json.IsDocument document (.array items)

theorem Json.PrintsArray.unique {printed : String} {items items' : List Json}
    (prints : PrintsArray printed items) (prints' : PrintsArray printed items') :
    items = items' := by
  obtain ⟨document, parts, reads⟩ := prints
  obtain ⟨document', parts', reads'⟩ := prints'
  have same : document = document' := List.append_cancel_right (parts.symm.trans parts')
  rw [← same] at reads'
  exact Json.array.inj (reads.unique reads')

/-- Whether a text is not what a command asks of it: no regular identifier of the dialect in effect,
no identifier that can be read, or not to be written with the escape character in effect. -/
def Command.refuses (command : Command) (config : Config) (text : String) : Bool :=
  match command with
  | check dialect => !(dialect.getD config.dialect).grammar.accepts text.toList
  | decode => !(Identifier.parse text.toList).isOk
  | quote unicode escape =>
    unicode && !CharClass.escapeCharacter.contains (escape.getD config.escape)

/-- The number of texts that are not what the command asks of them. -/
def Command.failures (command : Command) (config : Config) (texts : List String) : Nat :=
  texts.countP (command.refuses config)

theorem Command.failures_append (command : Command) (config : Config)
    (first second : List String) :
    command.failures config (first ++ second) =
      command.failures config first + command.failures config second :=
  List.countP_append

theorem Command.passed_report (command : Command) (config : Config) (text : String) :
    (command.report config text).passed = !command.refuses config text := by
  cases command with
  | check dialect =>
    rw [refuses, Bool.not_not]
    rfl
  | decode => rw [report, Report.passed_decode, refuses, Bool.not_not]
  | quote unicode escape =>
    rw [report, Report.passed_quote, refuses]
    cases unicode <;> simp

namespace Failure

theorem ofCount_eq_none_iff {count : Nat} : ofCount count = none ↔ count = 0 := by
  simp [ofCount]

theorem ofCount_of_ne_zero {count : Nat} (positive : count ≠ 0) :
    ofCount count = some (.validation (toString count ++ " argument(s) failed")) := by
  rw [ofCount, if_neg positive]
  rfl

end Failure

namespace Request

variable {command : Command} {texts first second : List String} {format : Option Report.Format}
  {config : Config}

theorem run_eq (nonempty : texts ≠ []) :
    run ⟨command, texts, format⟩ config =
      ⟨Report.render (format.getD config.format) (texts.map (command.report config)),
        Failure.ofCount (command.failures config texts)⟩ := by
  have counted : (texts.map (command.report config)).countP (fun report => !report.passed) =
      command.failures config texts := by
    rw [List.countP_map]
    congr 1
    funext text
    rw [Function.comp_apply, command.passed_report, Bool.not_not]
  rw [run, if_neg (by simpa using nonempty)]
  simp only [counted]

theorem failure_eq (nonempty : texts ≠ []) :
    (run ⟨command, texts, format⟩ config).failure =
      Failure.ofCount (command.failures config texts) := by
  rw [run_eq nonempty]

theorem stdout_text (nonempty : texts ≠ []) (isText : format.getD config.format = .text) :
    (run ⟨command, texts, format⟩ config).stdout =
      Report.render .text (texts.map (command.report config)) := by
  rw [run_eq nonempty, isText]

theorem stdout_printsArray (nonempty : texts ≠ []) (isJson : format.getD config.format = .json) :
    Json.PrintsArray (run ⟨command, texts, format⟩ config).stdout
      (texts.map fun text => (command.report config text).json) :=
  ⟨_, stdout_json nonempty isJson, (Json.spells_write 0 _).isDocument⟩

theorem stdout_text_append (nonempty : first ≠ []) (nonempty' : second ≠ [])
    (isText : format.getD config.format = .text) :
    (run ⟨command, first ++ second, format⟩ config).stdout =
      (run ⟨command, first, format⟩ config).stdout ++
        (run ⟨command, second, format⟩ config).stdout := by
  have nonempty'' : first ++ second ≠ [] := List.append_ne_nil_of_left_ne_nil nonempty second
  rw [stdout_text nonempty isText, stdout_text nonempty' isText, stdout_text nonempty'' isText,
    List.map_append, Report.render_text_append]

theorem stdout_json_append (nonempty : first ≠ []) (nonempty' : second ≠ [])
    (isJson : format.getD config.format = .json) {items items' : List Json}
    (prints : Json.PrintsArray (run ⟨command, first, format⟩ config).stdout items)
    (prints' : Json.PrintsArray (run ⟨command, second, format⟩ config).stdout items') :
    Json.PrintsArray (run ⟨command, first ++ second, format⟩ config).stdout
      (items ++ items') := by
  have nonempty'' : first ++ second ≠ [] := List.append_ne_nil_of_left_ne_nil nonempty second
  rw [prints.unique (stdout_printsArray nonempty isJson),
    prints'.unique (stdout_printsArray nonempty' isJson), ← List.map_append]
  exact stdout_printsArray nonempty'' isJson

end Request

/-- Each text is reported as if it were alone. It fails as the report on it says: if the grammar of
the dialect in effect does not accept it, if it cannot be read as an identifier, or if it is to be
written with an escape character that is not one. Whether texts fail or not, the reports on all of
them are printed; the command fails if there are failures and names their number. For two lists of
texts in a row the numbers add up, the lines of the second follow those of the first, and so do the
items of the printed arrays. -/
theorem Request.texts_reported_apart (command : Command) (format : Option Report.Format)
    (config : Config) :
    (∀ text, command.refuses config text = true ↔
      (∃ dialect span, (command.report config text).verdict = .checked dialect false span) ∨
        ∃ error, (command.report config text).verdict = .failed error) ∧
    (∀ texts, texts ≠ [] →
      ((run ⟨command, texts, format⟩ config).failure = none ↔
        command.failures config texts = 0) ∧
      (command.failures config texts ≠ 0 → (run ⟨command, texts, format⟩ config).failure =
        some (.validation (toString (command.failures config texts) ++ " argument(s) failed"))) ∧
      (format.getD config.format = .text → (run ⟨command, texts, format⟩ config).stdout.toList =
        texts.flatMap fun text => (command.report config text).line.toList ++ ['\n']) ∧
      (format.getD config.format = .json →
        Json.PrintsArray (run ⟨command, texts, format⟩ config).stdout
          (texts.map fun text => (command.report config text).json))) ∧
    ∀ first second, first ≠ [] → second ≠ [] →
      command.failures config (first ++ second) =
        command.failures config first + command.failures config second ∧
      (format.getD config.format = .text →
        (run ⟨command, first ++ second, format⟩ config).stdout =
          (run ⟨command, first, format⟩ config).stdout ++
            (run ⟨command, second, format⟩ config).stdout) ∧
      (format.getD config.format = .json → ∀ items items',
        Json.PrintsArray (run ⟨command, first, format⟩ config).stdout items →
        Json.PrintsArray (run ⟨command, second, format⟩ config).stdout items' →
        Json.PrintsArray (run ⟨command, first ++ second, format⟩ config).stdout
          (items ++ items')) := by
  refine ⟨?_, ?_, ?_⟩
  · intro text
    rw [← Report.passed_eq_false_iff, command.passed_report, Bool.not_eq_false']
  · intro texts nonempty
    refine ⟨?_, ?_, ?_, stdout_printsArray nonempty⟩
    · rw [failure_eq nonempty, Failure.ofCount_eq_none_iff]
    · intro positive
      rw [failure_eq nonempty, Failure.ofCount_of_ne_zero positive]
    · intro isText
      rw [stdout_text nonempty isText, Report.toList_render_text, List.flatMap_map]
  · intro first second nonempty nonempty'
    exact ⟨command.failures_append config first second, stdout_text_append nonempty nonempty',
      fun isJson _ _ => stdout_json_append nonempty nonempty' isJson⟩

/-- Of four texts the second and the last are no identifiers. -/
theorem Request.texts_reported_apart_mixed :
    let first := ["a", "1"]
    let second := ["\"é\"", ""]
    first ≠ [] ∧ second ≠ [] ∧ Command.decode.failures {} (first ++ second) = 2 ∧
      (run ⟨.decode, first ++ second, some .text⟩ {}).failure =
        some (.validation "2 argument(s) failed") ∧
      (run ⟨.decode, first ++ second, some .text⟩ {}).stdout =
        (run ⟨.decode, first, some .text⟩ {}).stdout ++
          (run ⟨.decode, second, some .text⟩ {}).stdout ∧
      ∃ items items', Json.PrintsArray (run ⟨.decode, first, some .json⟩ {}).stdout items ∧
        Json.PrintsArray (run ⟨.decode, second, some .json⟩ {}).stdout items' ∧
        Json.PrintsArray (run ⟨.decode, first ++ second, some .json⟩ {}).stdout
          (items ++ items') := by
  intro first second
  have nonempty : first ≠ [] := List.cons_ne_nil _ _
  have nonempty' : second ≠ [] := List.cons_ne_nil _ _
  have counted : Command.decode.failures {} (first ++ second) = 2 := by decide +kernel
  obtain ⟨_, alone, together⟩ := texts_reported_apart .decode (some .text) {}
  obtain ⟨_, alone', together'⟩ := texts_reported_apart .decode (some .json) {}
  have failed := (alone (first ++ second) (List.cons_ne_nil _ _)).2.1 (by rw [counted]; decide)
  rw [counted] at failed
  have prints := (alone' first nonempty).2.2.2 rfl
  have prints' := (alone' second nonempty').2.2.2 rfl
  exact ⟨nonempty, nonempty', counted, failed, (together _ _ nonempty nonempty').2.1 rfl, _, _,
    prints, prints', (together' _ _ nonempty nonempty').2.2 rfl _ _ prints prints'⟩

end SqlIdentifier
