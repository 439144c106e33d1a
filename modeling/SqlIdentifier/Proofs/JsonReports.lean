import SqlIdentifier.Command
import SqlIdentifier.Proofs.ErrorMessages
import SqlIdentifier.Proofs.JsonReader

namespace SqlIdentifier

namespace Json

/-- The value of the first field with the name. -/
def field? (name : String) : Json → Option Json
  | object fields => fields.lookup name
  | _ => none

def names : Json → List String
  | object fields => fields.map Prod.fst
  | _ => []

/-- An object with exactly these fields. -/
structure HasFields (value : Json) (fields : List (String × Json)) : Prop where
  names : value.names = fields.map Prod.fst
  values : ∀ field ∈ fields, value.field? field.1 = some field.2

theorem hasFields_object {fields : List (String × Json)} (distinct : (fields.map Prod.fst).Nodup) :
    (object fields).HasFields fields where
  names := rfl
  values := by
    intro (name, value) member
    obtain ⟨before, after, rfl⟩ := List.append_of_mem member
    refine List.lookup_eq_some_iff.mpr ⟨before, after, rfl, fun earlier isEarlier => ?_⟩
    rw [List.map_append, List.map_cons, List.nodup_append] at distinct
    have differ := distinct.2.2 earlier.1 (List.mem_map_of_mem isEarlier) name List.mem_cons_self
    simpa using differ.symm

theorem read?_write (depth : Nat) (value : Json) : read? (write depth value) = some value :=
  read?_eq_some_iff.mpr (spells_write depth value).isDocument

theorem write_injective {depth : Nat} {value value' : Json}
    (same : write depth value = write depth value') : value = value' := by
  have read := read?_write depth value
  rw [same, read?_write] at read
  exact (Option.some.inj read).symm

end Json

theorem Identifier.Kind.name_injective {kind kind' : Kind} (same : kind.name = kind'.name) :
    kind = kind' := by
  revert same
  cases kind <;> cases kind' <;> decide

theorem Dialect.name_injective {dialect dialect' : Dialect} (same : dialect.name = dialect'.name) :
    dialect = dialect' := by
  have found := dialect.ofName?_name
  rw [same, ofName?_name] at found
  exact (Option.some.inj found).symm

namespace Report

theorem spanJson_injective {span span' : Option Span} (same : spanJson span = spanJson span') :
    span = span' := by
  match span, span' with
  | none, none => rfl
  | none, some _ => simp [spanJson] at same
  | some _, none => simp [spanJson] at same
  | some ⟨_, _⟩, some ⟨_, _⟩ => simpa [spanJson] using same

/-- What a value shows of a span. -/
def ShowsSpan (value : Json) : Option Span → Prop
  | none => value = .null
  | some span => value.HasFields [("start", .number span.start), ("end", .number span.stop)]

/-- What an object shows of a report: the text, and what came of it. -/
def ShownBy (report : Report) (object : Json) : Prop :=
  let text := Json.string report.text.toList
  match report.verdict with
  | .checked dialect whole span =>
    ∃ place, ShowsSpan place span ∧
      object.HasFields [("text", text), ("grammar", .string dialect.name.toList),
        ("matches", .bool whole), ("span", place)]
  | .decoded kind value =>
    object.HasFields [("text", text), ("status", .string "decoded".toList),
      ("kind", .string kind.name.toList), ("value", .string value)]
  | .quoted value =>
    object.HasFields [("text", text), ("status", .string "quoted".toList), ("quoted", .string value)]
  | .failed error =>
    object.HasFields [("text", text), ("status", .string "failed".toList),
      ("error", .string error.message.toList)]

theorem showsSpan_spanJson (span : Option Span) : ShowsSpan (spanJson span) span := by
  cases span with
  | none => rfl
  | some span => exact Json.hasFields_object (by simp)

theorem shownBy_json (report : Report) : report.ShownBy report.json := by
  obtain ⟨text, verdict⟩ := report
  cases verdict with
  | checked dialect whole span =>
    exact ⟨spanJson span, showsSpan_spanJson span, Json.hasFields_object (by simp)⟩
  | decoded kind value => exact Json.hasFields_object (by simp)
  | quoted value => exact Json.hasFields_object (by simp)
  | failed error => exact Json.hasFields_object (by simp)

theorem json_injective {report report' : Report} (same : report.json = report'.json) :
    report = report' := by
  obtain ⟨text, verdict⟩ := report
  obtain ⟨text', verdict'⟩ := report'
  -- Verdicts of two kinds have other names for their fields, or another status.
  cases verdict <;> cases verdict' <;> simp only [json, Json.object.injEq,
    List.cons.injEq, Prod.mk.injEq, Json.string.injEq, Json.bool.injEq, String.toList_inj,
    String.reduceEq, true_and, and_true, false_and, and_false, reduceCtorEq] at same
  case checked.checked =>
    obtain ⟨rfl, names, rfl, spans⟩ := same
    rw [Dialect.name_injective names, spanJson_injective spans]
  case decoded.decoded =>
    obtain ⟨rfl, names, rfl⟩ := same
    rw [Identifier.Kind.name_injective names]
  case quoted.quoted =>
    obtain ⟨rfl, rfl⟩ := same
    rfl
  case failed.failed =>
    obtain ⟨rfl, messages⟩ := same
    rw [Identifier.Error.message_injective messages]

theorem render_json_injective {reports reports' : List Report}
    (same : render .json reports = render .json reports') : reports = reports' := by
  have texts := congrArg String.toList same
  simp only [render, String.toList_ofList] at texts
  have arrays := Json.write_injective (List.append_cancel_right texts)
  have items : reports.map json = reports'.map json := by simpa using arrays
  exact (List.map_inj_right fun _ _ => json_injective).mp items

end Report

/-- What can come of a text by the command. -/
def Command.Yields (command : Command) (config : Config) (verdict : Verdict) : Prop :=
  match command with
  | check dialect => ∃ whole span, verdict = .checked (dialect.getD config.dialect) whole span
  | decode => (∃ kind value, verdict = .decoded kind value) ∨ ∃ error, verdict = .failed error
  | quote .. => (∃ value, verdict = .quoted value) ∨ ∃ error, verdict = .failed error

theorem Command.yields_report (command : Command) (config : Config) (text : String) :
    (command.report config text).text = text ∧
      command.Yields config (command.report config text).verdict := by
  cases command with
  | check dialect => exact ⟨rfl, _, _, rfl⟩
  | decode =>
    simp only [report, Report.decode]
    split
    next => exact ⟨rfl, .inr ⟨_, rfl⟩⟩
    next found _ =>
    split
    next => exact ⟨rfl, .inl ⟨_, _, rfl⟩⟩
    next => exact ⟨rfl, .inr ⟨_, rfl⟩⟩
  | quote unicode escape =>
    simp only [report, Report.quote]
    split
    next => exact ⟨rfl, .inl ⟨_, rfl⟩⟩
    split
    next => exact ⟨rfl, .inl ⟨_, rfl⟩⟩
    next => exact ⟨rfl, .inr ⟨_, rfl⟩⟩

theorem Request.stdout_json {request : Request} {config : Config} (nonempty : request.texts ≠ [])
    (isJson : request.format.getD config.format = .json) :
    (request.run config).stdout.toList =
      Json.write 0
        (.array (request.texts.map fun text => (request.command.report config text).json)) ++
        ['\n'] := by
  simp [run, nonempty, isJson, Report.render, Function.comp_def]

/-- What is printed as JSON is one document and the end of a line. Reading it gives an object for
each text in turn, which shows the text and what was reported on it. Different reports never give the
same document. -/
theorem Request.json_output_faithful (request : Request) (config : Config)
    (nonempty : request.texts ≠ []) (isJson : request.format.getD config.format = .json) :
    (∃ document objects, (request.run config).stdout.toList = document ++ ['\n'] ∧
      Json.IsDocument document (.array objects) ∧
      (∀ value, Json.IsDocument document value → value = .array objects) ∧
      Json.read? document = some (.array objects) ∧
      objects.length = request.texts.length ∧
      ∀ (place : Nat) (text : String), request.texts[place]? = some text →
        ∃ object report, objects[place]? = some object ∧ report.ShownBy object ∧
          report = request.command.report config text ∧ report.text = text ∧
          request.command.Yields config report.verdict) ∧
    ∀ reports reports' : List Report, reports ≠ reports' →
      Report.render .json reports ≠ Report.render .json reports' := by
  refine ⟨?_, fun _ _ differ same => differ (Report.render_json_injective same)⟩
  let report := request.command.report config
  let objects := request.texts.map fun text => (report text).json
  have isDocument := (Json.spells_write 0 (.array objects)).isDocument
  refine ⟨Json.write 0 (.array objects), objects, stdout_json nonempty isJson, isDocument,
    fun value other => other.unique isDocument, Json.read?_write 0 _, by simp [objects], ?_⟩
  intro place text found
  obtain ⟨sameText, yields⟩ := request.command.yields_report config text
  exact ⟨(report text).json, report text, by simp [objects, found], Report.shownBy_json _, rfl,
    sameText, yields⟩

theorem Request.json_output_faithful_controls :
    ["a", "\x00\"\\\x7f\u2028😀"] ≠ [] ∧
      (some Report.Format.json).getD ({} : Config).format = .json ∧
      ∃ document objects object,
        (run ⟨.quote false none, ["a", "\x00\"\\\x7f\u2028😀"], some .json⟩ {}).stdout.toList =
          document ++ ['\n'] ∧
        Json.read? document = some (.array objects) ∧ objects.length = 2 ∧
        objects[1]? = some object ∧
        object.field? "text" = some (.string "\x00\"\\\x7f\u2028😀".toList) ∧
        object.field? "quoted" = some (.string "\"\x00\"\"\\\x7f\u2028😀\"".toList) := by
  refine ⟨List.cons_ne_nil _ _, rfl, ?_⟩
  obtain ⟨⟨document, objects, printed, _, _, read, length, shown⟩, _⟩ :=
    Request.json_output_faithful ⟨.quote false none, ["a", "\x00\"\\\x7f\u2028😀"], some .json⟩ {}
      (List.cons_ne_nil _ _) rfl
  obtain ⟨object, _, isObject, shows, rfl, _⟩ := shown 1 _ rfl
  have fields : object.HasFields [("text", .string "\x00\"\\\x7f\u2028😀".toList),
    ("status", .string "quoted".toList),
    ("quoted", .string (Identifier.delimited "\x00\"\\\x7f\u2028😀".toList))] := shows
  have quoted : Identifier.delimited "\x00\"\\\x7f\u2028😀".toList =
      "\"\x00\"\"\\\x7f\u2028😀\"".toList := by decide
  rw [quoted] at fields
  exact ⟨document, objects, object, printed, read, length, isObject,
    fields.values ("text", _) (by simp), fields.values ("quoted", _) (by simp)⟩

end SqlIdentifier
