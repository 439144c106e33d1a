import SqlIdentifier.Dialect
import SqlIdentifier.Identifier.Spelling
import SqlIdentifier.Json

namespace SqlIdentifier

/-- What came of a text. -/
inductive Verdict where
  /-- The text was checked as a regular identifier; the span is that of the match at its start. -/
  | checked (dialect : Dialect) (whole : Bool) (span : Option Span)
  | decoded (kind : Identifier.Kind) (value : List Char)
  | quoted (value : List Char)
  | failed (error : Identifier.Error)
  deriving DecidableEq, Repr

structure Report where
  text : String
  verdict : Verdict
  deriving DecidableEq, Repr

namespace Report

def passed (report : Report) : Bool :=
  match report.verdict with
  | .checked _ whole _ => whole
  | .decoded .. => true
  | .quoted _ => true
  | .failed _ => false

def line (report : Report) : String :=
  let text := report.text
  match report.verdict with
  | .checked dialect true _ => s!"{text}: match ({dialect.name})"
  | .checked dialect false (some span) =>
    s!"{text}: no match ({dialect.name}, prefix {span.start}..{span.stop})"
  | .checked dialect false none => s!"{text}: no match ({dialect.name})"
  | .decoded kind value => kind.name ++ "\t" ++ String.ofList value
  | .quoted value => String.ofList value
  | .failed error => s!"error\t{text}: {error.message}"

def spanJson : Option Span → Json
  | none => .null
  | some span => .object [("start", .number span.start), ("end", .number span.stop)]

def json (report : Report) : Json :=
  let string (text : String) := Json.string text.toList
  let fields :=
    match report.verdict with
    | .checked dialect whole span =>
      [("grammar", string dialect.name), ("matches", .bool whole), ("span", spanJson span)]
    | .decoded kind value =>
      [("status", string "decoded"), ("kind", string kind.name), ("value", .string value)]
    | .quoted value => [("status", string "quoted"), ("quoted", .string value)]
    | .failed error => [("status", string "failed"), ("error", string error.message)]
  .object (("text", string report.text) :: fields)

def check (dialect : Dialect) (text : String) : Report :=
  let span := dialect.grammar.matchAt? text.toList 0
  let whole := span.any fun found => found.stop == Text.byteSize text.toList
  ⟨text, .checked dialect whole span⟩

def decode (text : String) : Report :=
  match Identifier.matchWhole? text.toList with
  | none => ⟨text, .failed (.noMatch 0)⟩
  | some found =>
    match found.decode with
    | .ok value => ⟨text, .decoded found.kind value⟩
    | .error error => ⟨text, .failed error⟩

/-- Writes a text as a delimited identifier or, with an escape character, as a Unicode delimited
one. -/
def quote (escape : Option Char) (text : String) : Report :=
  match escape with
  | none => ⟨text, .quoted (Identifier.delimited text.toList)⟩
  | some escape =>
    match Identifier.unicodeDelimited escape text.toList with
    | .ok value => ⟨text, .quoted value⟩
    | .error error => ⟨text, .failed error⟩

inductive Format where
  | text
  | json
  deriving DecidableEq, Repr

def Format.name : Format → String
  | text => "text"
  | json => "json"

/-- The format with the given name; case matters. -/
def Format.ofName? (name : String) : Option Format :=
  [text, json].find? fun format => format.name = name

theorem Format.ofName?_name (format : Format) : ofName? format.name = some format := by
  cases format <;> decide

/-- What is printed for a list of reports: a line for each, or one JSON array. -/
def render (format : Format) (reports : List Report) : String :=
  match format with
  | .text => String.join (reports.map fun report => report.line ++ "\n")
  | .json => String.ofList (Json.write 0 (.array (reports.map json)) ++ ['\n'])

end Report

end SqlIdentifier
