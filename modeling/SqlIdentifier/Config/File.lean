import SqlIdentifier.Config
import SqlIdentifier.Toml.Reader

namespace SqlIdentifier.Config

open Toml (Value Entries)

def isEmpty : Value → Bool
  | .array items => items.isEmpty
  | .table _ entries => entries.isEmpty
  | _ => false

/-- A choice by name: a string, or a table whose only key is the name and holds nothing. -/
def choice? {α : Type} (ofName? : String → Option α) : Value → Option α
  | .string name => ofName? (String.ofList name)
  | .table _ [(name, value)] => if isEmpty value then ofName? name else none
  | _ => none

def boolean? : Value → Option Bool
  | .boolean value => some value
  | _ => none

def char? : Value → Option Char
  | .string [c] => some c
  | _ => none

/-- The value of a key, its default if the key is missing, and nothing if the value is not of the
right kind. -/
def get? {α : Type} (entries : Entries) (key : String) (default : α) (decode? : Value → Option α) :
    Option α :=
  match entries.lookup key with
  | none => some default
  | some value => decode? value

/-- The one setting of a section. The section is a table, or an array whose first item is the
setting. A date is taken for a table without the key. -/
def setting? {α : Type} (key : String) (default : α) (decode? : Value → Option α) :
    Value → Option α
  | .table _ entries => get? entries key default decode?
  | .array [] => some default
  | .array (first :: _) => decode? first
  | .tables [] last => decode? (.table .header last)
  | .tables (first :: _) _ => decode? (.table .header first)
  | .dateTime _ => some default
  | _ => none

def ofEntries? (entries : Entries) : Option Config := do
  let initial : Config := {}
  let verbose ← get? entries "verbose" initial.verbose boolean?
  let dialect ← get? entries "grammar" initial.dialect (choice? Dialect.ofName?)
  let format ← get? entries "output" initial.format
    (setting? "format" initial.format (choice? Report.Format.ofName?))
  let escape ← get? entries "quote" initial.escape (setting? "escape" initial.escape char?)
  return { verbose, dialect, format, escape }

def ofToml? (text : String) : Option Config := do
  ofEntries? (← Toml.read? text.toList)

end SqlIdentifier.Config
