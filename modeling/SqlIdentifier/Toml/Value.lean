namespace SqlIdentifier.Toml

/-- How a table was defined. -/
inductive Definition where
  /-- In braces; nothing can be added to it. -/
  | inline
  /-- By a header of its own. -/
  | header
  /-- As a part of the path in a header. -/
  | implied
  /-- As a part of the path in a dotted key. -/
  | dotted
  deriving DecidableEq, Repr

/-- A TOML value. Of floating-point numbers and of dates and times only the written form is kept. -/
inductive Value where
  | string (text : List Char)
  | integer (value : Int)
  | float (written : List Char)
  | boolean (value : Bool)
  | dateTime (written : List Char)
  | array (items : List Value)
  | table (definition : Definition) (entries : List (String × Value))
  /-- The tables of one array that have been closed, and the last, to which entries are added. -/
  | tables (closed : List (List (String × Value))) (last : List (String × Value))

abbrev Entries := List (String × Value)

namespace Entries

/-- Gives a key a value, at the end if it has none yet. -/
def set (key : String) (value : Value) : Entries → Entries
  | [] => [(key, value)]
  | (other, current) :: later =>
    if other = key then (key, value) :: later else (other, current) :: set key value later

def add? (entries : Entries) (key : String) (value : Value) : Option Entries :=
  match entries.lookup key with
  | none => some (entries ++ [(key, value)])
  | some _ => none

end Entries

structure Table where
  definition : Definition
  entries : Entries

namespace Table

/-- Changes the table to which a path leads. The path may enter the tables whose definition is in
`entered`, and the last table of an array; a table that is missing is created. -/
def changeAt? (entered : List Definition) (created : Definition) (change : Table → Option Table) :
    (path : List String) → Table → Option Table
  | [], table => change table
  | key :: path, table =>
    match table.entries.lookup key with
    | none => do
      let inner ← changeAt? entered created change path ⟨created, []⟩
      return { table with
        entries := Entries.set key (.table inner.definition inner.entries) table.entries }
    | some (.table definition entries) => do
      guard (definition ∈ entered)
      let inner ← changeAt? entered created change path ⟨definition, entries⟩
      return { table with
        entries := Entries.set key (.table inner.definition inner.entries) table.entries }
    | some (.tables closed last) => do
      let inner ← changeAt? entered created change path ⟨.header, last⟩
      return { table with entries := Entries.set key (.tables closed inner.entries) table.entries }
    | some _ => none

/-- Adds an entry under a dotted key. The tables on the way must not have been defined in another
way, and the table that takes the entry must be one of dotted keys, unless it is this table. -/
def assign? (path : List String) (key : String) (value : Value) : Table → Option Table :=
  changeAt? [.implied, .dotted] .dotted
    (fun table => do
      guard (path.isEmpty || table.definition = .dotted)
      let entries ← table.entries.add? key value
      return { table with entries })
    path

/-- Defines a table by a header. It may exist only as a part of the path in another header. -/
def open? (path : List String) (key : String) : Table → Option Table :=
  changeAt? [.header, .implied, .dotted] .implied
    (fun table =>
      match table.entries.lookup key with
      | none => some { table with entries := Entries.set key (.table .header []) table.entries }
      | some (.table .implied entries) =>
        some { table with entries := Entries.set key (.table .header entries) table.entries }
      | some _ => none)
    path

def append? (path : List String) (key : String) : Table → Option Table :=
  changeAt? [.header, .implied, .dotted] .implied
    (fun table =>
      match table.entries.lookup key with
      | none => some { table with entries := Entries.set key (.tables [] []) table.entries }
      | some (.tables closed last) =>
        some { table with
          entries := Entries.set key (.tables (closed ++ [last]) []) table.entries }
      | some _ => none)
    path

end Table

/-- One statement of a document. The last key of a path is given apart. -/
inductive Statement where
  | assign (path : List String) (key : String) (value : Value)
  | table (path : List String) (key : String)
  | tables (path : List String) (key : String)

/-- A document as far as it has been read, and the path of the header that stands last. -/
structure Document where
  root : Table := ⟨.header, []⟩
  current : List String := []

namespace Document

/-- Adds a statement. Entries go to the table of the last header. -/
def add? (document : Document) : Statement → Option Document
  | .assign path key value => do
    let root ← Table.changeAt? [.header, .implied, .dotted] .implied (Table.assign? path key value)
      document.current document.root
    return { document with root }
  | .table path key => do
    let root ← document.root.open? path key
    return ⟨root, path ++ [key]⟩
  | .tables path key => do
    let root ← document.root.append? path key
    return ⟨root, path ++ [key]⟩

def entries? (statements : List Statement) : Option Entries := do
  let document ← statements.foldlM add? {}
  return document.root.entries

end Document

end SqlIdentifier.Toml
