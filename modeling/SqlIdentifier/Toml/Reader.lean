import SqlIdentifier.Toml.DateTime
import SqlIdentifier.Toml.Quoted

namespace SqlIdentifier.Toml

/-- Keys and values may be nested this deep. -/
def nestingLimit : Nat := 79

def dropBlanks (text : List Char) : List Char :=
  text.dropWhile isBlank

/-- Passes over blanks, line ends and comments. It stops at anything else, and at what may not stand
in a comment. -/
def dropLines : (inComment : Bool) → List Char → List Char
  | _, [] => []
  | _, '\n' :: rest => dropLines false rest
  | _, '\r' :: '\n' :: rest => dropLines false rest
  | inComment, c :: rest =>
    if inComment && isPlain c || isBlank c then dropLines inComment rest
    else if c = '#' then dropLines true rest
    else c :: rest

def dropLineRest? (text : List Char) : Option (List Char) :=
  let behind :=
    match dropBlanks text with
    | '#' :: comment => comment.dropWhile isPlain
    | rest => rest
  match behind with
  | [] => some []
  | '\n' :: rest => some rest
  | '\r' :: '\n' :: rest => some rest
  | _ => none

def isBareKeyChar (c : Char) : Bool :=
  c.isAlphanum || c = '_' || c = '-'

def simpleKey? (text : List Char) : Option (String × List Char) :=
  match text with
  | '"' :: _ | '\'' :: _ => (oneLineString? text).map fun (key, rest) => (String.ofList key, rest)
  | _ =>
    match text.takeWhile isBareKeyChar with
    | [] => none
    | key => some (String.ofList key, text.dropWhile isBareKeyChar)

/-- Keys with dots between them and blanks around them: all but the last, and the last. The first
argument is the most keys that there may be. -/
def dottedKey? : Nat → List Char → Option ((List String × String) × List Char)
  | 0, _ => none
  | limit + 1, text => do
    let (key, rest) ← simpleKey? (dropBlanks text)
    match dropBlanks rest with
    | '.' :: rest =>
      let ((path, last), rest) ← dottedKey? limit rest
      return ((key :: path, last), rest)
    | rest => return (([], key), rest)

def isTokenChar (c : Char) : Bool :=
  c.isAlphanum || c ∈ ['+', '-', '_', '.', ':']

def token? (token : List Char) : Option Value :=
  if token = "true".toList then some (.boolean true)
  else if token = "false".toList then some (.boolean false)
  else if isDateTime token then some (.dateTime token)
  else float? token <|> integer? token

/-- A value that is neither a string nor a container. A date and a time may have a space between
them. -/
def plainValue? (text : List Char) : Option (Value × List Char) :=
  let token := text.takeWhile isTokenChar
  let behind := text.dropWhile isTokenChar
  let time :=
    match behind with
    | ' ' :: rest => if isDate token then rest.takeWhile isTokenChar else []
    | _ => []
  if time.isEmpty then (token? token).map (·, behind)
  else if isOffsetTime time then
    some (.dateTime (token ++ ' ' :: time), behind.drop (time.length + 1))
  else none

/-- The items of an array behind its opening bracket, with at most as many commas as the first
argument says. The last item may have a comma behind it. -/
def items? (value? : List Char → Option (Value × List Char)) :
    Nat → List Char → Option (List Value × List Char)
  | limit, text => do
    match dropLines false text with
    | ']' :: rest => return ([], rest)
    | text =>
      let (item, rest) ← value? text
      match limit, dropLines false rest with
      | _, ']' :: rest => return ([item], rest)
      | limit + 1, ',' :: rest =>
        let (later, rest) ← items? value? limit rest
        return (item :: later, rest)
      | _, _ => none

def entry? (value? : List Char → Option (Value × List Char)) (text : List Char) :
    Option ((List String × String) × Value × List Char) := do
  let (key, rest) ← dottedKey? nestingLimit text
  match rest with
  | '=' :: rest =>
    let (value, rest) ← value? (dropBlanks rest)
    return (key, value, rest)
  | _ => none

/-- The entries of an inline table, added to those it has, up to its closing brace. There are at
most as many commas as the number says. -/
def inlineEntries? (value? : List Char → Option (Value × List Char)) :
    Nat → Table → List Char → Option (Table × List Char)
  | limit, table, text => do
    let ((path, key), value, rest) ← entry? value? text
    let table ← table.assign? path key value
    match limit, dropBlanks rest with
    | _, '\x7d' :: rest => return (table, rest)
    | limit + 1, ',' :: rest => inlineEntries? value? limit table rest
    | _, _ => none

def value? : (depth : Nat) → List Char → Option (Value × List Char)
  | depth, text => do
    match depth, text with
    | _, '"' :: _ | _, '\'' :: _ =>
      let (value, rest) ← string? text
      return (.string value, rest)
    | depth + 1, '[' :: rest =>
      let (items, rest) ← items? (value? depth) rest.length rest
      return (.array items, rest)
    | depth + 1, '\x7b' :: rest =>
      match dropBlanks rest with
      | '\x7d' :: rest => return (.table .inline [], rest)
      | rest =>
        let (table, rest) ← inlineEntries? (value? depth) rest.length ⟨.inline, []⟩ rest
        return (.table .inline table.entries, rest)
    | _, _ => plainValue? text

def statement? (text : List Char) : Option (Statement × List Char) := do
  match text with
  | '[' :: '[' :: rest =>
    let ((path, key), rest) ← dottedKey? nestingLimit rest
    match rest with
    | ']' :: ']' :: rest => return (.tables path key, ← dropLineRest? rest)
    | _ => none
  | '[' :: rest =>
    let ((path, key), rest) ← dottedKey? nestingLimit rest
    match rest with
    | ']' :: rest => return (.table path key, ← dropLineRest? rest)
    | _ => none
  | _ =>
    let ((path, key), value, rest) ← entry? (value? nestingLimit) text
    return (.assign path key value, ← dropLineRest? rest)

/-- The statements of a text with at most as many lines as the first argument says. -/
def statements? : Nat → List Char → Option (List Statement)
  | limit, text => do
    match limit, dropBlanks text with
    | _, [] => return []
    | 0, _ => none
    | limit + 1, text =>
      match dropLineRest? text with
      | some rest => statements? limit rest
      | none =>
        let (statement, rest) ← statement? text
        return statement :: (← statements? limit rest)

/-- The entries of a document. A byte order mark may stand at its start. -/
def read? (text : List Char) : Option Entries := do
  let text := match text with
    | '\ufeff' :: rest => rest
    | _ => text
  Document.entries? (← statements? text.length text)

end SqlIdentifier.Toml
