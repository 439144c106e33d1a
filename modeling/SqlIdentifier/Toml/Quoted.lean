import SqlIdentifier.Text.Hex
import SqlIdentifier.Unicode.Scalar

namespace SqlIdentifier.Toml

/-- The code points that may stand in comments and strings: the tab, and all but the controls of
ASCII. -/
def isPlain (c : Char) : Bool :=
  c = '\t' || (' ' ≤ c && c ≠ '\x7f')

def isBlank (c : Char) : Bool :=
  c = ' ' || c = '\t'

structure Quoting where
  quote : Char
  escapes : Bool
  multiLine : Bool

/-- Where the reading of a string has come to. -/
inductive StringState where
  /-- In the text, behind this many quotes. -/
  | text (quotes : Nat)
  /-- Behind an escaped line end, where blanks and further line ends do not count. -/
  | trimming
  /-- Behind a carriage return, which a line feed must follow. The line end is trimmed, or it
  belongs to the text. -/
  | lineFeed (trimmed : Bool)
  | escape
  /-- Behind a backslash and blanks, where the line must end. -/
  | lineEnd
  /-- In the digits of a code point, of which `left + 1` are still to come. -/
  | number (left value : Nat)

/-- What a code point does to the string that is read. -/
inductive StringStep where
  | next (text : List Char) (state : StringState)
  /-- It is the last of the closing quotes; the text ends with the given one. -/
  | closed (text : List Char)
  /-- It stands behind the closing quotes; the text ends with the given one. -/
  | behind (text : List Char)

def simpleEscape? : Char → Option Char
  | 'b' => some '\x08'
  | 't' => some '\t'
  | 'n' => some '\n'
  | 'f' => some '\x0c'
  | 'r' => some '\r'
  | '"' => some '"'
  | '\\' => some '\\'
  | _ => none

namespace Quoting

def stepText (quoting : Quoting) (c : Char) : Option StringStep :=
  if quoting.escapes && c = '\\' then some (.next [] .escape)
  else if isPlain c then some (.next [c] (.text 0))
  else if quoting.multiLine && c = '\n' then some (.next ['\n'] (.text 0))
  else if quoting.multiLine && c = '\r' then some (.next [] (.lineFeed false))
  else none

/-- The step from behind quotes or within the text. A string on one line is closed by the first
quote; of more than five quotes in a row the first five close a string of several lines. -/
def stepQuotes (quoting : Quoting) (quotes : Nat) (c : Char) : Option StringStep :=
  if c = quoting.quote then
    if !quoting.multiLine then some (.closed [])
    else if quotes = 4 then some (.closed [c, c])
    else some (.next [] (.text (quotes + 1)))
  else if 3 ≤ quotes then some (.behind (List.replicate (quotes - 3) quoting.quote))
  else
    (quoting.stepText c).map fun
      | .next text state => .next (List.replicate quotes quoting.quote ++ text) state
      | step => step

def stepEscape (quoting : Quoting) (c : Char) : Option StringStep :=
  match simpleEscape? c with
  | some value => some (.next [value] (.text 0))
  | none =>
    if c = 'u' then some (.next [] (.number 3 0))
    else if c = 'U' then some (.next [] (.number 7 0))
    else if !quoting.multiLine then none
    else if isBlank c then some (.next [] .lineEnd)
    else if c = '\n' then some (.next [] .trimming)
    else if c = '\r' then some (.next [] (.lineFeed true))
    else none

def stepNumber (left value : Nat) (c : Char) : Option StringStep := do
  let digit ← Hex.digitValue? c
  match left with
  | left + 1 => return .next [] (.number left (16 * value + digit))
  | 0 => return .next [← Unicode.scalar? (16 * value + digit)] (.text 0)

def step (quoting : Quoting) : StringState → Char → Option StringStep
  | .text quotes, c => quoting.stepQuotes quotes c
  | .trimming, c =>
    if isBlank c || c = '\n' then some (.next [] .trimming)
    else if c = '\r' then some (.next [] (.lineFeed true))
    else quoting.stepQuotes 0 c
  | .lineFeed trimmed, c =>
    if c = '\n' then
      some (if trimmed then .next [] .trimming else .next ['\n'] (.text 0))
    else none
  | .escape, c => quoting.stepEscape c
  | .lineEnd, c =>
    if isBlank c then some (.next [] .lineEnd)
    else if c = '\n' then some (.next [] .trimming)
    else if c = '\r' then some (.next [] (.lineFeed true))
    else none
  | .number left value, c => stepNumber left value c

/-- The end of the text where the document ends. -/
def finish (quoting : Quoting) : StringState → Option (List Char)
  | .text quotes =>
    if 3 ≤ quotes then some (List.replicate (quotes - 3) quoting.quote) else none
  | _ => none

/-- The text of a string from a state on, and what stands behind its closing quotes. -/
def read? (quoting : Quoting) : StringState → List Char → Option (List Char × List Char)
  | state, [] => (quoting.finish state).map (·, [])
  | state, c :: rest =>
    match quoting.step state c with
    | none => none
    | some (.next text state) =>
      (quoting.read? state rest).map fun (later, behind) => (text ++ later, behind)
    | some (.closed text) => some (text, rest)
    | some (.behind text) => some (text, c :: rest)

end Quoting

/-- Passes over the line end that may follow the opening quotes of a string of several lines. -/
def dropLineEnd : List Char → List Char
  | '\n' :: rest => rest
  | '\r' :: '\n' :: rest => rest
  | rest => rest

def oneLineString? : List Char → Option (List Char × List Char)
  | '"' :: rest => Quoting.read? ⟨'"', true, false⟩ (.text 0) rest
  | '\'' :: rest => Quoting.read? ⟨'\'', false, false⟩ (.text 0) rest
  | _ => none

def string? : List Char → Option (List Char × List Char)
  | '"' :: '"' :: '"' :: rest => Quoting.read? ⟨'"', true, true⟩ (.text 0) (dropLineEnd rest)
  | '\'' :: '\'' :: '\'' :: rest => Quoting.read? ⟨'\'', false, true⟩ (.text 0) (dropLineEnd rest)
  | text => oneLineString? text

end SqlIdentifier.Toml
