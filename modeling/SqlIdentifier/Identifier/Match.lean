import SqlIdentifier.Grammar
import SqlIdentifier.Identifier.Body

namespace SqlIdentifier.Identifier

inductive Kind where
  | regular
  | delimited
  | unicodeDelimited
  deriving DecidableEq, Repr

def Kind.name : Kind → String
  | regular => "regular"
  | delimited => "delimited"
  | unicodeDelimited => "unicode-delimited"

/-- The character that introduces escapes where no clause names another. -/
def defaultEscape : Char := '\\'

/-- A recognised identifier with the span of the whole of it. A body is what stands between the
quotes, as written; the escape is that of the clause, if there is one. -/
inductive Match where
  | regular (span : Span) (text : List Char)
  | delimited (span : Span) (body : List Char)
  | unicodeDelimited (span : Span) (body : List Char) (escape : Option Char)
  deriving DecidableEq, Repr

namespace Match

def kind : Match → Kind
  | regular .. => .regular
  | delimited .. => .delimited
  | unicodeDelimited .. => .unicodeDelimited

def span : Match → Span
  | regular span _ => span
  | delimited span _ => span
  | unicodeDelimited span _ _ => span

def escapeInEffect : Match → Option Char
  | unicodeDelimited _ _ escape => some (escape.getD defaultEscape)
  | _ => none

end Match

def checkLength (text : List Char) : Except Error (List Char) :=
  if Grammar.maxLength < text.length then
    .error (.lengthExceeded text.length Grammar.maxLength)
  else .ok text

/-- The text that a recognised identifier stands for. The limit of length applies to this text. -/
def Match.decode : Match → Except Error (List Char)
  | regular _ text => checkLength text
  | delimited _ body => checkLength (halveQuotes body)
  | unicodeDelimited _ body escape => do
    checkLength (← unescape (escape.getD defaultEscape) (halveQuotes body))

structure Form where
  kind : Kind
  pattern : Pattern

def forms : List Form :=
  [⟨.regular, Grammar.isoPostgresRegularToken⟩,
    ⟨.delimited, Grammar.delimitedToken⟩,
    ⟨.unicodeDelimited, Grammar.unicodeDelimited⟩]

structure Candidate where
  kind : Kind
  span : Span
  captures : Captures

def Form.candidateAt? (form : Form) (text : List Char) (position : Nat) : Option Candidate :=
  (form.pattern.submatchesAt? text position).map fun (span, captures) => ⟨form.kind, span, captures⟩

/-- The identifier that a candidate stands for, its parts cut from the text. -/
def Match.ofCandidate? (text : List Char) (candidate : Candidate) : Option Match :=
  let part (group : Group) := (candidate.captures.get? group).bind (·.slice? text)
  match candidate.kind with
  | .regular => (candidate.span.slice? text).map (regular candidate.span)
  | .delimited => (part .body).map (delimited candidate.span)
  | .unicodeDelimited =>
    (part .body).map (unicodeDelimited candidate.span · ((part .escape).bind List.head?))

/-- The longer of two candidates, and the earlier if they are equally long. -/
def Candidate.longer (best : Option Candidate) (next : Candidate) : Option Candidate :=
  match best with
  | none => some next
  | some earlier => if earlier.span.size < next.span.size then some next else some earlier

/-- The identifier that starts at a byte offset, in the form that takes most of the text. -/
def matchAt? (text : List Char) (position : Nat) : Option Match :=
  let candidates := forms.filterMap (·.candidateAt? text position)
  (candidates.foldl Candidate.longer none).bind (Match.ofCandidate? text)

/-- The identifier that is the whole text, in the first form that covers it. -/
def matchWhole? (text : List Char) : Option Match :=
  forms.findSome? fun form =>
    (form.candidateAt? text 0).bind fun candidate =>
      if candidate.span.stop = Text.byteSize text then Match.ofCandidate? text candidate else none

def parse (text : List Char) : Except Error (List Char) :=
  match matchWhole? text with
  | none => .error (.noMatch 0)
  | some found => found.decode

end SqlIdentifier.Identifier
