import SqlIdentifier.FileTree
import SqlIdentifier.Identifier.Error

namespace SqlIdentifier

inductive Failure where
  | configuration (reason : String)
  | malformedConfiguration
  | validation (reason : String)
  | identifier (error : Identifier.Error)
  | io (error : ReadError)
  deriving DecidableEq, Repr

namespace Failure

def message : Failure → String
  | configuration reason => "Configuration error: " ++ reason
  | malformedConfiguration => "Configuration error: Failed to parse configuration"
  | validation reason => "Validation error: " ++ reason
  | identifier error => "Identifier error: " ++ error.message
  | io error => "IO error: " ++ error.message

/-- An identifier error by its name and the values of its fields. -/
def errorFields : Identifier.Error → String
  | .noMatch position => s!"NoMatch \x7b position: {position} \x7d"
  | .malformedEscape offset escape =>
    s!"MalformedEscape \x7b offset: {offset}, escape: {Text.charLiteral escape} \x7d"
  | .invalidCodePoint offset value =>
    s!"InvalidCodePoint \x7b offset: {offset}, value: {value} \x7d"
  | .lengthExceeded length most => s!"LengthExceeded \x7b length: {length}, max: {most} \x7d"
  | .invalidEscapeCharacter escape =>
    s!"InvalidEscapeCharacter \x7b escape: {Text.charLiteral escape} \x7d"

/-- The line with which the program ends: the kind of failure and its details as a literal. The line
on a malformed configuration ends where the details of the mistake would follow. -/
def line : Failure → String
  | configuration reason => s!"Error: Config({Text.stringLiteral reason})"
  | malformedConfiguration => "Error: Config(\"Failed to parse configuration"
  | validation reason => s!"Error: Validation({Text.stringLiteral reason})"
  | identifier error => s!"Error: Identifier({errorFields error})"
  | io error => s!"Error: Io({error.fields})"

end Failure

end SqlIdentifier
