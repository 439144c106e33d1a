import SqlIdentifier.Config
import SqlIdentifier.Failure

namespace SqlIdentifier

/-- What to do with texts. What a command does not say itself is taken from the configuration. -/
inductive Command where
  | check (dialect : Option Dialect)
  | decode
  | quote (unicode : Bool) (escape : Option Char)
  deriving DecidableEq, Repr

structure Request where
  command : Command
  texts : List String
  format : Option Report.Format := none
  deriving DecidableEq, Repr

structure Outcome where
  stdout : String
  failure : Option Failure
  deriving DecidableEq, Repr

namespace Command

def report (command : Command) (config : Config) (text : String) : Report :=
  match command with
  | check dialect => Report.check (dialect.getD config.dialect) text
  | decode => Report.decode text
  | quote unicode escape =>
    Report.quote (if unicode then some (escape.getD config.escape) else none) text

end Command

def Failure.ofCount (failed : Nat) : Option Failure :=
  if failed = 0 then none else some (.validation s!"{failed} argument(s) failed")

/-- Reports on every text, and then fails if one of them did not pass. There must be a text. -/
def Request.run (request : Request) (config : Config) : Outcome :=
  if request.texts.isEmpty then ⟨"", some (.validation "No identifiers specified")⟩
  else
    let reports := request.texts.map (request.command.report config)
    ⟨Report.render (request.format.getD config.format) reports,
      Failure.ofCount (reports.countP fun report => !report.passed)⟩

end SqlIdentifier
