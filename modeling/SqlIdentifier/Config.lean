import SqlIdentifier.Report

namespace SqlIdentifier

/-- What a configuration file can set. -/
structure Config where
  verbose : Bool := false
  dialect : Dialect := .isoPostgres
  format : Report.Format := .text
  escape : Char := Identifier.defaultEscape
  deriving DecidableEq, Repr

end SqlIdentifier
