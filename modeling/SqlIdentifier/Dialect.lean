import SqlIdentifier.Grammar

namespace SqlIdentifier

/-- The rules by which a regular identifier can be checked. -/
inductive Dialect where
  | iso
  | postgres
  | isoPostgres
  | isoPostgresJava
  deriving DecidableEq, Repr

namespace Dialect

def all : List Dialect :=
  [iso, postgres, isoPostgres, isoPostgresJava]

def name : Dialect → String
  | iso => "iso"
  | postgres => "pg"
  | isoPostgres => "iso-pg"
  | isoPostgresJava => "iso-pg-java"

/-- The dialect with the given name; case matters. -/
def ofName? (name : String) : Option Dialect :=
  all.find? fun dialect => dialect.name = name

def grammar : Dialect → Pattern
  | iso => Grammar.isoRegular
  | postgres => Grammar.postgresRegular
  | isoPostgres => Grammar.isoPostgresRegular
  | isoPostgresJava => Grammar.isoPostgresJavaRegular

theorem ofName?_name (dialect : Dialect) : ofName? dialect.name = some dialect := by
  cases dialect <;> decide

end Dialect

end SqlIdentifier
