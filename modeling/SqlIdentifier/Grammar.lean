import SqlIdentifier.CharClass.Dialects
import SqlIdentifier.Pattern

namespace SqlIdentifier.Grammar

open Pattern

/-- The most code points of an identifier by ISO SQL. -/
def maxLength : Nat := 128

/-- A start code point and the whole run of part code points behind it, which has at most the given
length: of a longer run no part matches. -/
def cappedRegular (mostParts : Nat) (start part : CharClass) : Pattern :=
  seq [oneOf start, rounds (oneOf part) 0 (some mostParts), notFollowedBy part]

/-- A start code point and the whole run of part code points behind it. -/
def regularToken (start part : CharClass) : Pattern :=
  seq [oneOf start, rounds (oneOf part) 0 none]

def isoRegular : Pattern :=
  cappedRegular (maxLength - 1) .isoStart .isoPart

/-- PostgreSQL sets no limit of length. -/
def postgresRegular : Pattern :=
  regularToken .postgresStart .postgresPart

def isoPostgresRegular : Pattern :=
  cappedRegular (maxLength - 1) .isoPostgresStart .isoPostgresPart

def isoPostgresJavaRegular : Pattern :=
  cappedRegular (maxLength - 1) .isoPostgresJavaStart .isoPostgresJavaPart

def isoPostgresRegularToken : Pattern :=
  regularToken .isoPostgresStart .isoPostgresPart

/-- One unit between the quotes: a code point other than the double quote, or two double quotes that
stand for one. -/
def quotedUnit : Pattern :=
  choice [oneOf .notDoubleQuote, literal ['"', '"']]

/-- Units in double quotes, at least one; what stands between the quotes is recorded. -/
def quoted (mostUnits : Option Nat) : List Pattern :=
  [char '"', capture .body (rounds quotedUnit 1 mostUnits), char '"']

def delimited : Pattern :=
  seq (quoted (some maxLength))

def delimitedToken : Pattern :=
  seq (quoted none)

def optionalWhiteSpace : Pattern :=
  rounds (oneOf .whiteSpace) 0 none

/-- The clause that names the escape character, or nothing. A clause with a character that cannot
introduce escapes is not part of the identifier. -/
def escapeClause : Pattern :=
  rounds
    (seq [optionalWhiteSpace, keyword "UESCAPE".toList, optionalWhiteSpace, char '\'',
      capture .escape (oneOf .escapeCharacter), char '\''])
    0 (some 1)

def unicodeDelimited : Pattern :=
  seq ([oneOf (.chars ['U', 'u']), char '&'] ++ quoted none ++ [escapeClause])

end SqlIdentifier.Grammar
