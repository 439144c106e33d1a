import SqlIdentifier.CharClass

namespace SqlIdentifier.CharClass

def nonAscii : CharClass :=
  complement (range '\x00' '\x7f')

/-- The code points with the Unicode property White_Space. -/
def whiteSpace : CharClass :=
  union [range '\x09' '\x0d', chars [' ', '\u0085', '\u00a0', '\u1680'], range '\u2000' '\u200a',
    chars ['\u2028', '\u2029', '\u202f', '\u205f', '\u3000']]

def isoStart : CharClass :=
  categories [.lu, .ll, .lt, .lm, .lo, .nl]

/-- ISO SQL continues an identifier also with marks, digits, connectors and format characters, and
with the middle dot of Catalan. -/
def isoPart : CharClass :=
  union [isoStart, categories [.mn, .mc, .nd, .pc, .cf], chars ['\u00b7']]

/-- PostgreSQL starts an identifier with an ASCII letter, an underscore or anything non-ASCII. -/
def postgresStart : CharClass :=
  union [range 'A' 'Z', range 'a' 'z', chars ['_'], nonAscii]

def postgresPart : CharClass :=
  union [postgresStart, range '0' '9', chars ['$']]

/-- The code points that Java ignores inside identifiers: control characters other than white space
and format characters. -/
def javaIgnorable : CharClass :=
  union [range '\x00' '\x08', range '\x0e' '\x1b', range '\x7f' '\u009f', categories [.cf]]

def javaStart : CharClass :=
  categories [.lu, .ll, .lt, .lm, .lo, .nl, .sc, .pc]

def javaPart : CharClass :=
  union [javaStart, categories [.nd, .mn, .mc], javaIgnorable]

def isoPostgresStart : CharClass :=
  intersection [isoStart, postgresStart]

def isoPostgresPart : CharClass :=
  intersection [isoPart, postgresPart]

def isoPostgresJavaStart : CharClass :=
  intersection [isoStart, postgresStart, javaStart]

def isoPostgresJavaPart : CharClass :=
  intersection [isoPart, postgresPart, javaPart]

def hexDigit : CharClass :=
  union [range '0' '9', range 'A' 'F', range 'a' 'f']

def notDoubleQuote : CharClass :=
  complement (chars ['"'])

/-- The code points that may introduce Unicode escapes. Hexadecimal digits, the plus sign, quotes
and white space would make an escape ambiguous. -/
def escapeCharacter : CharClass :=
  complement (union [hexDigit, chars ['+', '\'', '"'], whiteSpace])

end SqlIdentifier.CharClass
