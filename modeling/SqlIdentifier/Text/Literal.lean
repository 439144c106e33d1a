import SqlIdentifier.CharClass.Display
import SqlIdentifier.Text.Hex

namespace SqlIdentifier.Text

/-- A code point as it is shown between the given quotes. -/
def literalChar (quote c : Char) : List Char :=
  if c = '\x00' then ['\\', '0']
  else if c = '\t' then ['\\', 't']
  else if c = '\r' then ['\\', 'r']
  else if c = '\n' then ['\\', 'n']
  else if c = '\\' ∨ c = quote then ['\\', c]
  else if CharClass.printable.contains c && !CharClass.graphemeExtend.contains c then [c]
  else ['\\', 'u', '\x7b'] ++ Nat.toDigits 16 c.toNat ++ ['\x7d']

def charLiteral (c : Char) : String :=
  String.ofList ('\'' :: literalChar '\'' c ++ ['\''])

def stringLiteral (text : String) : String :=
  String.ofList ('"' :: text.toList.flatMap (literalChar '"') ++ ['"'])

end SqlIdentifier.Text
