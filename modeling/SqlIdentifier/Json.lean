import SqlIdentifier.Text.Hex

namespace SqlIdentifier

/-- A JSON value whose numbers are natural. The fields of an object keep their order. -/
inductive Json where
  | null
  | bool (value : Bool)
  | number (value : Nat)
  | string (value : List Char)
  | array (items : List Json)
  | object (fields : List (String × Json))

namespace Json

/-- A code point between the quotes of a string. Quotes, backslashes and what is below the space are
escaped, and nothing else. -/
def writeChar (c : Char) : List Char :=
  if c = '"' then ['\\', '"']
  else if c = '\\' then ['\\', '\\']
  else if c = '\x08' then ['\\', 'b']
  else if c = '\t' then ['\\', 't']
  else if c = '\n' then ['\\', 'n']
  else if c = '\x0c' then ['\\', 'f']
  else if c = '\r' then ['\\', 'r']
  else if c < ' ' then '\\' :: 'u' :: (Nat.toDigits 16 c.toNat).leftpad 4 '0'
  else [c]

def writeString (text : List Char) : List Char :=
  '"' :: text.flatMap writeChar ++ ['"']

def newLine (depth : Nat) : List Char :=
  '\n' :: List.replicate (2 * depth) ' '

mutual

def write (depth : Nat) : Json → List Char
  | null => "null".toList
  | bool value => if value then "true".toList else "false".toList
  | number value => Nat.toDigits 10 value
  | string value => writeString value
  | array [] => ['[', ']']
  | array items => '[' :: writeItems (depth + 1) [] items ++ newLine depth ++ [']']
  | object [] => ['\x7b', '\x7d']
  | object fields => '\x7b' :: writeFields (depth + 1) [] fields ++ newLine depth ++ ['\x7d']

/-- Items on lines of their own. The separator stands in front of the first, and a comma in front of
each other. -/
def writeItems (depth : Nat) (separator : List Char) : List Json → List Char
  | [] => []
  | item :: later =>
    separator ++ newLine depth ++ write depth item ++ writeItems depth [','] later

/-- Fields on lines of their own, with separators as for items. -/
def writeFields (depth : Nat) (separator : List Char) : List (String × Json) → List Char
  | [] => []
  | (name, value) :: later =>
    separator ++ newLine depth ++ writeString name.toList ++ [':', ' '] ++ write depth value ++
      writeFields depth [','] later

end

end Json

end SqlIdentifier
