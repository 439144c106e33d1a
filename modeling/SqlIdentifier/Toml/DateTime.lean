import SqlIdentifier.Toml.Number

namespace SqlIdentifier.Toml

def numberIn? (least most : Nat) (digits : List Char) : Option Nat :=
  if digits.all Char.isDigit ∧ least ≤ ofDigits 10 digits ∧ ofDigits 10 digits ≤ most then
    some (ofDigits 10 digits)
  else none

def isLeapYear (year : Nat) : Bool :=
  year % 4 = 0 && (year % 100 ≠ 0 || year % 400 = 0)

def daysInMonth (year month : Nat) : Nat :=
  if month = 2 then if isLeapYear year then 29 else 28
  else if month ∈ [4, 6, 9, 11] then 30
  else 31

def isDate : List Char → Bool
  | [a, b, c, d, '-', e, f, '-', g, h] =>
    (do
      let year ← numberIn? 0 9999 [a, b, c, d]
      let month ← numberIn? 1 12 [e, f]
      numberIn? 1 (daysInMonth year month) [g, h]).isSome
  | _ => false

/-- What stands behind the time of day with which a text starts. A minute may have a leap second. -/
def behindTime? : List Char → Option (List Char)
  | a :: b :: ':' :: c :: d :: ':' :: e :: f :: rest => do
    let _ ← numberIn? 0 23 [a, b]
    let _ ← numberIn? 0 59 [c, d]
    let _ ← numberIn? 0 60 [e, f]
    match rest with
    | '.' :: fraction =>
      guard (fraction.head?.any Char.isDigit)
      return fraction.dropWhile Char.isDigit
    | _ => return rest
  | _ => none

/-- Whether a text is the difference of a local time to universal time. -/
def isOffset : List Char → Bool
  | ['Z'] => true
  | ['z'] => true
  | [sign, a, b, ':', c, d] =>
    (sign = '+' || sign = '-') && (numberIn? 0 23 [a, b]).isSome && (numberIn? 0 59 [c, d]).isSome
  | _ => false

def isOffsetTime (text : List Char) : Bool :=
  (behindTime? text).any fun rest => rest.isEmpty || isOffset rest

/-- Whether a text is a date, a time of day, or both with the letter T between them. -/
def isDateTime (text : List Char) : Bool :=
  isDate text || (behindTime? text).any List.isEmpty ||
    (isDate (text.take 10) &&
      match text.drop 10 with
      | delimiter :: time => (delimiter = 'T' || delimiter = 't') && isOffsetTime time
      | [] => false)

end SqlIdentifier.Toml
