import SqlIdentifier.Text.Hex
import SqlIdentifier.Toml.Value

namespace SqlIdentifier.Toml

/-- Digits without the underscores that stand between them, one at a time. -/
def digits? (accepted : Char → Bool) : List Char → Option (List Char)
  | [] => none
  | [c] => if accepted c then some [c] else none
  | c :: '_' :: rest => if accepted c then (digits? accepted rest).map (c :: ·) else none
  | c :: rest => if accepted c then (digits? accepted rest).map (c :: ·) else none

def ofDigits (base : Nat) (digits : List Char) : Nat :=
  digits.foldl (fun value c => base * value + (Hex.digitValue? c).getD 0) 0

def decimal? (text : List Char) : Option (List Char) := do
  let digits ← digits? Char.isDigit text
  guard (digits.length = 1 ∨ digits.head? ≠ some '0')
  return digits

/-- An integer, if it fits into 64 bits with a sign. A sign stands only before decimal digits. -/
def integer? (token : List Char) : Option Value := do
  let value : Int ← match token with
    | '0' :: 'x' :: rest => pure (ofDigits 16 (← digits? Hex.isDigit rest) : Int)
    | '0' :: 'o' :: rest => pure (ofDigits 8 (← digits? (fun c => '0' ≤ c ∧ c ≤ '7') rest) : Int)
    | '0' :: 'b' :: rest => pure (ofDigits 2 (← digits? (fun c => c = '0' ∨ c = '1') rest) : Int)
    | '-' :: rest => pure (-(ofDigits 10 (← decimal? rest) : Int))
    | '+' :: rest => pure (ofDigits 10 (← decimal? rest) : Int)
    | rest => pure (ofDigits 10 (← decimal? rest) : Int)
  guard (-0x8000000000000000 ≤ value ∧ value < 0x8000000000000000)
  return .integer value

/-- Whether `digits · 10 ^ exponent` is too large for a binary number of 64 bits: it is at least
halfway from the largest of them to the next power of two. -/
def tooLarge (digits : Nat) (exponent : Int) : Bool :=
  let limit := Nat.pow 2 1024 - Nat.pow 2 970
  let size := ((Nat.toDigits 10 digits).length : Int) + exponent
  if digits = 0 || size < 300 then false
  else if 310 < size then true
  else if 0 ≤ exponent then limit ≤ digits * Nat.pow 10 exponent.toNat
  else limit * Nat.pow 10 (-exponent).toNat ≤ digits

def cut (accepted : Char → Bool) (text : List Char) : List Char × Option (List Char) :=
  match text.dropWhile (!accepted ·) with
  | [] => (text, none)
  | _ :: behind => (text.takeWhile (!accepted ·), some behind)

def exponent? (text : List Char) : Option Int := do
  match text with
  | '-' :: rest => return -(ofDigits 10 (← digits? Char.isDigit rest) : Int)
  | '+' :: rest => return (ofDigits 10 (← digits? Char.isDigit rest) : Int)
  | rest => return (ofDigits 10 (← digits? Char.isDigit rest) : Int)

/-- A floating-point number without its sign, as digits and a decimal exponent. There must be a
fraction or an exponent. -/
def unsignedFloat? (text : List Char) : Option (Nat × Int) := do
  let (mantissa, exponent) := cut (fun c => c = 'e' ∨ c = 'E') text
  let (whole, fraction) := cut (· = '.') mantissa
  guard (exponent.isSome ∨ fraction.isSome)
  let whole ← decimal? whole
  let fraction ← match fraction with
    | none => pure []
    | some digits => digits? Char.isDigit digits
  let exponent ← match exponent with
    | none => pure 0
    | some written => exponent? written
  return (ofDigits 10 (whole ++ fraction), exponent - fraction.length)

/-- A floating-point number. One without a minus sign must not be too large. -/
def float? (token : List Char) : Option Value := do
  let (negative, unsigned) := match token with
    | '-' :: rest => (true, rest)
    | '+' :: rest => (false, rest)
    | rest => (false, rest)
  if unsigned = "inf".toList ∨ unsigned = "nan".toList then return .float token
  let (digits, exponent) ← unsignedFloat? unsigned
  guard (negative ∨ !tooLarge digits exponent)
  return .float token

end SqlIdentifier.Toml
