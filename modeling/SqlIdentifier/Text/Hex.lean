import SqlIdentifier.Text.Utf8

namespace SqlIdentifier.Hex

def digitValue? (c : Char) : Option Nat :=
  if '0' ≤ c ∧ c ≤ '9' then some (c.toNat - '0'.toNat)
  else if 'a' ≤ c ∧ c ≤ 'f' then some (c.toNat - 'a'.toNat + 10)
  else if 'A' ≤ c ∧ c ≤ 'F' then some (c.toNat - 'A'.toNat + 10)
  else none

def isDigit (c : Char) : Bool :=
  (digitValue? c).isSome

/-- A number in a word of 32 bits with one more digit behind it: the bits move up by four places, and
those of the digit take the places that this leaves free. -/
def push (word : UInt32) (digit : Nat) : UInt32 :=
  word <<< 4 ||| UInt32.ofNat digit

/-- The number that one to eight hexadecimal digits write. The limit is in bytes, which for digits
is the same as their number. -/
def read? (digits : List Char) : Option Nat :=
  if digits.isEmpty || 8 < Text.byteSize digits then none
  else (digits.foldlM (fun word c => (digitValue? c).map (push word)) 0).map UInt32.toNat

/-- The number in upper-case hexadecimal digits, with zeros in front up to the given width. -/
def write (width value : Nat) : List Char :=
  ((Nat.toDigits 16 value).map Char.toUpper).leftpad width '0'

end SqlIdentifier.Hex
