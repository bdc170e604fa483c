import Passbook.Word
/-!
Decimal numerals in texts. Three grammars are read: bare digits, integers of a fixed width with an
optional sign, and amounts of any size that may group their digits with underscores.
-/

namespace Passbook.Decimal

def digitValue (digit : Char) : Nat := digit.toNat - '0'.toNat

/-- The digits taken as one number, most significant first. -/
def ofDigits (digits : List Char) : Nat :=
  digits.foldl (fun value digit => 10 * value + digitValue digit) 0

/-- One digit or more and nothing else. -/
def natural? (text : List Char) : Option Nat :=
  if text ≠ [] ∧ text.all Char.isDigit then some (ofDigits text) else none

/-- Digits with an optional plus sign. -/
def unsigned? : List Char → Option Nat
  | '+' :: digits => natural? digits
  | digits => natural? digits

/-- Digits with an optional sign. -/
def signed? : List Char → Option Int
  | '-' :: digits => (natural? digits).map fun value => -value
  | digits => (unsigned? digits).map Int.ofNat

def uint64? (text : String) : Option UInt64 :=
  (unsigned? text.toList).bind fun value => Word.uint64? value

def uint32? (text : String) : Option UInt32 :=
  (unsigned? text.toList).bind fun value => Word.uint32? value

def int64? (text : String) : Option Int64 := (signed? text.toList).bind Word.int64?

def unplussed : List Char → List Char
  | '+' :: digits => digits
  | digits => digits

/-- An amount begins with a digit, after which underscores may stand anywhere. -/
def amount? (text : String) : Option Nat :=
  let digits := unplussed text.toList
  if digits.head?.any Char.isDigit && digits.all (fun c => c.isDigit || c == '_') then
    some (ofDigits (digits.filter Char.isDigit))
  else none

end Passbook.Decimal
