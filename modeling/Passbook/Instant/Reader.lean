import Passbook.Instant.Text
import Passbook.Text.Blank
import Passbook.Text.Decimal
/-!
Instants read leniently: blanks may stand before each part, numbers need not be padded, a year may
have a sign and then any number of digits, and the time may be given for another zone.
-/

namespace Passbook.Instant

open Text (dropBlanks)

/-- Digits from the front of a text, `limit` at most and at least one. -/
def number? (limit : Nat) (text : List Char) : Option (Nat × List Char) :=
  let digits := (text.take limit).takeWhile Char.isDigit
  if digits = [] then none else some (Decimal.ofDigits digits, text.drop digits.length)

def field? (limit low high : Nat) (text : List Char) : Option (Nat × List Char) :=
  (number? limit (dropBlanks text)).bind fun found =>
    if low ≤ found.1 ∧ found.1 ≤ high then some found else none

/-- Without a sign a year has four digits at most. -/
def year? (text : List Char) : Option (Int × List Char) :=
  match dropBlanks text with
  | '-' :: rest => (number? rest.length rest).map fun found => (-found.1, found.2)
  | '+' :: rest => (number? rest.length rest).map fun found => (found.1, found.2)
  | rest => (number? 4 rest).map fun found => (found.1, found.2)

def mark? (mark : Char) (text : List Char) : Option (List Char) :=
  match dropBlanks text with
  | [] => none
  | char :: rest => if char = mark then some rest else none

/-- Digits of a fraction past the ninth do not count. -/
def fraction? : List Char → Option (Nat × List Char)
  | '.' :: rest =>
      let digits := rest.takeWhile Char.isDigit
      let kept := digits.take 9
      if digits = [] then none
      else some (Decimal.ofDigits kept * Nat.pow 10 (9 - kept.length), rest.drop digits.length)
  | rest => some (0, rest)

def twoDigits? : List Char → Option (Nat × List Char)
  | tens :: units :: rest =>
      if tens.isDigit ∧ units.isDigit then some (Decimal.ofDigits [tens, units], rest) else none
  | _ => none

/-- Hours and minutes east of Universal Time, in seconds. -/
def offset? (text : List Char) : Option (Int × List Char) := do
  let (east, rest) ← match text with
    | '+' :: rest => some (true, rest)
    | '-' :: rest => some (false, rest)
    | '−' :: rest => some (false, rest)
    | _ => none
  let (hours, rest) ← twoDigits? rest
  let (minutes, rest) ← twoDigits? (rest.dropWhile fun char => char == ':' || Text.isBlank char)
  let seconds : Int := hours * 3600 + minutes * 60
  if minutes < 60 ∧ seconds < 86400 then some (if east then seconds else -seconds, rest) else none

def zone? (text : List Char) : Option (Int × List Char) :=
  match text with
  | 'Z' :: rest => some (0, rest)
  | 'z' :: rest => some (0, rest)
  | u :: t :: c :: rest =>
      if u.toLower = 'u' ∧ t.toLower = 't' ∧ c.toLower = 'c' then some (0, rest) else offset? text
  | _ => offset? text

def date? (text : List Char) : Option (Date × List Char) := do
  let (year, rest) ← year? text
  let rest ← mark? '-' rest
  let (month, rest) ← field? 2 1 12 rest
  let rest ← mark? '-' rest
  let (day, rest) ← field? 2 1 31 rest
  some (⟨year, month, day⟩, rest)

def separator? : List Char → Option (List Char)
  | 'T' :: rest => some rest
  | 't' :: rest => some rest
  | ' ' :: rest => some rest
  | _ => none

/-- The time of a day in seconds and nanoseconds. Second 60 is the leap second after second 59. -/
def time? (text : List Char) : Option ((Nat × Nat) × List Char) := do
  let (hour, rest) ← field? 2 0 23 text
  let rest ← mark? ':' rest
  let (minute, rest) ← field? 2 0 59 rest
  let rest ← mark? ':' rest
  let (second, rest) ← field? 2 0 60 rest
  let (nano, rest) ← fraction? rest
  let inDay := hour * 3600 + minute * 60
  some (if second = 60 then (inDay + 59, nano + 1000000000) else (inDay + second, nano), rest)

/-- The date must exist and lie in the range of years, before its zone is taken into account and
after. -/
def read? (text : List Char) : Option Instant := do
  let (date, rest) ← date? text
  let rest ← separator? rest
  let (time, rest) ← time? rest
  let (offset, rest) ← zone? (dropBlanks rest)
  if dropBlanks rest = [] ∧ date.Valid ∧ -262143 ≤ date.year ∧ date.year ≤ 262142 then
    of? (date.toDay * 86400 + time.1 - offset) time.2
  else none

def ofText? (text : String) : Option Instant := read? text.toList

end Passbook.Instant
