import Passbook.Instant.Basic
import Passbook.Instant.Civil
/-!
Instants as texts in Universal Time: date, time, a fraction of the fewest groups of three digits,
and a zone letter. Years outside four digits carry a sign.
-/

namespace Passbook.Instant

def padded (width : Nat) (value : Nat) : List Char :=
  let digits := Nat.toDigits 10 value
  List.replicate (width - digits.length) '0' ++ digits

def yearText (year : Int) : List Char :=
  if 0 ≤ year ∧ year ≤ 9999 then padded 4 year.toNat
  else (if year < 0 then '-' else '+') :: padded 4 year.natAbs

def fractionText (nano : Nat) : List Char :=
  if nano = 0 then []
  else if nano % 1000000 = 0 then '.' :: padded 3 (nano / 1000000)
  else if nano % 1000 = 0 then '.' :: padded 6 (nano / 1000)
  else '.' :: padded 9 nano

def print (instant : Instant) : List Char :=
  let date := Date.ofDay (instant.second / 86400)
  let inDay := (instant.second % 86400).toNat
  let isLeap := 1000000000 ≤ instant.nano
  let second := inDay % 60 + if isLeap then 1 else 0
  let nano := instant.nano - if isLeap then 1000000000 else 0
  yearText date.year ++ '-' :: padded 2 date.month ++ '-' :: padded 2 date.day ++
    'T' :: padded 2 (inDay / 3600) ++ ':' :: padded 2 (inDay / 60 % 60) ++
    ':' :: padded 2 second ++ fractionText nano ++ ['Z']

def text (instant : Instant) : String := String.ofList instant.print

end Passbook.Instant
