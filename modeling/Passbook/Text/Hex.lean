/-!
Hexadecimal digits, two for each byte. They are read in either case and written small.
-/

namespace Passbook.Hex

def digit (value : Nat) : Char :=
  if value < 10 then Char.ofNat ('0'.toNat + value) else Char.ofNat ('a'.toNat + (value - 10))

def digit? (char : Char) : Option Nat :=
  if '0' ≤ char ∧ char ≤ '9' then some (char.toNat - '0'.toNat)
  else if 'a' ≤ char ∧ char ≤ 'f' then some (char.toNat - 'a'.toNat + 10)
  else if 'A' ≤ char ∧ char ≤ 'F' then some (char.toNat - 'A'.toNat + 10)
  else none

def ofByte (byte : UInt8) : List Char := [digit (byte.toNat / 16), digit (byte.toNat % 16)]

/-- The byte of two digits. -/
def byte? (high low : Char) : Option UInt8 :=
  match digit? high, digit? low with
  | some high, some low => some (UInt8.ofNat (high * 16 + low))
  | _, _ => none

/-- Two digits for each byte, if all are digits and none is left over. -/
def decode? : List Char → Option (List UInt8)
  | [] => some []
  | [_] => none
  | high :: low :: rest =>
      match byte? high low, decode? rest with
      | some byte, some bytes => some (byte :: bytes)
      | _, _ => none

def encode (bytes : List UInt8) : List Char := bytes.flatMap ofByte

end Passbook.Hex
