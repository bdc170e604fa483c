import Passbook.Ledger.Transaction
import Passbook.Text.Hex
import Passbook.Text.Quoted
/-!
Wallet addresses. An address of a sequential ledger is sixteen bytes in hexadecimal, with or
without a mark in front; one of a block ledger is twenty bytes and must have the mark.
-/

namespace Passbook

inductive AddressProblem where
  | noMark
  | oddDigits
  /-- The byte at a place, shown as the character of that number. -/
  | badDigit (shown : Char) (place : Nat)
  | wrongLength (found expected : Nat)
  deriving DecidableEq, Repr

namespace AddressProblem

/-- What is wrong with an address, after its spelling. -/
def message (spelling : String) : AddressProblem → String
  | .noMark => spelling ++ " is missing the 0x prefix"
  | .oddDigits => spelling ++ ": Odd number of digits"
  | .badDigit shown place =>
      spelling ++ ": Invalid character " ++ Text.quotedChar shown ++ " at position " ++
        toString place
  | .wrongLength found expected =>
      spelling ++ " is " ++ toString found ++ " bytes, expected " ++ toString expected

end AddressProblem

structure Address where
  kind : LedgerKind
  bytes : List UInt8
  deriving DecidableEq, Repr

namespace Address

def byteCount : LedgerKind → Nat
  | .sequential => 16
  | .block => 20

/-- The digits after the mark, if the mark stands where the kind of ledger wants it. -/
def digits? (kind : LedgerKind) (spelling : List Char) : Option (List Char) :=
  match spelling, kind with
  | '0' :: 'x' :: digits, _ => some digits
  | digits, .sequential => some digits
  | _, .block => none

/-- The first byte of a text that is no digit, and its place. -/
def firstBad? (bytes : List UInt8) : Option (Char × Nat) :=
  (bytes.zipIdx.find? fun byte => (Hex.digit? (Char.ofNat byte.1.toNat)).isNone).map fun byte =>
    (Char.ofNat byte.1.toNat, byte.2)

/-- Digits are counted in bytes, and counted before they are looked at. -/
def problem (kind : LedgerKind) (digits : List Char) : AddressProblem :=
  let bytes := (String.ofList digits).toUTF8.toList
  if bytes.length % 2 = 1 then .oddDigits
  else
    match firstBad? bytes with
    | some (shown, place) => .badDigit shown place
    | none => .wrongLength (bytes.length / 2) (byteCount kind)

def ofText (kind : LedgerKind) (spelling : String) : Except AddressProblem Address :=
  match digits? kind spelling.toList with
  | none => .error .noMark
  | some digits =>
      match Hex.decode? digits with
      | some bytes =>
          if bytes.length = byteCount kind then .ok ⟨kind, bytes⟩
          else .error (.wrongLength bytes.length (byteCount kind))
      | none => .error (problem kind digits)

def isValid (kind : LedgerKind) (spelling : String) : Bool :=
  match ofText kind spelling with
  | .ok _ => true
  | .error _ => false

/-- Small letters, and the mark on a block ledger only. -/
def canonical (address : Address) : String :=
  match address.kind with
  | .sequential => String.ofList (Hex.encode address.bytes)
  | .block => String.ofList ('0' :: 'x' :: Hex.encode address.bytes)

end Address

end Passbook
