import Passbook.Remote.HostName
import Passbook.Text.Decimal
/-!
Hosts on the network: names, and addresses of four bytes or of eight pieces. An address of four
bytes is read from up to four numbers, of which the last fills what the others leave.
-/

namespace Passbook

inductive Host where
  | named (name : String)
  | v4 (number : UInt32)
  | v6 (pieces : List UInt16)
  deriving DecidableEq, Repr, Inhabited

namespace Host

def hexadecimal? (digits : List Char) : Option Nat :=
  (digits.mapM Hex.digit?).map (·.foldl (fun value digit => 16 * value + digit) 0)

def octal? (digits : List Char) : Option Nat :=
  if digits.all fun digit => '0' ≤ digit && digit ≤ '7' then
    some (digits.foldl (fun value digit => 8 * value + Decimal.digitValue digit) 0)
  else none

/-- A number whose first characters tell its base. -/
def number? : List Char → Option Nat
  | '0' :: 'x' :: digits => hexadecimal? digits
  | '0' :: digit :: digits => octal? (digit :: digits)
  | digits => Decimal.natural? digits

/-- The parts between points, without an empty one at the end. -/
def parts (name : List Char) : List (List Char) :=
  let parts := name.splitOn '.'
  if parts.getLast? = some [] then parts.dropLast else parts

/-- Whether a name can only be an address of four bytes. -/
def endsInNumber (name : List Char) : Bool :=
  (parts name).getLast?.any fun last =>
    (last ≠ [] && last.all Char.isDigit) || (number? last).isSome

/-- All numbers but the last are bytes. -/
def v4? (name : List Char) : Option UInt32 := do
  let numbers ← (parts name).mapM number?
  let last ← numbers.getLast?
  let bytes := numbers.dropLast
  let room := Nat.pow 256 (4 - bytes.length)
  if bytes.length < 4 ∧ last < room ∧ bytes.all (· < 256) then
    some (UInt32.ofNat (bytes.foldl (fun value byte => 256 * value + byte) 0 * room + last))
  else none

def piece? (digits : List Char) : Option UInt16 :=
  if digits ≠ [] ∧ digits.length ≤ 4 then (hexadecimal? digits).map UInt16.ofNat else none

/-- A byte in decimal digits, without needless zeros in front. -/
def byte? (digits : List Char) : Option Nat :=
  (Decimal.natural? digits).filter fun value =>
    value < 256 && (digits.length == 1 || digits.head? != some '0')

/-- Two pieces, written as four bytes. -/
def dotted? (text : List Char) : Option (List UInt16) :=
  match (text.splitOn '.').mapM byte? with
  | some [a, b, c, d] => some [UInt16.ofNat (256 * a + b), UInt16.ofNat (256 * c + d)]
  | _ => none

/-- The last pieces may be written as bytes. -/
def pieces? : List (List Char) → Option (List UInt16)
  | [] => some []
  | [last] => (piece? last).map ([·]) <|> dotted? last
  | first :: rest => do return (← piece? first) :: (← pieces? rest)

def run? (text : List Char) : Option (List UInt16) :=
  if text = [] then some [] else pieces? (text.splitOn ':')

/-- Splits a text at its first gap. -/
def gap? : List Char → Option (List Char × List Char)
  | ':' :: ':' :: rest => some ([], rest)
  | char :: rest => (gap? rest).map fun split => (char :: split.1, split.2)
  | [] => none

/-- A gap stands for one zero at least. -/
def v6? (text : List Char) : Option (List UInt16) :=
  match gap? text with
  | none => (run? text).filter (·.length == 8)
  | some (before, after) => do
      let front ← (run? before).filter fun _ => !before.contains '.'
      let back ← run? after
      let known := front.length + back.length
      if known < 8 then some (front ++ List.replicate (8 - known) 0 ++ back) else none

/-- Where the first of the longest runs of zeros begins, and its length. -/
def longestZeros (pieces : List UInt16) : Nat × Nat :=
  (List.range pieces.length).foldl (fun best start =>
    let length := ((pieces.drop start).takeWhile (· == 0)).length
    if best.2 < length then (start, length) else best) (0, 0)

def piecesText (pieces : List UInt16) : String :=
  ":".intercalate (pieces.map fun piece => String.ofList (Nat.toDigits 16 piece.toNat))

/-- The longest run of zeros, if there is one of two or more, is left out. -/
def v6Text (pieces : List UInt16) : String :=
  let (start, length) := longestZeros pieces
  if length < 2 then piecesText pieces
  else piecesText (pieces.take start) ++ "::" ++ piecesText (pieces.drop (start + length))

def v4Text (number : UInt32) : String :=
  ".".intercalate (([24, 16, 8, 0] : List UInt32).map fun shift =>
    toString (number >>> shift).toUInt8.toNat)

/-- The host without brackets. -/
def bareText : Host → String
  | .named name => name
  | .v4 number => v4Text number
  | .v6 pieces => v6Text pieces

def text : Host → String
  | .v6 pieces => "[" ++ v6Text pieces ++ "]"
  | host => host.bareText

/-- What stands in brackets, if a text has them at both ends. -/
def bracketed? (text : List Char) : Option (List Char) :=
  match text.reverse with
  | ']' :: '[' :: [] => some []
  | ']' :: inner => if inner.getLast? = some '[' then some inner.dropLast.reverse else none
  | _ => none

/-- A host in an address of a scheme that is known to name hosts. -/
def ofText? (text : List Char) : Option Host :=
  if text.head? = some '[' then ((bracketed? text).bind v6?).map .v6
  else do
    let name ← (Percent.decoded? text).bind HostName.ofText?
    if endsInNumber name then (v4? name).map .v4 else some (.named (String.ofList name))

/-- Characters that no host has, whatever the scheme. -/
def isForbidden (char : Char) : Bool :=
  char == '\x00' || " #/:<>?@[\\]^|".toList.contains char

/-- A host in an address of another scheme, whose name is left as it is. -/
def ofPlain? (text : List Char) : Option Host :=
  if text.head? = some '[' then ((bracketed? text).bind v6?).map .v6
  else if text.any isForbidden then none
  else some (.named (String.ofList (Percent.encode Percent.isControl text)))

end Host

end Passbook
