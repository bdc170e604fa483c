import Passbook.Float.Shortest
import Passbook.Json.Printer
import Passbook.SortedMap
import Passbook.Text.Decimal
/-!
Doubles in JSON. A number is read from its first digits that fit a word and a power of ten, and
printed with the fewest digits that read back, positionally from a hundred-thousandth to below
ten to the sixteenth.
-/

namespace Passbook

namespace Numeral

/-- The digits of a number as far as they fit a word, and the power of ten they are scaled by.
Digits before the point that do not fit raise the power, digits after it are dropped. -/
def significand (numeral : Numeral) : Nat × Int :=
  let fits (value : Nat) (digit : Char) : Bool :=
    10 * value + Decimal.digitValue digit < UInt64.size
  let whole := (Nat.toDigits 10 numeral.whole).foldl
    (fun (value, power, full) digit =>
      if !full && fits value digit then (10 * value + Decimal.digitValue digit, power, false)
      else (value, power + 1, true))
    (0, (0 : Int), false)
  let all := numeral.fraction.foldl
    (fun (value, power, full) digit =>
      if !full && fits value digit then (10 * value + Decimal.digitValue digit, power - 1, false)
      else (value, power, true))
    (whole.1, whole.2.1, false)
  (all.1, all.2.1 + numeral.exponent.getD 0)

def powerOfTen (exponent : Nat) : Float := Float.ofScientific 1 false exponent

/-- A scale below the smallest power of ten is applied in steps, until nothing is left. -/
def scaleDown (value : Float) (exponent : Nat) : Float :=
  if exponent ≤ 308 then value / powerOfTen exponent
  else if value == 0 then value
  else scaleDown (value / powerOfTen 308) (exponent - 308)
  termination_by exponent
  decreasing_by omega

/-- A number beyond the largest double is refused. -/
def float? (numeral : Numeral) : Option Float :=
  let (digits, exponent) := numeral.significand
  let unscaled := (UInt64.ofNat digits).toFloat
  let magnitude? : Option Float :=
    if exponent < 0 then some (scaleDown unscaled exponent.natAbs)
    else if exponent ≤ 308 then
      let scaled := unscaled * powerOfTen exponent.toNat
      if scaled.isInf then none else some scaled
    else if digits = 0 then some unscaled else none
  magnitude?.map fun magnitude => if numeral.negative then -magnitude else magnitude

/-- Digits with the point after the first `place` of them. -/
def positional (negative : Bool) (digits : List Char) (place : Int) : Numeral :=
  if place ≤ 0 then
    ⟨negative, 0, List.replicate (-place).toNat '0' ++ digits, none⟩
  else
    let whole := digits.take place.toNat ++ List.replicate (place.toNat - digits.length) '0'
    let fraction := digits.drop place.toNat
    ⟨negative, Decimal.ofDigits whole, if fraction = [] then ['0'] else fraction, none⟩

def exponential (negative : Bool) (digits : List Char) (place : Int) : Numeral :=
  ⟨negative, Decimal.ofDigits (digits.take 1), digits.drop 1, some (place - 1)⟩

def ofFloat (value : Float) : Numeral :=
  match Binary.ofFloat? value with
  | none => ⟨value.toBits.toNat / Word.limit = 1, 0, ['0'], none⟩
  | some binary =>
      let shortest := binary.shortest
      let digits := Nat.toDigits 10 shortest.digits
      let place := digits.length + shortest.exponent
      let trimmed := (digits.reverse.dropWhile (· == '0')).reverse
      if -5 < place ∧ place ≤ 16 then positional binary.negative trimmed place
      else exponential binary.negative trimmed place

/-- Integers that fit a word, signed or not, are kept; every other number becomes a double. -/
def normal? (numeral : Numeral) : Option Numeral :=
  match numeral.int? with
  | some value =>
      if (Word.int64? value).isSome || (Word.uint64? value).isSome then some numeral
      else numeral.float?.map ofFloat
  | none => numeral.float?.map ofFloat

end Numeral

namespace Json

def float (value : Float) : Json := .number (Numeral.ofFloat value)

def float? : Json → Option Float
  | .number numeral => numeral.float?
  | _ => none

mutual

/-- The value that a text denotes, if every string in it is a text and every number in it is in
range: members stand in the order of their names, and of members with one name the last stands. -/
def normal? : Json → Option Json
  | .null => some .null
  | .bool value => some (.bool value)
  | .number numeral => numeral.normal?.map .number
  | .string literal => literal.text?.map text
  | .array items => (normalItems? items).map .array
  | .object members => (normalMembers? members).map fun named =>
      record (SortedMap.ofList named).entries

def normalItems? : List Json → Option (List Json)
  | [] => some []
  | item :: rest =>
      match normal? item, normalItems? rest with
      | some item, some rest => some (item :: rest)
      | _, _ => none

def normalMembers? : List (Literal × Json) → Option (List (String × Json))
  | [] => some []
  | member :: rest =>
      match member.1.text?, normal? member.2, normalMembers? rest with
      | some name, some value, some rest => some ((name, value) :: rest)
      | _, _, _ => none

end

/-- How deep a text may nest where its values are kept. -/
def depthLimit : Nat := 127

/-- The value of a text that stands inside `around` arrays and objects. -/
def value? (around : Nat) (json : Json) : Option Json :=
  if around + json.depth ≤ depthLimit then json.normal? else none

end Json

end Passbook
