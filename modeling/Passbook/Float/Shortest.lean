/-!
The shortest decimal that reads back as a given double. Everything past the bits of the double is
exact arithmetic on naturals.
-/

namespace Passbook

/-- A finite double that is not zero: `mantissa * 2 ^ exponent`, with its sign. -/
structure Binary where
  negative : Bool
  mantissa : Nat
  exponent : Int
  /-- The double below is only half as far away as the one above. -/
  narrowBelow : Bool
  deriving DecidableEq, Repr

/-- `digits * 10 ^ exponent`. -/
structure Scientific where
  digits : Nat
  exponent : Int
  deriving DecidableEq, Repr

namespace Binary

/-- Zeros, infinities and values that are no numbers have no such form. -/
def ofFloat? (value : Float) : Option Binary :=
  let bits := value.toBits.toNat
  let negative := bits / Nat.pow 2 63 = 1
  let biased : Nat := bits / Nat.pow 2 52 % 2048
  let fraction := bits % Nat.pow 2 52
  if biased = 2047 then none
  else if biased = 0 then
    if fraction = 0 then none else some ⟨negative, fraction, -1074, false⟩
  else some ⟨negative, Nat.pow 2 52 + fraction, (biased : Int) - 1075, fraction = 0 ∧ 1 < biased⟩

/-- The place of the first digit: the value is below `10 ^ place` and not below a tenth of it. -/
def place (value : Binary) : Int :=
  let scaled := if 0 ≤ value.exponent
    then value.mantissa * Nat.pow 2 value.exponent.toNat * Nat.pow 10 400
    else value.mantissa * Nat.pow 10 400 / Nat.pow 2 (-value.exponent).toNat
  (Nat.toDigits 10 scaled).length - 400

/-- The multiple of `10 ^ exponent` nearest to the value, if it reads back as the value. A tie goes
to the even multiple. -/
def onGrid? (value : Binary) (exponent : Int) : Option Scientific :=
  let quarter := value.exponent - 2
  let valueScale := Nat.pow 2 quarter.toNat * Nat.pow 10 (-exponent).toNat
  let gridScale := Nat.pow 10 exponent.toNat * Nat.pow 2 (-quarter).toNat
  let exact := 4 * value.mantissa * valueScale
  let low := (4 * value.mantissa - if value.narrowBelow then 1 else 2) * valueScale
  let high := (4 * value.mantissa + 2) * valueScale
  let readsBack (multiple : Nat) : Bool :=
    if value.mantissa % 2 = 0 then low ≤ multiple * gridScale ∧ multiple * gridScale ≤ high
    else low < multiple * gridScale ∧ multiple * gridScale < high
  let below := exact / gridScale
  let above := below + 1
  let distanceBelow := exact - below * gridScale
  let distanceAbove := above * gridScale - exact
  let belowFirst := distanceBelow < distanceAbove ∨ distanceBelow = distanceAbove ∧ below % 2 = 0
  let (first, second) := if belowFirst then (below, above) else (above, below)
  if readsBack first then some ⟨first, exponent⟩
  else if readsBack second then some ⟨second, exponent⟩
  else none

/-- Tries one digit, then two, and so on; seventeen always suffice. -/
def shortest (value : Binary) : Scientific :=
  ((List.range 17).findSome? fun count : Nat => value.onGrid? (value.place - (count + 1))).getD
    ⟨value.mantissa, value.exponent⟩

end Binary

end Passbook
