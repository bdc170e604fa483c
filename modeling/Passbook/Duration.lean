/-!
Lengths of time to the nanosecond, and their texts in the largest unit that is not above them.
-/

namespace Passbook

structure Duration where
  seconds : UInt64
  nanos : Nat
  nanos_lt : nanos < 1000000000
  deriving DecidableEq, Repr

namespace Duration

def zero : Duration := ⟨0, 0, by decide⟩

instance : Inhabited Duration := ⟨zero⟩

def ofSeconds (seconds : UInt64) : Duration := ⟨seconds, 0, by decide⟩

def ofMillis (millis : Nat) : Duration :=
  ⟨UInt64.ofNat (millis / 1000), millis % 1000 * 1000000, by omega⟩

def ofNanos (nanos : Nat) : Duration :=
  ⟨UInt64.ofNat (nanos / 1000000000), nanos % 1000000000, Nat.mod_lt _ (by decide)⟩

/-- Whole seconds among the nanoseconds are carried over, if there is room for them. -/
def of? (seconds : UInt64) (nanos : UInt32) : Option Duration :=
  let carried := seconds.toNat + nanos.toNat / 1000000000
  if carried < UInt64.size then
    some ⟨UInt64.ofNat carried, nanos.toNat % 1000000000, Nat.mod_lt _ (by decide)⟩
  else none

def millis (duration : Duration) : Nat := duration.seconds.toNat * 1000 + duration.nanos / 1000000

/-- A whole number of units and its fraction in `places` digits, the last zeros left out. -/
def inUnit (whole fraction places : Nat) (unit : String) : String :=
  let digits := Nat.toDigits 10 fraction
  let padded := List.replicate (places - digits.length) '0' ++ digits
  let shown := (padded.reverse.dropWhile (· == '0')).reverse
  toString whole ++ (if shown = [] then "" else "." ++ String.ofList shown) ++ unit

def text (duration : Duration) : String :=
  if 0 < duration.seconds then inUnit duration.seconds.toNat duration.nanos 9 "s"
  else if 1000000 ≤ duration.nanos then
    inUnit (duration.nanos / 1000000) (duration.nanos % 1000000) 6 "ms"
  else if 1000 ≤ duration.nanos then
    inUnit (duration.nanos / 1000) (duration.nanos % 1000) 3 "µs"
  else inUnit duration.nanos 0 0 "ns"

end Duration

end Passbook
