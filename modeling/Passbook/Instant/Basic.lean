/-!
Points in time to the nanosecond. The nanoseconds of a leap second run on from the second before
it, so they reach from one billion to below two, and only at the end of a minute.
-/

namespace Passbook

structure Instant where
  /-- Seconds since the start of 1970. -/
  second : Int
  nano : Nat
  not_early : -8334601228800 ≤ second
  not_late : second ≤ 8210266876799
  nano_lt : nano < 2000000000
  leap_at_minute_end : 1000000000 ≤ nano → second % 60 = 59
  deriving DecidableEq, Repr

namespace Instant

def epoch : Instant := ⟨0, 0, by decide, by decide, by decide, by decide⟩

instance : Inhabited Instant := ⟨epoch⟩

def of? (second : Int) (nano : Nat) : Option Instant :=
  if valid : -8334601228800 ≤ second ∧ second ≤ 8210266876799 ∧ nano < 2000000000 ∧
      (1000000000 ≤ nano → second % 60 = 59) then
    some ⟨second, nano, valid.1, valid.2.1, valid.2.2.1, valid.2.2.2⟩
  else none

/-- Whole microseconds since the start of 1970, rounded down. A leap second counts as the second
after it. -/
def micros (instant : Instant) : Int := instant.second * 1000000 + instant.nano / 1000

def ofMicros? (micros : Int) : Option Instant :=
  of? (micros / 1000000) ((micros % 1000000).toNat * 1000)

end Instant

end Passbook
