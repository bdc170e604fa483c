/-!
Which integers fit words of a fixed width. None is wrapped into a word that cannot hold it.
-/

namespace Passbook.Word

/-- The least natural number that no signed word holds. -/
def limit : Nat := 9223372036854775808

def int64? (value : Int) : Option Int64 :=
  if -limit ≤ value ∧ value < limit then some (Int64.ofInt value) else none

def uint64? (value : Int) : Option UInt64 :=
  if 0 ≤ value ∧ value < UInt64.size then some (UInt64.ofNat value.toNat) else none

def uint32? (value : Int) : Option UInt32 :=
  if 0 ≤ value ∧ value < UInt32.size then some (UInt32.ofNat value.toNat) else none

end Passbook.Word
