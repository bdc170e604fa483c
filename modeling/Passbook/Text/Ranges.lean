/-!
Properties of characters, as ranges of code points.
-/

namespace Passbook.Text

def inRanges (ranges : Array (Nat × Nat)) (char : Char) : Bool :=
  ranges.any fun range => range.1 ≤ char.toNat && char.toNat ≤ range.2

end Passbook.Text
