/-!
Texts up to the case of their ASCII letters. Letters are compared as small ones, no others are
folded; after a null character nothing but the length counts.
-/

namespace Passbook.Text

/-- The characters as far as they are compared. -/
def throughNull : List Char → List Char
  | [] => []
  | char :: rest => if char = '\x00' then [char] else char :: throughNull rest

/-- What texts have in common that differ only in the case of ASCII letters. -/
structure Folded where
  compared : String
  /-- The length in bytes of the whole text. -/
  size : Nat
  deriving DecidableEq, Repr, Inhabited

def folded (text : String) : Folded :=
  ⟨String.ofList ((throughNull text.toList).map Char.toLower), text.utf8ByteSize⟩

namespace Folded

def order : Folded → Folded → Ordering :=
  compareLex (compareOn Folded.compared) (compareOn Folded.size)

instance : Ord Folded := ⟨order⟩

instance : Std.TransOrd Folded := inferInstanceAs (Std.TransCmp (compareLex _ _))

instance : Std.LawfulEqOrd Folded where
  eq_of_compare {first second} same := by
    have ⟨compared, size⟩ := compareLex_eq_eq.mp (show order first second = .eq from same)
    obtain ⟨compared₁, size₁⟩ := first
    obtain ⟨compared₂, size₂⟩ := second
    have compared : compared₁ = compared₂ := Std.LawfulEqCmp.eq_of_compare compared
    have size : size₁ = size₂ := Std.LawfulEqCmp.eq_of_compare size
    rw [compared, size]

end Folded

end Passbook.Text
