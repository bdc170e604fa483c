/-!
Texts of any bytes. What does not spell a character is shown as one sign of replacement for each
stretch that begins a character without ending it.
-/

namespace Passbook.Text.Lossy

def spelled? (bytes : List UInt8) : Option String := String.fromUTF8? ⟨bytes.toArray⟩

/-- Whether bytes begin a character, which others could end. -/
def isBegun (bytes : List UInt8) : Bool :=
  (spelled? (bytes ++ [0x80])).isSome || (spelled? (bytes ++ [0x80, 0x80])).isSome

/-- The first character of a text that is not empty, and the number of its bytes. -/
def first (bytes : List UInt8) : String × Nat :=
  let spelled := [1, 2, 3, 4].findSome? fun count => (spelled? (bytes.take count)).map (·, count)
  match spelled with
  | some found => found
  | none =>
      ("\ufffd", if isBegun (bytes.take 3) then 3 else if isBegun (bytes.take 2) then 2 else 1)

def text (bytes : List UInt8) : String :=
  match bytes with
  | [] => ""
  | byte :: rest =>
      let (char, count) := first (byte :: rest)
      char ++ text (rest.drop (count - 1))
  termination_by bytes.length
  decreasing_by
    simp only [List.length_drop, List.length_cons]
    omega

end Passbook.Text.Lossy
