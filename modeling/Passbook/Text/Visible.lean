import Passbook.Text.Quoted
/-!
Texts on a terminal. Characters that could steer the terminal are shown by their numbers.
-/

namespace Passbook.Text

/-- A small control character by its number of two digits. -/
def byteEscape (char : Char) : List Char :=
  ['\\', 'x'] ++ List.replicate (2 - (hexOf char.toNat).length) '0' ++ hexOf char.toNat

/-- Bell, backspace, form feed, escape and delete. -/
def steering : List Char := ['\x07', '\x08', '\x0c', '\x1b', '\x7f']

/-- Tabs, ends of lines and the other small control characters are left as they are. -/
def visibleChar (char : Char) : List Char :=
  if char ∈ steering then byteEscape char
  else if 0x80 ≤ char.toNat ∧ char.toNat ≤ 0x9F then codeEscape char
  else [char]

def visible (text : String) : String := String.ofList (text.toList.flatMap visibleChar)

end Passbook.Text
