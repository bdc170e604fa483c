import Passbook.Text.Printable
/-!
Texts in quotes for messages. What would not show on a line of its own is escaped.
-/

namespace Passbook.Text

def hexOf (value : Nat) : List Char := Nat.toDigits 16 value

def codeEscape (char : Char) : List Char :=
  ['\\', 'u', '\x7b'] ++ hexOf char.toNat ++ ['\x7d']

/-- Inside quotes of one sort only that sort is escaped. -/
def escape (mark : Char) (char : Char) : List Char :=
  if char = '\x00' then ['\\', '0']
  else if char = '\t' then ['\\', 't']
  else if char = '\r' then ['\\', 'r']
  else if char = '\n' then ['\\', 'n']
  else if char = '\\' ∨ char = mark then ['\\', char]
  else if isJoining char ∨ ¬ isPrintable char then codeEscape char
  else [char]

def quoted (text : String) : String :=
  String.ofList ('"' :: text.toList.flatMap (escape '"') ++ ['"'])

def quotedChar (char : Char) : String :=
  String.ofList ('\'' :: escape '\'' char ++ ['\''])

end Passbook.Text
