import Passbook.Text.Hex
/-!
Texts in which characters are written by their bytes, each behind a percent sign. Characters
beyond ASCII are always written so; which others are depends on where they stand.
-/

namespace Passbook.Percent

def ofByte (byte : UInt8) : List Char := '%' :: (Hex.ofByte byte).map Char.toUpper

def isAscii (char : Char) : Bool := char.toNat < 0x80

def encodeChar (isWritten : Char → Bool) (char : Char) : List Char :=
  if isAscii char && !isWritten char then [char]
  else (String.utf8EncodeChar char).flatMap ofByte

def encode (isWritten : Char → Bool) (text : List Char) : List Char :=
  text.flatMap (encodeChar isWritten)

/-- The bytes of a text. A percent sign without two digits behind it stands for itself. -/
def decode : List Char → List UInt8
  | '%' :: high :: low :: rest =>
      match Hex.byte? high low with
      | some byte => byte :: decode rest
      | none => 0x25 :: decode (high :: low :: rest)
  | char :: rest => String.utf8EncodeChar char ++ decode rest
  | [] => []
  termination_by text => text.length

/-- The characters of a text, if its bytes spell any. -/
def decoded? (text : List Char) : Option (List Char) :=
  (String.fromUTF8? ⟨(decode text).toArray⟩).map String.toList

def isControl (char : Char) : Bool := char.toNat < 0x20 || char == '\x7f'

/-- Bytes that stand for themselves in a form. -/
def isFormByte (byte : UInt8) : Bool :=
  let char := Char.ofNat byte.toNat
  byte < 128 && (char.isAlphanum || char == '*' || char == '-' || char == '.' || char == '_')

def formByte (byte : UInt8) : List Char :=
  if byte = 0x20 then ['+']
  else if isFormByte byte then [Char.ofNat byte.toNat]
  else ofByte byte

def formText (text : String) : String := String.ofList (text.toUTF8.toList.flatMap formByte)

/-- Fields with their values in the encoding of forms. -/
def form (fields : List (String × String)) : String :=
  "&".intercalate (fields.map fun field => formText field.1 ++ "=" ++ formText field.2)

end Passbook.Percent
