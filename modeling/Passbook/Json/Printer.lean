import Passbook.Json.Basic
import Passbook.Text.Hex
/-!
Compact JSON texts. A literal is printed as it is spelled, with the short escape where there is
one.
-/

namespace Passbook

namespace Piece

def print : Piece → List Char
  | .plain char => [char]
  | .escaped 0x22 => ['\\', '"']
  | .escaped 0x5C => ['\\', '\\']
  | .escaped 0x08 => ['\\', 'b']
  | .escaped 0x0C => ['\\', 'f']
  | .escaped 0x0A => ['\\', 'n']
  | .escaped 0x0D => ['\\', 'r']
  | .escaped 0x09 => ['\\', 't']
  | .escaped unit =>
      ['\\', 'u', Hex.digit (unit / 0x1000 % 16), Hex.digit (unit / 0x100 % 16),
        Hex.digit (unit / 0x10 % 16), Hex.digit (unit % 16)]

end Piece

namespace Literal

def print (literal : Literal) : List Char := '"' :: literal.flatMap Piece.print ++ ['"']

end Literal

namespace Numeral

def printFraction : List Char → List Char
  | [] => []
  | digits => '.' :: digits

def printExponent : Option Int → List Char
  | none => []
  | some exponent =>
      'e' :: (if exponent < 0 then '-' else '+') :: (toString exponent.natAbs).toList

def print (numeral : Numeral) : List Char :=
  (if numeral.negative then ['-'] else []) ++ (toString numeral.whole).toList ++
    printFraction numeral.fraction ++ printExponent numeral.exponent

end Numeral

namespace Json

mutual

def print : Json → List Char
  | .null => ['n', 'u', 'l', 'l']
  | .bool true => ['t', 'r', 'u', 'e']
  | .bool false => ['f', 'a', 'l', 's', 'e']
  | .number numeral => numeral.print
  | .string literal => literal.print
  | .array items => '[' :: printItems items ++ [']']
  | .object members => '\x7b' :: printMembers members ++ ['\x7d']

def printItems : List Json → List Char
  | [] => []
  | [item] => print item
  | item :: rest => print item ++ ',' :: printItems rest

def printMembers : List (Literal × Json) → List Char
  | [] => []
  | [member] => member.1.print ++ ':' :: print member.2
  | member :: rest => member.1.print ++ ':' :: print member.2 ++ ',' :: printMembers rest

end

def render (json : Json) : String := String.ofList json.print

end Json

end Passbook
