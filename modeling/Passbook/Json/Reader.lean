import Passbook.Json.Token
/-!
From tokens to trees. The reader keeps the arrays and objects it is inside of on a list of its
own, so a text may nest as deep as it likes.
-/

namespace Passbook.Json

/-- An array or object whose reading has begun. What it holds so far stands last first. -/
inductive Open where
  | array (before : List Json)
  | object (before : List (Literal × Json)) (key : Literal)

/-- What the next token must be, and the arrays and objects around it, innermost first. -/
inductive Reading where
  | value (around : List Open)
  | firstItem (around : List Open)
  | nextItem (before : List Json) (around : List Open)
  | firstKey (around : List Open)
  | key (before : List (Literal × Json)) (around : List Open)
  | colon (before : List (Literal × Json)) (key : Literal) (around : List Open)
  | nextMember (before : List (Literal × Json)) (around : List Open)
  | done (json : Json)

namespace Reading

/-- A value has been read to its end. -/
def finish (json : Json) : List Open → Reading
  | [] => .done json
  | .array before :: around => .nextItem (json :: before) around
  | .object before name :: around => .nextMember ((name, json) :: before) around

def begin? (around : List Open) : Token → Option Reading
  | .null => some (finish .null around)
  | .bool truth => some (finish (.bool truth) around)
  | .number numeral => some (finish (.number numeral) around)
  | .string literal => some (finish (.string literal) around)
  | .beginArray => some (.firstItem around)
  | .beginObject => some (.firstKey around)
  | _ => none

def step? : Reading → Token → Option Reading
  | .value around, token => begin? around token
  | .firstItem around, .endArray => some (finish (.array []) around)
  | .firstItem around, token => begin? (.array [] :: around) token
  | .nextItem before around, .comma => some (.value (.array before :: around))
  | .nextItem before around, .endArray => some (finish (.array before.reverse) around)
  | .firstKey around, .endObject => some (finish (.object []) around)
  | .firstKey around, .string name => some (.colon [] name around)
  | .key before around, .string name => some (.colon before name around)
  | .colon before name around, .colon => some (.value (.object before name :: around))
  | .nextMember before around, .comma => some (.key before around)
  | .nextMember before around, .endObject => some (finish (.object before.reverse) around)
  | _, _ => none

def run? (reading : Reading) : List Token → Option Reading
  | [] => some reading
  | token :: rest => (reading.step? token).bind fun next => next.run? rest

end Reading

def ofTokens? (tokens : List Token) : Option Json :=
  match (Reading.value []).run? tokens with
  | some (.done json) => some json
  | _ => none

/-- One value and nothing but blanks around it. -/
def parse? (text : String) : Option Json := (tokens? text.toList).bind ofTokens?

end Passbook.Json
