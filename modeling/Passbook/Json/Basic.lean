import Passbook.Word
/-!
JSON texts as trees. Numbers keep the parts they are spelled with and strings keep their escapes,
because some readers accept a number or a key only in one spelling.
-/

namespace Passbook

/-- One place of a string literal: a character that stands for itself, or an escape for one
UTF-16 unit. -/
inductive Piece where
  | plain (char : Char)
  | escaped (unit : Nat)
  deriving DecidableEq, Repr, Inhabited

abbrev Literal := List Piece

namespace Literal

def isHighSurrogate (unit : Nat) : Bool := 0xD800 ≤ unit && unit < 0xDC00

def isLowSurrogate (unit : Nat) : Bool := 0xDC00 ≤ unit && unit < 0xE000

def surrogatePair (high low : Nat) : Char :=
  Char.ofNat ((high - 0xD800) * 0x400 + (low - 0xDC00) + 0x10000)

/-- A surrogate that is not half of a pair spells no text. -/
def chars? : Literal → Option (List Char)
  | [] => some []
  | .plain char :: rest => (chars? rest).map (char :: ·)
  | .escaped unit :: rest =>
      if isHighSurrogate unit then
        match rest with
        | .escaped low :: tail =>
            if isLowSurrogate low then (chars? tail).map (surrogatePair unit low :: ·) else none
        | _ => none
      else if isLowSurrogate unit then none
      else (chars? rest).map (Char.ofNat unit :: ·)

def text? (literal : Literal) : Option String := (chars? literal).map String.ofList

/-- Quotes, backslashes and control characters are escaped and nothing else is. -/
def ofChar (char : Char) : Piece :=
  if char = '"' ∨ char = '\\' ∨ char.toNat < 0x20 then .escaped char.toNat else .plain char

def ofString (text : String) : Literal := text.toList.map ofChar

/-- The characters between the quotes, if none of them is escaped. -/
def verbatim? : Literal → Option (List Char)
  | [] => some []
  | .plain char :: rest => (verbatim? rest).map (char :: ·)
  | .escaped _ :: _ => none

end Literal

/-- A JSON number. A fraction without digits is absent. -/
structure Numeral where
  negative : Bool := false
  whole : Nat
  fraction : List Char := []
  exponent : Option Int := none
  deriving DecidableEq, Repr, Inhabited

namespace Numeral

def ofNat (value : Nat) : Numeral := { whole := value }

def ofInt (value : Int) : Numeral := { negative := value < 0, whole := value.natAbs }

/-- Minus zero and numbers with a fraction or an exponent are no integers. -/
def int? (numeral : Numeral) : Option Int :=
  if numeral.fraction ≠ [] ∨ numeral.exponent.isSome then none
  else if numeral.negative then
    if numeral.whole = 0 then none else some (-numeral.whole)
  else some numeral.whole

end Numeral

inductive Json where
  | null
  | bool (value : Bool)
  | number (numeral : Numeral)
  | string (literal : Literal)
  | array (items : List Json)
  | object (members : List (Literal × Json))
  deriving Inhabited

namespace Json

def text (value : String) : Json := .string (Literal.ofString value)

def nat (value : Nat) : Json := .number (Numeral.ofNat value)

def int (value : Int) : Json := .number (Numeral.ofInt value)

def record (members : List (String × Json)) : Json :=
  .object (members.map fun member => (Literal.ofString member.1, member.2))

def string? : Json → Option String
  | .string literal => literal.text?
  | _ => none

def bool? : Json → Option Bool
  | .bool value => some value
  | _ => none

def int? : Json → Option Int
  | .number numeral => numeral.int?
  | _ => none

def uint64? (json : Json) : Option UInt64 := json.int?.bind Word.uint64?

def uint32? (json : Json) : Option UInt32 := json.int?.bind Word.uint32?

def int64? (json : Json) : Option Int64 := json.int?.bind Word.int64?

def items? : Json → Option (List Json)
  | .array items => some items
  | _ => none

mutual

/-- How many arrays and objects stand inside one another. -/
def depth : Json → Nat
  | .array items => depthItems items + 1
  | .object members => depthMembers members + 1
  | _ => 0

def depthItems : List Json → Nat
  | [] => 0
  | item :: rest => max (depth item) (depthItems rest)

def depthMembers : List (Literal × Json) → Nat
  | [] => 0
  | member :: rest => max (depth member.2) (depthMembers rest)

end

end Json

end Passbook
