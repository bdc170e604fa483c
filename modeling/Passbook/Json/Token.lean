import Passbook.Json.Basic
import Passbook.Text.Decimal
import Passbook.Text.Hex
/-!
The tokens of a JSON text. A string ends at its first unescaped quote; a number takes as many
characters as it can.
-/

namespace Passbook.Json

inductive Token where
  | beginArray
  | endArray
  | beginObject
  | endObject
  | colon
  | comma
  | null
  | bool (value : Bool)
  | number (numeral : Numeral)
  | string (literal : Literal)
  deriving DecidableEq, Inhabited

def isBlank (char : Char) : Bool := char == ' ' || char == '\n' || char == '\t' || char == '\r'

def hexUnit? (a b c d : Char) : Option Nat :=
  match Hex.digit? a, Hex.digit? b, Hex.digit? c, Hex.digit? d with
  | some a, some b, some c, some d => some (((a * 16 + b) * 16 + c) * 16 + d)
  | _, _, _, _ => none

/-- The unit named by a one-letter escape. -/
def letterEscape? : Char → Option Nat
  | '"' => some 0x22
  | '\\' => some 0x5C
  | '/' => some 0x2F
  | 'b' => some 0x08
  | 'f' => some 0x0C
  | 'n' => some 0x0A
  | 'r' => some 0x0D
  | 't' => some 0x09
  | _ => none

/-- The rest of a string after its opening quote, and what follows its closing quote. -/
def stringTail? : List Char → Option (Literal × List Char)
  | [] => none
  | '"' :: rest => some ([], rest)
  | '\\' :: 'u' :: a :: b :: c :: d :: rest =>
      match hexUnit? a b c d, stringTail? rest with
      | some unit, some (pieces, after) => some (.escaped unit :: pieces, after)
      | _, _ => none
  | '\\' :: letter :: rest =>
      match letterEscape? letter, stringTail? rest with
      | some unit, some (pieces, after) => some (.escaped unit :: pieces, after)
      | _, _ => none
  | char :: rest =>
      if char.toNat < 0x20 then none
      else (stringTail? rest).map fun found => (.plain char :: found.1, found.2)

def takeDigits (text : List Char) : List Char × List Char :=
  (text.takeWhile Char.isDigit, text.dropWhile Char.isDigit)

/-- A number has no superfluous leading zero. -/
def whole? (text : List Char) : Option (Nat × List Char) :=
  match text with
  | '0' :: rest => some (0, rest)
  | _ =>
      let (digits, rest) := takeDigits text
      if digits = [] then none else some (Decimal.ofDigits digits, rest)

def fraction? : List Char → Option (List Char × List Char)
  | '.' :: rest =>
      let (digits, rest) := takeDigits rest
      if digits = [] then none else some (digits, rest)
  | rest => some ([], rest)

def exponentDigits? (negative : Bool) (text : List Char) : Option (Option Int × List Char) :=
  let (digits, rest) := takeDigits text
  if digits = [] then none
  else
    let size : Int := Decimal.ofDigits digits
    some (some (if negative then -size else size), rest)

def exponentSigned? : List Char → Option (Option Int × List Char)
  | '-' :: rest => exponentDigits? true rest
  | '+' :: rest => exponentDigits? false rest
  | rest => exponentDigits? false rest

def exponent? : List Char → Option (Option Int × List Char)
  | 'e' :: rest => exponentSigned? rest
  | 'E' :: rest => exponentSigned? rest
  | rest => some (none, rest)

def magnitude? (negative : Bool) (text : List Char) : Option (Numeral × List Char) := do
  let (whole, rest) ← whole? text
  let (fraction, rest) ← fraction? rest
  let (exponent, rest) ← exponent? rest
  some (⟨negative, whole, fraction, exponent⟩, rest)

def numeral? : List Char → Option (Numeral × List Char)
  | '-' :: rest => magnitude? true rest
  | rest => magnitude? false rest

/-- The first token of a text that does not begin with a blank, and the text after it. -/
def Token.first? : List Char → Option (Token × List Char)
  | '[' :: rest => some (.beginArray, rest)
  | ']' :: rest => some (.endArray, rest)
  | '\x7b' :: rest => some (.beginObject, rest)
  | '\x7d' :: rest => some (.endObject, rest)
  | ':' :: rest => some (.colon, rest)
  | ',' :: rest => some (.comma, rest)
  | 'n' :: 'u' :: 'l' :: 'l' :: rest => some (.null, rest)
  | 't' :: 'r' :: 'u' :: 'e' :: rest => some (.bool true, rest)
  | 'f' :: 'a' :: 'l' :: 's' :: 'e' :: rest => some (.bool false, rest)
  | '"' :: rest => (stringTail? rest).map fun found => (.string found.1, found.2)
  | rest => (numeral? rest).map fun found => (.number found.1, found.2)

theorem stringTail?_length {text rest : List Char} {literal : Literal}
    (read : stringTail? text = some (literal, rest)) : rest.length < text.length := by
  fun_induction stringTail? text generalizing literal rest with
  | case1 => simp at read
  | case2 tail => grind
  | case3 a b c d tail unit pieces after found _ ih =>
      have := ih found
      simp only [Option.some.injEq, Prod.mk.injEq] at read
      simp only [List.length_cons, ← read.2]
      omega
  | case4 => simp at read
  | case5 letter tail _ unit pieces after found _ ih => grind
  | case6 => simp at read
  | case7 => simp at read
  | case8 char tail _ _ _ _ ih =>
      obtain ⟨found, same, eq⟩ := Option.map_eq_some_iff.mp read
      have := ih same
      grind

theorem takeDigits_length (text : List Char) :
    (takeDigits text).1.length + (takeDigits text).2.length = text.length := by
  rw [takeDigits, ← List.length_append, List.takeWhile_append_dropWhile]

theorem whole?_length {text rest : List Char} {value : Nat}
    (read : whole? text = some (value, rest)) : rest.length < text.length := by
  have := takeDigits_length text
  have : (takeDigits text).1 ≠ [] → 0 < (takeDigits text).1.length := List.length_pos_iff.mpr
  unfold whole? at read
  split at read <;> grind

theorem fraction?_length {text digits rest : List Char}
    (read : fraction? text = some (digits, rest)) : rest.length ≤ text.length := by
  unfold fraction? at read
  split at read
  · rename_i tail
    have := takeDigits_length tail
    grind
  · grind

theorem exponentDigits?_length {negative : Bool} {text rest : List Char} {value : Option Int}
    (read : exponentDigits? negative text = some (value, rest)) : rest.length ≤ text.length := by
  have := takeDigits_length text
  unfold exponentDigits? at read
  grind

theorem exponentSigned?_length {text rest : List Char} {value : Option Int}
    (read : exponentSigned? text = some (value, rest)) : rest.length ≤ text.length := by
  unfold exponentSigned? at read
  split at read
  all_goals
    have := exponentDigits?_length read
    grind

theorem exponent?_length {text rest : List Char} {value : Option Int}
    (read : exponent? text = some (value, rest)) : rest.length ≤ text.length := by
  unfold exponent? at read
  split at read
  · have := exponentSigned?_length read; grind
  · have := exponentSigned?_length read; grind
  · grind

theorem magnitude?_length {negative : Bool} {text rest : List Char} {numeral : Numeral}
    (read : magnitude? negative text = some (numeral, rest)) : rest.length < text.length := by
  simp only [magnitude?, bind, Option.bind_eq_some_iff, Prod.exists, Option.some.injEq,
    Prod.mk.injEq] at read
  obtain ⟨_, _, first, _, _, second, _, _, third, _, rfl⟩ := read
  have := whole?_length first
  have := fraction?_length second
  have := exponent?_length third
  omega

theorem numeral?_length {text rest : List Char} {numeral : Numeral}
    (read : numeral? text = some (numeral, rest)) : rest.length < text.length := by
  unfold numeral? at read
  split at read
  all_goals
    have := magnitude?_length read
    grind

theorem Token.first?_length {text rest : List Char} {token : Token}
    (read : Token.first? text = some (token, rest)) : rest.length < text.length := by
  unfold Token.first? at read
  split at read
  case h_10 tail =>
    obtain ⟨⟨literal, after⟩, inner, eq⟩ := Option.map_eq_some_iff.mp read
    have := stringTail?_length inner
    grind
  case h_11 =>
    obtain ⟨⟨numeral, after⟩, inner, eq⟩ := Option.map_eq_some_iff.mp read
    have := numeral?_length inner
    grind
  all_goals grind

/-- The tokens of a text, blanks between them dropped. -/
def tokens? (text : List Char) : Option (List Token) :=
  match text with
  | [] => some []
  | char :: rest =>
      if isBlank char then tokens? rest
      else
        match _read : Token.first? (char :: rest) with
        | none => none
        | some (token, after) => (tokens? after).map (token :: ·)
  termination_by text.length
  decreasing_by
    · simp
    · exact Token.first?_length _read

end Passbook.Json
