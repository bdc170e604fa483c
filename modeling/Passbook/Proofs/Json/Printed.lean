import Passbook.Json.Codec
import Passbook.Proofs.Text.Decimal
import Passbook.Proofs.Text.Hex
/-!
A printed tree is read back as it was, with the spelling of its numbers and its strings. The
reader is followed from one token to the next: after the text of a value it stands where the value
is finished, whatever arrays and objects are around.
-/

namespace Passbook

namespace Piece

/-- What a place of a string that was read can be. -/
def Spelled : Piece → Prop
  | .plain char => char ≠ '"' ∧ char ≠ '\\' ∧ 0x20 ≤ char.toNat
  | .escaped unit => unit < 0x10000

end Piece

namespace Literal

def Spelled (literal : Literal) : Prop := ∀ piece ∈ literal, piece.Spelled

end Literal

namespace Numeral

def Spelled (numeral : Numeral) : Prop := ∀ char ∈ numeral.fraction, char.isDigit = true

end Numeral

namespace Json

/-- A tree whose numbers and strings can be written. -/
inductive Spelled : Json → Prop where
  | null : Spelled .null
  | bool (value : Bool) : Spelled (.bool value)
  | number {numeral : Numeral} (spelled : numeral.Spelled) : Spelled (.number numeral)
  | string {literal : Literal} (spelled : literal.Spelled) : Spelled (.string literal)
  | array {items : List Json} (spelled : ∀ item ∈ items, Spelled item) : Spelled (.array items)
  | object {members : List (Literal × Json)} (names : ∀ member ∈ members, member.1.Spelled)
      (values : ∀ member ∈ members, Spelled member.2) : Spelled (.object members)

/-- Nothing stands after a value, or what closes or continues the array or object around it. -/
def Ends (rest : List Char) : Prop :=
  ∀ char ∈ rest.head?, char = ',' ∨ char = ']' ∨ char = '\x7d'

theorem Ends.stops {rest : List Char} (ends : Ends rest) : Decimal.Stops rest := by
  intro char first
  rcases ends char first with rfl | rfl | rfl <;> rfl

theorem ends_cons {char : Char} (closes : char = ',' ∨ char = ']' ∨ char = '\x7d')
    (rest : List Char) : Ends (char :: rest) := by
  intro other first
  cases first
  exact closes

section Strings

theorem hexUnit?_digits {unit : Nat} (small : unit < 0x10000) :
    hexUnit? (Hex.digit (unit / 0x1000 % 16)) (Hex.digit (unit / 0x100 % 16))
      (Hex.digit (unit / 0x10 % 16)) (Hex.digit (unit % 16)) = some unit := by
  have back (place : Nat) : Hex.digit? (Hex.digit (unit / place % 16)) = some (unit / place % 16) :=
    Hex.digit?_digit (Nat.mod_lt _ (by decide))
  have last := back 1
  rw [Nat.div_one] at last
  simp only [hexUnit?, back, last, Option.some.injEq]
  omega

theorem stringTail?_piece {piece : Piece} {text rest : List Char} {literal : Literal}
    (spelled : piece.Spelled) (read : stringTail? text = some (literal, rest)) :
    stringTail? (piece.print ++ text) = some (piece :: literal, rest) := by
  cases piece with
  | plain char =>
      obtain ⟨unquoted, unescaped, visible⟩ := spelled
      simp [Piece.print, stringTail?, unescaped, Nat.not_lt.mpr visible, read]
  | escaped unit =>
      unfold Piece.print
      split
      case h_1 => cases ‹Piece.escaped unit = _›
      case h_9 same =>
        cases same
        simp [stringTail?, hexUnit?_digits spelled, read]
      all_goals
        cases ‹Piece.escaped unit = _›
        simp [stringTail?, letterEscape?, read]

theorem stringTail?_print {literal : Literal} (spelled : literal.Spelled) (rest : List Char) :
    stringTail? (literal.flatMap Piece.print ++ '"' :: rest) = some (literal, rest) := by
  induction literal with
  | nil => rfl
  | cons piece literal ih =>
      obtain ⟨first, others⟩ := List.forall_mem_cons.mp spelled
      rw [List.flatMap_cons, List.append_assoc]
      exact stringTail?_piece first (ih others)

theorem first?_string {literal : Literal} (spelled : literal.Spelled) (rest : List Char) :
    Token.first? (literal.print ++ rest) = some (.string literal, rest) := by
  have read := stringTail?_print spelled rest
  simp [Literal.print, Token.first?, read]

end Strings

section Numbers

variable {rest : List Char}

theorem takeDigits_append {digits : List Char} (numeral : ∀ char ∈ digits, char.isDigit = true)
    (stops : Decimal.Stops rest) : takeDigits (digits ++ rest) = (digits, rest) := by
  rw [takeDigits, Decimal.takeWhile_of_stops numeral stops,
    Decimal.dropWhile_of_stops numeral stops]

theorem takeDigits_toDigits (value : Nat) (stops : Decimal.Stops rest) :
    takeDigits (Nat.toDigits 10 value ++ rest) = (Nat.toDigits 10 value, rest) :=
  takeDigits_append (fun _ => Decimal.isDigit_of_mem) stops

theorem whole?_toDigits (value : Nat) (stops : Decimal.Stops rest) :
    whole? (Nat.toDigits 10 value ++ rest) = some (value, rest) := by
  by_cases zero : value = 0
  · subst zero
    rfl
  · have read := takeDigits_toDigits value stops
    have unpadded := Decimal.head?_toDigits_ne zero
    unfold whole?
    split
    case h_1 tail same =>
      cases spelled : Nat.toDigits 10 value with
      | nil => exact absurd spelled Nat.toDigits_ne_nil
      | cons first others =>
          rw [spelled] at same unpadded
          cases same
          exact absurd rfl unpadded
    case h_2 => simp [read, Nat.toDigits_ne_nil]

theorem fraction?_print {digits : List Char} (numeral : ∀ char ∈ digits, char.isDigit = true)
    (stops : Decimal.Stops rest) (unpointed : rest.head? ≠ some '.') :
    fraction? (Numeral.printFraction digits ++ rest) = some (digits, rest) := by
  cases digits with
  | nil =>
      cases rest with
      | nil => rfl
      | cons char rest =>
          have other : char ≠ '.' := by simpa using unpointed
          simp [Numeral.printFraction, fraction?, other]
  | cons digit digits =>
      have read := takeDigits_append numeral stops
      rw [List.cons_append] at read
      simp [Numeral.printFraction, fraction?, read]

theorem exponentDigits?_toDigits (negative : Bool) (size : Nat) (stops : Decimal.Stops rest) :
    exponentDigits? negative (Nat.toDigits 10 size ++ rest) =
      some (some (if negative then -(size : Int) else size), rest) := by
  rw [exponentDigits?, takeDigits_toDigits size stops]
  simp [Nat.toDigits_ne_nil]

theorem exponent?_print (exponent : Option Int) (ends : Ends rest) :
    exponent? (Numeral.printExponent exponent ++ rest) = some (exponent, rest) := by
  cases exponent with
  | none =>
      cases rest with
      | nil => rfl
      | cons char rest => rcases ends char rfl with rfl | rfl | rfl <;> rfl
  | some exponent =>
      have read (negative : Bool) :=
        exponentDigits?_toDigits negative exponent.natAbs ends.stops
      rw [Numeral.printExponent, Decimal.toList_toString]
      by_cases negative : exponent < 0
      · have size : -(exponent.natAbs : Int) = exponent := by omega
        simpa only [if_pos negative, List.cons_append, exponent?, exponentSigned?, if_true,
          size] using read true
      · have size : (exponent.natAbs : Int) = exponent := by omega
        simpa only [if_neg negative, List.cons_append, exponent?, exponentSigned?,
          Bool.false_eq_true, if_false, size] using read false

theorem printExponent_stops (exponent : Option Int) (ends : Ends rest) :
    Decimal.Stops (Numeral.printExponent exponent ++ rest) ∧
      (Numeral.printExponent exponent ++ rest).head? ≠ some '.' := by
  cases exponent with
  | none =>
      refine ⟨ends.stops, fun first => ?_⟩
      rcases ends '.' first with same | same | same <;> cases same
  | some exponent => exact ⟨fun char first => by cases first; rfl, by simp [Numeral.printExponent]⟩

theorem printFraction_stops {digits : List Char} (stops : Decimal.Stops rest) :
    Decimal.Stops (Numeral.printFraction digits ++ rest) := by
  cases digits with
  | nil => exact stops
  | cons digit digits =>
      intro char first
      cases first
      rfl

theorem magnitude?_print {numeral : Numeral} (spelled : numeral.Spelled) (ends : Ends rest) :
    magnitude? numeral.negative (Nat.toDigits 10 numeral.whole ++
      (Numeral.printFraction numeral.fraction ++
        (Numeral.printExponent numeral.exponent ++ rest))) = some (numeral, rest) := by
  obtain ⟨stops, unpointed⟩ := printExponent_stops numeral.exponent ends
  simp [magnitude?, whole?_toDigits numeral.whole (printFraction_stops stops),
    fraction?_print spelled stops unpointed, exponent?_print numeral.exponent ends]

theorem numeral?_print {numeral : Numeral} (spelled : numeral.Spelled) (ends : Ends rest) :
    numeral? (numeral.print ++ rest) = some (numeral, rest) := by
  have read := magnitude?_print spelled ends
  cases sign : numeral.negative with
  | true =>
      rw [sign] at read
      simpa [Numeral.print, sign, numeral?] using read
  | false =>
      rw [sign] at read
      cases digits : Nat.toDigits 10 numeral.whole with
      | nil => exact absurd digits Nat.toDigits_ne_nil
      | cons digit others =>
          have unsigned : digit ≠ '-' := by
            rintro rfl
            have wrong : '-'.isDigit = true :=
              Decimal.isDigit_of_mem (digits ▸ List.mem_cons_self)
            cases wrong
          rw [digits] at read
          simpa [Numeral.print, sign, numeral?, digits, unsigned] using read

theorem first?_of_numeral {text : List Char} {numeral : Numeral}
    (read : numeral? text = some (numeral, rest)) :
    Token.first? text = some (.number numeral, rest) := by
  unfold Token.first?
  split
  case h_11 => rw [read]; rfl
  all_goals simp [numeral?, magnitude?, whole?, takeDigits] at read

theorem first?_number {numeral : Numeral} (spelled : numeral.Spelled) (ends : Ends rest) :
    Token.first? (numeral.print ++ rest) = some (.number numeral, rest) :=
  first?_of_numeral (numeral?_print spelled ends)

end Numbers

section Trees

/-- Where reading stands after a text, if it is read without fault. -/
def Reading.scan? (reading : Reading) (text : List Char) : Option Reading :=
  (tokens? text).bind reading.run?

theorem first?_of_isBlank {char : Char} (blank : isBlank char = true) (rest : List Char) :
    Token.first? (char :: rest) = none := by
  simp only [isBlank, Bool.or_eq_true, beq_iff_eq] at blank
  rcases blank with ((rfl | rfl) | rfl) | rfl <;> rfl

theorem tokens?_of_first {text rest : List Char} {token : Token}
    (first : Token.first? text = some (token, rest)) :
    tokens? text = (tokens? rest).map (token :: ·) := by
  cases text with
  | nil => cases first
  | cons char tail =>
      have solid : ¬ isBlank char = true := by
        intro blank
        rw [first?_of_isBlank blank] at first
        cases first
      rw [tokens?, if_neg solid]
      split
      case h_1 failed =>
        rw [first] at failed
        cases failed
      case h_2 found =>
        rw [first] at found
        cases found
        rfl

variable {text rest : List Char} {token : Token}

theorem scan?_of_first (reading : Reading) (first : Token.first? text = some (token, rest)) :
    reading.scan? text = (reading.step? token).bind fun next => next.scan? rest := by
  rw [Reading.scan?, tokens?_of_first first]
  cases later : tokens? rest with
  | none => cases reading.step? token <;> simp [Reading.scan?, later]
  | some tokens => simp [Reading.run?, Reading.scan?, later]

theorem scan?_of_step {reading next : Reading} (first : Token.first? text = some (token, rest))
    (stepped : reading.step? token = some next) : reading.scan? text = next.scan? rest := by
  rw [scan?_of_first reading first, stepped]
  rfl

/-- The first token of a value, which closes no array. -/
theorem exists_first?_print {json : Json} (spelled : json.Spelled) (ends : Ends rest) :
    ∃ token after, Token.first? (json.print ++ rest) = some (token, after) ∧
      token ≠ .endArray := by
  cases spelled with
  | null => exact ⟨.null, rest, rfl, by simp⟩
  | bool value => cases value <;> exact ⟨_, rest, rfl, by simp⟩
  | number spelled => exact ⟨_, rest, first?_number spelled ends, by simp⟩
  | string spelled => exact ⟨_, rest, first?_string spelled rest, by simp⟩
  | array => exact ⟨.beginArray, _, rfl, by simp⟩
  | object => exact ⟨.beginObject, _, rfl, by simp⟩

/-- After the text of the value the reader stands where the value is finished. -/
def ReadsBack (json : Json) : Prop :=
  ∀ around rest, Ends rest →
    (Reading.value around).scan? (json.print ++ rest) = (Reading.finish json around).scan? rest

/-- The first item of an array is read like any other. -/
theorem scan?_firstItem {item : Json} (spelled : item.Spelled) (ends : Ends rest)
    (around : List Open) :
    (Reading.firstItem around).scan? (item.print ++ rest) =
      (Reading.value (.array [] :: around)).scan? (item.print ++ rest) := by
  obtain ⟨token, after, first, opens⟩ := exists_first?_print spelled ends
  have same : (Reading.firstItem around).step? token =
      (Reading.value (.array [] :: around)).step? token := by
    cases token <;> first | rfl | contradiction
  rw [scan?_of_first _ first, scan?_of_first _ first, same]

theorem printItems_append (item : Json) (items : List Json) (rest : List Char) :
    ∃ tail, Ends tail ∧ printItems (item :: items) ++ ']' :: rest = item.print ++ tail := by
  cases items with
  | nil => exact ⟨']' :: rest, ends_cons (.inr (.inl rfl)) rest, rfl⟩
  | cons next items =>
      refine ⟨',' :: (printItems (next :: items) ++ ']' :: rest), ends_cons (.inl rfl) _, ?_⟩
      simp [printItems]

theorem scan?_items {item : Json} {items : List Json}
    (read : ∀ each ∈ item :: items, each.ReadsBack) (before : List Json) (around : List Open)
    (rest : List Char) :
    (Reading.value (.array before :: around)).scan? (printItems (item :: items) ++ ']' :: rest) =
      (Reading.finish (.array (before.reverse ++ item :: items)) around).scan? rest := by
  obtain ⟨here, others⟩ := List.forall_mem_cons.mp read
  induction items generalizing item before with
  | nil =>
      rw [printItems, here _ _ (ends_cons (.inr (.inl rfl)) rest)]
      have closed : (Reading.nextItem (item :: before) around).step? .endArray =
          some (.finish (.array (item :: before).reverse) around) := rfl
      rw [List.reverse_cons] at closed
      exact scan?_of_step rfl closed
  | cons next items ih =>
      obtain ⟨first, later⟩ := List.forall_mem_cons.mp others
      rw [printItems, List.append_assoc, List.cons_append,
        here _ _ (ends_cons (.inl rfl) _)]
      have continued : (Reading.nextItem (item :: before) around).step? .comma =
          some (.value (.array (item :: before) :: around)) := rfl
      rw [Reading.finish, scan?_of_step rfl continued, ih others (item :: before) first later]
      simp
      simp

theorem readsBack_array {items : List Json} (spelled : ∀ item ∈ items, item.Spelled)
    (read : ∀ item ∈ items, item.ReadsBack) : (Json.array items).ReadsBack := by
  intro around rest ends
  have text : (Json.array items).print ++ rest = '[' :: (printItems items ++ ']' :: rest) := by
    simp [print]
  have opened : (Reading.value around).step? .beginArray = some (.firstItem around) := rfl
  rw [text, scan?_of_step rfl opened]
  cases items with
  | nil => exact scan?_of_step rfl rfl
  | cons item items =>
      obtain ⟨tail, ends, same⟩ := printItems_append item items rest
      rw [same, scan?_firstItem (spelled item List.mem_cons_self) ends, ← same]
      exact scan?_items read [] around rest

/-- The name of a member and its colon. -/
theorem scan?_name {name : Literal} (spelled : name.Spelled) {reading : Reading}
    {before : List (Literal × Json)} {around : List Open}
    (named : reading.step? (.string name) = some (.colon before name around)) (rest : List Char) :
    reading.scan? (name.print ++ ':' :: rest) =
      (Reading.value (.object before name :: around)).scan? rest := by
  rw [scan?_of_step (first?_string spelled _) named]
  exact scan?_of_step rfl rfl

theorem scan?_members {member : Literal × Json} {members : List (Literal × Json)}
    (names : ∀ each ∈ member :: members, each.1.Spelled)
    (read : ∀ each ∈ member :: members, each.2.ReadsBack) {reading : Reading}
    {before : List (Literal × Json)} {around : List Open}
    (named : reading.step? (.string member.1) = some (.colon before member.1 around))
    (rest : List Char) :
    reading.scan? (printMembers (member :: members) ++ '\x7d' :: rest) =
      (Reading.finish (.object (before.reverse ++ member :: members)) around).scan? rest := by
  obtain ⟨name, others⟩ := List.forall_mem_cons.mp names
  obtain ⟨value, values⟩ := List.forall_mem_cons.mp read
  induction members generalizing member before reading with
  | nil =>
      rw [printMembers, List.append_assoc, List.cons_append, scan?_name name named,
        value _ _ (ends_cons (.inr (.inr rfl)) rest)]
      have closed : (Reading.nextMember (member :: before) around).step? .endObject =
          some (.finish (.object (member :: before).reverse) around) := rfl
      rw [List.reverse_cons] at closed
      exact scan?_of_step rfl closed
  | cons next members ih =>
      obtain ⟨nextName, laterNames⟩ := List.forall_mem_cons.mp others
      obtain ⟨nextValue, laterValues⟩ := List.forall_mem_cons.mp values
      have text : printMembers (member :: next :: members) ++ '\x7d' :: rest =
          member.1.print ++ ':' :: (member.2.print ++
            ',' :: (printMembers (next :: members) ++ '\x7d' :: rest)) := by
        simp [printMembers]
      have continued : (Reading.nextMember (member :: before) around).step? .comma =
          some (.key (member :: before) around) := rfl
      rw [text, scan?_name name named, value _ _ (ends_cons (.inl rfl) _), Reading.finish,
        scan?_of_step rfl continued, ih others values rfl nextName laterNames nextValue laterValues]
      simp

theorem readsBack_object {members : List (Literal × Json)}
    (names : ∀ member ∈ members, member.1.Spelled)
    (read : ∀ member ∈ members, member.2.ReadsBack) : (Json.object members).ReadsBack := by
  intro around rest ends
  have text : (Json.object members).print ++ rest =
      '\x7b' :: (printMembers members ++ '\x7d' :: rest) := by
    simp [print]
  have opened : (Reading.value around).step? .beginObject = some (.firstKey around) := rfl
  rw [text, scan?_of_step rfl opened]
  cases members with
  | nil => exact scan?_of_step rfl rfl
  | cons member members =>
      have named : (Reading.firstKey around).step? (.string member.1) =
          some (.colon [] member.1 around) := rfl
      exact scan?_members names read named rest

theorem Spelled.readsBack {json : Json} (spelled : json.Spelled) : json.ReadsBack := by
  induction spelled with
  | null => exact fun around rest _ => scan?_of_step rfl rfl
  | bool value => cases value <;> exact fun around rest _ => scan?_of_step rfl rfl
  | number spelled => exact fun around rest ends => scan?_of_step (first?_number spelled ends) rfl
  | string spelled => exact fun around rest _ => scan?_of_step (first?_string spelled rest) rfl
  | array spelled ih => exact readsBack_array spelled ih
  | object names _ ih => exact readsBack_object names ih

/-- A printed tree is read back. -/
theorem parse?_render {json : Json} (spelled : json.Spelled) : parse? json.render = some json := by
  have read := spelled.readsBack [] [] fun char first => by cases first
  rw [List.append_nil] at read
  have ended : (Reading.done json).scan? [] = some (.done json) := by
    simp [Reading.scan?, tokens?, Reading.run?]
  rw [Reading.finish, ended, Reading.scan?] at read
  rw [parse?, render, String.toList_ofList]
  obtain ⟨tokens, read, ran⟩ := Option.bind_eq_some_iff.mp read
  simp [read, ofTokens?, ran]

end Trees

section Values

variable {α : Type} {read : Json → Option α} {write : α → Json}

theorem decode?_render {json : Json} (spelled : json.Spelled) (read : Json → Option α) :
    decode? read json.render = read json := by
  rw [decode?, parse?_render spelled, Option.bind_some]

/-- Where values are read back from their texts, a rewritten text stays as it is. -/
theorem rewrite?_bind (back : ∀ value, decode? read (write value).render = some value)
    (text : String) : (rewrite? read write text).bind (rewrite? read write) =
      rewrite? read write text := by
  unfold rewrite?
  cases decode? read text with
  | none => rfl
  | some value => rw [Option.map_some, Option.bind_some, back, Option.map_some]

end Values

end Json

end Passbook
