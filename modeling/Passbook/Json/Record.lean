import Passbook.Json.Basic
/-!
Records in JSON: an object with named members, or an array with the same values in their order.
Members with unknown names are passed over, a known name may stand only once, and an array may
not be longer than the record.
-/

namespace Passbook.Json

/-- What a record holds under one of its names. -/
inductive Slot where
  | given (json : Json)
  /-- An object without the member. -/
  | unnamed
  /-- An array that ends before the place of the member. -/
  | beyond

abbrev Record := List (String × Slot)

/-- The members of an object with their names read, if all names are texts. -/
def named? : List (Literal × Json) → Option (List (String × Json))
  | [] => some []
  | member :: rest =>
      match member.1.text?, named? rest with
      | some name, some others => some ((name, member.2) :: others)
      | _, _ => none

def slotOf? (members : List (String × Json)) (name : String) : Option Slot :=
  match members.filter fun member => member.1 == name with
  | [] => some .unnamed
  | [member] => some (.given member.2)
  | _ => none

def slotsByName? (members : List (String × Json)) : List String → Option Record
  | [] => some []
  | name :: rest =>
      match slotOf? members name, slotsByName? members rest with
      | some slot, some others => some ((name, slot) :: others)
      | _, _ => none

def slotsByPlace? : List Json → List String → Option Record
  | [], names => some (names.map fun name => (name, .beyond))
  | _ :: _, [] => none
  | item :: items, name :: names =>
      (slotsByPlace? items names).map ((name, .given item) :: ·)

def record? (names : List String) : Json → Option Record
  | .object members => (named? members).bind fun found => slotsByName? found names
  | .array items => slotsByPlace? items names
  | _ => none

/-- As `record?`, but an unknown name is refused. -/
def exactRecord? (names : List String) : Json → Option Record
  | .object members => (named? members).bind fun found =>
      if found.all fun member => names.contains member.1 then slotsByName? found names else none
  | json => record? names json

namespace Record

variable {α : Type}

def slot (record : Record) (name : String) : Slot := (record.lookup name).getD .beyond

def required (record : Record) (name : String) (read : Json → Option α) : Option α :=
  match record.slot name with
  | .given json => read json
  | _ => none

/-- An object may leave the member out or have null in its place. -/
def optional (record : Record) (name : String) (read : Json → Option α) : Option (Option α) :=
  match record.slot name with
  | .given .null => some none
  | .given json => (read json).map some
  | .unnamed => some none
  | .beyond => none

/-- Object and array alike may leave the member out. -/
def defaulted (record : Record) (name : String) (default : α) (read : Json → Option α) :
    Option α :=
  match record.slot name with
  | .given json => read json
  | _ => some default

end Record

def list? {α : Type} (read : Json → Option α) (json : Json) : Option (List α) :=
  json.items?.bind fun items => items.mapM read

def nullable {α : Type} (read : Json → Option α) : Json → Option (Option α)
  | .null => some none
  | json => (read json).map some

end Passbook.Json
