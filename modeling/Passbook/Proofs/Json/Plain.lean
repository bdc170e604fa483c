import Passbook.Json.Double
import Passbook.Json.Record
import Passbook.Proofs.Json.Printed
/-!
Trees as values are written: texts with no more escapes than they need, integers that fit a word,
and records whose names are texts. All of them can be printed, and all of them denote a value.
-/

namespace Passbook

namespace Numeral

@[simp] theorem int?_ofInt (value : Int) : (ofInt value).int? = some value := by
  by_cases negative : value < 0
  · have nonzero : value.natAbs ≠ 0 := by omega
    have size : -(value.natAbs : Int) = value := by omega
    simp only [int?, ofInt, negative, decide_true, if_neg nonzero, size]
    simp
  · have size : (value.natAbs : Int) = value := by omega
    simp only [int?, ofInt, negative, decide_false, size]
    simp

theorem spelled_ofInt (value : Int) : (ofInt value).Spelled := by
  intro char member
  cases member

theorem print_ofInt (value : Int) : (ofInt value).print = (toString value).toList := by
  cases value with
  | ofNat size =>
      have text : toString (Int.ofNat size) = toString size := rfl
      have positive : ¬ (size : Int) < 0 := by omega
      rw [text, Decimal.toList_toString]
      simp [print, ofInt, printFraction, printExponent, positive]
  | negSucc size =>
      have text : toString (Int.negSucc size) = "-" ++ toString (size + 1) := rfl
      rw [text, String.toList_append, Decimal.toList_toString]
      simp [print, ofInt, printFraction, printExponent]

theorem ofNat_eq_ofInt (value : Nat) : ofNat value = ofInt value := by
  simp [ofNat, ofInt]

theorem normal?_ofInt {value : Int}
    (fits : (Word.int64? value).isSome ∨ (Word.uint64? value).isSome) :
    (ofInt value).normal? = some (ofInt value) := by
  rw [normal?, int?_ofInt]
  simp [fits]

end Numeral

namespace Literal

theorem ofChar_of_isDigit {char : Char} (digit : char.isDigit = true) :
    ofChar char = .plain char := by
  have unquoted : char ≠ '"' := by
    rintro rfl
    cases digit
  have unescaped : char ≠ '\\' := by
    rintro rfl
    cases digit
  have visible : ¬ char.toNat < 0x20 := by
    have code := Decimal.code_of_isDigit digit
    omega
  simp [ofChar, unquoted, unescaped, visible]

theorem lt_of_escaped {char : Char} (escaped : char = '"' ∨ char = '\\' ∨ char.toNat < 0x20) :
    char.toNat < 0x80 := by
  rcases escaped with rfl | rfl | control
  · decide
  · decide
  · omega

theorem chars?_ofChars (chars : List Char) : chars? (chars.map ofChar) = some chars := by
  induction chars with
  | nil => rfl
  | cons char rest ih =>
      rw [List.map_cons, ofChar]
      split
      case isFalse => rw [chars?, ih]; rfl
      case isTrue escaped =>
        have low := lt_of_escaped escaped
        have unpaired : isHighSurrogate char.toNat = false ∧ isLowSurrogate char.toNat = false := by
          unfold isHighSurrogate isLowSurrogate
          grind
        unfold chars?
        simp [unpaired, ih]

@[simp] theorem text?_ofString (text : String) : (ofString text).text? = some text := by
  simp [text?, ofString, chars?_ofChars]

theorem spelled_ofString (text : String) : (ofString text).Spelled := by
  intro piece member
  obtain ⟨char, _, rfl⟩ := List.mem_map.mp member
  rw [ofChar]
  split
  case isTrue escaped =>
    exact Nat.lt_trans (lt_of_escaped escaped) (by decide)
  case isFalse plain =>
    simp only [not_or, Nat.not_lt] at plain
    exact plain

theorem verbatim?_ofChars {chars : List Char} (plain : ∀ char ∈ chars, ofChar char = .plain char) :
    verbatim? (chars.map ofChar) = some chars := by
  induction chars with
  | nil => rfl
  | cons char rest ih =>
      obtain ⟨here, others⟩ := List.forall_mem_cons.mp plain
      rw [List.map_cons, here, verbatim?, ih others]
      rfl

end Literal

namespace Json

theorem nat_eq_int (value : Nat) : nat value = int value :=
  congrArg number (Numeral.ofNat_eq_ofInt value)

/-- A tree as values are written, with no more than `depth` arrays and objects inside one
another. -/
inductive Plain : Nat → Json → Prop where
  | null {depth : Nat} : Plain depth .null
  | bool {depth : Nat} (value : Bool) : Plain depth (.bool value)
  | int {depth : Nat} {value : Int}
      (fits : (Word.int64? value).isSome ∨ (Word.uint64? value).isSome) : Plain depth (.int value)
  | text {depth : Nat} (value : String) : Plain depth (.text value)
  | array {depth : Nat} {items : List Json} (plain : ∀ item ∈ items, Plain depth item) :
      Plain (depth + 1) (.array items)
  | record {depth : Nat} {members : List (String × Json)}
      (plain : ∀ member ∈ members, Plain depth member.2) : Plain (depth + 1) (.record members)

theorem depthItems_le {items : List Json} {bound : Nat} (low : ∀ item ∈ items, item.depth ≤ bound) :
    depthItems items ≤ bound := by
  induction items with
  | nil => exact Nat.zero_le bound
  | cons item rest ih =>
      obtain ⟨here, others⟩ := List.forall_mem_cons.mp low
      rw [depthItems]
      exact Nat.max_le.mpr ⟨here, ih others⟩

theorem depthMembers_le {members : List (Literal × Json)} {bound : Nat}
    (low : ∀ member ∈ members, member.2.depth ≤ bound) : depthMembers members ≤ bound := by
  induction members with
  | nil => exact Nat.zero_le bound
  | cons member rest ih =>
      obtain ⟨here, others⟩ := List.forall_mem_cons.mp low
      rw [depthMembers]
      exact Nat.max_le.mpr ⟨here, ih others⟩

theorem exists_normalItems {items : List Json}
    (valued : ∀ item ∈ items, ∃ value, item.normal? = some value) :
    ∃ values, normalItems? items = some values := by
  induction items with
  | nil => exact ⟨[], rfl⟩
  | cons item rest ih =>
      obtain ⟨⟨value, here⟩, others⟩ := List.forall_mem_cons.mp valued
      obtain ⟨values, later⟩ := ih others
      exact ⟨value :: values, by rw [normalItems?, here, later]⟩

theorem exists_normalMembers {members : List (String × Json)}
    (valued : ∀ member ∈ members, ∃ value, member.2.normal? = some value) :
    ∃ values, normalMembers? (members.map fun member => (Literal.ofString member.1, member.2)) =
      some values := by
  induction members with
  | nil => exact ⟨[], rfl⟩
  | cons member rest ih =>
      obtain ⟨⟨value, here⟩, others⟩ := List.forall_mem_cons.mp valued
      obtain ⟨values, later⟩ := ih others
      refine ⟨(member.1, value) :: values, ?_⟩
      simp only [List.map_cons, normalMembers?, Literal.text?_ofString, here, later]

namespace Plain

variable {depth : Nat} {json : Json}

theorem spelled (plain : Plain depth json) : json.Spelled := by
  induction plain with
  | null => exact .null
  | bool value => exact .bool value
  | int => exact .number (Numeral.spelled_ofInt _)
  | text value => exact .string (Literal.spelled_ofString value)
  | array _ ih => exact .array ih
  | record _ ih =>
      refine .object ?_ ?_
      · intro member found
        obtain ⟨named, _, rfl⟩ := List.mem_map.mp found
        exact Literal.spelled_ofString named.1
      · intro member found
        obtain ⟨named, present, rfl⟩ := List.mem_map.mp found
        exact ih named present

theorem depth_le (plain : Plain depth json) : json.depth ≤ depth := by
  induction plain with
  | array _ ih =>
      rw [Json.depth]
      exact Nat.succ_le_succ (depthItems_le ih)
  | record _ ih =>
      rw [Json.record, Json.depth]
      refine Nat.succ_le_succ (depthMembers_le fun member found => ?_)
      obtain ⟨named, present, rfl⟩ := List.mem_map.mp found
      exact ih named present
  | _ => exact Nat.zero_le _

theorem exists_normal (plain : Plain depth json) : ∃ value, json.normal? = some value := by
  induction plain with
  | null => exact ⟨.null, rfl⟩
  | bool value => exact ⟨.bool value, rfl⟩
  | @int _ value fits =>
      refine ⟨.int value, ?_⟩
      rw [Json.int, normal?, Numeral.normal?_ofInt fits]
      rfl
  | text value =>
      refine ⟨.text value, ?_⟩
      rw [Json.text, normal?, Literal.text?_ofString]
      rfl
  | array _ ih =>
      obtain ⟨values, known⟩ := exists_normalItems ih
      exact ⟨.array values, by rw [normal?, known]; rfl⟩
  | record _ ih =>
      obtain ⟨values, known⟩ := exists_normalMembers ih
      exact ⟨_, by rw [Json.record, normal?, known]; rfl⟩

/-- What is read whole before it is looked at can be read, if it is not too deep. -/
theorem exists_value (plain : Plain depth json) (shallow : depth ≤ depthLimit) :
    ∃ value, json.value? 0 = some value := by
  have low : 0 + json.depth ≤ depthLimit := by
    have := plain.depth_le
    omega
  rw [value?, if_pos low]
  exact plain.exists_normal

theorem mono (plain : Plain depth json) {deeper : Nat} (le : depth ≤ deeper) :
    Plain deeper json := by
  induction plain generalizing deeper with
  | null => exact .null
  | bool value => exact .bool value
  | int fits => exact .int fits
  | text value => exact .text value
  | array _ ih =>
      obtain ⟨inner, rfl⟩ : ∃ inner, deeper = inner + 1 := ⟨deeper - 1, by omega⟩
      exact .array fun item member => ih item member (Nat.le_of_succ_le_succ le)
  | record _ ih =>
      obtain ⟨inner, rfl⟩ : ∃ inner, deeper = inner + 1 := ⟨deeper - 1, by omega⟩
      exact .record fun named member => ih named member (Nat.le_of_succ_le_succ le)

end Plain

end Json

end Passbook
