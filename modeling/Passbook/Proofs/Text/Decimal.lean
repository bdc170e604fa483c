import Mathlib.Algebra.Group.Nat.Defs
import Passbook.Text.Decimal
/-!
Decimal numerals as they are written: the digits of a number have its value, however many zeros
stand before them, and without such zeros a number other than zero begins with none.
-/

namespace Passbook.Decimal

theorem toList_toString (value : Nat) : (toString value).toList = Nat.toDigits 10 value :=
  Nat.toList_repr

theorem isDigit_of_mem {value : Nat} {char : Char} (member : char ∈ Nat.toDigits 10 value) :
    char.isDigit = true :=
  Nat.isDigit_of_mem_toDigits (by decide) (by decide) member

@[simp] theorem ofDigits_toDigits (value : Nat) : ofDigits (Nat.toDigits 10 value) = value :=
  Nat.ofDigitChars_ten_toDigits

theorem ofDigits_append (high low : List Char) :
    ofDigits (high ++ low) = ofDigits high * 10 ^ low.length + ofDigits low := by
  calc ofDigits (high ++ low)
    _ = Nat.ofDigitChars 10 low (ofDigits high) := Nat.ofDigitChars_append 0
    _ = 10 ^ low.length * ofDigits high + ofDigits low := Nat.ofDigitChars_eq_ofDigitChars_zero
    _ = ofDigits high * 10 ^ low.length + ofDigits low := by rw [Nat.mul_comm]

theorem ofDigits_cons (first : Char) (rest : List Char) :
    ofDigits (first :: rest) = digitValue first * 10 ^ rest.length + ofDigits rest := by
  have split := ofDigits_append [first] rest
  simpa [ofDigits] using split

theorem code_of_isDigit {char : Char} (digit : char.isDigit = true) :
    48 ≤ char.toNat ∧ char.toNat ≤ 57 := by
  simp only [Char.isDigit, Bool.and_eq_true, decide_eq_true_eq, ge_iff_le,
    UInt32.le_iff_toNat_le] at digit
  exact digit

theorem digitValue_lt {char : Char} (digit : char.isDigit = true) : digitValue char < 10 := by
  have code := code_of_isDigit digit
  have zero : '0'.toNat = 48 := rfl
  rw [digitValue, zero]
  omega

theorem eq_zero_of_digitValue {char : Char} (digit : char.isDigit = true)
    (none : digitValue char = 0) : char = '0' := by
  have code := code_of_isDigit digit
  have zero : '0'.toNat = 48 := rfl
  rw [digitValue, zero] at none
  apply Char.toNat_inj.mp
  omega

theorem ofDigits_lt {digits : List Char} (all : ∀ char ∈ digits, char.isDigit = true) :
    ofDigits digits < 10 ^ digits.length := by
  induction digits with
  | nil => decide
  | cons first rest ih =>
      have small := digitValue_lt (all first List.mem_cons_self)
      have lower := ih fun char member => all char (List.mem_cons_of_mem first member)
      rw [ofDigits_cons, List.length_cons, Nat.pow_succ]
      calc digitValue first * 10 ^ rest.length + ofDigits rest
        _ < digitValue first * 10 ^ rest.length + 10 ^ rest.length := Nat.add_lt_add_left lower _
        _ = (digitValue first + 1) * 10 ^ rest.length := (Nat.succ_mul ..).symm
        _ ≤ 10 * 10 ^ rest.length := Nat.mul_le_mul_right _ small
        _ = 10 ^ rest.length * 10 := Nat.mul_comm ..

@[simp] theorem ofDigits_zeros (count : Nat) (digits : List Char) :
    ofDigits (List.replicate count '0' ++ digits) = ofDigits digits := by
  induction count with
  | zero => rfl
  | succ count ih => exact ih

theorem head?_toDigits_ne {value : Nat} (positive : value ≠ 0) :
    (Nat.toDigits 10 value).head? ≠ some '0' := by
  induction value using Nat.strongRecOn with
  | ind value ih =>
      by_cases single : value < 10
      · rw [Nat.toDigits_of_lt_base single]
        have : ∀ digit < 10, digit ≠ 0 → Nat.digitChar digit ≠ '0' := by decide
        simpa using this value single positive
      · rw [Nat.toDigits_of_base_le (by decide) (Nat.not_lt.mp single)]
        have shorter := ih (value / 10) (by omega) (by omega)
        cases digits : Nat.toDigits 10 (value / 10) with
        | nil => exact absurd digits Nat.toDigits_ne_nil
        | cons first rest => simpa [digits] using shorter

section Grammar
variable {text : List Char}

/-- Digits, one or more. -/
def Numeral (digits : List Char) : Prop := digits ≠ [] ∧ ∀ char ∈ digits, char.isDigit = true

/-- A digit, and then digits and underscores. -/
def Grouped (digits : List Char) : Prop :=
  digits.head?.any Char.isDigit = true ∧ ∀ char ∈ digits, char.isDigit = true ∨ char = '_'

theorem numeral_toDigits (value : Nat) : Numeral (Nat.toDigits 10 value) :=
  ⟨Nat.toDigits_ne_nil, fun _ => isDigit_of_mem⟩

/-- A numeral that begins with no zero it could do without. -/
structure Unpadded (digits : List Char) : Prop where
  numeral : Numeral digits
  lone : digits.head? = some '0' → digits = ['0']

theorem unpadded_toDigits (value : Nat) : Unpadded (Nat.toDigits 10 value) where
  numeral := numeral_toDigits value
  lone begun := by
    by_cases zero : value = 0
    · rw [zero]
      rfl
    · exact absurd begun (head?_toDigits_ne zero)

theorem Unpadded.eq_zero_iff {digits : List Char} (unpadded : Unpadded digits) :
    digits = ['0'] ↔ ofDigits digits = 0 := by
  constructor
  · rintro rfl
    rfl
  · intro zero
    apply unpadded.lone
    cases digits with
    | nil => exact absurd rfl unpadded.numeral.1
    | cons first rest =>
        have digit := unpadded.numeral.2 first List.mem_cons_self
        have positive : 0 < 10 ^ rest.length := Nat.pow_pos (by decide)
        rw [ofDigits_cons] at zero
        have product := Nat.eq_zero_of_add_eq_zero_right zero
        have none := (Nat.mul_eq_zero.mp product).resolve_right (Nat.ne_of_gt positive)
        rw [List.head?_cons, eq_zero_of_digitValue digit none]

theorem not_numeral_sign {sign : Char} (other : sign.isDigit = false) (digits : List Char) :
    ¬ Numeral (sign :: digits) := by
  rintro ⟨-, all⟩
  rw [all sign List.mem_cons_self] at other
  cases other

theorem not_grouped_sign {sign : Char} (other : sign.isDigit = false) (digits : List Char) :
    ¬ Grouped (sign :: digits) := by
  rintro ⟨first, -⟩
  rw [List.head?_cons, Option.any_some, other] at first
  cases first

theorem natural?_eq_some_iff {value : Nat} :
    natural? text = some value ↔ Numeral text ∧ ofDigits text = value := by
  have numeral : (text ≠ [] ∧ text.all Char.isDigit = true) ↔ Numeral text := by simp [Numeral]
  rw [natural?]
  split
  case isTrue held => simp only [numeral.mp held, Option.some.injEq, true_and]
  case isFalse other => simp only [mt numeral.mpr other, reduceCtorEq, false_and]

theorem unsigned?_eq (text : List Char) : unsigned? text = natural? (unplussed text) := by
  unfold unsigned? unplussed
  split <;> rfl

/-- What has no sign of its own may have one plus sign in front. -/
theorem unplussed_iff {holds : List Char → Prop} (signless : ∀ digits, ¬ holds ('+' :: digits)) :
    holds (unplussed text) ↔ ∃ digits, (text = digits ∨ text = '+' :: digits) ∧ holds digits := by
  unfold unplussed
  split
  case h_1 digits =>
    constructor
    · exact fun held => ⟨digits, .inr rfl, held⟩
    · rintro ⟨_, rfl | same, held⟩
      · exact absurd held (signless digits)
      · cases same
        exact held
  case h_2 unsigned =>
    constructor
    · exact fun held => ⟨text, .inl rfl, held⟩
    · rintro ⟨digits, rfl | rfl, held⟩
      · exact held
      · exact absurd rfl (unsigned digits)

theorem unsigned?_eq_some_iff {value : Nat} : unsigned? text = some value ↔
    ∃ digits, (text = digits ∨ text = '+' :: digits) ∧ Numeral digits ∧
      ofDigits digits = value := by
  rw [unsigned?_eq, natural?_eq_some_iff,
    ← unplussed_iff fun digits held => not_numeral_sign rfl digits held.1]

theorem signed?_eq_some_iff {value : Int} : signed? text = some value ↔
    (∃ digits, text = '-' :: digits ∧ Numeral digits ∧ -(ofDigits digits : Int) = value) ∨
      ∃ digits, (text = digits ∨ text = '+' :: digits) ∧ Numeral digits ∧
        (ofDigits digits : Int) = value := by
  unfold signed?
  split
  case h_1 digits =>
    simp only [Option.map_eq_some_iff, Option.bind_eq_bind, Option.bind_eq_some_iff,
      natural?_eq_some_iff, Option.pure_def, Option.some.injEq]
    constructor
    · rintro ⟨_, ⟨_, ⟨numeral, rfl⟩, rfl⟩, rfl⟩
      exact .inl ⟨digits, rfl, numeral, rfl⟩
    · rintro (⟨_, same, numeral, rfl⟩ | ⟨_, rfl | same, numeral, _⟩)
      · cases same
        exact ⟨_, ⟨_, ⟨numeral, rfl⟩, rfl⟩, rfl⟩
      · exact absurd numeral (not_numeral_sign rfl digits)
      · cases same
  case h_2 unsigned =>
    simp only [Option.map_eq_some_iff, unsigned?_eq_some_iff]
    constructor
    · rintro ⟨_, ⟨digits, written, numeral, rfl⟩, rfl⟩
      exact .inr ⟨digits, written, numeral, rfl⟩
    · rintro (⟨digits, same, _⟩ | ⟨digits, written, numeral, rfl⟩)
      · exact absurd same (unsigned digits)
      · exact ⟨_, ⟨digits, written, numeral, rfl⟩, rfl⟩

theorem amount?_eq_some_iff {text : String} {value : Nat} : amount? text = some value ↔
    ∃ digits, (text.toList = digits ∨ text.toList = '+' :: digits) ∧ Grouped digits ∧
      ofDigits (digits.filter Char.isDigit) = value := by
  rw [← unplussed_iff fun digits held => not_grouped_sign rfl digits held.1]
  have grouped : ((unplussed text.toList).head?.any Char.isDigit &&
      (unplussed text.toList).all (fun char => char.isDigit || char == '_')) = true ↔
        Grouped (unplussed text.toList) := by
    simp [Grouped]
  rw [amount?]
  split
  case isTrue held => simp only [grouped.mp held, Option.some.injEq, true_and]
  case isFalse other => simp only [mt grouped.mpr other, reduceCtorEq, false_and]

theorem grouped_of_numeral {digits : List Char} (numeral : Numeral digits) :
    Grouped digits ∧ digits.filter Char.isDigit = digits := by
  obtain ⟨nonempty, all⟩ := numeral
  refine ⟨⟨?_, fun char member => .inl (all char member)⟩, List.filter_eq_self.mpr all⟩
  cases digits with
  | nil => exact absurd rfl nonempty
  | cons first rest => exact all first List.mem_cons_self

theorem amount?_toString (amount : Nat) : amount? (toString amount) = some amount := by
  obtain ⟨grouped, kept⟩ := grouped_of_numeral (numeral_toDigits amount)
  refine amount?_eq_some_iff.mpr ⟨_, .inl (toList_toString amount), grouped, ?_⟩
  rw [kept, ofDigits_toDigits]

end Grammar

/-- No digit stands where a number ends. -/
def Stops (rest : List Char) : Prop := ∀ char ∈ rest.head?, char.isDigit = false

section Run

variable {digits rest : List Char}

theorem takeWhile_of_stops (numeral : ∀ char ∈ digits, char.isDigit = true) (stops : Stops rest) :
    (digits ++ rest).takeWhile Char.isDigit = digits := by
  rw [List.takeWhile_append_of_pos numeral]
  cases rest with
  | nil => simp
  | cons char rest => simp [stops char rfl]

theorem dropWhile_of_stops (numeral : ∀ char ∈ digits, char.isDigit = true) (stops : Stops rest) :
    (digits ++ rest).dropWhile Char.isDigit = rest := by
  rw [List.dropWhile_append_of_pos numeral]
  cases rest with
  | nil => rfl
  | cons char rest => simp [stops char rfl]

end Run

end Passbook.Decimal
