import Passbook.Proofs.Text.Folded
import Passbook.Text.Hex
/-!
Bytes that are written in hexadecimal are read back as they were. Whatever is read is what would be
written, but for the case of its digits.
-/

namespace Passbook.Hex

theorem digit?_digit {value : Nat} (small : value < 16) : digit? (digit value) = some value := by
  revert value
  decide

theorem byte?_ofByte (byte : UInt8) :
    byte? (digit (byte.toNat / 16)) (digit (byte.toNat % 16)) = some byte := by
  have small : byte.toNat < 256 := byte.toNat_lt
  have whole : byte.toNat / 16 * 16 + byte.toNat % 16 = byte.toNat := by omega
  rw [byte?, digit?_digit (by omega), digit?_digit (by omega)]
  simp only [whole, UInt8.ofNat_toNat]

theorem decode?_encode (bytes : List UInt8) : decode? (encode bytes) = some bytes := by
  induction bytes with
  | nil => rfl
  | cons byte rest ih =>
      change decode? (digit (byte.toNat / 16) :: digit (byte.toNat % 16) :: encode rest) = _
      rw [decode?, byte?_ofByte, ih]

/-- The twenty-two digits of either case. -/
def IsDigit (char : Char) : Prop :=
  ('0' ≤ char ∧ char ≤ '9') ∨ ('a' ≤ char ∧ char ≤ 'f') ∨ ('A' ≤ char ∧ char ≤ 'F')

instance (char : Char) : Decidable (IsDigit char) := inferInstanceAs (Decidable (_ ∨ _))

theorem isSome_digit? (char : Char) : (digit? char).isSome = true ↔ IsDigit char := by
  unfold digit? IsDigit
  split
  case isTrue decimal => simp [decimal]
  case isFalse notDecimal =>
    split
    case isTrue small => simp [small]
    case isFalse notSmall => split <;> simp_all

/-- The characters of a range by their places in it. -/
theorem exists_place {first last char : Char} (low : first ≤ char) (high : char ≤ last) :
    ∃ place ≤ last.toNat - first.toNat, char = Char.ofNat (first.toNat + place) := by
  replace low : first.toNat ≤ char.toNat := UInt32.le_iff_toNat_le.mp low
  replace high : char.toNat ≤ last.toNat := UInt32.le_iff_toNat_le.mp high
  refine ⟨char.toNat - first.toNat, Nat.sub_le_sub_right high _, ?_⟩
  rw [Nat.add_sub_cancel' low, Char.ofNat_toNat]

/-- Every digit stands for a value, and is but for its case the digit of that value. -/
theorem exists_of_isDigit {char : Char} (known : IsDigit char) :
    ∃ value < 16, digit? char = some value ∧ digit value = char.toLower := by
  rcases known with ⟨low, high⟩ | ⟨low, high⟩ | ⟨low, high⟩ <;>
    obtain ⟨place, within, rfl⟩ := exists_place low high
  · have decimal : ∀ place ≤ 9, ∃ value < 16, digit? (Char.ofNat (48 + place)) = some value ∧
        digit value = (Char.ofNat (48 + place)).toLower := by decide
    exact decimal place within
  · have small : ∀ place ≤ 5, ∃ value < 16, digit? (Char.ofNat (97 + place)) = some value ∧
        digit value = (Char.ofNat (97 + place)).toLower := by decide
    exact small place within
  · have capital : ∀ place ≤ 5, ∃ value < 16, digit? (Char.ofNat (65 + place)) = some value ∧
        digit value = (Char.ofNat (65 + place)).toLower := by decide
    exact capital place within

theorem digit_of_digit? {char : Char} {value : Nat} (read : digit? char = some value) :
    value < 16 ∧ digit value = char.toLower := by
  have known : IsDigit char := (isSome_digit? char).mp (by rw [read]; rfl)
  obtain ⟨other, small, same, lower⟩ := exists_of_isDigit known
  cases read.symm.trans same
  exact ⟨small, lower⟩

theorem encode_inj {first second : List UInt8} : encode first = encode second ↔ first = second := by
  refine ⟨fun same => ?_, congrArg encode⟩
  have decoded := congrArg decode? same
  rw [decode?_encode, decode?_encode] at decoded
  exact Option.some.inj decoded

theorem digit?_toLower (char : Char) : digit? char.toLower = digit? char := by
  rcases Text.toLower_cases char with ⟨same, -⟩ | ⟨letter, rfl⟩
  · rw [same]
  · revert letter
    decide

theorem byte?_toLower (high low : Char) : byte? high.toLower low.toLower = byte? high low := by
  rw [byte?, byte?, digit?_toLower, digit?_toLower]

/-- Digits are read in either case. -/
theorem decode?_map_toLower (digits : List Char) :
    decode? (digits.map Char.toLower) = decode? digits := by
  fun_induction decode? digits with
  | case1 => rfl
  | case2 digit => rfl
  | case3 high low rest byte bytes read others ih =>
      simp only [List.map_cons, decode?, byte?_toLower, ih, read, others]
  | case4 high low rest unread ih =>
      simp only [List.map_cons, decode?, byte?_toLower, ih]

theorem ofByte_of_byte? {high low : Char} {byte : UInt8} (read : byte? high low = some byte) :
    ofByte byte = [high.toLower, low.toLower] := by
  unfold byte? at read
  split at read
  case h_2 => cases read
  case h_1 upper lower first second =>
    cases read
    obtain ⟨small, lower_eq⟩ := digit_of_digit? first
    obtain ⟨small', lower_eq'⟩ := digit_of_digit? second
    have value : (UInt8.ofNat (upper * 16 + lower)).toNat = upper * 16 + lower :=
      UInt8.toNat_ofNat_of_lt' (by change _ < 256; omega)
    have halves : (upper * 16 + lower) / 16 = upper ∧ (upper * 16 + lower) % 16 = lower := by omega
    rw [ofByte, value, halves.1, halves.2, lower_eq, lower_eq']

/-- What is read is what would be written, but for the case of its digits. -/
theorem decode?_eq_some_iff {digits : List Char} {bytes : List UInt8} :
    decode? digits = some bytes ↔ encode bytes = digits.map Char.toLower := by
  constructor
  · intro read
    fun_induction decode? digits generalizing bytes with
    | case1 => cases read; rfl
    | case2 => cases read
    | case3 high low rest byte others later first ih =>
        cases read
        simp only [encode, List.flatMap_cons, ofByte_of_byte? first, List.map_cons]
        exact congrArg (high.toLower :: low.toLower :: ·) (ih later)
    | case4 => cases read
  · intro written
    rw [← decode?_map_toLower, ← written, decode?_encode]

theorem length_encode (bytes : List UInt8) : (encode bytes).length = 2 * bytes.length := by
  induction bytes with
  | nil => rfl
  | cons byte rest ih =>
      change (encode rest).length + 1 + 1 = 2 * (rest.length + 1)
      omega

theorem length_of_decode? {digits : List Char} {bytes : List UInt8}
    (read : decode? digits = some bytes) : digits.length = 2 * bytes.length := by
  rw [← length_encode, decode?_eq_some_iff.mp read, List.length_map]

theorem exists_byte?_iff {high low : Char} :
    (∃ byte, byte? high low = some byte) ↔ IsDigit high ∧ IsDigit low := by
  rw [← isSome_digit? high, ← isSome_digit? low, byte?]
  cases digit? high <;> cases digit? low <;> simp

/-- Digits in pairs can be read, and nothing else can. -/
theorem exists_decode?_iff {digits : List Char} :
    (∃ bytes, decode? digits = some bytes) ↔
      digits.length % 2 = 0 ∧ ∀ char ∈ digits, IsDigit char := by
  fun_induction decode? digits with
  | case1 => simp
  | case2 digit => simp
  | case3 high low rest byte others later first ih =>
      obtain ⟨upper, lower⟩ := exists_byte?_iff.mp ⟨byte, first⟩
      obtain ⟨even, known⟩ := ih.mp ⟨others, later⟩
      refine iff_of_true ⟨_, rfl⟩ ⟨?_, ?_⟩
      · simpa [Nat.add_assoc] using even
      · exact List.forall_mem_cons.mpr ⟨upper, List.forall_mem_cons.mpr ⟨lower, known⟩⟩
  | case4 high low rest unread ih =>
      refine iff_of_false (by simp) ?_
      rintro ⟨even, known⟩
      obtain ⟨upper, known⟩ := List.forall_mem_cons.mp known
      obtain ⟨lower, known⟩ := List.forall_mem_cons.mp known
      obtain ⟨byte, first⟩ := exists_byte?_iff.mpr ⟨upper, lower⟩
      obtain ⟨others, later⟩ := ih.mpr ⟨by simpa [Nat.add_assoc] using even, known⟩
      exact unread byte others first later

end Passbook.Hex
