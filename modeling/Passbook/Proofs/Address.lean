import Passbook.Proofs.Text.Hex
import Passbook.Query.Basic
/-!
Which texts are addresses, and which of them denote the same. An address that was read once is read
again, from its canonical spelling, and that spelling stays as it is. No text is an address of both
kinds of ledger.
-/

namespace Passbook.Address

variable {kind : LedgerKind} {spelling : String}

/-- What the digits of an address denote. -/
theorem ofText_eq_ok_iff {address : Address} :
    ofText kind spelling = .ok address ↔ ∃ digits, digits? kind spelling.toList = some digits ∧
      Hex.decode? digits = some address.bytes ∧ address.bytes.length = byteCount kind ∧
      address.kind = kind := by
  obtain ⟨own, bytes⟩ := address
  unfold ofText
  cases marked : digits? kind spelling.toList with
  | none => simp
  | some digits =>
      simp only [Option.some.injEq, exists_eq_left']
      cases decoded : Hex.decode? digits with
      | none => simp
      | some found =>
          simp only [Option.some.injEq]
          constructor
          · intro read
            split at read
            case isTrue whole =>
              cases read
              exact ⟨rfl, whole, rfl⟩
            case isFalse => cases read
          · rintro ⟨rfl, whole, rfl⟩
            exact if_pos whole

/-- Digits that can be read do not begin like the mark. -/
theorem digits?_encode (bytes : List UInt8) :
    digits? .sequential (Hex.encode bytes) = some (Hex.encode bytes) := by
  have back := Hex.decode?_encode bytes
  unfold digits?
  split
  case h_1 digits _ marked =>
    rw [marked] at back
    cases back
  case h_2 => rfl
  case h_3 same _ => cases same

/-- The canonical spelling of an address that was read denotes it again. -/
theorem ofText_canonical {address : Address} (read : ofText kind spelling = .ok address) :
    ofText kind address.canonical = .ok address := by
  obtain ⟨_, -, -, whole, rfl⟩ := ofText_eq_ok_iff.mp read
  refine ofText_eq_ok_iff.mpr ⟨Hex.encode address.bytes, ?_, Hex.decode?_encode _, whole, rfl⟩
  obtain ⟨_ | _, bytes⟩ := address
  · change digits? .sequential (String.ofList (Hex.encode bytes)).toList = _
    rw [String.toList_ofList, digits?_encode]
  · change digits? .block (String.ofList ('0' :: 'x' :: Hex.encode bytes)).toList = _
    rw [String.toList_ofList]
    rfl

theorem isValid_iff_exists :
    isValid kind spelling ↔ ∃ address, ofText kind spelling = .ok address := by
  unfold isValid
  cases ofText kind spelling <;> simp

/-- What is valid has a canonical spelling, which is its own. -/
theorem canonical?_of_isValid (valid : isValid kind spelling) :
    ∃ canonical, canonical? kind spelling = .ok canonical ∧
      canonical? kind canonical = .ok canonical := by
  obtain ⟨address, read⟩ := isValid_iff_exists.mp valid
  refine ⟨address.canonical, ?_, ?_⟩
  · simp only [canonical?, read]
  · simp only [canonical?, ofText_canonical read]

theorem isValid_of_canonical? {canonical : String}
    (read : canonical? kind spelling = .ok canonical) : isValid kind spelling := by
  unfold canonical? at read
  unfold isValid
  cases denoted : ofText kind spelling with
  | ok address => rfl
  | error problem =>
      rw [denoted] at read
      cases read

theorem digits?_of_marked {text digits : List Char} (marked : digits? .block text = some digits) :
    digits? .sequential text = some digits := by
  unfold digits? at marked
  split at marked
  case h_1 => exact marked
  case h_2 same => cases same
  case h_3 => cases marked

/-- Both kinds of ledger find the same digits behind a mark, and count them differently. -/
theorem not_isValid_sequential (valid : isValid .block spelling) :
    ¬ isValid .sequential spelling := by
  intro valid'
  obtain ⟨address, read⟩ := isValid_iff_exists.mp valid
  obtain ⟨other, read'⟩ := isValid_iff_exists.mp valid'
  obtain ⟨digits, marked, decoded, whole, -⟩ := ofText_eq_ok_iff.mp read
  obtain ⟨digits', marked', decoded', whole', -⟩ := ofText_eq_ok_iff.mp read'
  rw [digits?_of_marked marked] at marked'
  cases marked'
  have same : address.bytes = other.bytes := Option.some.inj (decoded.symm.trans decoded')
  rw [← same, whole] at whole'
  cases whole'

theorem kind_eq_of_isValid {other : LedgerKind} (valid : isValid kind spelling)
    (valid' : isValid other spelling) : kind = other := by
  cases kind <;> cases other
  · rfl
  · exact absurd valid (not_isValid_sequential valid')
  · exact absurd valid' (not_isValid_sequential valid)
  · rfl

/-- This many hexadecimal digits. -/
def Numeral (count : Nat) (digits : List Char) : Prop :=
  digits.length = count ∧ ∀ char ∈ digits, Hex.IsDigit char

instance (count : Nat) (digits : List Char) : Decidable (Numeral count digits) :=
  @instDecidableAnd _ _ inferInstance (List.decidableBAll Hex.IsDigit digits)

/-- How the digits of an address may be written down: with a mark in front, which may be left out
on a sequential ledger. -/
inductive Spells : LedgerKind → String → List Char → Prop where
  | bare {digits : List Char} (numeral : Numeral 32 digits) :
      Spells .sequential (String.ofList digits) digits
  | marked {digits : List Char} (numeral : Numeral 32 digits) :
      Spells .sequential (String.ofList ('0' :: 'x' :: digits)) digits
  | block {digits : List Char} (numeral : Numeral 40 digits) :
      Spells .block (String.ofList ('0' :: 'x' :: digits)) digits

theorem numeral_iff {count : Nat} {digits : List Char} :
    Numeral (2 * count) digits ↔ ∃ bytes, Hex.decode? digits = some bytes ∧ bytes.length = count := by
  constructor
  · rintro ⟨size, known⟩
    obtain ⟨bytes, decoded⟩ := Hex.exists_decode?_iff.mpr ⟨by omega, known⟩
    have doubled := Hex.length_of_decode? decoded
    exact ⟨bytes, decoded, by omega⟩
  · rintro ⟨bytes, decoded, rfl⟩
    exact ⟨Hex.length_of_decode? decoded, (Hex.exists_decode?_iff.mp ⟨bytes, decoded⟩).2⟩

/-- Digits do not begin like the mark. -/
theorem digits?_of_numeral {count : Nat} {digits : List Char} (numeral : Numeral count digits) :
    digits? .sequential digits = some digits := by
  unfold digits?
  split
  case h_1 rest _ =>
    have known : Hex.IsDigit 'x' := numeral.2 'x' (by simp)
    exact absurd known (by decide)
  case h_2 => rfl
  case h_3 same => cases same

theorem digits?_cases {text digits : List Char} (found : digits? kind text = some digits) :
    text = '0' :: 'x' :: digits ∨ kind = .sequential ∧ text = digits := by
  unfold digits? at found
  split at found
  case h_1 =>
    cases found
    exact .inl rfl
  case h_2 =>
    cases found
    exact .inr ⟨rfl, rfl⟩
  case h_3 => cases found

theorem spells_iff {digits : List Char} :
    Spells kind spelling digits ↔ digits? kind spelling.toList = some digits ∧
      Numeral (2 * byteCount kind) digits := by
  constructor
  · rintro (numeral | numeral | numeral)
    · rw [String.toList_ofList]
      exact ⟨digits?_of_numeral numeral, numeral⟩
    · rw [String.toList_ofList]
      exact ⟨rfl, numeral⟩
    · rw [String.toList_ofList]
      exact ⟨rfl, numeral⟩
  · rintro ⟨found, numeral⟩
    rw [← String.ofList_toList (s := spelling)]
    rcases digits?_cases found with marked | ⟨rfl, bare⟩
    · rw [marked]
      cases kind with
      | sequential => exact .marked numeral
      | block => exact .block numeral
    · rw [bare]
      exact .bare numeral

/-- An address is read from a spelling of the digits that it would be written with. -/
theorem ofText_eq_ok_iff_spells {address : Address} :
    ofText kind spelling = .ok address ↔ ∃ digits, Spells kind spelling digits ∧
      Hex.encode address.bytes = digits.map Char.toLower ∧ address.kind = kind := by
  rw [ofText_eq_ok_iff]
  refine exists_congr fun digits => ?_
  rw [spells_iff, numeral_iff, ← Hex.decode?_eq_some_iff]
  constructor
  · rintro ⟨found, decoded, whole, own⟩
    exact ⟨⟨found, _, decoded, whole⟩, decoded, own⟩
  · rintro ⟨⟨found, bytes, decoded, whole⟩, again, own⟩
    cases decoded.symm.trans again
    exact ⟨found, decoded, whole, own⟩

/-- What stands before the digits of a canonical spelling. -/
def mark : LedgerKind → List Char
  | .sequential => []
  | .block => ['0', 'x']

theorem canonical_eq (address : Address) :
    address.canonical = String.ofList (mark address.kind ++ Hex.encode address.bytes) := by
  obtain ⟨_ | _, bytes⟩ := address <;> rfl

theorem byteCount_inj {first second : LedgerKind} :
    byteCount first = byteCount second ↔ first = second := by
  cases first <;> cases second <;> simp [byteCount]

section Spelled
variable {address : Address} {digits : List Char}

theorem encode_of_spells (read : ofText kind spelling = .ok address)
    (spells : Spells kind spelling digits) :
    Hex.encode address.bytes = digits.map Char.toLower := by
  obtain ⟨others, spells', written, -⟩ := ofText_eq_ok_iff_spells.mp read
  have same := (spells_iff.mp spells).1.symm.trans (spells_iff.mp spells').1
  cases same
  exact written

theorem canonical_of_spells (read : ofText kind spelling = .ok address)
    (spells : Spells kind spelling digits) :
    address.canonical = String.ofList (mark kind ++ digits.map Char.toLower) := by
  obtain ⟨-, -, -, -, own⟩ := ofText_eq_ok_iff.mp read
  rw [canonical_eq, own, encode_of_spells read spells]

theorem toLower_of_mem_canonical (read : ofText kind spelling = .ok address)
    (spells : Spells kind spelling digits) {char : Char}
    (member : char ∈ address.canonical.toList) : char.toLower = char := by
  rw [canonical_of_spells read spells, String.toList_ofList] at member
  rcases List.mem_append.mp member with marking | digit
  · cases kind with
    | sequential => cases marking
    | block =>
        simp only [mark, List.mem_cons, List.not_mem_nil, or_false] at marking
        rcases marking with rfl | rfl <;> rfl
  · obtain ⟨origin, _, rfl⟩ := List.mem_map.mp digit
    exact Text.toLower_toLower origin

theorem bytes_eq_iff {other : LedgerKind} {text : String} {address' : Address}
    {digits' : List Char} (read : ofText kind spelling = .ok address)
    (spells : Spells kind spelling digits) (read' : ofText other text = .ok address')
    (spells' : Spells other text digits') :
    address.bytes = address'.bytes ↔ digits.map Char.toLower = digits'.map Char.toLower := by
  rw [← Hex.encode_inj, encode_of_spells read spells, encode_of_spells read' spells']

/-- Bytes tell the kind of ledger by their number. -/
theorem canonical_eq_iff {other : LedgerKind} {text : String} {address' : Address}
    (read : ofText kind spelling = .ok address) (read' : ofText other text = .ok address') :
    address.canonical = address'.canonical ↔ address.bytes = address'.bytes := by
  obtain ⟨_, _, _, whole, own⟩ := ofText_eq_ok_iff.mp read
  obtain ⟨_, _, _, whole', own'⟩ := ofText_eq_ok_iff.mp read'
  constructor
  · intro same
    have back := ofText_canonical read
    have valid : isValid kind address.canonical := isValid_iff_exists.mpr ⟨_, back⟩
    have back' := ofText_canonical read'
    rw [← same] at back'
    have valid' : isValid other address.canonical := isValid_iff_exists.mpr ⟨_, back'⟩
    cases kind_eq_of_isValid valid valid'
    cases back.symm.trans back'
    rfl
  · intro same
    have kinds : kind = other := by
      rw [← byteCount_inj, ← whole, ← whole', same]
    rw [canonical_eq, canonical_eq, own, own', kinds, same]

end Spelled

/-- Exactly the spellings of the right number of digits are read, by no more than one kind of
ledger. The canonical spelling is the normal form of all spellings of an address. -/
theorem canonical_normal_form (kind other : LedgerKind) (spelling text : String) :
    ((∃ address, ofText kind spelling = .ok address) ↔ ∃ digits, Spells kind spelling digits) ∧
    ¬ ((∃ address, ofText .sequential spelling = .ok address) ∧
      ∃ address, ofText .block spelling = .ok address) ∧
    ∀ address digits, ofText kind spelling = .ok address → Spells kind spelling digits →
      ofText kind address.canonical = .ok address ∧
      canonical? kind address.canonical = .ok address.canonical ∧
      address.canonical = String.ofList (mark kind ++ digits.map Char.toLower) ∧
      (∀ char ∈ address.canonical.toList, char.toLower = char) ∧
      ∀ address' digits', ofText other text = .ok address' → Spells other text digits' →
        (address.canonical = address'.canonical ↔ address.bytes = address'.bytes) ∧
        (address.bytes = address'.bytes ↔
          digits.map Char.toLower = digits'.map Char.toLower) := by
  refine ⟨?_, ?_, fun address digits read spells => ?_⟩
  · constructor
    · rintro ⟨address, read⟩
      obtain ⟨digits, spells, -⟩ := ofText_eq_ok_iff_spells.mp read
      exact ⟨digits, spells⟩
    · rintro ⟨digits, spells⟩
      obtain ⟨found, numeral⟩ := spells_iff.mp spells
      obtain ⟨bytes, decoded, whole⟩ := numeral_iff.mp numeral
      exact ⟨⟨kind, bytes⟩, ofText_eq_ok_iff.mpr ⟨digits, found, decoded, whole, rfl⟩⟩
  · rintro ⟨sequential, block⟩
    exact not_isValid_sequential (isValid_iff_exists.mpr block) (isValid_iff_exists.mpr sequential)
  · have back := ofText_canonical read
    refine ⟨back, by simp only [canonical?, back], canonical_of_spells read spells,
      fun char => toLower_of_mem_canonical read spells, fun address' digits' read' spells' => ?_⟩
    exact ⟨canonical_eq_iff read read', bytes_eq_iff read spells read' spells'⟩

/-- A marked spelling in capital letters and a bare one in small letters denote one address. -/
theorem canonical_normal_form_sample :
    let digits := "F72589B71FF4F8D139674A3F7369C69B".toList
    let small := "f72589b71ff4f8d139674a3f7369c69b"
    let address : Address := ⟨.sequential,
      [247, 37, 137, 183, 31, 244, 248, 209, 57, 103, 74, 63, 115, 105, 198, 155]⟩
    ofText .sequential "0xF72589B71FF4F8D139674A3F7369C69B" = .ok address ∧
      Spells .sequential "0xF72589B71FF4F8D139674A3F7369C69B" digits ∧
      ofText .sequential small = .ok address ∧ Spells .sequential small small.toList ∧
      address.canonical = small ∧
      (address.bytes = address.bytes ↔
        digits.map Char.toLower = small.toList.map Char.toLower) := by
  intro digits small address
  have read : ofText .sequential "0xF72589B71FF4F8D139674A3F7369C69B" = .ok address := rfl
  have spells : Spells .sequential "0xF72589B71FF4F8D139674A3F7369C69B" digits :=
    spells_iff.mpr ⟨by decide +kernel, by decide +kernel⟩
  have spells' : Spells .sequential small small.toList :=
    spells_iff.mpr ⟨by decide +kernel, by decide +kernel⟩
  obtain ⟨back, -, form, -, both⟩ :=
    (canonical_normal_form .sequential .sequential _ small).2.2 address digits read spells
  have same : address.canonical = small := form.trans (by decide +kernel)
  have read' : ofText .sequential small = .ok address := same ▸ back
  exact ⟨read, spells, read', spells', same, (both address _ read' spells').2⟩

end Passbook.Address
