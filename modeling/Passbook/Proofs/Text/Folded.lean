import Passbook.Text.Folded
/-!
Texts that differ in the case of ASCII letters only. They fold alike, and texts without null
characters fold alike for no other reason.
-/

namespace Passbook.Text

/-- The texts differ at most in the case of ASCII letters. -/
def SameButCase (first second : String) : Prop :=
  first.toList.map Char.toLower = second.toList.map Char.toLower

instance (first second : String) : Decidable (SameButCase first second) :=
  inferInstanceAs (Decidable (first.toList.map Char.toLower = second.toList.map Char.toLower))

/-- Only the twenty-six capital letters change. -/
theorem toLower_cases (char : Char) :
    (char.toLower = char ∧ ¬ (65 ≤ char.toNat ∧ char.toNat ≤ 90)) ∨
      ∃ letter : Fin 26, char = Char.ofNat (65 + letter) := by
  by_cases capital : 65 ≤ char.toNat ∧ char.toNat ≤ 90
  · refine .inr ⟨⟨char.toNat - 65, by omega⟩, ?_⟩
    rw [show 65 + (char.toNat - 65) = char.toNat by omega, Char.ofNat_toNat]
  · refine .inl ⟨dif_neg fun upper => capital ?_, capital⟩
    exact ⟨UInt32.le_iff_toNat_le.mp upper.1, UInt32.le_iff_toNat_le.mp upper.2⟩

theorem toLower_toLower (char : Char) : char.toLower.toLower = char.toLower := by
  rcases toLower_cases char with ⟨same, -⟩ | ⟨letter, rfl⟩
  · rw [same, same]
  · revert letter
    decide

theorem utf8Size_toLower (char : Char) : char.toLower.utf8Size = char.utf8Size := by
  rcases toLower_cases char with ⟨same, -⟩ | ⟨letter, rfl⟩
  · rw [same]
  · revert letter
    decide

theorem toLower_eq_null_iff (char : Char) : char.toLower = '\x00' ↔ char = '\x00' := by
  rcases toLower_cases char with ⟨same, -⟩ | ⟨letter, rfl⟩
  · rw [same]
  · revert letter
    decide

theorem throughNull_map_toLower (chars : List Char) :
    throughNull (chars.map Char.toLower) = (throughNull chars).map Char.toLower := by
  induction chars with
  | nil => rfl
  | cons char rest ih =>
      by_cases null : char = '\x00'
      · simp [throughNull, null, (toLower_eq_null_iff _).mpr]
      · have other : char.toLower ≠ '\x00' := fun same => null ((toLower_eq_null_iff char).mp same)
        simp [throughNull, null, other, ih]

theorem utf8ByteSize_map_toLower (chars : List Char) :
    (String.ofList (chars.map Char.toLower)).utf8ByteSize =
      (String.ofList chars).utf8ByteSize := by
  have joined : ∀ (char : Char) (rest : List Char),
      String.ofList (char :: rest) = String.singleton char ++ String.ofList rest := by
    intro char rest
    rw [← List.singleton_append, String.ofList_append]
    rfl
  induction chars with
  | nil => rfl
  | cons char rest ih =>
      rw [List.map_cons, joined, joined, String.utf8ByteSize_append, String.utf8ByteSize_append,
        ih, String.utf8ByteSize_singleton, String.utf8ByteSize_singleton, utf8Size_toLower]

theorem folded_eq_of_sameButCase {first second : String} (same : SameButCase first second) :
    folded first = folded second := by
  have compared : (throughNull first.toList).map Char.toLower =
      (throughNull second.toList).map Char.toLower := by
    rw [← throughNull_map_toLower, ← throughNull_map_toLower, same]
  have size : first.utf8ByteSize = second.utf8ByteSize := by
    have first_size := utf8ByteSize_map_toLower first.toList
    have second_size := utf8ByteSize_map_toLower second.toList
    rw [String.ofList_toList] at first_size second_size
    rw [← first_size, ← second_size, same]
  rw [folded, folded, compared, size]

/-- The texts are equal as a store compares them: but for the case of ASCII letters, or so up to a
null character in both and of one length in bytes after it. -/
def Matches (first second : String) : Prop :=
  SameButCase first second ∨ ∃ head tail head' tail' : String,
    first = head ++ "\x00" ++ tail ∧ second = head' ++ "\x00" ++ tail' ∧
      SameButCase head head' ∧ tail.utf8ByteSize = tail'.utf8ByteSize

theorem throughNull_of_not_mem {chars : List Char} (plain : '\x00' ∉ chars) :
    throughNull chars = chars := by
  induction chars with
  | nil => rfl
  | cons char rest ih =>
      have other : char ≠ '\x00' := (List.ne_of_not_mem_cons plain).symm
      rw [throughNull, if_neg other, ih (List.not_mem_of_not_mem_cons plain)]

theorem throughNull_append_null (head tail : List Char) :
    throughNull (head ++ '\x00' :: tail) = throughNull (head ++ ['\x00']) := by
  induction head with
  | nil => simp [throughNull]
  | cons char rest ih => simp only [List.cons_append, throughNull, ih]

theorem throughNull_eq_append {head tail : List Char} (plain : '\x00' ∉ head) :
    throughNull (head ++ '\x00' :: tail) = head ++ ['\x00'] := by
  induction head with
  | nil => simp [throughNull]
  | cons char rest ih =>
      have other : char ≠ '\x00' := (List.ne_of_not_mem_cons plain).symm
      rw [List.cons_append, throughNull, if_neg other,
        ih (List.not_mem_of_not_mem_cons plain), List.cons_append]

theorem null_mem_throughNull_iff {chars : List Char} :
    '\x00' ∈ throughNull chars ↔ '\x00' ∈ chars := by
  induction chars with
  | nil => rfl
  | cons char rest ih =>
      by_cases null : char = '\x00'
      · simp [throughNull, null]
      · simp [throughNull, null, ih]

theorem null_mem_map_toLower_iff {chars : List Char} :
    '\x00' ∈ chars.map Char.toLower ↔ '\x00' ∈ chars := by
  simp [List.mem_map, toLower_eq_null_iff]

/-- Of texts that compare alike both have a null character, or none. -/
theorem null_mem_iff_of_compared {first second : List Char}
    (compared : (throughNull first).map Char.toLower = (throughNull second).map Char.toLower) :
    '\x00' ∈ first ↔ '\x00' ∈ second := by
  rw [← null_mem_throughNull_iff, ← null_mem_map_toLower_iff, compared, null_mem_map_toLower_iff,
    null_mem_throughNull_iff]

/-- A text is compared as far as its first null character. -/
theorem exists_split_of_null {text : String} (null : '\x00' ∈ text.toList) :
    ∃ head tail : String, text = head ++ "\x00" ++ tail ∧
      throughNull text.toList = head.toList ++ ['\x00'] := by
  obtain ⟨head, tail, split, plain⟩ := List.eq_append_cons_of_mem null
  refine ⟨String.ofList head, String.ofList tail, ?_, ?_⟩
  · rw [← String.toList_inj, split]
    simp
  · rw [split, throughNull_eq_append plain, String.toList_ofList]

theorem compared_append_null (head tail : String) :
    (throughNull (head ++ "\x00" ++ tail).toList).map Char.toLower =
      throughNull (head.toList.map Char.toLower ++ ['\x00']) := by
  have chars : (head ++ "\x00" ++ tail).toList = head.toList ++ '\x00' :: tail.toList := by simp
  rw [chars, throughNull_append_null, ← throughNull_map_toLower, List.map_append]
  rfl

theorem folded_eq_iff {first second : String} :
    folded first = folded second ↔
      (throughNull first.toList).map Char.toLower = (throughNull second.toList).map Char.toLower ∧
        first.utf8ByteSize = second.utf8ByteSize := by
  simp [folded, String.ofList_inj]

theorem utf8ByteSize_eq_of_sameButCase {first second : String}
    (same : SameButCase first second) : first.utf8ByteSize = second.utf8ByteSize :=
  congrArg Folded.size (folded_eq_of_sameButCase same)

/-- Texts are looked up as what they have in common if they match. -/
theorem folded_eq_iff_matches {first second : String} :
    folded first = folded second ↔ Matches first second := by
  rw [folded_eq_iff]
  constructor
  · rintro ⟨compared, size⟩
    have both := null_mem_iff_of_compared compared
    by_cases null : '\x00' ∈ first.toList
    · obtain ⟨head, tail, text, through⟩ := exists_split_of_null null
      obtain ⟨head', tail', text', through'⟩ := exists_split_of_null (both.mp null)
      rw [through, through', List.map_append, List.map_append] at compared
      have heads : SameButCase head head' := List.append_cancel_right compared
      refine .inr ⟨_, _, _, _, text, text', heads, ?_⟩
      -- What comes before is of one size, so what comes after is too.
      rw [text, text'] at size
      simp only [String.utf8ByteSize_append] at size
      have sizes := utf8ByteSize_eq_of_sameButCase heads
      omega
    · rw [throughNull_of_not_mem null, throughNull_of_not_mem ((not_congr both).mp null)] at compared
      exact .inl compared
  · rintro (same | ⟨head, tail, head', tail', rfl, rfl, heads, size⟩)
    · exact folded_eq_iff.mp (folded_eq_of_sameButCase same)
    · rw [compared_append_null, compared_append_null, heads]
      simp only [String.utf8ByteSize_append, size, utf8ByteSize_eq_of_sameButCase heads, true_and]

instance (first second : String) : Decidable (Matches first second) :=
  decidable_of_iff (folded first = folded second) folded_eq_iff_matches

theorem matches_iff_of_plain {party address : String} (plain : '\x00' ∉ address.toList) :
    Matches party address ↔ SameButCase party address := by
  constructor
  · rintro (same | ⟨_, _, _, _, _, rfl, _⟩)
    · exact same
    · simp at plain
  · exact .inl

theorem folded_eq_iff_of_plain {first second : String} (plain : '\x00' ∉ second.toList) :
    folded first = folded second ↔ SameButCase first second :=
  folded_eq_iff_matches.trans (matches_iff_of_plain plain)

end Passbook.Text
