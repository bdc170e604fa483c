import Mathlib.Tactic.SplitIfs
import Passbook.Proofs.Text.Folded
/-!
The bytes of texts. Texts are in the order of their bytes, and the case of ASCII letters is as well
told from bytes as from characters, since no other character has a byte in common with those.
-/

namespace Passbook.Text

def bytes (text : String) : List UInt8 := text.toByteArray.data.toList

theorem bytes_eq (text : String) : bytes text = text.toList.flatMap String.utf8EncodeChar := by
  rw [bytes, ← String.utf8Encode_toList, List.utf8Encode]
  simp

section Order

theorem div_lt_or_mod_lt {first second : Nat} (less : first < second) (base : Nat) :
    first / base < second / base ∨
      first / base = second / base ∧ first % base < second % base := by
  rcases Nat.lt_or_eq_of_le (Nat.div_le_div_right (c := base) (Nat.le_of_lt less)) with high | same
  · exact .inl high
  · refine .inr ⟨same, ?_⟩
    have left := Nat.div_add_mod first base
    have right := Nat.div_add_mod second base
    rw [same] at left
    omega

/-- Of two characters the one that comes first has the lower byte where their bytes part. -/
theorem utf8EncodeChar_append_lt {first second : Char} (less : first < second)
    (rest rest' : List UInt8) :
    String.utf8EncodeChar first ++ rest < String.utf8EncodeChar second ++ rest' := by
  have codes : first.val.toNat < second.val.toNat := less
  have last : second.val.toNat < 0x110000 := by
    rcases second.valid with low | high <;> omega
  -- The codes part in one of the groups of bits that become a byte each.
  have upper := div_lt_or_mod_lt codes 262144
  have middle := div_lt_or_mod_lt codes 4096
  have lower := div_lt_or_mod_lt codes 64
  unfold String.utf8EncodeChar
  dsimp only
  split_ifs
  all_goals
    simp (disch := omega) only [List.cons_append, List.nil_append, List.cons_lt_cons_iff,
      UInt8.lt_iff_toNat_lt, ← UInt8.toNat_inj, UInt8.toNat_ofNat', Nat.mod_eq_of_lt]
    omega

theorem flatMap_utf8EncodeChar_lt {first second : List Char} (less : first < second) :
    first.flatMap String.utf8EncodeChar < second.flatMap String.utf8EncodeChar := by
  induction less with
  | @nil char rest =>
      obtain ⟨byte, bytes, encoded⟩ :=
        List.exists_cons_of_ne_nil (String.utf8EncodeChar_ne_nil (c := char))
      rw [List.flatMap_nil, List.flatMap_cons, encoded]
      exact .nil
  | rel less =>
      simp only [List.flatMap_cons]
      exact utf8EncodeChar_append_lt less _ _
  | cons _ ih =>
      simp only [List.flatMap_cons]
      exact List.append_left_lt ih

theorem bytes_lt {first second : String} (less : first < second) : bytes first < bytes second := by
  rw [bytes_eq, bytes_eq]
  exact flatMap_utf8EncodeChar_lt less

end Order

section Case

/-- A byte that stands for a capital ASCII letter becomes that of the small one. -/
def smallByte (byte : UInt8) : UInt8 := if 65 ≤ byte ∧ byte ≤ 90 then byte + 32 else byte

/-- The bytes of a text in small ASCII letters. -/
def smallBytes (text : String) : List UInt8 := (bytes text).map smallByte

/-- No byte of any other character is that of a capital letter. -/
theorem smallByte_of_mem {char : Char} (other : ¬ (65 ≤ char.toNat ∧ char.toNat ≤ 90))
    {byte : UInt8} (member : byte ∈ String.utf8EncodeChar char) : smallByte byte = byte := by
  refine if_neg fun capital => other ?_
  obtain ⟨low, high⟩ := capital
  rw [UInt8.le_iff_toNat_le] at low high
  change 65 ≤ byte.toNat at low
  change byte.toNat ≤ 90 at high
  change 65 ≤ char.val.toNat ∧ char.val.toNat ≤ 90
  unfold String.utf8EncodeChar at member
  dsimp only at member
  split_ifs at member
  all_goals
    simp only [List.mem_cons, List.not_mem_nil, or_false, ← UInt8.toNat_inj,
      UInt8.toNat_ofNat'] at member
    omega

theorem utf8EncodeChar_toLower (char : Char) :
    String.utf8EncodeChar char.toLower = (String.utf8EncodeChar char).map smallByte := by
  rcases toLower_cases char with ⟨same, other⟩ | ⟨letter, rfl⟩
  · rw [same, List.map_congr_left fun _ member => smallByte_of_mem other member, List.map_id']
  · revert letter
    decide

theorem smallBytes_eq (text : String) :
    smallBytes text = bytes (String.ofList (text.toList.map Char.toLower)) := by
  rw [smallBytes, bytes_eq, bytes_eq, String.toList_ofList, List.map_flatMap, List.flatMap_map]
  simp only [utf8EncodeChar_toLower]

end Case

theorem compared_folded {text : String} (plain : '\x00' ∉ text.toList) :
    (folded text).compared = String.ofList (text.toList.map Char.toLower) := by
  rw [folded, throughNull_of_not_mem plain]

theorem Folded.compare_eq_lt_iff {first second : Folded} : compare first second = .lt ↔
    first.compared < second.compared ∨
      first.compared = second.compared ∧ first.size < second.size := by
  have parts : compare first second =
    (compare first.compared second.compared).then (compare first.size second.size) := rfl
  rw [parts, Ordering.then_eq_lt, Std.LawfulEqCmp.compare_eq_iff_eq, Nat.compare_eq_lt]
  exact or_congr_left compareOfLessAndEq_eq_lt

/-- Texts without null characters are kept in the order of their bytes in small letters. -/
theorem smallBytes_lt {first second : String} (plain : '\x00' ∉ first.toList)
    (plain' : '\x00' ∉ second.toList) (less : compare (folded first) (folded second) = .lt) :
    smallBytes first < smallBytes second := by
  rw [smallBytes_eq, smallBytes_eq, ← compared_folded plain, ← compared_folded plain']
  rcases Folded.compare_eq_lt_iff.mp less with below | ⟨same, shorter⟩
  · exact bytes_lt below
  · rw [compared_folded plain, compared_folded plain'] at same
    have alike : SameButCase first second := String.ofList_inj.mp same
    exact absurd (utf8ByteSize_eq_of_sameButCase alike) (Nat.ne_of_lt shorter)

end Passbook.Text
