import Passbook.Amount
import Passbook.Proofs.Text.Decimal
/-!
The text of an amount. The digits before the point and the digits behind it are together the digits
of the amount, behind zeros if there are too few; and however the amount compares with one unit of
its token, the point stands behind a digit and before as many as there are places.
-/

namespace Passbook.Amount

/-- The digits of an amount, and in front of them the zeros that it takes for one digit to be left
before the point. -/
def padded (amount decimals : Nat) : List Char :=
  let digits := Nat.toDigits 10 amount
  List.replicate (decimals + 1 - digits.length) '0' ++ digits

/-- How many of the padded digits stand before the point. -/
def pointPlace (amount decimals : Nat) : Nat := (padded amount decimals).length - decimals

def whole (amount decimals : Nat) : List Char :=
  (padded amount decimals).take (pointPlace amount decimals)

def fraction (amount decimals : Nat) : List Char :=
  (padded amount decimals).drop (pointPlace amount decimals)

section Digits
variable (amount decimals : Nat)

theorem whole_append_fraction :
    whole amount decimals ++ fraction amount decimals = padded amount decimals :=
  List.take_append_drop ..

theorem lt_length_padded : decimals < (padded amount decimals).length := by
  simp only [padded, List.length_append, List.length_replicate]
  omega

theorem isDigit_of_mem_padded {char : Char} (member : char ∈ padded amount decimals) :
    char.isDigit = true := by
  rcases List.mem_append.mp member with zero | digit
  · rw [(List.mem_replicate.mp zero).2]
    rfl
  · exact Decimal.isDigit_of_mem digit

theorem ofDigits_padded : Decimal.ofDigits (padded amount decimals) = amount := by
  rw [padded, Decimal.ofDigits_zeros, Decimal.ofDigits_toDigits]

/-- An amount with more digits than places has no zeros in front. -/
theorem padded_of_lt (many : decimals < (Nat.toDigits 10 amount).length) :
    padded amount decimals = Nat.toDigits 10 amount := by
  have none : decimals + 1 - (Nat.toDigits 10 amount).length = 0 := by omega
  rw [padded, none]
  rfl

theorem pointPlace_pos : 0 < pointPlace amount decimals :=
  Nat.sub_pos_of_lt (lt_length_padded amount decimals)

theorem length_whole : (whole amount decimals).length = pointPlace amount decimals := by
  rw [whole, List.length_take, pointPlace]
  omega

theorem length_fraction : (fraction amount decimals).length = decimals := by
  have long := lt_length_padded amount decimals
  rw [fraction, List.length_drop, pointPlace]
  omega

/-- An amount with no more digits than places has a lone zero before the point. -/
theorem whole_of_le (few : (Nat.toDigits 10 amount).length ≤ decimals) :
    whole amount decimals = ['0'] := by
  have zeros : decimals + 1 - (Nat.toDigits 10 amount).length =
      decimals - (Nat.toDigits 10 amount).length + 1 := by omega
  have place : pointPlace amount decimals = 1 := by
    simp only [pointPlace, padded, List.length_append, List.length_replicate]
    omega
  rw [whole, place, padded, zeros, List.replicate_succ]
  rfl

theorem unpadded_whole : Decimal.Unpadded (whole amount decimals) where
  numeral := by
    constructor
    · apply List.ne_nil_of_length_pos
      rw [length_whole]
      exact pointPlace_pos amount decimals
    · intro char member
      exact isDigit_of_mem_padded amount decimals (List.mem_of_mem_take member)
  lone begun := by
    have first := pointPlace_pos amount decimals
    rcases Nat.lt_or_ge decimals (Nat.toDigits 10 amount).length with many | few
    · rw [whole, padded_of_lt amount decimals many] at begun ⊢
      rw [List.head?_take, if_neg (Nat.ne_of_gt first)] at begun
      rw [(Decimal.unpadded_toDigits amount).lone begun, List.take_of_length_le first]
    · exact whole_of_le amount decimals few

theorem isDigit_of_mem_fraction {char : Char} (member : char ∈ fraction amount decimals) :
    char.isDigit = true :=
  isDigit_of_mem_padded amount decimals (List.mem_of_mem_drop member)

/-- An amount is read back from its digits on both sides of the point. -/
theorem ofDigits_whole_fraction :
    Decimal.ofDigits (whole amount decimals) * 10 ^ decimals +
      Decimal.ofDigits (fraction amount decimals) = amount := by
  have split := Decimal.ofDigits_append (whole amount decimals) (fraction amount decimals)
  rw [whole_append_fraction, ofDigits_padded, length_fraction] at split
  exact split.symm

/-- The zero before the point says that the amount is less than one unit of the token. -/
theorem whole_eq_zero_iff : whole amount decimals = ['0'] ↔ amount < 10 ^ decimals := by
  have value := ofDigits_whole_fraction amount decimals
  have small := Decimal.ofDigits_lt fun _ => isDigit_of_mem_fraction amount decimals
  rw [length_fraction] at small
  rw [(unpadded_whole amount decimals).eq_zero_iff]
  constructor
  · intro zero
    rw [zero, Nat.zero_mul, Nat.zero_add] at value
    rwa [← value]
  · intro less
    apply Nat.eq_zero_of_not_pos
    intro positive
    have unit := Nat.mul_le_mul_right (10 ^ decimals) positive
    omega

end Digits

theorem toList_format {amount decimals : Nat} (placed : decimals ≠ 0) :
    (format amount decimals).toList = whole amount decimals ++ '.' :: fraction amount decimals := by
  rw [format, if_neg placed, String.toList_ofList]
  rfl

/-- Whatever its places, an amount is read back from the digits of its text. -/
theorem ofDigits_filter_format (amount decimals : Nat) :
    Decimal.ofDigits ((format amount decimals).toList.filter Char.isDigit) = amount := by
  by_cases placed : decimals = 0
  · rw [format, if_pos placed, String.toList_ofList,
      List.filter_eq_self.mpr fun _ => Decimal.isDigit_of_mem, Decimal.ofDigits_toDigits]
  · have point : ¬ '.'.isDigit = true := by decide
    rw [toList_format placed, List.filter_append, List.filter_cons_of_neg point,
      ← List.filter_append, whole_append_fraction,
      List.filter_eq_self.mpr fun _ => isDigit_of_mem_padded amount decimals, ofDigits_padded]

theorem format_inj {amount other decimals : Nat} :
    format other decimals = format amount decimals ↔ other = amount := by
  constructor
  · intro same
    rw [← ofDigits_filter_format other decimals, same, ofDigits_filter_format]
  · rintro rfl
    rfl

/-- The text of an amount is the amount. Without places it is the bare numeral. With places there
are just so many digits behind the point, and before it a numeral without a zero too many, which is
zero for less than one unit; both together make the amount. The point falls among the padded digits,
behind one at least, and different amounts never share a text. -/
theorem format_exact (amount decimals : Nat) :
    format amount 0 = toString amount ∧
    (decimals ≠ 0 → ∃ whole fraction,
      (format amount decimals).toList = whole ++ '.' :: fraction ∧
      padded amount decimals = whole ++ fraction ∧
      Decimal.Unpadded whole ∧ (whole = ['0'] ↔ amount < 10 ^ decimals) ∧
      Decimal.Numeral fraction ∧ fraction.length = decimals ∧
      Decimal.ofDigits whole * 10 ^ decimals + Decimal.ofDigits fraction = amount) ∧
    decimals < (padded amount decimals).length ∧
    ∀ other, format other decimals = format amount decimals ↔ other = amount := by
  refine ⟨rfl, fun placed => ?_, lt_length_padded amount decimals, fun other => format_inj⟩
  have written : fraction amount decimals ≠ [] := by
    apply List.ne_nil_of_length_pos
    rw [length_fraction]
    exact Nat.pos_of_ne_zero placed
  exact ⟨whole amount decimals, fraction amount decimals, toList_format placed,
    (whole_append_fraction amount decimals).symm, unpadded_whole amount decimals,
    whole_eq_zero_iff amount decimals,
    ⟨written, fun _ => isDigit_of_mem_fraction amount decimals⟩,
    length_fraction amount decimals, ofDigits_whole_fraction amount decimals⟩

/-- One base unit short of a unit of the token, and the unit itself. -/
theorem format_exact_sample :
    format 999999 6 = "0.999999" ∧ format 1000000 6 = "1.000000" ∧ format 0 6 = "0.000000" ∧
      (6 ≠ 0 ∧ ∃ whole fraction, (format 1000000 6).toList = whole ++ '.' :: fraction ∧
        (whole = ['0'] ↔ 1000000 < 10 ^ 6) ∧ fraction.length = 6 ∧
        Decimal.ofDigits whole * 10 ^ 6 + Decimal.ofDigits fraction = 1000000) := by
  have placed : 6 ≠ 0 := by decide
  obtain ⟨whole, fraction, text, -, -, less, -, length, value⟩ :=
    (format_exact 1000000 6).2.1 placed
  exact ⟨by decide +kernel, by decide +kernel, by decide +kernel, placed, whole, fraction, text,
    less, length, value⟩

end Passbook.Amount
