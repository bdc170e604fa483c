import Mathlib.Algebra.Group.Nat.Defs
import Mathlib.Data.List.TakeWhile
import Passbook.Instant.Reader
import Passbook.Proofs.Instant
import Passbook.Proofs.Instant.Civil
import Passbook.Proofs.Text.Decimal
/-!
An instant is read back from its text: years of any sign and size, fractions of any length, and
leap seconds. The reader would accept more than is written, so each part is read where the part
after it begins.
-/

namespace Passbook.Instant

open Text (isBlank dropBlanks)

theorem not_isBlank_of_isDigit {char : Char} (digit : char.isDigit = true) :
    isBlank char = false := by
  have code := Decimal.code_of_isDigit digit
  grind [isBlank]

theorem dropBlanks_of_digit {char : Char} (digit : char.isDigit = true) (rest : List Char) :
    dropBlanks (char :: rest) = char :: rest := by
  rw [dropBlanks, List.dropWhile_cons_of_neg (by simp [not_isBlank_of_isDigit digit])]

section Padded

variable {width value : Nat}

theorem isDigit_of_mem_padded {char : Char} (member : char ∈ padded width value) :
    char.isDigit = true := by
  rcases List.mem_append.mp member with zero | digit
  · rw [(List.mem_replicate.mp zero).2]
    rfl
  · exact Decimal.isDigit_of_mem digit

@[simp] theorem ofDigits_padded (width value : Nat) :
    Decimal.ofDigits (padded width value) = value := by
  rw [padded, Decimal.ofDigits_zeros, Decimal.ofDigits_toDigits]

theorem length_padded (positive : 0 < width) (small : value < 10 ^ width) :
    (padded width value).length = width := by
  have short : (Nat.toDigits 10 value).length ≤ width :=
    (Nat.length_toDigits_le_iff (by decide) positive).mpr small
  simp only [padded, List.length_append, List.length_replicate]
  omega

theorem padded_ne_nil (width value : Nat) : padded width value ≠ [] := by
  simp [padded, Nat.toDigits_ne_nil]

theorem exists_padded (width value : Nat) :
    ∃ digit others, padded width value = digit :: others ∧ digit.isDigit = true := by
  have numeral : ∀ char ∈ padded width value, char.isDigit = true := fun _ =>
    isDigit_of_mem_padded
  cases text : padded width value with
  | nil => exact absurd text (padded_ne_nil width value)
  | cons digit others =>
      rw [text] at numeral
      exact ⟨digit, others, rfl, numeral digit List.mem_cons_self⟩

theorem dropBlanks_padded (width value : Nat) (rest : List Char) :
    dropBlanks (padded width value ++ rest) = padded width value ++ rest := by
  obtain ⟨digit, others, text, numeral⟩ := exists_padded width value
  rw [text]
  exact dropBlanks_of_digit numeral (others ++ rest)

/-- As many digits as are looked for. -/
theorem number?_padded (positive : 0 < width) (small : value < 10 ^ width) (rest : List Char) :
    number? width (padded width value ++ rest) = some (value, rest) := by
  have length := length_padded positive small
  have taken : (padded width value ++ rest).take width = padded width value := by
    rw [List.take_append_of_le_length (Nat.le_of_eq length.symm), List.take_of_length_le]
    exact Nat.le_of_eq length
  have digits : (padded width value).takeWhile Char.isDigit = padded width value :=
    List.takeWhile_eq_self_iff.mpr fun _ => isDigit_of_mem_padded
  simp [number?, taken, digits, padded_ne_nil]

/-- Any number of digits, up to where they end. -/
theorem number?_stops (width value : Nat) {rest : List Char} (stops : Decimal.Stops rest) :
    number? (padded width value ++ rest).length (padded width value ++ rest) =
      some (value, rest) := by
  have digits : (padded width value ++ rest).takeWhile Char.isDigit = padded width value :=
    Decimal.takeWhile_of_stops (fun _ => isDigit_of_mem_padded) stops
  simp only [number?, List.take_length, digits, if_neg (padded_ne_nil width value),
    ofDigits_padded, List.drop_left]

theorem field?_padded {low high : Nat} (above : low ≤ value) (below : value ≤ high)
    (small : high < 100) (rest : List Char) :
    field? 2 low high (padded 2 value ++ rest) = some (value, rest) := by
  rw [field?, dropBlanks_padded, number?_padded (by decide) (by omega)]
  simp [above, below]

end Padded

theorem year?_padded {value : Nat} (small : value < 10 ^ 4) (rest : List Char) :
    year? (padded 4 value ++ rest) = some ((value : Int), rest) := by
  have read := number?_padded (by decide) small rest
  have solid := dropBlanks_padded 4 value rest
  obtain ⟨digit, others, text, numeral⟩ := exists_padded 4 value
  rw [text, List.cons_append] at read solid
  unfold year?
  rw [text, List.cons_append, solid]
  split
  case h_1 => cases ‹digit :: _ = _›; cases numeral
  case h_2 => cases ‹digit :: _ = _›; cases numeral
  case h_3 => rw [read]; rfl

theorem year?_yearText (year : Int) (rest : List Char) :
    year? (yearText year ++ '-' :: rest) = some (year, '-' :: rest) := by
  have stops : Decimal.Stops ('-' :: rest) := by
    intro char first
    cases first
    rfl
  have read := number?_stops 4 year.natAbs stops
  unfold yearText
  split
  case isTrue short =>
    have whole : ((year.toNat : Nat) : Int) = year := Int.toNat_of_nonneg short.1
    rw [year?_padded (by omega), whole]
  case isFalse long =>
    split
    case isTrue negative =>
      have size : -(year.natAbs : Int) = year := by omega
      have signed : dropBlanks ('-' :: padded 4 year.natAbs ++ '-' :: rest) =
          '-' :: (padded 4 year.natAbs ++ '-' :: rest) := rfl
      unfold year?
      rw [signed]
      simp only [read, Option.map_some, size]
    case isFalse positive =>
      have size : (year.natAbs : Int) = year := by omega
      have signed : dropBlanks ('+' :: padded 4 year.natAbs ++ '-' :: rest) =
          '+' :: (padded 4 year.natAbs ++ '-' :: rest) := rfl
      unfold year?
      rw [signed]
      simp only [read, Option.map_some, size]

theorem daysInMonth_le (year : Int) (month : Nat) : Date.daysInMonth year month ≤ 31 := by
  unfold Date.daysInMonth
  repeat' split
  all_goals decide

theorem date?_print {date : Date} (valid : date.Valid) (rest : List Char) :
    date? (yearText date.year ++ '-' :: padded 2 date.month ++ '-' :: padded 2 date.day ++ rest) =
      some (date, rest) := by
  obtain ⟨monthPositive, monthSmall, dayPositive, daySmall⟩ := valid
  have dayBound : date.day ≤ 31 := Nat.le_trans daySmall (daysInMonth_le _ _)
  have mark (rest : List Char) : mark? '-' ('-' :: rest) = some rest := rfl
  simp only [date?, List.append_assoc, List.cons_append, year?_yearText, mark, bind,
    Option.bind_some, field?_padded monthPositive monthSmall (by decide),
    field?_padded dayPositive dayBound (by decide)]

theorem fraction?_padded {width value : Nat} (positive : 0 < width) (short : width ≤ 9)
    (small : value < 10 ^ width) :
    fraction? ('.' :: padded width value ++ ['Z']) = some (value * 10 ^ (9 - width), ['Z']) := by
  have length := length_padded positive small
  have stops : Decimal.Stops ['Z'] := by
    intro char first
    cases first
    rfl
  have digits : (padded width value ++ ['Z']).takeWhile Char.isDigit = padded width value :=
    Decimal.takeWhile_of_stops (fun _ => isDigit_of_mem_padded) stops
  have kept : (padded width value).take 9 = padded width value :=
    List.take_of_length_le (by omega)
  simp [fraction?, digits, kept, padded_ne_nil, length, -List.append_assoc]

theorem fraction?_fractionText {nano : Nat} (small : nano < 1000000000) :
    fraction? (fractionText nano ++ ['Z']) = some (nano, ['Z']) := by
  unfold fractionText
  split
  case isTrue none => rw [none]; rfl
  case isFalse =>
    split
    case isTrue millis =>
      have whole : nano / 1000000 * 10 ^ (9 - 3) = nano := by omega
      rw [fraction?_padded (by decide) (by decide) (by omega), whole]
    case isFalse =>
      split
      case isTrue micros =>
        have whole : nano / 1000 * 10 ^ (9 - 6) = nano := by omega
        rw [fraction?_padded (by decide) (by decide) (by omega), whole]
      case isFalse =>
        rw [fraction?_padded (by decide) (by decide) (by omega), Nat.sub_self, Nat.pow_zero,
          Nat.mul_one]

/-- Second 60 is read as the second before it. -/
theorem time?_print {hour minute second nano inMinute total : Nat} (hours : hour ≤ 23)
    (minutes : minute ≤ 59) (seconds : second ≤ 60) (small : nano < 1000000000)
    (same : (if second = 60 then (59, nano + 1000000000) else (second, nano)) =
      (inMinute, total)) :
    time? (padded 2 hour ++ ':' :: padded 2 minute ++ ':' :: padded 2 second ++
      fractionText nano ++ ['Z']) =
      some ((hour * 3600 + minute * 60 + inMinute, total), ['Z']) := by
  have mark (rest : List Char) : mark? ':' (':' :: rest) = some rest := rfl
  simp only [time?, List.append_assoc, List.cons_append, mark, bind, Option.bind_some,
    field?_padded (Nat.zero_le hour) hours (by decide),
    field?_padded (Nat.zero_le minute) minutes (by decide),
    field?_padded (Nat.zero_le second) seconds (by decide), fraction?_fractionText small]
  by_cases leap : second = 60
  · rw [if_pos leap] at same ⊢
    cases same
    rfl
  · rw [if_neg leap] at same ⊢
    cases same
    rfl

/-- The second of a minute and the fraction as they are written, and as they are read. -/
theorem second_print (instant : Instant) :
    ∃ second nano, second ≤ 60 ∧ nano < 1000000000 ∧
      instant.print = yearText (Date.ofDay (instant.second / 86400)).year ++
        '-' :: padded 2 (Date.ofDay (instant.second / 86400)).month ++
        '-' :: padded 2 (Date.ofDay (instant.second / 86400)).day ++
        'T' :: (padded 2 ((instant.second % 86400).toNat / 3600) ++
          ':' :: padded 2 ((instant.second % 86400).toNat / 60 % 60) ++
          ':' :: padded 2 second ++ fractionText nano ++ ['Z']) ∧
      (if second = 60 then (59, nano + 1000000000) else (second, nano)) =
        ((instant.second % 86400).toNat % 60, instant.nano) := by
  have bounded := instant.nano_lt
  have atEnd := instant.leap_at_minute_end
  by_cases leap : 1000000000 ≤ instant.nano
  · refine ⟨60, instant.nano - 1000000000, by decide, by omega, ?_, ?_⟩
    · have last : (instant.second % 86400).toNat % 60 + 1 = 60 := by
        have := atEnd leap
        omega
      simp only [print, leap, if_true, last]
      simp
    · have last : 59 = (instant.second % 86400).toNat % 60 := by
        have := atEnd leap
        omega
      have nano : instant.nano - 1000000000 + 1000000000 = instant.nano := by omega
      rw [if_pos rfl, nano, ← last]
  · refine ⟨(instant.second % 86400).toNat % 60, instant.nano, by omega, by omega, ?_, ?_⟩
    · simp [print, leap]
    · rw [if_neg (by omega)]

theorem read?_print (instant : Instant) : read? instant.print = some instant := by
  have early := instant.not_early
  have late := instant.not_late
  obtain ⟨second, nano, seconds, small, text, same⟩ := second_print instant
  have valid := Date.valid_ofDay (instant.second / 86400)
  have years := Date.year_ofDay (instant.second / 86400) (by omega) (by omega)
  have hours : (instant.second % 86400).toNat / 3600 ≤ 23 := by omega
  have minutes : (instant.second % 86400).toNat / 60 % 60 ≤ 59 := by omega
  have time := time?_print hours minutes seconds small same
  have separated (rest : List Char) : separator? ('T' :: rest) = some rest := rfl
  have zone : zone? (dropBlanks ['Z']) = some (0, []) := rfl
  have nothing : dropBlanks [] = [] := rfl
  have whole : instant.second / 86400 * 86400 +
      (((instant.second % 86400).toNat / 3600 * 3600 +
        (instant.second % 86400).toNat / 60 % 60 * 60 +
        (instant.second % 86400).toNat % 60 : Nat) : Int) - 0 = instant.second := by omega
  rw [text]
  simp only [read?, bind, date?_print valid, Option.bind_some, separated, time, zone, nothing,
    valid, years, true_and, if_true, Date.toDay_ofDay, whole]
  exact of?_eq_some_iff.mpr ⟨rfl, rfl⟩

@[simp] theorem ofText?_text (instant : Instant) : ofText? instant.text = some instant := by
  rw [ofText?, text, String.toList_ofList, read?_print]

-- A leap second, and the second after it in a year of five digits.
example : text ⟨253402300799, 1500000000, by decide, by decide, by decide, by decide⟩ =
    "9999-12-31T23:59:60.500Z" := by decide +kernel

example : text ⟨253402300800, 0, by decide, by decide, by decide, by decide⟩ =
    "+10000-01-01T00:00:00Z" := by decide +kernel

end Passbook.Instant
