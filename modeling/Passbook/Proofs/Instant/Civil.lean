import Passbook.Instant.Basic
import Passbook.Instant.Civil
/-!
Days and dates: the date of a day exists, and it is the date of no other day.
-/

namespace Passbook.Date

/-- The date of a place in a year that begins in March. -/
def fromMarch (year : Int) (inYear : Nat) : Date :=
  let month := (5 * inYear + 2) / 153
  { year := if month < 10 then year else year + 1
    month := if month < 10 then month + 3 else month - 9
    day := inYear - monthStart month + 1 }

/-- A day falls into a century of its era, a cycle of four years and a year. The last day of a
year that begins in March is a leap day. -/
theorem exists_parts (day : Int) :
    ∃ (era : Int) (century cycle single inYear : Nat),
      century ≤ 3 ∧ cycle ≤ 24 ∧ single ≤ 3 ∧ inYear ≤ 365 ∧
      (inYear = 365 → single = 3 ∧ (cycle = 24 → century = 3)) ∧
      day = firstDay + 146097 * era + 36524 * century + 1461 * cycle + 365 * single + inYear ∧
      ofDay day = fromMarch (400 * era + 100 * century + 4 * cycle + single) inYear := by
  have inEra_lt : ((day - firstDay) % 146097).toNat < 146097 := by omega
  have whole : day = firstDay + 146097 * ((day - firstDay) / 146097) +
      ((day - firstDay) % 146097).toNat := by omega
  generalize era : ((day - firstDay) % 146097).toNat = inEra at inEra_lt whole
  have inCentury_le : inEra - min 3 (inEra / 36524) * 36524 ≤ 36524 := by omega
  generalize century : inEra - min 3 (inEra / 36524) * 36524 = inCentury at inCentury_le
  have inCycle_lt : inCentury - inCentury / 1461 * 1461 < 1461 := by omega
  generalize cycle : inCentury - inCentury / 1461 * 1461 = inCycle at inCycle_lt
  refine ⟨(day - firstDay) / 146097, min 3 (inEra / 36524), inCentury / 1461,
    min 3 (inCycle / 365), inCycle - min 3 (inCycle / 365) * 365, by omega, by omega, by omega,
    by omega, ?_, by omega, ?_⟩
  · intro last
    omega
  · simp only [ofDay, era, century, cycle]
    rfl

theorem toDay_fromMarch (year : Int) {inYear : Nat} (inside : inYear ≤ 365) :
    (fromMarch year inYear).toDay =
      firstDay + 365 * year + year / 4 - year / 100 + year / 400 + inYear := by
  have bound : (5 * inYear + 2) / 153 ≤ 11 := by omega
  have after : monthStart ((5 * inYear + 2) / 153) ≤ inYear := by
    unfold monthStart
    omega
  unfold fromMarch toDay
  generalize (5 * inYear + 2) / 153 = month at bound after
  by_cases autumn : month < 10
  · have later : ¬ month + 3 ≤ 2 := by omega
    have back : (month + 3 + 9) % 12 = month := by omega
    simp only [if_pos autumn, if_neg later, back]
    omega
  · have early : month - 9 ≤ 2 := by omega
    have back : (month - 9 + 9) % 12 = month := by omega
    simp only [if_neg autumn, if_pos early, back]
    omega

theorem valid_fromMarch (year : Int) {inYear : Nat} (inside : inYear ≤ 365)
    (leap : inYear = 365 → isLeap (year + 1) = true) : (fromMarch year inYear).Valid := by
  have bound : (5 * inYear + 2) / 153 ≤ 11 := by omega
  -- February is the last month, and the only one whose length is not fixed.
  have february : inYear - 337 + 1 ≤ if isLeap (year + 1) then 29 else 28 := by
    by_cases last : inYear = 365
    · rw [leap last]
      exact Nat.add_le_add_right (Nat.sub_le_sub_right inside 337) 1
    · split <;> omega
  unfold fromMarch Valid monthStart
  generalize same : (5 * inYear + 2) / 153 = month at bound
  match month, bound with
  | 11, _ => simpa [daysInMonth] using february
  | 0, _ | 1, _ | 2, _ | 3, _ | 4, _ | 5, _ | 6, _ | 7, _ | 8, _ | 9, _ | 10, _ =>
      simp [daysInMonth]
      omega

theorem isLeap_of_parts {era : Int} {century cycle single : Nat} (third : single = 3)
    (small : cycle ≤ 24) (closing : cycle = 24 → century = 3) :
    isLeap (400 * era + 100 * century + 4 * cycle + single + 1) = true := by
  have fourth : (400 * era + 100 * century + 4 * cycle + single + 1) % 4 = 0 := by omega
  simp only [isLeap, Bool.and_eq_true, Bool.or_eq_true, beq_iff_eq, bne_iff_ne]
  refine ⟨fourth, ?_⟩
  by_cases round : (400 * era + 100 * century + 4 * cycle + single + 1) % 100 = 0
  · exact .inr (by omega)
  · exact .inl round

theorem valid_ofDay (day : Int) : (ofDay day).Valid := by
  obtain ⟨era, century, cycle, single, inYear, _, small, _, inside, last, _, same⟩ :=
    exists_parts day
  rw [same]
  exact valid_fromMarch _ inside fun leap =>
    isLeap_of_parts (last leap).1 small (last leap).2

@[simp] theorem toDay_ofDay (day : Int) : (ofDay day).toDay = day := by
  obtain ⟨era, century, cycle, single, inYear, below, small, least, inside, _, whole, same⟩ :=
    exists_parts day
  rw [same, toDay_fromMarch _ inside]
  omega

/-- The years of the days on which instants fall. -/
theorem year_ofDay (day : Int) (early : -96465292 ≤ day) (late : day ≤ 95026236) :
    -262143 ≤ (ofDay day).year ∧ (ofDay day).year ≤ 262142 := by
  obtain ⟨era, century, cycle, single, inYear, _, _, _, inside, _, _, same⟩ := exists_parts day
  have back := toDay_ofDay day
  rw [same, toDay_fromMarch _ inside, firstDay] at back
  rw [same, fromMarch]
  dsimp only
  generalize 400 * era + 100 * century + 4 * cycle + single = year at back ⊢
  generalize placed : (5 * inYear + 2) / 153 = month
  -- The first and the last year are told apart, where the bound is met to the day.
  constructor
  · have first : year ≤ -262145 ∨ year = -262144 ∨ -262143 ≤ year := by omega
    rcases first with _ | rfl | _ <;> split <;> omega
  · have last : year ≤ 262141 ∨ year = 262142 ∨ 262143 ≤ year := by omega
    rcases last with _ | rfl | _ <;> split <;> omega

end Passbook.Date
