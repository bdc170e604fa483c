import Passbook.Instant.Basic
/-!
Instants in whole microseconds. An instant outside a leap second comes back from its microseconds,
less what they cannot tell.
-/

namespace Passbook.Instant

/-- The instant as its microseconds give it back, if they are microseconds of any. -/
def kept? (instant : Instant) : Option Instant := ofMicros? instant.micros

def IsLeap (instant : Instant) : Prop := 1000000000 ≤ instant.nano

def IsWhole (instant : Instant) : Prop := instant.nano % 1000 = 0

instance (instant : Instant) : Decidable instant.IsLeap :=
  inferInstanceAs (Decidable (1000000000 ≤ instant.nano))

theorem of?_eq_some_iff {second : Int} {nano : Nat} {instant : Instant} :
    of? second nano = some instant ↔ instant.second = second ∧ instant.nano = nano := by
  obtain ⟨second', nano', early, late, small, leap⟩ := instant
  unfold of?
  constructor
  · intro found
    split at found
    case isTrue valid => cases found; exact ⟨rfl, rfl⟩
    case isFalse => cases found
  · rintro ⟨rfl, rfl⟩
    rw [dif_pos ⟨early, late, small, leap⟩]

theorem not_isLeap_of_ofMicros? {micros : Int} {instant : Instant}
    (found : ofMicros? micros = some instant) : ¬ instant.IsLeap := by
  obtain ⟨_, nano⟩ := of?_eq_some_iff.mp found
  unfold IsLeap
  omega

theorem isWhole_of_ofMicros? {micros : Int} {instant : Instant}
    (found : ofMicros? micros = some instant) : instant.IsWhole := by
  obtain ⟨_, nano⟩ := of?_eq_some_iff.mp found
  unfold IsWhole
  omega

theorem micros_fits (instant : Instant) :
    -9223372036854775808 ≤ instant.micros ∧ instant.micros < 9223372036854775808 := by
  have early := instant.not_early
  have late := instant.not_late
  have small := instant.nano_lt
  unfold micros
  omega

theorem kept?_eq_some_iff {instant kept : Instant} (plain : ¬ instant.IsLeap) :
    instant.kept? = some kept ↔
      kept.second = instant.second ∧ kept.nano = instant.nano / 1000 * 1000 := by
  have small : instant.nano / 1000 < 1000000 := by unfold IsLeap at plain; omega
  have whole : instant.micros / 1000000 = instant.second := by unfold micros; omega
  have rest : (instant.micros % 1000000).toNat = instant.nano / 1000 := by unfold micros; omega
  rw [kept?, ofMicros?, of?_eq_some_iff, whole, rest]

theorem exists_kept {instant : Instant} (plain : ¬ instant.IsLeap) :
    ∃ kept, instant.kept? = some kept := by
  have least : instant.nano / 1000 * 1000 ≤ instant.nano := Nat.div_mul_le_self _ _
  have small : instant.nano / 1000 * 1000 < 1000000000 := by unfold IsLeap at plain; omega
  refine ⟨⟨instant.second, instant.nano / 1000 * 1000, instant.not_early, instant.not_late,
    by omega, by omega⟩, ?_⟩
  exact (kept?_eq_some_iff plain).mpr ⟨rfl, rfl⟩

theorem kept?_of_whole {instant : Instant} (plain : ¬ instant.IsLeap) (whole : instant.IsWhole) :
    instant.kept? = some instant := by
  refine (kept?_eq_some_iff plain).mpr ⟨rfl, ?_⟩
  unfold IsWhole at whole
  omega

/-- Its microseconds are those of some instant outside leap seconds. -/
def InRange (instant : Instant) : Prop :=
  -8334601228800000000 ≤ instant.micros ∧ instant.micros ≤ 8210266876799999999

instance (instant : Instant) : Decidable instant.InRange := by unfold InRange; infer_instance

/-- Only a leap second at the end of all time has no successor. -/
theorem isLeap_of_not_inRange {instant : Instant} (outside : ¬ instant.InRange) :
    instant.IsLeap ∧ instant.second = 8210266876799 := by
  have early := instant.not_early
  have late := instant.not_late
  have small := instant.nano_lt
  unfold InRange micros at outside
  unfold IsLeap
  omega

theorem exists_kept_of_inRange {instant : Instant} (ranged : instant.InRange) :
    ∃ kept, instant.kept? = some kept := by
  obtain ⟨early, late⟩ := ranged
  refine ⟨⟨instant.micros / 1000000, (instant.micros % 1000000).toNat * 1000, by omega, by omega,
    by omega, by omega⟩, ?_⟩
  exact of?_eq_some_iff.mpr ⟨rfl, rfl⟩

/-- It is the instant of so many microseconds, or the start of 1970 if there is none. -/
def Shows (instant : Instant) (micros : Int) : Prop :=
  (instant.micros = micros ∧ instant.IsWhole ∧ ¬ instant.IsLeap) ∨
    instant = .epoch ∧ ∀ other : Instant, ¬ other.IsLeap → other.micros ≠ micros

theorem Shows.isWhole {instant : Instant} {micros : Int} (shows : instant.Shows micros) :
    instant.IsWhole := by
  rcases shows with ⟨_, whole, _⟩ | ⟨rfl, _⟩
  · exact whole
  · rfl

theorem Shows.not_isLeap {instant : Instant} {micros : Int} (shows : instant.Shows micros) :
    ¬ instant.IsLeap := by
  rcases shows with ⟨_, _, plain⟩ | ⟨rfl, _⟩
  · exact plain
  · decide

theorem eq_of_micros {first second : Instant} (plain : ¬ first.IsLeap) (plain' : ¬ second.IsLeap)
    (whole : first.IsWhole) (whole' : second.IsWhole) (same : first.micros = second.micros) :
    first = second := by
  have kept := kept?_of_whole plain whole
  rw [kept?, same] at kept
  exact Option.some.inj (kept.symm.trans (kept?_of_whole plain' whole'))

/-- No two instants show the same microseconds. -/
theorem Shows.unique {first second : Instant} {micros : Int} (shows : first.Shows micros)
    (shows' : second.Shows micros) : first = second := by
  rcases shows with ⟨own, whole, plain⟩ | ⟨rfl, none⟩
  · rcases shows' with ⟨own', whole', plain'⟩ | ⟨_, none⟩
    · exact eq_of_micros plain plain' whole whole' (own.trans own'.symm)
    · exact absurd own (none first plain)
  · rcases shows' with ⟨own', _, plain'⟩ | ⟨rfl, _⟩
    · exact absurd own' (none second plain')
    · rfl

theorem micros_of_ofMicros? {micros : Int} {instant : Instant}
    (found : ofMicros? micros = some instant) : instant.micros = micros := by
  obtain ⟨second, nano⟩ := of?_eq_some_iff.mp found
  unfold Instant.micros
  omega

theorem shows_getD (micros : Int) : ((ofMicros? micros).getD .epoch).Shows micros := by
  cases found : ofMicros? micros with
  | some instant =>
      exact .inl ⟨micros_of_ofMicros? found, isWhole_of_ofMicros? found,
        not_isLeap_of_ofMicros? found⟩
  | none =>
      refine .inr ⟨rfl, fun other plain same => ?_⟩
      obtain ⟨kept, shown⟩ := exists_kept plain
      rw [kept?, same, found] at shown
      cases shown

theorem of?_eq_ofMicros? (second : Int) : of? second 0 = ofMicros? (second * 1000000) := by
  have whole : second * 1000000 / 1000000 = second := by omega
  have rest : (second * 1000000 % 1000000).toNat * 1000 = 0 := by omega
  rw [ofMicros?, whole, rest]

theorem shows_of_second (second : Int) :
    ((of? second 0).getD .epoch).Shows (second * 1000000) := by
  rw [of?_eq_ofMicros?]
  exact shows_getD _

end Passbook.Instant
