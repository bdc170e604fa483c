import Passbook.Proofs.Query.Findings
import Passbook.Proofs.Store.Refinement
/-!
What comes back of a transaction that is stored for the first time. Nothing is lost but fractions of
microseconds, and events that share place zero with a greater log index. What a query finds comes
back as it is.
-/

namespace Passbook

namespace Instant

/-- The instant is the other, rounded down to whole microseconds. A leap second runs on into the
second after it. -/
def Floors (floor instant : Instant) : Prop :=
  floor.micros = instant.micros ∧ floor.IsWhole ∧ ¬ floor.IsLeap

theorem floors_of_kept? {instant kept : Instant} (found : instant.kept? = some kept) :
    kept.Floors instant :=
  ⟨micros_of_ofMicros? found, isWhole_of_ofMicros? found, not_isLeap_of_ofMicros? found⟩

end Instant

namespace Transaction

/-- The canonical form in which the transaction comes back from a store: its instant in whole
microseconds, its events at their own log indexes, and no annotations. -/
def ComesBackAs (tx copy : Transaction) : Prop :=
  ∃ (instant : Instant) (log : EventLog), instant.Floors tx.timestamp ∧
    EventLog.Rekeys tx.events.values log ∧
    copy = ((tx.withTimestamp instant).withEvents log).withAnnotations {}

theorem comesBackAs_kept {tx : Transaction} (once : tx.LogsOnce) {instant : Instant}
    (kept : tx.timestamp.kept? = some instant) : tx.ComesBackAs (tx.kept instant {}) := by
  refine ⟨instant, EventLog.kept tx.events, Instant.floors_of_kept? kept,
    EventLog.rekeys_kept once, ?_⟩
  cases tx <;> rfl

theorem Canonical.kept_self {tx : Transaction} (canonical : tx.Canonical) :
    tx.kept tx.timestamp {} = tx := by
  rw [← canonical.unnoted]
  exact Transaction.kept_self canonical.tidy

end Transaction

namespace Store
variable {store : Store} {tx : Transaction} {viewer : Option Int64}

/-- A transaction that takes a free identity is shown as its own row is read. -/
theorem transaction?_of_addNew (fits : tx.Fits) (once : tx.LogsOnce) {instant : Instant}
    (kept : tx.timestamp.kept? = some instant) (free : store.rows.get? tx.identity = none)
    (unnoted : store.annotations viewer tx.identity = {}) :
    ∃ after, store.addNew [tx] = .ok after ∧
      after.transaction? tx.identity viewer = .ok (some (tx.kept instant {})) := by
  obtain ⟨after, done⟩ := exists_addNew store [tx] (by simpa using ⟨fits, once⟩)
  have stored : after.rows.get? tx.identity = some (Row.keeping tx) := by
    rw [get?_addNew done, free]
    simp
  refine ⟨after, done, (transaction?_eq_some_iff fits.1).mpr ⟨_, stored, ?_⟩⟩
  rw [annotations_addNew done, unnoted]
  exact Row.transaction_keeping fits kept {}

/-- Storing and reading back is the identity up to the canonical form. -/
theorem comes_back (fits : tx.Fits) (free : store.rows.get? tx.identity = none)
    (unnoted : store.annotations viewer tx.identity = {}) :
    (tx.LogsOnce → tx.timestamp.InRange → ∃ after copy, store.addNew [tx] = .ok after ∧
      after.transaction? tx.identity viewer = .ok (some copy) ∧ tx.ComesBackAs copy) ∧
    (¬ tx.timestamp.InRange → tx.timestamp.IsLeap ∧ tx.timestamp.second = 8210266876799) ∧
    (tx.Found → ∃ after, store.addNew [tx] = .ok after ∧
      after.transaction? tx.identity viewer = .ok (some tx)) := by
  refine ⟨fun once ranged => ?_, Instant.isLeap_of_not_inRange, fun found => ?_⟩
  · obtain ⟨instant, kept⟩ := Instant.exists_kept_of_inRange ranged
    obtain ⟨after, done, shown⟩ := transaction?_of_addNew fits once kept free unnoted
    exact ⟨after, _, done, shown, Transaction.comesBackAs_kept once kept⟩
  · have canonical := found.canonical
    have once := Transaction.logsOnce_of_keyed canonical.tidy.keyed
    have kept := Instant.kept?_of_whole canonical.plain canonical.whole
    have back := transaction?_of_addNew fits once kept free unnoted
    rwa [canonical.kept_self] at back

/-- A leap second runs on into the year after it, and of two negative log indexes the greater
takes place zero. -/
theorem comes_back_sample :
    let leap : Instant := ⟨1483228799, 1500000123, by decide, by decide, by decide, by decide⟩
    let next : Instant := ⟨1483228800, 500000000, by decide, by decide, by decide, by decide⟩
    let tx := ((Sample.shared []).withTimestamp leap).withEvents
      (.ofList [(7, Sample.transfer Sample.first (-2)), (8, Sample.transfer Sample.second (-1))])
    let copy := (tx.withTimestamp next).withEvents
      (.ofEvents [Sample.transfer Sample.second 0])
    ∃ after, Store.empty.addNew [tx] = .ok after ∧
      after.transaction? tx.identity none = .ok (some copy) ∧ tx.ComesBackAs copy := by
  intro leap next tx copy
  have free : Store.empty.rows.get? tx.identity = none := rfl
  have unnoted : Store.empty.annotations none tx.identity = {} := rfl
  have fits : tx.Fits := by decide +kernel
  obtain ⟨after, back, done, shown, comes⟩ :=
    (comes_back fits free unnoted).1 (by decide +kernel) (by decide +kernel)
  have read : (Store.empty.addNew [tx] >>= fun after => after.transaction? tx.identity none) =
      .ok (some copy) := by
    decide +kernel
  rw [done] at read
  cases shown.symm.trans read
  exact ⟨after, done, shown, comes⟩

end Store

end Passbook
