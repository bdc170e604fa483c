import Passbook.Proofs.Pass.Effect
/-!
What a pass that ends well leaves in the store of all that its queries found. A transaction that is
hidden from the local view is taken for new, and the copy that is stored under its identity stays,
whatever it is: this is the one way, next to an instant that no row can tell, in which a
transaction is not held afterwards.
-/

namespace Passbook

namespace Store

/-- The store gives back a copy with the hash of a transaction and all its log indexes. -/
def Holds (store : Store) (viewer : Option Int64) (tx : Transaction) : Prop :=
  ∃ copy, store.transaction? tx.identity viewer = .ok (some copy) ∧ copy.hash = tx.hash ∧
    ∀ key, tx.events.contains key = true → copy.events.contains key = true

variable {store after : Store} {viewer : Option Int64} {tx : Transaction}

theorem transaction?_congr {identity : Identity}
    (row : after.rows.get? identity = store.rows.get? identity)
    (noted : after.annotations = store.annotations) :
    after.transaction? identity viewer = store.transaction? identity viewer := by
  rw [transaction?, row, noted, ← transaction?]

theorem holds_congr (row : after.rows.get? tx.identity = store.rows.get? tx.identity)
    (noted : after.annotations = store.annotations) :
    after.Holds viewer tx ↔ store.Holds viewer tx := by
  rw [Holds, transaction?_congr row noted, ← Holds]

/-- A row that was just written holds a transaction with its hash exactly if the store can tell
the instant. -/
theorem holds_of_keeping {written : Transaction} (fits : written.Fits) (tidy : written.Tidy)
    (own : written.identity = tx.identity) (hash : written.hash = tx.hash)
    (complete : ∀ key, tx.events.contains key = true → written.events.contains key = true)
    (row : store.rows.get? tx.identity = some (Row.keeping written)) :
    store.Holds viewer tx ↔ written.timestamp.kept?.isSome = true := by
  rw [← own] at row
  have small := fits.1
  constructor
  · rintro ⟨copy, found, _⟩
    rw [← own, transaction?_eq_some_iff small] at found
    obtain ⟨_, same, read⟩ := found
    cases row.symm.trans same
    cases kept : written.timestamp.kept? with
    | some instant => rfl
    | none =>
        rw [Row.transaction_keeping_eq_error fits kept] at read
        cases read
  · intro told
    obtain ⟨instant, kept⟩ := Option.isSome_iff_exists.mp told
    have read := Row.transaction_keeping fits kept (store.annotations viewer written.identity)
    refine ⟨_, own ▸ (transaction?_eq_some_iff small).mpr ⟨_, row, read⟩, ?_, ?_⟩
    · rw [← hash]
      cases written <;> rfl
    · intro key held
      have whole := complete key held
      cases written with
      | sequential written => exact whole
      | block written =>
          have log : EventLog.kept written.events = written.events :=
            EventLog.kept_of_keyed tidy.keyed tidy.settled
          change (EventLog.kept written.events).contains key = true
          rw [log]
          exact whole

/-- After the writes of a merge a transaction of the remote view is held if it was held before, or
if it has been written and its instant can be told. -/
theorem holds_of_writes_iff {added : Store} {ledger : Ledger} {known remote : TransactionMap}
    {chain : ChainId} {addresses : List String} {start : UInt64} {shownTo : Option Int64}
    (taken : store.snapshot chain addresses start shownTo = .ok known)
    (keyed : TransactionMap.Keyed remote)
    (stored : store.addNew (ledger.merge known remote).fresh = .ok added)
    (replaced : added.replace (ledger.merge known remote).revised = .ok after)
    {identity : Identity} (found : remote.get? identity = some tx) (tidy : tx.Tidy)
    (kind : tx.kind = ledger.kind) :
    after.Holds viewer tx ↔
      store.Holds viewer tx ∨ tx.timestamp.kept?.isSome = true ∧
        (store.rows.get? identity = none ∨
          ∃ copy, known.get? identity = some copy ∧ ledger.compare copy tx ≠ .unchanged) := by
  have own := keyed identity tx found
  have row := get?_of_writes keyed stored replaced identity
  have noted := annotations_of_writes stored replaced
  obtain ⟨fitsNew, fitsRevised⟩ := fits_of_writes stored replaced found
  subst own
  cases local_ : known.get? tx.identity with
  | none =>
      rw [found, local_] at row
      cases held : store.rows.get? tx.identity with
      | none =>
          -- The identity was free: the new copy is stored.
          have before : ¬ store.Holds viewer tx := by
            rintro ⟨copy, found, _⟩
            rw [transaction?_eq_some_iff (fitsNew local_).1] at found
            obtain ⟨_, there, _⟩ := found
            cases held.symm.trans there
          rw [holds_of_keeping (fitsNew local_) tidy rfl rfl (fun _ held => held)
            (by simpa [held] using row)]
          simp [before]
      | some old =>
          -- The stored copy is hidden: it stays.
          rw [holds_congr (by simpa [held] using row) noted]
          simp
  | some copy =>
      obtain ⟨old, there, _, read⟩ := (get?_of_snapshot taken).mp local_
      rw [found, local_] at row
      by_cases same : ledger.compare copy tx = .unchanged
      · rw [holds_congr (by simpa [same] using row) noted]
        simp [same, there]
      · -- The stored copy differs: the revision takes its place.
        have before : ¬ store.Holds viewer tx := by
          rintro ⟨other, found, hash, complete⟩
          have small := (fitsRevised copy local_ same).1
          rw [Ledger.identity_revision] at small
          rw [transaction?_eq_some_iff small] at found
          obtain ⟨_, there', shown⟩ := found
          cases there.symm.trans there'
          have alike := (Row.transaction_eq_ok read).2.2 (store.annotations viewer tx.identity)
          rw [shown] at alike
          cases alike
          rw [Transaction.hash_withAnnotations] at hash
          rw [Transaction.events_withAnnotations] at complete
          exact same ((Ledger.compare_eq_unchanged_iff kind).mpr ⟨hash, fun _ => complete⟩)
        rw [holds_of_keeping (fitsRevised copy local_ same)
          (Ledger.tidy_revision ledger (Row.tidy_of_transaction read) tidy)
          (Ledger.identity_revision copy tx) (Ledger.hash_revision copy tx)
          (fun _ held => Ledger.contains_revision held) (by simpa [same] using row)]
        simp [before, same]

end Store

namespace Pass
variable {outage : Outage} {store : Store} {request : Request} {arrivals : List Arrival}

/-- A pass that ends well has everything of its remote view in the store, except where an instant
cannot be told and where a stored copy is hidden from the local view or of another kind. -/
theorem holds_of_success_iff
    (keyed : ∀ view, Arrival.found view ∈ arrivals → ∀ tx ∈ view.values,
      EventLog.Keyed tx.events)
    (success : (run outage store request arrivals).2.tracker.published.stage = .done .success) :
    ∃ known remote, Loads outage store request known ∧ Gathers request arrivals remote ∧
      (∀ identity,
        identity ∈ (run outage store request arrivals).2.tracker.published.stats.stored ∨
          identity ∈ (run outage store request arrivals).2.tracker.published.stats.replaced →
        remote.contains identity = true) ∧
      ∀ identity tx, remote.get? identity = some tx → ∀ viewer,
        ((run outage store request arrivals).1.Holds viewer tx ↔
          store.Holds viewer tx ∨ tx.timestamp.kept?.isSome = true ∧
            (store.rows.get? identity = none ∨
              ∃ copy, known.get? identity = some copy ∧
                request.ledger.compare copy tx ≠ .unchanged)) := by
  obtain ⟨known, remote, added, loads, gathers, stored, replaced, reached⟩ :=
    writes_of_success success
  refine ⟨known, remote, loads, gathers, ?_, ?_⟩
  · rw [reached, published_closed_none]
    exact fun identity counted => contains_of_counted counted
  · intro identity tx found viewer
    obtain ⟨addresses, _, taken⟩ := loads
    obtain ⟨views, came, _, done⟩ := gathers
    have taken := (guard_eq_ok_iff.mp taken).2
    have sighted : ∀ tx ∈ Ledger.sightings views, EventLog.Keyed tx.events := by
      intro tx member
      obtain ⟨view, among, member⟩ := sighted_of_gathers came member
      exact keyed view among tx member
    exact Store.holds_of_writes_iff taken (Ledger.keyed_remote done) stored replaced found
      (Ledger.tidy_of_remote done sighted found)
      (Ledger.belongs_of_misfit? (Ledger.belongs_of_remote done found).2).2

theorem holds_of_success_iff_sample :
    ∃ known remote, Loads .none .empty (Sample.request Sample.first) known ∧
      Gathers (Sample.request Sample.first) [.found (Sample.answer Sample.first)] remote ∧
      (∀ identity,
        identity ∈ (Sample.passOver .empty Sample.first).2.tracker.published.stats.stored ∨
          identity ∈ (Sample.passOver .empty Sample.first).2.tracker.published.stats.replaced →
        remote.contains identity = true) ∧
      ∀ identity tx, remote.get? identity = some tx → ∀ viewer,
        ((Sample.passOver .empty Sample.first).1.Holds viewer tx ↔
          Store.empty.Holds viewer tx ∨ tx.timestamp.kept?.isSome = true ∧
            (Store.empty.rows.get? identity = none ∨
              ∃ copy, known.get? identity = some copy ∧
                Sample.ledger.compare copy tx ≠ .unchanged)) := by
  refine holds_of_success_iff ?_ (by decide +kernel)
  intro view member tx among
  cases List.mem_singleton.mp member
  have one : (Sample.answer Sample.first).values =
      [Sample.shared [Sample.transfer Sample.first 0]] := by decide +kernel
  rw [one] at among
  cases List.mem_singleton.mp among
  exact EventLog.keyed_ofEvents [Sample.transfer Sample.first 0]

/-- The second of two wallets finds the copy of the first hidden: the transaction is counted as
stored, but the event of the second wallet is not held. -/
theorem not_holds_of_hidden :
    let before := (Sample.passOver .empty Sample.second).1
    let after := Sample.passOver before Sample.first
    let sighting := Sample.shared [Sample.transfer Sample.first 0]
    after.2.tracker.published.stage = .done .success ∧
      Gathers (Sample.request Sample.first) [.found (Sample.answer Sample.first)]
        (Sample.answer Sample.first) ∧
      (Sample.answer Sample.first).get? sighting.identity = some sighting ∧
      sighting.identity ∈ after.2.tracker.published.stats.stored ∧
      ¬ after.1.Holds none sighting := by
  refine ⟨by decide +kernel, ⟨[Sample.answer Sample.first], rfl, rfl, by decide +kernel⟩,
    by decide +kernel, by decide +kernel, ?_⟩
  rintro ⟨copy, found, _, complete⟩
  have stale : (Sample.passOver (Sample.passOver .empty Sample.second).1
      Sample.first).1.transaction? (Sample.shared [Sample.transfer Sample.first 0]).identity none =
        .ok (some (Sample.shared [Sample.transfer Sample.second 1])) := by decide +kernel
  rw [stale] at found
  cases found
  have lost := complete 0 (by decide +kernel)
  revert lost
  decide +kernel

end Pass

end Passbook
