import Passbook.Proofs.Store.Refinement
/-!
Negative log indexes are put right on the way to a store and by the store itself. Both ways lead to
the same log: a transaction may be normalized before it is stored, after it is read back, or never.
-/

namespace Passbook

namespace EventLog
variable {log : EventLog}

theorem mem_values_iff_of_keyed (keyed : log.Keyed) {event : TransferEvent} :
    event ∈ log.values ↔ log.get? event.logIndex = some event := by
  rw [SortedMap.mem_values_iff]
  constructor
  · rintro ⟨key, found⟩
    rwa [keyed key event found]
  · exact fun found => ⟨_, found⟩

/-- Normalizing is building the log anew, which only a negative index makes necessary. -/
theorem normalized_eq_ofEvents (keyed : log.Keyed) : log.normalized = ofEvents log.values := by
  unfold normalized
  split
  case isTrue negative => rfl
  case isFalse first =>
    have settled : log.Settled := settled_of_firstKey (by simpa using first)
    exact (ofEvents_values keyed settled).symm

theorem normalized_eq_kept (keyed : log.Keyed) : log.normalized = log.kept := by
  rw [normalized_eq_ofEvents keyed, kept, byIndex_values keyed]

theorem normalized_normalized (log : EventLog) : log.normalized.normalized = log.normalized :=
  normalized_of_settled (settled_normalized log)

/-- What normalization leaves at a place, told by the look-ups of the log before it. -/
theorem get?_normalized_iff (keyed : log.Keyed) {key : Int64} {event : TransferEvent} :
    log.normalized.get? key = some event ↔
      ∃ origin, log.get? origin.logIndex = some origin ∧ event = origin.settled ∧
        key = origin.settled.logIndex ∧ ∀ other, log.get? other.logIndex = some other →
          other.settled.logIndex = key → other.logIndex ≤ origin.logIndex := by
  rw [normalized_eq_ofEvents keyed, rekeys_ofEvents (pairwise_values_of_keyed keyed) key event]
  simp only [mem_values_iff_of_keyed keyed]

theorem settled_of_negative {event : TransferEvent} (negative : event.logIndex < 0) :
    event.settled = { event with logIndex := 0 } :=
  if_pos negative

theorem settled_of_place {event : TransferEvent} (place : 0 ≤ event.logIndex) :
    event.settled = event :=
  if_neg (Int64.not_lt.mpr place)

theorem get?_normalized_of_pos (keyed : log.Keyed) {key : Int64} (positive : 0 < key) :
    log.normalized.get? key = log.get? key := by
  -- No other event is moved to a positive index.
  have stays : ∀ origin : TransferEvent, key = origin.settled.logIndex →
      origin.settled = origin ∧ origin.logIndex = key := by
    intro origin place
    by_cases negative : origin.logIndex < 0
    · rw [settled_of_negative negative] at place
      rw [place] at positive
      exact absurd positive (Int64.lt_irrefl (a := 0))
    · have same := settled_of_place (Int64.not_lt.mp negative)
      exact ⟨same, by rw [place, same]⟩
  refine Option.ext fun event => ?_
  rw [get?_normalized_iff keyed]
  constructor
  · rintro ⟨origin, found, rfl, place, -⟩
    obtain ⟨same, own⟩ := stays origin place
    rwa [same, ← own]
  · intro found
    have own := keyed key event found
    have same : event.settled = event := settled_of_place (own ▸ Int64.le_of_lt positive)
    refine ⟨event, own ▸ found, same.symm, by rw [same, own], fun other _ place => ?_⟩
    rw [own, (stays other place.symm).2]
    exact Int64.le_refl key

theorem get?_normalized_zero_of_held (keyed : log.Keyed) {event : TransferEvent}
    (held : log.get? 0 = some event) : log.normalized.get? 0 = some event := by
  have own := keyed 0 event held
  have same : event.settled = event := settled_of_place (own ▸ Int64.le_refl 0)
  refine (get?_normalized_iff keyed).mpr
    ⟨event, own ▸ held, same.symm, by rw [same, own], fun other _ place => ?_⟩
  rw [own]
  by_cases negative : other.logIndex < 0
  · exact Int64.le_of_lt negative
  · rw [settled_of_place (Int64.not_lt.mp negative)] at place
    exact Int64.le_of_eq place

/-- Place zero, where nothing stands, is taken by the event with the greatest negative index. -/
theorem get?_normalized_zero_iff (keyed : log.Keyed) (free : log.get? 0 = none)
    {event : TransferEvent} : log.normalized.get? 0 = some event ↔
      ∃ key origin, key < 0 ∧ log.get? key = some origin ∧
        (∀ other, other < 0 → log.contains other = true → other ≤ key) ∧
        event = { origin with logIndex := 0 } := by
  have negative : ∀ origin : TransferEvent, log.get? origin.logIndex = some origin →
      (origin.settled.logIndex = 0 ↔ origin.logIndex < 0) := by
    intro origin found
    by_cases below : origin.logIndex < 0
    · rw [settled_of_negative below]
      exact iff_of_true rfl below
    · rw [settled_of_place (Int64.not_lt.mp below)]
      refine iff_of_false (fun zero => ?_) below
      rw [zero, free] at found
      cases found
  rw [get?_normalized_iff keyed]
  constructor
  · rintro ⟨origin, found, rfl, place, greatest⟩
    have below := (negative origin found).mp place.symm
    refine ⟨origin.logIndex, origin, below, found, fun other under held => ?_,
      settled_of_negative below⟩
    obtain ⟨holder, there⟩ := SortedMap.contains_iff_exists.mp held
    have own := keyed other holder there
    subst own
    exact greatest holder there ((negative holder there).mpr under)
  · rintro ⟨key, origin, below, found, greatest, rfl⟩
    have own := keyed key origin found
    subst own
    refine ⟨origin, found, (settled_of_negative below).symm,
      ((negative origin found).mpr below).symm, fun other there place => ?_⟩
    exact greatest other.logIndex ((negative other there).mp place)
      (SortedMap.contains_iff_exists.mpr ⟨other, there⟩)

/-- The second log has the events of the first at their own log indexes. Place zero is that of
event zero or else of the event with the greatest negative index. -/
structure PutsRight (log normal : EventLog) : Prop where
  keyed : normal.Keyed
  positive : ∀ key, 0 < key → normal.get? key = log.get? key
  zero : ∀ event, log.get? 0 = some event → normal.get? 0 = some event
  negative : log.get? 0 = none → ∀ event, normal.get? 0 = some event ↔
    ∃ key origin, key < 0 ∧ log.get? key = some origin ∧
      (∀ other, other < 0 → log.contains other = true → other ≤ key) ∧
      event = { origin with logIndex := 0 }

theorem putsRight_normalized (keyed : log.Keyed) : log.PutsRight log.normalized where
  keyed := keyed_normalized keyed
  positive _ := get?_normalized_of_pos keyed
  zero _ := get?_normalized_zero_of_held keyed
  negative free _ := get?_normalized_zero_iff keyed free

end EventLog

namespace Transaction

theorem normalized_normalized (tx : Transaction) : tx.normalized.normalized = tx.normalized := by
  cases tx with
  | sequential tx => rfl
  | block tx => simp only [normalized, EventLog.normalized_normalized]

theorem fits_normalized {tx : Transaction} (fits : tx.Fits) : tx.normalized.Fits := by
  cases tx <;> exact fits

/-- A store keeps a transaction as it keeps the normalized one. -/
theorem kept_normalized {tx : Transaction} (keyed : EventLog.Keyed tx.events) (instant : Instant)
    (annotations : Annotations) :
    tx.normalized.kept instant annotations = tx.kept instant annotations := by
  cases tx with
  | sequential tx => rfl
  | block tx =>
      change EventLog.Keyed tx.events at keyed
      have once : EventLog.kept (EventLog.normalized tx.events) = EventLog.kept tx.events := by
        rw [← EventLog.normalized_eq_kept (EventLog.keyed_normalized keyed),
          EventLog.normalized_normalized, EventLog.normalized_eq_kept keyed]
      simp only [normalized, kept, once]

theorem events_kept {tx : Transaction} (keyed : EventLog.Keyed tx.events) (instant : Instant)
    (annotations : Annotations) : (tx.kept instant annotations).events = tx.normalized.events := by
  cases tx with
  | sequential tx => rfl
  | block tx => exact (EventLog.normalized_eq_kept keyed).symm

end Transaction

namespace Store
variable {store : Store} {tx : Transaction} {viewer : Option Int64}

/-- The transaction can be written, alone and in either way, and is shown as the copy then. -/
def Returns (store : Store) (viewer : Option Int64) (tx copy : Transaction) : Prop :=
  (∃ after, store.addNew [tx] = .ok after ∧
    after.transaction? tx.identity viewer = .ok (some copy)) ∧
  ∃ after, store.replace [tx] = .ok after ∧
    after.transaction? tx.identity viewer = .ok (some copy)

theorem returns_kept (fits : tx.Fits) (once : tx.LogsOnce) {instant : Instant}
    (kept : tx.timestamp.kept? = some instant) (free : store.rows.get? tx.identity = none) :
    store.Returns viewer tx (tx.kept instant (store.annotations viewer tx.identity)) := by
  have writable : ∀ other ∈ [tx], other.Fits ∧ other.LogsOnce := by simpa using ⟨fits, once⟩
  have first : ([tx].find? fun other => other.identity = tx.identity) = some tx := by simp
  have shown : ∀ after : Store, after.rows.get? tx.identity = some (Row.keeping tx) →
      after.annotations = store.annotations → after.transaction? tx.identity viewer =
        .ok (some (tx.kept instant (store.annotations viewer tx.identity))) := by
    intro after stored same
    refine (transaction?_eq_some_iff fits.1).mpr ⟨_, stored, ?_⟩
    rw [same]
    exact Row.transaction_keeping fits kept _
  constructor
  · obtain ⟨after, done⟩ := exists_addNew store [tx] writable
    refine ⟨after, done, shown after ?_ (annotations_addNew done)⟩
    rw [get?_addNew done, free, first]
    rfl
  · obtain ⟨after, done⟩ := exists_replace store [tx] writable
    refine ⟨after, done, shown after ?_ (annotations_replace done)⟩
    rw [get?_replace done, first]
    rfl

theorem returns_normalized (keyed : EventLog.Keyed tx.events) (fits : tx.Fits) {instant : Instant}
    (kept : tx.timestamp.kept? = some instant) (free : store.rows.get? tx.identity = none) :
    store.Returns viewer tx.normalized
      (tx.kept instant (store.annotations viewer tx.identity)) := by
  have keyed' : EventLog.Keyed tx.normalized.events := by
    rw [Transaction.events_normalized]
    exact EventLog.keyed_normalized keyed
  rw [← Transaction.identity_normalized tx] at free
  rw [← Transaction.kept_normalized keyed, ← Transaction.identity_normalized tx]
  refine returns_kept (Transaction.fits_normalized fits) (Transaction.logsOnce_of_keyed keyed')
    ?_ free
  rwa [Transaction.timestamp_normalized]

/-- Normalization leaves no negative place and needs to be done once only. A transaction of which
every event stands at its own log index gets the log that the store would have given it, and the
store shows the same copy whether or not it was normalized before. -/
theorem normalized_before_or_after (tx : Transaction) :
    EventLog.Settled tx.normalized.events ∧ tx.normalized.normalized = tx.normalized ∧
    (EventLog.Keyed tx.events →
      EventLog.PutsRight tx.events tx.normalized.events ∧
      ∀ (store : Store) (viewer : Option Int64), tx.Fits → ¬ tx.timestamp.IsLeap →
        store.rows.get? tx.identity = none →
        ∃ copy : Transaction, copy.events = tx.normalized.events ∧ copy.normalized = copy ∧
          store.Returns viewer tx copy ∧ store.Returns viewer tx.normalized copy) := by
  refine ⟨?_, tx.normalized_normalized, fun keyed => ⟨?_, fun store viewer fits plain free => ?_⟩⟩
  · rw [Transaction.events_normalized]
    exact EventLog.settled_normalized _
  · rw [Transaction.events_normalized]
    exact EventLog.putsRight_normalized keyed
  · obtain ⟨instant, kept⟩ := Instant.exists_kept plain
    have events := Transaction.events_kept keyed instant (store.annotations viewer tx.identity)
    refine ⟨_, events, Transaction.normalized_of_settled ?_,
      returns_kept fits (Transaction.logsOnce_of_keyed keyed) kept free,
      returns_normalized keyed fits kept free⟩
    rw [events, Transaction.events_normalized]
    exact EventLog.settled_normalized _

/-- Of two negative indexes the greater takes place zero, and three keeps its event. -/
theorem normalized_before_or_after_sample :
    let tx := (Sample.shared []).withEvents (EventLog.byIndex [Sample.transfer Sample.first 3,
      Sample.transfer Sample.first (-2), Sample.transfer Sample.second (-1)])
    let log := EventLog.ofEvents [Sample.transfer Sample.second 0, Sample.transfer Sample.first 3]
    EventLog.Keyed tx.events ∧ tx.Fits ∧ ¬ tx.timestamp.IsLeap ∧
      Store.empty.rows.get? tx.identity = none ∧ tx.normalized.events = log ∧
      EventLog.PutsRight tx.events log ∧
      ∃ copy : Transaction, copy.events = log ∧ copy.normalized = copy ∧
        Store.empty.Returns none tx copy ∧ Store.empty.Returns none tx.normalized copy := by
  intro tx log
  have keyed : EventLog.Keyed tx.events := EventLog.keyed_byIndex _
  have fits : tx.Fits := by decide +kernel
  have plain : ¬ tx.timestamp.IsLeap := by decide +kernel
  have free : Store.empty.rows.get? tx.identity = none := rfl
  have normal : tx.normalized.events = log := by decide +kernel
  obtain ⟨right, returned⟩ := (normalized_before_or_after tx).2.2 keyed
  rw [normal] at right
  have copied := returned .empty none fits plain free
  rw [normal] at copied
  exact ⟨keyed, fits, plain, free, normal, right, copied⟩

end Store

end Passbook
