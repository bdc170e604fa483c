import Passbook.Proofs.Store.Reads
import Passbook.Proofs.Store.Writes
/-!
Which log indexes a stored copy has. They are those that its transaction shows, if it can be read,
and those of the transaction that was written.
-/

namespace Passbook

namespace EventLog

theorem contains_ofEvents {events : List TransferEvent} {key : Int64} :
    (ofEvents events).contains key = true ↔
      ∃ event ∈ events, event.settled.logIndex = key := by
  rw [ofEvents_eq, SortedMap.contains, SortedMap.get?_ofList, Entries.find?_isSome_iff]
  simp

end EventLog

namespace Row

/-- The stored copy has an event that is logged at this index. -/
def Logs (row : Row) (key : Int64) : Prop :=
  match row.body with
  | .sequential _ => False
  | .block body => ∃ index, body.events.contains index = true ∧
      (if index < 0 then 0 else index) = key

theorem logIndex_of_event {row : EventRow} {index : Int64} {event : TransferEvent}
    (read : row.event index = .ok event) : event.logIndex = index := by
  rw [EventRow.event, bind_eq_ok_iff] at read
  obtain ⟨_, _, built⟩ := read
  cases built
  rfl

theorem logIndex_settled_eq (event : TransferEvent) :
    event.settled.logIndex = if event.logIndex < 0 then 0 else event.logIndex := by
  unfold TransferEvent.settled
  split <;> rfl

theorem contains_of_readEvents {rows : SortedMap Int64 EventRow} {log : EventLog}
    (read : readEvents rows = .ok log) {key : Int64} :
    log.contains key = true ↔ ∃ index, rows.contains index = true ∧
      (if index < 0 then 0 else index) = key := by
  rw [readEvents, bind_eq_ok_iff] at read
  obtain ⟨events, done, built⟩ := read
  cases built
  rw [EventLog.contains_ofEvents]
  constructor
  · rintro ⟨event, member, rfl⟩
    obtain ⟨entry, among, shown⟩ := (mem_of_mapM_eq_ok done).mp member
    refine ⟨entry.1, SortedMap.contains_iff_exists.mpr
      ⟨entry.2, SortedMap.get?_eq_some_iff.mpr among⟩, ?_⟩
    rw [logIndex_settled_eq, logIndex_of_event shown]
  · rintro ⟨index, there, rfl⟩
    obtain ⟨row, found⟩ := SortedMap.contains_iff_exists.mp there
    have among := SortedMap.get?_eq_some_iff.mp found
    obtain ⟨event, shown⟩ := exists_of_mapM_eq_ok done among
    refine ⟨event, (mem_of_mapM_eq_ok done).mpr ⟨_, among, shown⟩, ?_⟩
    rw [logIndex_settled_eq, logIndex_of_event shown]

variable {row : Row} {identity : Identity} {annotations : Annotations} {tx : Transaction}

theorem logs_of_transaction (read : row.transaction identity annotations = .ok tx) :
    tx.kind = row.body.kind ∧ ∀ key, tx.events.contains key = true ↔ row.Logs key := by
  rw [transaction, bind_eq_ok_iff] at read
  obtain ⟨_, _, read⟩ := read
  obtain ⟨_, _, read⟩ := bind_eq_ok_iff.mp read
  cases body : row.body with
  | sequential part =>
      simp only [body] at read
      obtain ⟨_, _, built⟩ := bind_eq_ok_iff.mp read
      cases built
      exact ⟨rfl, by simp [Logs, body, Transaction.events, SortedMap.contains]⟩
  | block part =>
      simp only [body] at read
      obtain ⟨_, _, read⟩ := bind_eq_ok_iff.mp read
      obtain ⟨log, logged, built⟩ := bind_eq_ok_iff.mp read
      cases built
      refine ⟨rfl, fun key => ?_⟩
      simp only [Logs, body]
      exact contains_of_readEvents logged

theorem kind_keeping (tx : Transaction) : (keeping tx).body.kind = tx.kind := by
  cases tx <;> rfl

theorem logs_keeping (tidy : tx.Tidy) {key : Int64} :
    (keeping tx).Logs key ↔ tx.events.contains key = true := by
  cases tx with
  | sequential part => simp [Logs, keeping, RowBody.keeping, Transaction.events, SortedMap.contains]
  | block part =>
      have same : EventLog.byIndex part.events.values = part.events :=
        EventLog.byIndex_values tidy.keyed
      simp only [Logs, keeping, RowBody.keeping, same, EventLog.contains_rows, Transaction.events]
      constructor
      · rintro ⟨index, there, rfl⟩
        rwa [if_neg (Int64.not_lt.mpr (tidy.settled index there))]
      · intro there
        exact ⟨key, there, if_neg (Int64.not_lt.mpr (tidy.settled key there))⟩

/-- The indexes under which events are stored. -/
def logIndexes (row : Row) : List Int64 :=
  match row.body with
  | .sequential _ => []
  | .block body => body.events.keys

/-- No event is stored under a negative index. -/
def Settled (row : Row) : Prop := ∀ index ∈ row.logIndexes, 0 ≤ index

theorem logs_iff_of_settled (settled : row.Settled) {key : Int64} :
    row.Logs key ↔ key ∈ row.logIndexes := by
  unfold Settled at settled
  unfold Logs
  unfold logIndexes at settled ⊢
  cases body : row.body with
  | sequential part => simp
  | block part =>
      simp only [body, ← SortedMap.contains_iff_mem_keys] at settled ⊢
      constructor
      · rintro ⟨index, there, rfl⟩
        rwa [if_neg (Int64.not_lt.mpr (settled index there))]
      · exact fun there => ⟨key, there, if_neg (Int64.not_lt.mpr (settled key there))⟩

theorem settled_keeping (tidy : tx.Tidy) : (keeping tx).Settled := by
  cases tx with
  | sequential part => exact fun _ member => absurd member List.not_mem_nil
  | block part =>
      intro index member
      have there : (EventLog.byIndex part.events.values).rows.contains index = true :=
        SortedMap.contains_iff_mem_keys.mpr member
      have same : EventLog.byIndex part.events.values = part.events :=
        EventLog.byIndex_values tidy.keyed
      rw [EventLog.contains_rows, same] at there
      exact tidy.settled index there

theorem mem_logIndexes_keeping (tidy : tx.Tidy) {key : Int64} :
    key ∈ (keeping tx).logIndexes ↔ tx.events.contains key = true := by
  rw [← logs_iff_of_settled (settled_keeping tidy), logs_keeping tidy]

end Row

namespace Store

/-- A copy is stored under the identity, and it has an event at this log index. -/
def Logs (store : Store) (identity : Identity) (key : Int64) : Prop :=
  ∃ row, store.rows.get? identity = some row ∧ row.Logs key

/-- Where the copy can be read it shows the log indexes that are stored, and no others. -/
theorem logs_iff_of_transaction? {store : Store} {viewer : Option Int64} {identity : Identity}
    {tx : Transaction} (read : store.transaction? identity viewer = .ok (some tx)) {key : Int64} :
    store.Logs identity key ↔ tx.events.contains key = true := by
  obtain ⟨_, _, read⟩ := bind_eq_ok_iff.mp read
  cases found : store.rows.get? identity with
  | none =>
      rw [found] at read
      cases read
  | some row =>
      rw [found] at read
      obtain ⟨_, shown, built⟩ := bind_eq_ok_iff.mp read
      cases built
      rw [(Row.logs_of_transaction shown).2 key]
      constructor
      · rintro ⟨other, found', logs⟩
        cases found.symm.trans found'
        exact logs
      · exact fun logs => ⟨row, found, logs⟩

end Store

end Passbook
