import Passbook.Proofs.Instant
import Passbook.Proofs.Ledger.Events
import Passbook.Proofs.Text.Decimal
import Passbook.Store
/-!
The row of a transaction and what is read back from it. A transaction whose numbers fit signed
words comes back with its instant in whole microseconds, its events as the store keeps them, and
whatever annotations are attached.
-/

namespace Passbook

namespace Column

theorem readAmount_toString (column : Column) (amount : Nat) :
    column.readAmount (toString amount) = .ok amount := by
  rw [readAmount, Decimal.amount?_toString]

theorem write_eq_ok_iff {column : Column} {value : UInt64} {written : Int64} :
    column.write value = .ok written ↔
      value.toNat < Word.limit ∧ written = Int64.ofNat value.toNat := by
  unfold write
  split
  case isTrue small => simp [small, eq_comm]
  case isFalse large => simp [large]

theorem write_of_lt {column : Column} {value : UInt64} (small : value.toNat < Word.limit) :
    column.write value = .ok (Int64.ofNat value.toNat) :=
  write_eq_ok_iff.mpr ⟨small, rfl⟩

theorem read_ofNat (column : Column) {value : UInt64} (small : value.toNat < Word.limit) :
    column.read (Int64.ofNat value.toNat) = .ok value := by
  have inside : (Int64.ofNat value.toNat).toInt = value.toNat :=
    Int64.toInt_ofNat_of_lt small
  have positive : ¬ Int64.ofNat value.toNat < 0 := by
    rw [Int64.lt_iff_toInt_lt, inside]
    simp
  simp [read, positive, inside]

end Column

namespace EventLog

def rows (log : EventLog) : SortedMap Int64 EventRow := log.mapValues fun _ => EventRow.ofEvent

theorem contains_rows (log : EventLog) (key : Int64) :
    log.rows.contains key = log.contains key := by
  simp [SortedMap.contains, rows, SortedMap.get?_mapValues]

theorem rows_insert (log : EventLog) (event : TransferEvent) :
    rows (log.insert event.logIndex event) =
      log.rows.insert event.logIndex (EventRow.ofEvent event) := by
  ext key : 1
  simp only [rows, SortedMap.get?_mapValues, SortedMap.get?_insert]
  split <;> rfl

end EventLog

namespace EventRow

/-- All events are added, unless two of them have one log index or one is there already. -/
theorem addEvents_rows (log : EventLog) (events : List TransferEvent) :
    addEvents log.rows events =
      if (events.map TransferEvent.logIndex).Nodup ∧
          ∀ event ∈ events, log.contains event.logIndex = false then
        .ok (EventLog.rows
          (events.foldl (fun log event => log.insert event.logIndex event) log))
      else .error .eventTwice := by
  -- The log that is built carries the induction: what was added once is there ever after.
  induction events generalizing log with
  | nil => simp [addEvents]
  | cons event rest ih =>
      by_cases there : log.contains event.logIndex = true
      · simp [addEvents, EventLog.contains_rows, there]
      · have later : ∀ other : TransferEvent,
            (log.insert event.logIndex event).contains other.logIndex = false ↔
              other.logIndex ≠ event.logIndex ∧ log.contains other.logIndex = false := by
          intro other
          simp only [SortedMap.contains_eq_false_iff, SortedMap.get?_insert]
          by_cases same : other.logIndex = event.logIndex <;> simp [same]
        rw [addEvents, EventLog.contains_rows, if_neg there, ← EventLog.rows_insert, ih]
        simp only [later, List.map_cons, List.nodup_cons, List.mem_map, List.forall_mem_cons,
          List.foldl_cons]
        rw [Bool.not_eq_true] at there
        congr 1
        apply propext
        constructor
        · rintro ⟨distinct, absent⟩
          refine ⟨⟨?_, distinct⟩, there, fun other member => (absent other member).2⟩
          rintro ⟨other, member, same⟩
          exact (absent other member).1 same
        · rintro ⟨⟨fresh, distinct⟩, _, absent⟩
          exact ⟨distinct, fun other member =>
            ⟨fun same => fresh ⟨other, member, same⟩, absent other member⟩⟩

theorem event_ofEvent (event : TransferEvent) :
    (ofEvent event).event event.logIndex = .ok event := by
  rw [EventRow.event, ofEvent, Column.readAmount_toString]
  rfl

end EventRow

namespace EventLog

theorem of_get?_byIndex {events : List TransferEvent} {key : Int64} {event : TransferEvent}
    (found : (byIndex events).get? key = some event) : event ∈ events ∧ event.logIndex = key := by
  rw [byIndex, SortedMap.get?_ofList] at found
  have present := List.mem_reverse.mp (Entries.mem_of_find?_eq_some found)
  obtain ⟨origin, member, pair⟩ := List.mem_map.mp present
  cases pair
  exact ⟨member, rfl⟩

theorem keyed_byIndex (events : List TransferEvent) : (byIndex events).Keyed :=
  fun _ _ found => (of_get?_byIndex found).2

theorem readEvents_rows {log : EventLog} (keyed : log.Keyed) :
    Row.readEvents log.rows = .ok (ofEvents log.values) := by
  have read : log.rows.entries.mapM (fun entry => entry.2.event entry.1) = .ok log.values := by
    rw [mapM_eq_ok_iff, rows, SortedMap.mapValues, SortedMap.values, List.forall₂_map_left_iff,
      List.forall₂_map_right_iff]
    apply List.forall₂_same.mpr
    intro entry member
    have own := keyed entry.1 entry.2 (SortedMap.get?_eq_some_iff.mpr member)
    rw [← own]
    exact EventRow.event_ofEvent entry.2
  simp [Row.readEvents, read, bind, Except.bind, pure, Except.pure]

end EventLog

namespace Transaction

/-- The version and the gas fit signed words. -/
def Fits (tx : Transaction) : Prop :=
  tx.identity.version.toNat < Word.limit ∧ tx.gas.used.toNat < Word.limit ∧
    tx.gas.max.toNat < Word.limit

instance (tx : Transaction) : Decidable tx.Fits := by unfold Fits; infer_instance

/-- No two events have one log index. -/
def LogsOnce (tx : Transaction) : Prop := (tx.events.values.map TransferEvent.logIndex).Nodup

instance (tx : Transaction) : Decidable tx.LogsOnce := by unfold LogsOnce; infer_instance

/-- The transaction as a store gives it back, at an instant in whole microseconds. -/
def kept (instant : Instant) (annotations : Annotations) : Transaction → Transaction
  | .sequential tx => .sequential { tx with timestamp := instant, annotations }
  | .block tx =>
      .block { tx with timestamp := instant, annotations, events := EventLog.kept tx.events }

theorem kept_self {tx : Transaction} (tidy : tx.Tidy) :
    tx.kept tx.timestamp tx.annotations = tx := by
  cases tx with
  | sequential tx => rfl
  | block tx =>
      have log : EventLog.kept tx.events = tx.events :=
        EventLog.kept_of_keyed tidy.keyed tidy.settled
      rw [kept, log]
      rfl

theorem logsOnce_of_keyed {tx : Transaction} (keyed : EventLog.Keyed tx.events) : tx.LogsOnce :=
  EventLog.nodup_logIndex_of_keyed keyed

end Transaction

namespace RowBody

def keeping : Transaction → RowBody
  | .sequential tx => .sequential {
      publicKey := tx.publicKey
      gasCurrency := tx.gasCurrency
      currency := tx.transfer.currency
      amount := toString tx.transfer.amount
      sender := tx.transfer.sender
      receiver := tx.transfer.receiver }
  | .block tx => .block {
      gatewayCurrency := tx.gatewayCurrency
      gatewayFee := tx.gatewayFee.map toString
      gatewayRecipient := tx.gatewayRecipient
      events := (EventLog.byIndex tx.events.values).rows }

theorem ofTransaction_eq (tx : Transaction) :
    ofTransaction tx = if tx.LogsOnce then .ok (keeping tx) else .error .eventTwice := by
  cases tx with
  | sequential tx =>
      have once : (Transaction.sequential tx).LogsOnce := List.nodup_nil
      rw [if_pos once]
      rfl
  | block tx =>
      have added := EventRow.addEvents_rows .empty tx.events.values
      have gathered : tx.events.values.foldl
          (fun (log : EventLog) event => log.insert event.logIndex event) .empty =
            EventLog.byIndex tx.events.values := by
        rw [EventLog.byIndex, SortedMap.ofList, List.foldl_map]
      have absent : ∀ event ∈ tx.events.values,
          (SortedMap.empty : EventLog).contains event.logIndex = false := fun _ _ => rfl
      have fromNothing : EventLog.rows .empty = .empty := rfl
      rw [gathered, fromNothing] at added
      by_cases once : (tx.events.values.map TransferEvent.logIndex).Nodup
      · rw [if_pos ⟨once, absent⟩] at added
        simp [ofTransaction, keeping, Transaction.LogsOnce, Transaction.events, once, added,
          bind, Except.bind, pure, Except.pure]
      · rw [if_neg fun both => once both.1] at added
        simp [ofTransaction, Transaction.LogsOnce, Transaction.events, once, added, bind,
          Except.bind]

end RowBody

namespace Row

def keeping (tx : Transaction) : Row :=
  { gasPrice := toString tx.gas.price
    gasUsed := Int64.ofNat tx.gas.used.toNat
    gasMax := Int64.ofNat tx.gas.max.toNat
    status := tx.status
    hash := tx.hash
    micros := Int64.ofInt tx.timestamp.micros
    body := RowBody.keeping tx }

theorem gas_keeping {tx : Transaction} (fits : tx.Fits) : (keeping tx).gas = .ok tx.gas := by
  obtain ⟨_, used, most⟩ := fits
  have price := Column.readAmount_toString .gasPrice tx.gas.price
  have used := Column.read_ofNat .gasUsed used
  have most := Column.read_ofNat .gasMax most
  simp only [gas, keeping, price, used, most]
  rfl

theorem toInt_micros_keeping (tx : Transaction) :
    (keeping tx).micros.toInt = tx.timestamp.micros := by
  obtain ⟨low, high⟩ := tx.timestamp.micros_fits
  exact Int64.toInt_ofInt_of_le low high

theorem timestamp_keeping {tx : Transaction} {instant : Instant}
    (found : tx.timestamp.kept? = some instant) : (keeping tx).timestamp = .ok instant := by
  unfold Instant.kept? at found
  simp only [timestamp, toInt_micros_keeping, found]

theorem timestamp_keeping_eq_none {tx : Transaction} (lost : tx.timestamp.kept? = none) :
    (keeping tx).timestamp = .error (.noInstant (keeping tx).micros) := by
  unfold Instant.kept? at lost
  simp only [timestamp, toInt_micros_keeping, lost]

/-- What was written comes back, in the form in which a store keeps it. -/
theorem transaction_keeping {tx : Transaction} (fits : tx.Fits) {instant : Instant}
    (found : tx.timestamp.kept? = some instant) (annotations : Annotations) :
    (keeping tx).transaction tx.identity annotations = .ok (tx.kept instant annotations) := by
  have gas := gas_keeping fits
  have timestamp := timestamp_keeping found
  rw [transaction, gas, timestamp]
  cases tx with
  | sequential tx =>
      have amount := Column.readAmount_toString .amount tx.transfer.amount
      simp only [bind, Except.bind, keeping, RowBody.keeping, amount]
      rfl
  | block tx =>
      have fee : (tx.gatewayFee.map toString).mapM Column.gatewayFee.readAmount =
          .ok tx.gatewayFee := by
        cases tx.gatewayFee with
        | none => rfl
        | some fee =>
            have amount := Column.readAmount_toString .gatewayFee fee
            simp only [Option.map_some, Option.mapM_some, amount]
            rfl
      have events := EventLog.readEvents_rows (EventLog.keyed_byIndex tx.events.values)
      simp only [bind, Except.bind, keeping, RowBody.keeping, fee, events]
      rfl

theorem transaction_keeping_self {tx : Transaction} (fits : tx.Fits) (tidy : tx.Tidy)
    (whole : tx.timestamp.kept? = some tx.timestamp) :
    (keeping tx).transaction tx.identity tx.annotations = .ok tx := by
  rw [transaction_keeping fits whole, Transaction.kept_self tidy]

theorem transaction_keeping_eq_error {tx : Transaction} (fits : tx.Fits)
    (lost : tx.timestamp.kept? = none) (annotations : Annotations) :
    (keeping tx).transaction tx.identity annotations =
      .error (.noInstant (keeping tx).micros) := by
  have gas := gas_keeping fits
  have timestamp := timestamp_keeping_eq_none lost
  rw [transaction, gas, timestamp]
  rfl

end Row

end Passbook
