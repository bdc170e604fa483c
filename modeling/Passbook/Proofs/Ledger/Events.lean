import Passbook.Ledger.Rules
import Passbook.Proofs.Maps
/-!
Transfer logs by look-ups: building a log from events, normalizing it, carrying one log into
another. A log of which every event stands at its own index is changed by none of this except
where an index is negative.
-/

namespace Passbook

namespace EventLog

/-- Every event stands at its own log index. -/
def Keyed (log : EventLog) : Prop :=
  ∀ key event, log.get? key = some event → event.logIndex = key

/-- No place is negative. -/
def Settled (log : EventLog) : Prop :=
  ∀ key, log.contains key = true → 0 ≤ key

/-- No event has a negative log index. -/
def Placed (log : EventLog) : Prop := ∀ event ∈ log.values, 0 ≤ event.logIndex

/-- The events at their own indexes. Where two have one index the later stands. -/
def byIndex (events : List TransferEvent) : EventLog :=
  SortedMap.ofList (events.map fun event => (event.logIndex, event))

/-- The log as a store gives it back. -/
def kept (log : EventLog) : EventLog := ofEvents (byIndex log.values).values

theorem ofEvents_eq (events : List TransferEvent) :
    ofEvents events =
      SortedMap.ofList (events.map fun event => (event.settled.logIndex, event.settled)) := by
  rw [SortedMap.ofList, List.foldl_map]
  rfl

theorem map_entries_of_keyed {log : EventLog} (keyed : log.Keyed) :
    log.values.map (fun event => (event.logIndex, event)) = log.entries := by
  rw [SortedMap.values, List.map_map]
  refine (List.map_congr_left fun entry member => ?_).trans (List.map_id _)
  have own := keyed entry.1 entry.2 (SortedMap.get?_eq_some_iff.mpr member)
  simp [own]

theorem byIndex_values {log : EventLog} (keyed : log.Keyed) : byIndex log.values = log := by
  rw [byIndex, map_entries_of_keyed keyed, SortedMap.ofList_entries]

theorem nodup_logIndex_of_keyed {log : EventLog} (keyed : log.Keyed) :
    (log.values.map TransferEvent.logIndex).Nodup := by
  have indexes : log.values.map TransferEvent.logIndex = log.keys := by
    rw [SortedMap.keys, ← map_entries_of_keyed keyed, List.map_map]
    rfl
  rw [indexes]
  exact log.keys_nodup

theorem placed_of_settled {log : EventLog} (keyed : log.Keyed) (settled : log.Settled) :
    log.Placed := by
  intro event member
  obtain ⟨key, found⟩ := SortedMap.mem_values_iff.mp member
  rw [keyed key event found]
  exact settled key (SortedMap.contains_iff_exists.mpr ⟨event, found⟩)

/-- Only a negative index is moved. -/
theorem ofEvents_eq_byIndex {events : List TransferEvent}
    (placed : ∀ event ∈ events, 0 ≤ event.logIndex) : ofEvents events = byIndex events := by
  rw [ofEvents_eq, byIndex]
  refine congrArg SortedMap.ofList (List.map_congr_left fun event member => ?_)
  have stays : event.settled = event := by
    rw [TransferEvent.settled, if_neg (Int64.not_lt.mpr (placed event member))]
  rw [stays]

theorem ofEvents_values {log : EventLog} (keyed : log.Keyed) (settled : log.Settled) :
    ofEvents log.values = log := by
  rw [ofEvents_eq_byIndex (placed_of_settled keyed settled), byIndex_values keyed]

theorem kept_of_keyed {log : EventLog} (keyed : log.Keyed) (settled : log.Settled) :
    log.kept = log := by
  rw [kept, byIndex_values keyed, ofEvents_values keyed settled]

theorem logIndex_settled (event : TransferEvent) : 0 ≤ event.settled.logIndex := by
  unfold TransferEvent.settled
  split
  case isTrue negative => exact Int64.le_refl 0
  case isFalse place => exact Int64.not_lt.mp place

/-- What a log built from events holds at a place is an event of the list, put where it belongs. -/
theorem exists_of_get?_ofEvents {events : List TransferEvent} {key : Int64}
    {event : TransferEvent} (found : (ofEvents events).get? key = some event) :
    ∃ origin ∈ events, event = origin.settled ∧ key = origin.settled.logIndex := by
  rw [ofEvents_eq, SortedMap.get?_ofList] at found
  have present := List.mem_reverse.mp (Entries.mem_of_find?_eq_some found)
  obtain ⟨origin, member, pair⟩ := List.mem_map.mp present
  cases pair
  exact ⟨origin, member, rfl, rfl⟩

theorem keyed_ofEvents (events : List TransferEvent) : (ofEvents events).Keyed := by
  intro key event found
  obtain ⟨origin, _, rfl, rfl⟩ := exists_of_get?_ofEvents found
  rfl

theorem settled_ofEvents (events : List TransferEvent) : (ofEvents events).Settled := by
  intro key held
  obtain ⟨event, found⟩ := SortedMap.contains_iff_exists.mp held
  obtain ⟨origin, _, _, rfl⟩ := exists_of_get?_ofEvents found
  exact logIndex_settled origin

/-- The first key is the least, so a log without a negative first key has none at all. -/
theorem settled_of_firstKey {log : EventLog} (first : log.firstKey?.any (· < 0) = false) :
    log.Settled := by
  intro key held
  obtain ⟨event, found⟩ := SortedMap.contains_iff_exists.mp held
  have member := SortedMap.get?_eq_some_iff.mp found
  cases entries : log.entries with
  | nil => simp [entries] at member
  | cons head rest =>
      have least : 0 ≤ head.1 := by
        have notNegative : ¬ head.1 < 0 := by simpa [firstKey?, entries] using first
        exact Int64.not_lt.mp notNegative
      rw [entries] at member
      -- Every other key is above the first.
      rcases List.mem_cons.mp member with same | later
      · rw [show key = head.1 from congrArg Prod.fst same]
        exact least
      · have ascending := log.ascending
        rw [entries] at ascending
        have above := (List.pairwise_cons.mp ascending).1 _ later
        exact Int64.le_trans least (Int64.le_of_lt (Std.compare_eq_lt.mp above))

theorem settled_normalized (log : EventLog) : log.normalized.Settled := by
  unfold normalized
  split
  case isTrue negative => exact settled_ofEvents _
  case isFalse first => exact settled_of_firstKey (by simpa using first)

theorem keyed_normalized {log : EventLog} (keyed : log.Keyed) : log.normalized.Keyed := by
  unfold normalized
  split
  case isTrue negative => exact keyed_ofEvents _
  case isFalse first => exact keyed

theorem normalized_of_settled {log : EventLog} (settled : log.Settled) :
    log.normalized = log := by
  unfold normalized
  cases entries : log.entries with
  | nil => simp [firstKey?, entries]
  | cons head rest =>
      have first : log.get? head.1 = some head.2 := by
        rw [SortedMap.get?_eq_some_iff, entries]
        exact List.mem_cons_self
      have place : ¬ head.1 < 0 :=
        Int64.not_lt.mpr (settled head.1 (SortedMap.contains_iff_exists.mpr ⟨_, first⟩))
      simp [firstKey?, entries, place]

theorem get?_carry (base incoming : EventLog) (key : Int64) :
    (carry base incoming).get? key = (incoming.get? key).or (base.get? key) :=
  SortedMap.get?_foldl_insertIfNew base.entries incoming key

theorem contains_carry (base incoming : EventLog) (key : Int64) :
    (carry base incoming).contains key = (incoming.contains key || base.contains key) := by
  simp only [SortedMap.contains, get?_carry, Option.isSome_or]

theorem keyed_carry {base incoming : EventLog} (keyed₁ : base.Keyed) (keyed₂ : incoming.Keyed) :
    (carry base incoming).Keyed := by
  intro key event found
  rw [get?_carry, Option.or_eq_some_iff] at found
  rcases found with own | ⟨_, carried⟩
  · exact keyed₂ key event own
  · exact keyed₁ key event carried

theorem settled_carry {base incoming : EventLog} (settled₁ : base.Settled)
    (settled₂ : incoming.Settled) : (carry base incoming).Settled := by
  intro key held
  rw [contains_carry, Bool.or_eq_true] at held
  exact held.elim (settled₂ key) (settled₁ key)

end EventLog

namespace Transaction

/-- Every event stands at its own log index, and no index is negative. -/
structure Tidy (tx : Transaction) : Prop where
  keyed : EventLog.Keyed tx.events
  settled : EventLog.Settled tx.events

theorem tidy_sequential (tx : SequentialTransaction) : (sequential tx).Tidy := by
  constructor
  · intro key event found
    cases found
  · intro key held
    cases held

/-- The transaction with this log; one of a sequential ledger has none. -/
def withEvents (events : EventLog) : Transaction → Transaction
  | .sequential tx => .sequential tx
  | .block tx => .block { tx with events }

@[simp] theorem withEvents_events (tx : Transaction) : tx.withEvents tx.events = tx := by
  cases tx <;> rfl

@[simp] theorem withEvents_withEvents (tx : Transaction) (first second : EventLog) :
    (tx.withEvents first).withEvents second = tx.withEvents second := by
  cases tx <;> rfl

end Transaction

end Passbook
