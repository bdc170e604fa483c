import Passbook.Proofs.Ledger.Sightings
/-!
Sightings that do not contradict each other. Which transactions a remote view holds and which log
indexes they have depends only on what is sighted; where sightings agree the whole view does.
-/

namespace Passbook

namespace Transaction

/-- Two sightings that differ at most in which events they tell of. -/
structure Agrees (first second : Transaction) : Prop where
  apart : first.withEvents .empty = second.withEvents .empty
  events : ∀ key event other, first.normalized.events.get? key = some event →
    second.normalized.events.get? key = some other → event = other

theorem Agrees.refl (tx : Transaction) : tx.Agrees tx where
  apart := rfl
  events _ _ _ found found' := Option.some.inj (found.symm.trans found')

theorem Agrees.symm {first second : Transaction} (agrees : first.Agrees second) :
    second.Agrees first where
  apart := agrees.apart.symm
  events key event other found found' := (agrees.events key other event found' found).symm

theorem agrees_of_disjoint {first second : Transaction}
    (apart : first.withEvents .empty = second.withEvents .empty)
    (disjoint : ∀ key ∈ first.normalized.events.keys,
      second.normalized.events.contains key = false) : first.Agrees second where
  apart := apart
  events key event other found found' := by
    have told := SortedMap.contains_iff_mem_keys.mp (SortedMap.contains_iff_exists.mpr ⟨_, found⟩)
    rw [SortedMap.contains_eq_false_iff.mp (disjoint key told)] at found'
    cases found'

theorem eq_of_withEvents {first second : Transaction}
    (apart : first.withEvents .empty = second.withEvents .empty)
    (events : first.events = second.events) : first = second := by
  rw [← withEvents_events first, ← withEvents_events second, events,
    ← withEvents_withEvents first .empty, ← withEvents_withEvents second .empty, apart]

end Transaction

namespace Ledger
variable {ledger : Ledger} {views others : List TransactionMap}
  {remote remote' : TransactionMap}

theorem get?_mergeEvents_cases {base incoming : Transaction} {key : Int64}
    {event : TransferEvent}
    (found : (ledger.mergeEvents base incoming).events.get? key = some event) :
    incoming.events.get? key = some event ∨ base.events.get? key = some event := by
  rcases mergeEvents_cases ledger base incoming with same | ⟨seen, tx, rfl, rfl, same⟩
  · rw [same] at found
    exact .inl found
  · rw [same] at found
    change (EventLog.carry seen.events tx.events).get? key = some event at found
    rw [EventLog.get?_carry, Option.or_eq_some_iff] at found
    exact found.imp_right And.right

theorem exists_sighting_of_event (done : ledger.remote views = .ok remote) {identity : Identity}
    {tx : Transaction} (found : remote.get? identity = some tx) {key : Int64}
    {event : TransferEvent} (logged : tx.events.get? key = some event) :
    ∃ sighting ∈ sightingsOf views identity,
      sighting.normalized.events.get? key = some event := by
  refine remote_induction done (fun tx => tx.events.get? key = some event →
    ∃ sighting ∈ sightingsOf views identity, sighting.normalized.events.get? key = some event)
    ?_ ?_ found logged
  · exact fun tx sighted logged => ⟨tx, sighted, logged⟩
  · intro seen before tx sighted logged
    rcases get?_mergeEvents_cases logged with own | carried
    · exact ⟨tx, sighted, own⟩
    · exact before carried

/-- No two sightings of one transaction contradict each other. -/
def Agreed (views : List TransactionMap) : Prop :=
  ∀ first ∈ sightings views, ∀ second ∈ sightings views,
    first.identity = second.identity → first.Agrees second

section Same
variable (same : ∀ tx, tx ∈ sightings others ↔ tx ∈ sightings views)
include same

theorem exists_remote_iff : (∃ remote, ledger.remote others = .ok remote) ↔
    ∃ remote, ledger.remote views = .ok remote := by
  constructor
  · rintro ⟨_, done⟩
    exact exists_remote ledger views fun tx member =>
      (remote_eq_ok_iff.mp done).1 tx ((same tx).mpr member)
  · rintro ⟨_, done⟩
    exact exists_remote ledger others fun tx member =>
      (remote_eq_ok_iff.mp done).1 tx ((same tx).mp member)

theorem sightingsOf_iff (identity : Identity) (tx : Transaction) :
    tx ∈ sightingsOf others identity ↔ tx ∈ sightingsOf views identity := by
  rw [mem_sightingsOf, mem_sightingsOf, same]

theorem contains_remote_congr (done : ledger.remote views = .ok remote)
    (done' : ledger.remote others = .ok remote') (identity : Identity) :
    remote'.contains identity = remote.contains identity := by
  rw [Bool.eq_iff_iff, contains_remote done', contains_remote done]
  exact exists_congr fun tx => sightingsOf_iff same identity tx

theorem contains_event_remote_congr (done : ledger.remote views = .ok remote)
    (done' : ledger.remote others = .ok remote') {identity : Identity} {tx tx' : Transaction}
    (found : remote.get? identity = some tx) (found' : remote'.get? identity = some tx')
    (key : Int64) : tx'.events.contains key = tx.events.contains key := by
  rw [Bool.eq_iff_iff, contains_event_remote done' found', contains_event_remote done found]
  exact exists_congr fun tx => and_congr_left' (sightingsOf_iff same identity tx)

/-- What stands for sightings that agree is made of their common fields and all their events. -/
theorem remote_eq_of_agreed (agreed : Agreed views) (done : ledger.remote views = .ok remote)
    (done' : ledger.remote others = .ok remote') : remote' = remote := by
  have agrees : ∀ identity, ∀ first ∈ sightingsOf others identity,
      ∀ second ∈ sightingsOf views identity, first.Agrees second := by
    intro identity first sighted second sighted'
    obtain ⟨member, own⟩ := mem_sightingsOf.mp ((sightingsOf_iff same identity first).mp sighted)
    obtain ⟨member', own'⟩ := mem_sightingsOf.mp sighted'
    exact agreed first member second member' (own.trans own'.symm)
  ext identity : 1
  have both := contains_remote_congr same done done' identity
  cases found : remote.get? identity with
  | none =>
      rw [SortedMap.contains_eq_false_iff.mpr found] at both
      exact SortedMap.contains_eq_false_iff.mp both
  | some tx =>
      have held := SortedMap.contains_iff_exists.mpr ⟨tx, found⟩
      obtain ⟨tx', found'⟩ := SortedMap.contains_iff_exists.mp (both.trans held)
      rw [found']
      congr 1
      -- The fields come of some sighting in each view, and so does every event.
      apply Transaction.eq_of_withEvents
      · obtain ⟨first, sighted, part⟩ :=
          exists_sighting_of_remote done' (Transaction.withEvents .empty) (fun _ _ => rfl) found'
        obtain ⟨second, sighted', part'⟩ :=
          exists_sighting_of_remote done (Transaction.withEvents .empty) (fun _ _ => rfl) found
        rw [part, part']
        exact (agrees identity first sighted second sighted').apart
      · ext key : 1
        have indexed := contains_event_remote_congr same done done' found found' key
        cases logged : tx.events.get? key with
        | none =>
            rw [SortedMap.contains_eq_false_iff.mpr logged] at indexed
            exact SortedMap.contains_eq_false_iff.mp indexed
        | some event =>
            have there := SortedMap.contains_iff_exists.mpr ⟨event, logged⟩
            obtain ⟨other, logged'⟩ := SortedMap.contains_iff_exists.mp (indexed.trans there)
            obtain ⟨first, sighted, told⟩ := exists_sighting_of_event done' found' logged'
            obtain ⟨second, sighted', told'⟩ := exists_sighting_of_event done found logged
            rw [logged', (agrees identity first sighted second sighted').events key other event
              told told']

/-- Queries that find the same transactions come to the same remote view, if no two of their
sightings differ. -/
theorem remote_congr (done : ledger.remote views = .ok remote)
    (alike : ∀ first ∈ sightings views, ∀ second ∈ sightings views,
      first.identity = second.identity → first = second) :
    ledger.remote others = .ok remote := by
  have agreed : Agreed views := fun first member second member' own =>
    alike first member second member' own ▸ .refl first
  obtain ⟨remote', done'⟩ := (exists_remote_iff same).mpr ⟨remote, done⟩
  rw [done', remote_eq_of_agreed same agreed done done']

end Same

end Ledger

end Passbook
