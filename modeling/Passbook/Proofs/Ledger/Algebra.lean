import Passbook.Proofs.Ledger.Merge
/-!
How merging and comparing agree. Merging joins two logs and lets the incoming event stand wherever
both have one; a copy that has been merged shows no difference any more, and where none is shown
there was nothing to merge.
-/

namespace Passbook

namespace EventLog

theorem carry_self (log : EventLog) : carry log log = log := by
  apply SortedMap.ext
  intro key
  rw [get?_carry, Option.or_self]

theorem carry_assoc (first second third : EventLog) :
    carry first (carry second third) = carry (carry first second) third := by
  apply SortedMap.ext
  intro key
  rw [get?_carry, get?_carry, get?_carry, get?_carry, Option.or_assoc]

end EventLog

namespace Ledger
variable {ledger : Ledger} {first second third : Transaction}

theorem events_mergeEvents (own₁ : first.kind = ledger.kind) (own₂ : second.kind = ledger.kind) :
    (ledger.mergeEvents first second).events = EventLog.carry first.events second.events := by
  cases second with
  | sequential tx =>
      -- Neither has a log, nor does the merged copy.
      cases first with
      | sequential seen =>
          have sequential : ledger.kind = .sequential := own₁.symm
          simp only [mergeEvents, sequential, Transaction.events]
          rfl
      | block seen => cases own₁.trans own₂.symm
  | block tx =>
      rw [mergeEvents_eq_withEvents own₂]
      rfl

/-- Merging leaves everything but the log as the incoming copy has it. -/
theorem withEvents_mergeEvents (own : second.kind = ledger.kind) (events : EventLog) :
    (ledger.mergeEvents first second).withEvents events = second.withEvents events := by
  rw [mergeEvents_eq_withEvents own, Transaction.withEvents_withEvents]

theorem mergeEvents_self (own : first.kind = ledger.kind) :
    ledger.mergeEvents first first = first := by
  rw [mergeEvents_eq_withEvents own, EventLog.carry_self, Transaction.withEvents_events]

theorem mergeEvents_assoc (own₁ : first.kind = ledger.kind) (own₂ : second.kind = ledger.kind)
    (own₃ : third.kind = ledger.kind) :
    ledger.mergeEvents first (ledger.mergeEvents second third) =
      ledger.mergeEvents (ledger.mergeEvents first second) third := by
  have right : (ledger.mergeEvents second third).kind = ledger.kind := by
    rw [kind_mergeEvents, own₃]
  calc ledger.mergeEvents first (ledger.mergeEvents second third)
      = third.withEvents (EventLog.carry first.events
          (EventLog.carry second.events third.events)) := by
        rw [mergeEvents_eq_withEvents right, withEvents_mergeEvents own₃,
          events_mergeEvents own₂ own₃]
    _ = third.withEvents (EventLog.carry (EventLog.carry first.events second.events)
          third.events) := by
        rw [EventLog.carry_assoc]
    _ = ledger.mergeEvents (ledger.mergeEvents first second) third := by
        rw [mergeEvents_eq_withEvents own₃, events_mergeEvents own₁ own₂]

/-- To merge the same copy in once more changes nothing. -/
theorem mergeEvents_again (own₁ : first.kind = ledger.kind) (own₂ : second.kind = ledger.kind) :
    ledger.mergeEvents first (ledger.mergeEvents first second) =
      ledger.mergeEvents first second := by
  rw [mergeEvents_assoc own₁ own₁ own₂, mergeEvents_self own₁]

/-- A copy that has taken over the log of another is as new as the other. -/
theorem compare_mergeEvents (own : second.kind = ledger.kind) :
    ledger.compare (ledger.mergeEvents first second) second = .unchanged := by
  apply (compare_eq_unchanged_iff own).mpr
  constructor
  · exact hash_mergeEvents first second
  · intro _ key held
    obtain ⟨event, found⟩ := SortedMap.contains_iff_exists.mp held
    exact SortedMap.contains_iff_exists.mpr ⟨event, get?_mergeEvents found⟩

/-- Where a comparison shows nothing, a merge would bring no event. -/
theorem contains_mergeEvents_of_unchanged (own₁ : first.kind = ledger.kind)
    (own₂ : second.kind = ledger.kind) (same : ledger.compare first second = .unchanged)
    (key : Int64) : (ledger.mergeEvents first second).events.contains key =
      first.events.contains key := by
  obtain ⟨_, complete⟩ := (compare_eq_unchanged_iff own₂).mp same
  rw [contains_mergeEvents own₁ own₂]
  cases held : second.events.contains key with
  | false => rfl
  | true => rw [complete (own₁.trans own₂.symm) key held, Bool.true_or]

/-- Of two copies of the ledger's own kind, merging the first into the second makes a copy that has
the log indexes of both, the events of the second where it has one and those of the first elsewhere,
and all else from the second. A copy that is merged into itself, or into what it was merged into
before, changes nothing, and of three copies it does not matter which two are merged first. What
comes of a merge is never out of date, and a copy that is not out of date has the hash of the other
and all log indexes that a merge would give it. -/
theorem merging_laws (own₁ : first.kind = ledger.kind) (own₂ : second.kind = ledger.kind)
    (own₃ : third.kind = ledger.kind) :
    (∀ key, (ledger.mergeEvents first second).events.contains key =
        (first.events.contains key || second.events.contains key)) ∧
      (∀ key event, second.events.get? key = some event →
        (ledger.mergeEvents first second).events.get? key = some event) ∧
      (∀ key, second.events.get? key = none →
        (ledger.mergeEvents first second).events.get? key = first.events.get? key) ∧
      (ledger.mergeEvents first second).withEvents second.events = second ∧
      ledger.mergeEvents first first = first ∧
      ledger.mergeEvents first (ledger.mergeEvents first second) =
        ledger.mergeEvents first second ∧
      ledger.mergeEvents first (ledger.mergeEvents second third) =
        ledger.mergeEvents (ledger.mergeEvents first second) third ∧
      ledger.compare (ledger.mergeEvents first second) second = .unchanged ∧
      (ledger.compare first second = .unchanged → first.hash = second.hash ∧
        ∀ key, (ledger.mergeEvents first second).events.contains key =
          first.events.contains key) := by
  refine ⟨?_, ?_, ?_, ?_, mergeEvents_self own₁, mergeEvents_again own₁ own₂,
    mergeEvents_assoc own₁ own₂ own₃, compare_mergeEvents own₂, ?_⟩
  · intro key
    rw [contains_mergeEvents own₁ own₂, Bool.or_comm]
  · exact fun key event found => get?_mergeEvents found
  · intro key absent
    rw [events_mergeEvents own₁ own₂, EventLog.get?_carry, absent, Option.none_or]
  · rw [withEvents_mergeEvents own₂, Transaction.withEvents_events]
  · intro same
    exact ⟨((compare_eq_unchanged_iff own₂).mp same).1,
      contains_mergeEvents_of_unchanged own₁ own₂ same⟩

end Ledger

namespace Sample

/-- A transaction that logs an amount at each of these indexes. -/
def logging (amount : Nat) (indexes : List Int64) : Transaction := .block {
  identity := ⟨⟨"celo"⟩, 40, 1⟩
  gas := ⟨1, 21000, 21000⟩
  status := "ok"
  hash := "0xabc"
  timestamp := .epoch
  gatewayFee := none
  gatewayRecipient := ""
  gatewayCurrency := ""
  events := .ofEvents (indexes.map fun index => ⟨index, "cUSD", "0x11", "0x22", amount⟩) }

end Sample

namespace Ledger

/-- Three copies whose logs overlap and do not agree. -/
theorem merging_laws_sample :
    let ledger : Ledger := ⟨.block, ⟨"celo"⟩⟩
    let first := Sample.logging 1 [0, 2]
    let second := Sample.logging 2 [2]
    let third := Sample.logging 3 [0, 1]
    (ledger.mergeEvents first second).events.values.map TransferEvent.amount = [1, 2] ∧
      ledger.mergeEvents first (ledger.mergeEvents second third) =
        ledger.mergeEvents (ledger.mergeEvents first second) third ∧
      ledger.compare first second = .unchanged ∧
      ∀ key, (ledger.mergeEvents first second).events.contains key =
        first.events.contains key := by
  intro ledger first second third
  have same : ledger.compare first second = .unchanged := by decide
  obtain ⟨_, _, _, _, _, _, assoc, _, settled⟩ :=
    @merging_laws ledger first second third rfl rfl rfl
  exact ⟨by decide, assoc, same, (settled same).2⟩

end Ledger

end Passbook
