import Passbook.Proofs.Store.Reads
import Passbook.Proofs.Text.Folded
/-!
Which rows an address selects. The row of a transaction names everybody whom the transaction names,
and addresses are compared without regard to the case of ASCII letters, so a transaction in which
one of the addresses takes part is shown again once it is stored.
-/

namespace Passbook

namespace Transaction

/-- The senders and receivers of all transfers. -/
def parties : Transaction → List String
  | .sequential tx => [tx.transfer.sender, tx.transfer.receiver]
  | .block tx => tx.events.values.flatMap fun event => [event.sender, event.receiver]

/-- One of the addresses takes part in the transaction. -/
def Names (tx : Transaction) (addresses : List String) : Prop :=
  ∃ party ∈ tx.parties, ∃ address ∈ addresses, Text.SameButCase party address

instance (tx : Transaction) (addresses : List String) : Decidable (tx.Names addresses) :=
  inferInstanceAs (Decidable (∃ party ∈ tx.parties, ∃ address ∈ addresses,
    Text.SameButCase party address))

end Transaction

theorem RowBody.parties_keeping {tx : Transaction} (keyed : EventLog.Keyed tx.events) :
    (RowBody.keeping tx).parties = tx.parties := by
  cases tx with
  | sequential tx => rfl
  | block tx =>
      have log : EventLog.byIndex tx.events.values = tx.events := EventLog.byIndex_values keyed
      have events : (RowBody.keeping (.block tx)).parties =
          (EventLog.rows tx.events).values.flatMap fun event => [event.sender, event.receiver] := by
        rw [keeping, log]
        rfl
      rw [events]
      simp only [EventLog.rows, SortedMap.mapValues, SortedMap.values, List.map_map,
        List.flatMap_map, Transaction.parties]
      rfl

namespace Store

theorem involves_keeping {tx : Transaction} {addresses : List String}
    (keyed : EventLog.Keyed tx.events) (named : tx.Names addresses) :
    involves (Row.keeping tx) addresses = true := by
  obtain ⟨party, member, address, wanted, same⟩ := named
  rw [involves, List.any_eq_true]
  refine ⟨party, ?_, ?_⟩
  · change party ∈ (RowBody.keeping tx).parties
    rw [RowBody.parties_keeping keyed]
    exact member
  · rw [List.contains_iff_mem, Text.folded_eq_of_sameButCase same]
    exact List.mem_map_of_mem wanted

theorem selects_keeping {tx : Transaction} {chain : ChainId} {addresses : List String}
    {start : UInt64} (home : tx.identity.chain = chain) (onward : start ≤ tx.identity.version)
    (keyed : EventLog.Keyed tx.events) (named : tx.Names addresses) :
    selects chain addresses start tx.identity (Row.keeping tx) = true := by
  have reached : clamped start ≤ tx.identity.version := by
    refine UInt64.le_trans ?_ onward
    change (if start ≤ UInt64.ofNat (Word.limit - 1) then start else _) ≤ start
    split
    case isTrue => exact UInt64.le_refl start
    case isFalse above => exact UInt64.le_of_lt (UInt64.not_le.mp above)
  simp [selects, home, reached, involves_keeping keyed named]

end Store

end Passbook
