import Passbook.Proofs.Pass.Course
import Passbook.Proofs.Store.Reads
import Passbook.Proofs.Store.Writes
/-!
What a pass that ends well does to the rows of the store, identity by identity: a transaction that
differs from its known copy takes the place of whatever was stored, one that is not known is stored
if its identity is free, and all other rows stay.
-/

namespace Passbook

theorem of_find?_identity {batch : List Transaction} {identity : Identity} {tx : Transaction}
    (found : (batch.find? fun tx => tx.identity = identity) = some tx) :
    tx ∈ batch ∧ tx.identity = identity :=
  ⟨List.mem_of_find?_eq_some found, by simpa using List.find?_some found⟩

/-- In a batch without two copies of one identity it does not matter which copy is taken. -/
theorem find?_identity_eq_some_iff {batch : List Transaction}
    (single : ∀ first ∈ batch, ∀ second ∈ batch,
      first.identity = second.identity → first = second) {identity : Identity}
    {tx : Transaction} :
    (batch.find? fun tx => tx.identity = identity) = some tx ↔
      tx ∈ batch ∧ tx.identity = identity := by
  constructor
  · exact of_find?_identity
  · rintro ⟨member, own⟩
    cases found : batch.find? fun tx => tx.identity = identity with
    | none =>
        have absent := List.find?_eq_none.mp found tx member
        simp [own] at absent
    | some other =>
        obtain ⟨present, same⟩ := of_find?_identity found
        rw [single other present tx member (same.trans own.symm)]

namespace TransactionMap

/-- Every transaction stands under its own identity. -/
def Keyed (view : TransactionMap) : Prop :=
  ∀ identity tx, view.get? identity = some tx → tx.identity = identity

end TransactionMap

namespace Ledger
variable {ledger : Ledger} {known remote : TransactionMap} {identity : Identity}

theorem keyed_remote {views : List TransactionMap} (done : ledger.remote views = .ok remote) :
    TransactionMap.Keyed remote := fun _ _ found => (belongs_of_remote done found).1

theorem find?_fresh (keyed : TransactionMap.Keyed remote) :
    ((ledger.merge known remote).fresh.find? fun tx => tx.identity = identity) =
      match known.get? identity with
      | none => remote.get? identity
      | some _ => none := by
  apply Option.ext
  intro tx
  rw [find?_identity_eq_some_iff]
  · rw [mem_fresh]
    constructor
    · rintro ⟨⟨own, unknown, found⟩, rfl⟩
      rw [keyed own tx found, unknown]
      exact found
    · intro found
      cases held : known.get? identity with
      | none =>
          rw [held] at found
          exact ⟨⟨identity, held, found⟩, keyed identity tx found⟩
      | some copy =>
          rw [held] at found
          cases found
  · rintro first member₁ second member₂ same
    obtain ⟨own₁, _, found₁⟩ := mem_fresh.mp member₁
    obtain ⟨own₂, _, found₂⟩ := mem_fresh.mp member₂
    have one : own₁ = own₂ := by rw [← keyed _ _ found₁, same, keyed _ _ found₂]
    subst one
    exact Option.some.inj (found₁.symm.trans found₂)

theorem find?_revised (keyed : TransactionMap.Keyed remote) :
    ((ledger.merge known remote).revised.find? fun tx => tx.identity = identity) =
      match known.get? identity, remote.get? identity with
      | some copy, some tx =>
          if ledger.compare copy tx = .unchanged then none else some (ledger.revision copy tx)
      | _, _ => none := by
  apply Option.ext
  intro tx
  rw [find?_identity_eq_some_iff]
  · rw [mem_revised]
    constructor
    · rintro ⟨⟨own, copy, sighting, held, found, differs, rfl⟩, rfl⟩
      rw [identity_revision, keyed own sighting found, held, found]
      simp [differs]
    · intro picked
      cases held : known.get? identity with
      | none => simp [held] at picked
      | some copy =>
          cases found : remote.get? identity with
          | none => simp [held, found] at picked
          | some sighting =>
              by_cases same : ledger.compare copy sighting = .unchanged
              · simp [held, found, same] at picked
              · have built : ledger.revision copy sighting = tx := by
                  simpa [held, found, same] using picked
                refine ⟨⟨identity, copy, sighting, held, found, same, built.symm⟩, ?_⟩
                rw [← built, identity_revision]
                exact keyed identity sighting found
  · rintro first member₁ second member₂ same
    obtain ⟨own₁, copy₁, sighting₁, held₁, found₁, _, rfl⟩ := mem_revised.mp member₁
    obtain ⟨own₂, copy₂, sighting₂, held₂, found₂, _, rfl⟩ := mem_revised.mp member₂
    have one : own₁ = own₂ := by
      rw [identity_revision, identity_revision, keyed _ _ found₁, keyed _ _ found₂] at same
      exact same
    subst one
    cases held₁.symm.trans held₂
    cases found₁.symm.trans found₂
    rfl

end Ledger

namespace Store
variable {store added after : Store} {ledger : Ledger} {known remote : TransactionMap}

theorem get?_of_writes (keyed : TransactionMap.Keyed remote)
    (stored : store.addNew (ledger.merge known remote).fresh = .ok added)
    (replaced : added.replace (ledger.merge known remote).revised = .ok after)
    (identity : Identity) :
    after.rows.get? identity =
      match remote.get? identity, known.get? identity with
      | none, _ => store.rows.get? identity
      | some tx, none => (store.rows.get? identity).or (some (Row.keeping tx))
      | some tx, some copy =>
          if ledger.compare copy tx = .unchanged then store.rows.get? identity
          else some (Row.keeping (ledger.revision copy tx)) := by
  -- Only one of the batches can hold the identity, and which is up to the two views.
  rw [get?_replace replaced, get?_addNew stored, Ledger.find?_fresh keyed,
    Ledger.find?_revised keyed]
  cases seen : remote.get? identity with
  | none => cases known.get? identity <;> simp
  | some sighting =>
      cases known.get? identity with
      | none => simp
      | some copy =>
          by_cases same : ledger.compare copy sighting = .unchanged
          · simp [same]
          · simp [same]

theorem annotations_of_writes {fresh revised : List Transaction}
    (stored : store.addNew fresh = .ok added) (replaced : added.replace revised = .ok after) :
    after.annotations = store.annotations :=
  (annotations_replace replaced).trans (annotations_addNew stored)

theorem fits_of_writes (stored : store.addNew (ledger.merge known remote).fresh = .ok added)
    (replaced : added.replace (ledger.merge known remote).revised = .ok after)
    {identity : Identity} {tx : Transaction} (found : remote.get? identity = some tx) :
    (known.get? identity = none → tx.Fits) ∧
      ∀ copy, known.get? identity = some copy → ledger.compare copy tx ≠ .unchanged →
        (ledger.revision copy tx).Fits := by
  constructor
  · intro unknown
    exact fits_of_addNew stored tx (Ledger.mem_fresh.mpr ⟨identity, unknown, found⟩)
  · intro copy held differs
    exact fits_of_replace replaced _
      (Ledger.mem_revised.mpr ⟨identity, copy, tx, held, found, differs, rfl⟩)

end Store

namespace Sample

/-! Two wallets that share a transaction: each has one of its events. -/

def ledger : Ledger := ⟨.block, ⟨"celo"⟩⟩

def first : String := "0x1111111111111111111111111111111111111111"

def second : String := "0x2222222222222222222222222222222222222222"

def transfer (sender : String) (logIndex : Int64) : TransferEvent :=
  { logIndex
    currency := "CELO"
    sender
    receiver := "0x3333333333333333333333333333333333333333"
    amount := 5 }

def shared (events : List TransferEvent) (version : UInt64 := 10) : Transaction :=
  .block {
    identity := ⟨ledger.chain, version, 0⟩
    gas := ⟨1, 21000, 21000⟩
    status := "ok"
    hash := "0x10"
    timestamp := .epoch
    gatewayFee := none
    gatewayRecipient := ""
    gatewayCurrency := ""
    events := .ofEvents events }

/-- The query for a wallet tells of the events of this wallet only. -/
def answer (wallet : String) : TransactionMap :=
  .ofTransactions [shared [transfer wallet (if wallet = first then 0 else 1)]]

def request (wallet : String) : Pass.Request := { ledger, addresses := [wallet], start := 0 }

/-- A store that fails whenever this is asked of it. -/
def failing (wanted : Pass.StoreCall) : Pass.Outage := fun call =>
  if call = wanted then some (.background "stopped") else none

def passOver (store : Store) (wallet : String) : Store × Pass :=
  Pass.run .none store (request wallet) [.found (answer wallet)]

end Sample

end Passbook
