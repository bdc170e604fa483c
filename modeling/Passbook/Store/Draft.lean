import Passbook.Store
/-!
How a store carries out a write: statement by statement on a draft of its rows, in which
transactions that are half written stand beside others that are already dropped. The draft takes
the place of the rows once all statements have gone through. If one fails the draft is thrown away.
-/

namespace Passbook

namespace RowBody

/-- The body before any of its events is written. -/
def bare : Transaction → RowBody
  | .sequential tx => .sequential {
      publicKey := tx.publicKey
      gasCurrency := tx.gasCurrency
      currency := tx.transfer.currency
      amount := toString tx.transfer.amount
      sender := tx.transfer.sender
      receiver := tx.transfer.receiver }
  | .block tx => .block {
      gatewayCurrency := tx.gatewayCurrency
      gatewayFee := tx.gatewayFee.map toString
      gatewayRecipient := tx.gatewayRecipient
      events := .empty }

/-- One more event; no two may have the same log index. -/
def log (event : TransferEvent) : RowBody → Except StoreProblem RowBody
  | .sequential row => .ok (.sequential row)
  | .block row =>
      if row.events.contains event.logIndex then .error .eventTwice
      else .ok (.block { row with
        events := row.events.insert event.logIndex (EventRow.ofEvent event) })

end RowBody

/-- Statements on a draft. One that fails leaves the draft as those before it have made it. -/
abbrev Draft := ExceptT StoreProblem (StateM Rows)

namespace Draft

/-- A transaction is dropped with everything that hangs off its row. -/
def drop (tx : Transaction) : Draft Unit := do
  let _ ← ofExcept (Column.version.write tx.identity.version)
  modify fun rows => rows.erase tx.identity

def log (identity : Identity) (event : TransferEvent) : Draft Unit := do
  match (← get).get? identity with
  | none => return
  | some row =>
      let body ← ofExcept (row.body.log event)
      modify fun rows => rows.insert identity { row with body }

/-- The row of a transaction, and then its events into it. -/
def put (tx : Transaction) (gasUsed gasMax : Int64) : Draft Unit := do
  modify fun rows => rows.insert tx.identity {
    gasPrice := toString tx.gas.price
    gasUsed, gasMax
    body := .bare tx
    status := tx.status
    hash := tx.hash
    micros := Int64.ofInt tx.timestamp.micros }
  tx.events.values.forM (log tx.identity)

/-- Numbers are looked at even if the identity is taken, and then nothing is written. -/
def insert (tx : Transaction) : Draft Unit := do
  let _ ← ofExcept (Column.version.write tx.identity.version)
  let gasUsed ← ofExcept (Column.gasUsed.write tx.gas.used)
  let gasMax ← ofExcept (Column.gasMax.write tx.gas.max)
  unless (← get).contains tx.identity do put tx gasUsed gasMax

def add (batch : List Transaction) : Draft Unit := batch.forM insert

/-- Everything is dropped before anything is written again. -/
def replace (batch : List Transaction) : Draft Unit := do
  batch.forM drop
  batch.forM insert

end Draft

/-- What a write leaves of the store, and what became of it. -/
def Store.transact (store : Store) (write : Draft Unit) : Store × Except StoreProblem Unit :=
  match write.run.run store.rows with
  | (.ok (), rows) => ({ store with rows }, .ok ())
  | (.error problem, _) => (store, .error problem)

end Passbook
