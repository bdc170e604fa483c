import Passbook.Ledger.Events
import Passbook.Store.Problem
import Passbook.Text.Decimal
/-!
Transactions as a store keeps them: amounts as decimal texts, counts as signed words, instants in
whole microseconds, and the events of a transaction under their own log indexes. Neither the
identity nor the annotations of a transaction are part of its row.
-/

namespace Passbook

structure EventRow where
  currency : String
  amount : String
  sender : String
  receiver : String
  deriving DecidableEq, Repr, Inhabited

structure SequentialRow where
  publicKey : String
  gasCurrency : String
  currency : String
  amount : String
  sender : String
  receiver : String
  deriving DecidableEq, Repr, Inhabited

structure BlockRow where
  gatewayCurrency : String
  gatewayFee : Option String
  gatewayRecipient : String
  events : SortedMap Int64 EventRow
  deriving DecidableEq, Inhabited

inductive RowBody where
  | sequential (row : SequentialRow)
  | block (row : BlockRow)
  deriving DecidableEq, Inhabited

structure Row where
  gasPrice : String
  gasUsed : Int64
  gasMax : Int64
  status : String
  hash : String
  /-- Microseconds since the start of 1970. -/
  micros : Int64
  body : RowBody
  deriving DecidableEq, Inhabited

namespace Column

/-- A count as a signed word, if it fits one. -/
def write (column : Column) (value : UInt64) : Except StoreProblem Int64 :=
  if value.toNat < Word.limit then .ok (Int64.ofNat value.toNat)
  else .error (.tooLarge column value)

def read (column : Column) (value : Int64) : Except StoreProblem UInt64 :=
  if value < 0 then .error (.negative column value) else .ok (UInt64.ofNat value.toInt.toNat)

def readAmount (column : Column) (text : String) : Except StoreProblem Nat :=
  match Decimal.amount? text with
  | some value => .ok value
  | none => .error (.notAnAmount column text)

end Column

namespace EventRow

def ofEvent (event : TransferEvent) : EventRow :=
  { currency := event.currency
    amount := toString event.amount
    sender := event.sender
    receiver := event.receiver }

/-- One after another; no two events may have the same log index. -/
def addEvents (rows : SortedMap Int64 EventRow) :
    List TransferEvent → Except StoreProblem (SortedMap Int64 EventRow)
  | [] => .ok rows
  | event :: rest =>
      if rows.contains event.logIndex then .error .eventTwice
      else addEvents (rows.insert event.logIndex (ofEvent event)) rest

def event (row : EventRow) (logIndex : Int64) : Except StoreProblem TransferEvent := do
  return {
    logIndex
    amount := ← Column.amount.readAmount row.amount
    currency := row.currency
    sender := row.sender
    receiver := row.receiver }

end EventRow

namespace RowBody

def kind : RowBody → LedgerKind
  | .sequential _ => .sequential
  | .block _ => .block

def ofTransaction : Transaction → Except StoreProblem RowBody
  | .sequential tx => .ok (.sequential {
      publicKey := tx.publicKey
      gasCurrency := tx.gasCurrency
      currency := tx.transfer.currency
      amount := toString tx.transfer.amount
      sender := tx.transfer.sender
      receiver := tx.transfer.receiver })
  | .block tx => do
      return .block {
        gatewayCurrency := tx.gatewayCurrency
        gatewayFee := tx.gatewayFee.map toString
        gatewayRecipient := tx.gatewayRecipient
        events := ← EventRow.addEvents .empty tx.events.values }

/-- The senders and receivers of all transfers. -/
def parties : RowBody → List String
  | .sequential row => [row.sender, row.receiver]
  | .block row => row.events.values.flatMap fun event => [event.sender, event.receiver]

end RowBody

namespace Row

def gas (row : Row) : Except StoreProblem Gas := do
  return {
    price := ← Column.gasPrice.readAmount row.gasPrice
    used := ← Column.gasUsed.read row.gasUsed
    max := ← Column.gasMax.read row.gasMax }

def timestamp (row : Row) : Except StoreProblem Instant :=
  match Instant.ofMicros? row.micros.toInt with
  | some instant => .ok instant
  | none => .error (.noInstant row.micros)

/-- Events are logged in the order of the indexes they are kept under. -/
def readEvents (rows : SortedMap Int64 EventRow) : Except StoreProblem EventLog := do
  let events ← rows.entries.mapM fun entry => entry.2.event entry.1
  return EventLog.ofEvents events

def transaction (row : Row) (identity : Identity) (annotations : Annotations) :
    Except StoreProblem Transaction := do
  let gas ← row.gas
  let timestamp ← row.timestamp
  match row.body with
  | .sequential body =>
      let amount ← Column.amount.readAmount body.amount
      return .sequential {
        identity, gas, timestamp, annotations
        gasCurrency := body.gasCurrency
        status := row.status
        hash := row.hash
        publicKey := body.publicKey
        transfer := ⟨body.currency, body.sender, body.receiver, amount⟩ }
  | .block body =>
      let gatewayFee ← body.gatewayFee.mapM Column.gatewayFee.readAmount
      let events ← readEvents body.events
      return .block {
        identity, gas, timestamp, annotations, gatewayFee, events
        status := row.status
        hash := row.hash
        gatewayRecipient := body.gatewayRecipient
        gatewayCurrency := body.gatewayCurrency }

end Row

end Passbook
