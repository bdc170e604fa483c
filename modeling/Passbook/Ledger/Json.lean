import Passbook.Instant.Reader
import Passbook.Json.Double
import Passbook.Json.Reader
import Passbook.Json.Record
import Passbook.Ledger.Transaction
/-!
The JSON form of transactions. Amounts are lists of digits to the base of two to the thirty-second,
least first. A transaction of known kind is a record; one of unknown kind has its kind as a member,
and its content is read whole before it is looked at.
-/

namespace Passbook

namespace Amount

def digitBase : Nat := 4294967296

/-- Without zeros at the end, so that zero has no digits. -/
def toDigits (amount : Nat) : List Nat :=
  if amount = 0 then [] else amount % digitBase :: toDigits (amount / digitBase)
  termination_by amount
  decreasing_by exact Nat.div_lt_self (Nat.pos_of_ne_zero ‹_›) (by decide)

def ofDigits : List Nat → Nat
  | [] => 0
  | digit :: rest => digit + digitBase * ofDigits rest

def toJson (amount : Nat) : Json := .array ((toDigits amount).map Json.nat)

def ofJson? (json : Json) : Option Nat :=
  (json.list? fun digit => digit.uint32?.map UInt32.toNat).map ofDigits

end Amount

namespace Json

def ofUInt64 (value : UInt64) : Json := .nat value.toNat

def ofInt64 (value : Int64) : Json := .int value.toInt

def ofOption {α : Type} (write : α → Json) : Option α → Json
  | none => .null
  | some value => write value

end Json

namespace Instant

def toJson (instant : Instant) : Json := .text instant.text

def ofJson? (json : Json) : Option Instant := json.string?.bind ofText?

end Instant

namespace LedgerKind

def toJson (kind : LedgerKind) : Json := .text kind.name

/-- A kind is its name, or an object whose one member has its name and holds null. -/
def ofJson? : Json → Option LedgerKind
  | .string literal => literal.text?.bind ofName?
  | .object [(literal, .null)] => literal.text?.bind ofName?
  | _ => none

end LedgerKind

namespace Identity

def names : List String := ["chain", "version", "index"]

def toJson (identity : Identity) : Json := .record [
  ("chain", .text identity.chain.name),
  ("version", .ofUInt64 identity.version),
  ("index", .ofInt64 identity.index)]

def ofJson? (json : Json) : Option Identity := do
  let record ← json.record? names
  return {
    chain := ⟨← record.required "chain" Json.string?⟩
    version := ← record.required "version" Json.uint64?
    index := ← record.required "index" Json.int64? }

end Identity

namespace Gas

def names : List String := ["price", "used", "max"]

def toJson (gas : Gas) : Json := .record [
  ("price", Amount.toJson gas.price),
  ("used", .ofUInt64 gas.used),
  ("max", .ofUInt64 gas.max)]

def ofJson? (json : Json) : Option Gas := do
  let record ← json.record? names
  return {
    price := ← record.required "price" Amount.ofJson?
    used := ← record.required "used" Json.uint64?
    max := ← record.required "max" Json.uint64? }

end Gas

namespace Transfer

def names : List String := ["currency", "from", "to", "amount"]

def toJson (transfer : Transfer) : Json := .record [
  ("currency", .text transfer.currency),
  ("from", .text transfer.sender),
  ("to", .text transfer.receiver),
  ("amount", Amount.toJson transfer.amount)]

def ofJson? (json : Json) : Option Transfer := do
  let record ← json.record? names
  return {
    currency := ← record.required "currency" Json.string?
    sender := ← record.required "from" Json.string?
    receiver := ← record.required "to" Json.string?
    amount := ← record.required "amount" Amount.ofJson? }

end Transfer

namespace TransferEvent

def names : List String := ["log_index", "currency", "from", "to", "amount"]

def toJson (event : TransferEvent) : Json := .record [
  ("log_index", .ofInt64 event.logIndex),
  ("currency", .text event.currency),
  ("from", .text event.sender),
  ("to", .text event.receiver),
  ("amount", Amount.toJson event.amount)]

def ofJson? (json : Json) : Option TransferEvent := do
  let record ← json.record? names
  return {
    logIndex := ← record.required "log_index" Json.int64?
    currency := ← record.required "currency" Json.string?
    sender := ← record.required "from" Json.string?
    receiver := ← record.required "to" Json.string?
    amount := ← record.required "amount" Amount.ofJson? }

end TransferEvent

namespace SenderRemark

def names : List String := ["message", "is_refund"]

def toJson (remark : SenderRemark) : Json := .record [
  ("message", .text remark.message),
  ("is_refund", .bool remark.isRefund)]

def ofJson? (json : Json) : Option SenderRemark := do
  let record ← json.record? names
  return {
    message := ← record.required "message" Json.string?
    isRefund := ← record.required "is_refund" Json.bool? }

end SenderRemark

namespace AccountRemark

def names : List String := ["account_id", "message"]

def toJson (remark : AccountRemark) : Json := .record [
  ("account_id", .ofInt64 remark.account),
  ("message", .text remark.message)]

def ofJson? (json : Json) : Option AccountRemark := do
  let record ← json.record? names
  return {
    account := ← record.required "account_id" Json.int64?
    message := ← record.required "message" Json.string? }

end AccountRemark

namespace Annotations

def names : List String := ["sender", "account"]

def toJson (annotations : Annotations) : Json := .record [
  ("sender", .ofOption SenderRemark.toJson annotations.sender),
  ("account", .ofOption AccountRemark.toJson annotations.account)]

def ofJson? (json : Json) : Option Annotations := do
  let record ← json.record? names
  return {
    sender := ← record.optional "sender" SenderRemark.ofJson?
    account := ← record.optional "account" AccountRemark.ofJson? }

end Annotations

namespace SequentialTransaction

def names : List String :=
  ["identity", "gas", "gas_currency", "status", "hash", "timestamp", "public_key", "transfer",
    "annotations"]

def members (tx : SequentialTransaction) : List (String × Json) := [
  ("identity", tx.identity.toJson),
  ("gas", tx.gas.toJson),
  ("gas_currency", .text tx.gasCurrency),
  ("status", .text tx.status),
  ("hash", .text tx.hash),
  ("timestamp", tx.timestamp.toJson),
  ("public_key", .text tx.publicKey),
  ("transfer", tx.transfer.toJson),
  ("annotations", tx.annotations.toJson)]

def toJson (tx : SequentialTransaction) : Json := .record tx.members

def ofJson? (json : Json) : Option SequentialTransaction := do
  let record ← json.record? names
  return {
    identity := ← record.required "identity" Identity.ofJson?
    gas := ← record.required "gas" Gas.ofJson?
    gasCurrency := ← record.required "gas_currency" Json.string?
    status := ← record.required "status" Json.string?
    hash := ← record.required "hash" Json.string?
    timestamp := ← record.required "timestamp" Instant.ofJson?
    publicKey := ← record.required "public_key" Json.string?
    transfer := ← record.required "transfer" Transfer.ofJson?
    annotations := ← record.defaulted "annotations" {} Annotations.ofJson? }

end SequentialTransaction

namespace EventLog

def toJson (log : EventLog) : Json :=
  .record (log.entries.map fun entry => (toString entry.1.toInt, entry.2.toJson))

/-- A key is an integer spelled without escapes, as JSON spells integers. -/
def keyOf? (literal : Literal) : Option Int64 :=
  match literal.verbatim?.bind Json.numeral? with
  | some (numeral, []) => (Json.number numeral).int64?
  | _ => none

def entryOf? (member : Literal × Json) : Option (Int64 × TransferEvent) := do
  return (← keyOf? member.1, ← TransferEvent.ofJson? member.2)

def ofJson? : Json → Option EventLog
  | .object members => (members.mapM entryOf?).map SortedMap.ofList
  | _ => none

/-- In content that was read whole a key is a text and never an integer. -/
def emptyOfJson? : Json → Option EventLog
  | .object [] => some .empty
  | _ => none

end EventLog

namespace BlockTransaction

def names : List String :=
  ["identity", "gas", "status", "hash", "timestamp", "gateway_fee", "gateway_recipient",
    "gateway_currency", "transfer_events", "annotations"]

def members (tx : BlockTransaction) : List (String × Json) := [
  ("identity", tx.identity.toJson),
  ("gas", tx.gas.toJson),
  ("status", .text tx.status),
  ("hash", .text tx.hash),
  ("timestamp", tx.timestamp.toJson),
  ("gateway_fee", .ofOption Amount.toJson tx.gatewayFee),
  ("gateway_recipient", .text tx.gatewayRecipient),
  ("gateway_currency", .text tx.gatewayCurrency),
  ("transfer_events", tx.events.toJson),
  ("annotations", tx.annotations.toJson)]

def toJson (tx : BlockTransaction) : Json := .record tx.members

def read? (events? : Json → Option EventLog) (json : Json) : Option BlockTransaction := do
  let record ← json.record? names
  return {
    identity := ← record.required "identity" Identity.ofJson?
    gas := ← record.required "gas" Gas.ofJson?
    status := ← record.required "status" Json.string?
    hash := ← record.required "hash" Json.string?
    timestamp := ← record.required "timestamp" Instant.ofJson?
    gatewayFee := ← record.optional "gateway_fee" Amount.ofJson?
    gatewayRecipient := ← record.required "gateway_recipient" Json.string?
    gatewayCurrency := ← record.required "gateway_currency" Json.string?
    events := ← record.required "transfer_events" events?
    annotations := ← record.defaulted "annotations" {} Annotations.ofJson? }

def ofJson? (json : Json) : Option BlockTransaction := read? EventLog.ofJson? json

end BlockTransaction

namespace Transaction

def toJson : Transaction → Json
  | .sequential tx => .record (("kind", LedgerKind.sequential.toJson) :: tx.members)
  | .block tx => .record (("kind", LedgerKind.block.toJson) :: tx.members)

/-- The kind of a transaction and the rest of its record. In an array the kind stands first. -/
def tagged? : Json → Option (LedgerKind × Json)
  | .object members => do
      let named ← Json.named? members
      match named.filter fun member => member.1 == "kind" with
      | [(_, .string literal)] =>
          let kind ← literal.text?.bind LedgerKind.ofName?
          some (kind, .object (members.filter fun member => member.1.text? != some "kind"))
      | _ => none
  | .array (.string literal :: items) => do
      let kind ← literal.text?.bind LedgerKind.ofName?
      some (kind, .array items)
  | _ => none

/-- Everything in the record must be readable, also what is then passed over. -/
def ofJson? (json : Json) : Option Transaction := do
  let _ ← json.value? 0
  let (kind, content) ← tagged? json
  match kind with
  | .sequential => (SequentialTransaction.ofJson? content).map .sequential
  | .block => (BlockTransaction.read? EventLog.emptyOfJson? content).map .block

end Transaction

end Passbook
