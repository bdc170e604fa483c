import Passbook.Ledger.Json
import Passbook.Store
/-!
The JSON form of a store, in which it is kept between runs.
-/

namespace Passbook

namespace EventRow

def names : List String := ["log_index", "currency", "amount", "from", "to"]

def toJson (entry : Int64 × EventRow) : Json := .record [
  ("log_index", .ofInt64 entry.1),
  ("currency", .text entry.2.currency),
  ("amount", .text entry.2.amount),
  ("from", .text entry.2.sender),
  ("to", .text entry.2.receiver)]

def ofJson? (json : Json) : Option (Int64 × EventRow) := do
  let record ← json.record? names
  let row : EventRow := {
    currency := ← record.required "currency" Json.string?
    amount := ← record.required "amount" Json.string?
    sender := ← record.required "from" Json.string?
    receiver := ← record.required "to" Json.string? }
  return (← record.required "log_index" Json.int64?, row)

end EventRow

namespace SequentialRow

def names : List String := ["public_key", "gas_currency", "currency", "amount", "from", "to"]

def toJson (row : SequentialRow) : Json := .record [
  ("public_key", .text row.publicKey),
  ("gas_currency", .text row.gasCurrency),
  ("currency", .text row.currency),
  ("amount", .text row.amount),
  ("from", .text row.sender),
  ("to", .text row.receiver)]

def ofJson? (json : Json) : Option SequentialRow := do
  let record ← json.record? names
  return {
    publicKey := ← record.required "public_key" Json.string?
    gasCurrency := ← record.required "gas_currency" Json.string?
    currency := ← record.required "currency" Json.string?
    amount := ← record.required "amount" Json.string?
    sender := ← record.required "from" Json.string?
    receiver := ← record.required "to" Json.string? }

end SequentialRow

namespace BlockRow

def names : List String := ["gateway_currency", "gateway_fee", "gateway_recipient", "events"]

def toJson (row : BlockRow) : Json := .record [
  ("gateway_currency", .text row.gatewayCurrency),
  ("gateway_fee", .ofOption Json.text row.gatewayFee),
  ("gateway_recipient", .text row.gatewayRecipient),
  ("events", .array (row.events.entries.map EventRow.toJson))]

def ofJson? (json : Json) : Option BlockRow := do
  let record ← json.record? names
  return {
    gatewayCurrency := ← record.required "gateway_currency" Json.string?
    gatewayFee := ← record.optional "gateway_fee" Json.string?
    gatewayRecipient := ← record.required "gateway_recipient" Json.string?
    events := .ofList (← record.required "events" (Json.list? EventRow.ofJson?)) }

end BlockRow

namespace RowBody

def toJson : RowBody → Json
  | .sequential row => row.toJson
  | .block row => row.toJson

def ofJson? (kind : LedgerKind) (json : Json) : Option RowBody :=
  match kind with
  | .sequential => (SequentialRow.ofJson? json).map .sequential
  | .block => (BlockRow.ofJson? json).map .block

end RowBody

namespace Row

def names : List String :=
  ["identity", "gas_price", "gas_used", "gas_max", "status", "hash", "micros", "kind", "body"]

def toJson (entry : Identity × Row) : Json := .record [
  ("identity", entry.1.toJson),
  ("gas_price", .text entry.2.gasPrice),
  ("gas_used", .ofInt64 entry.2.gasUsed),
  ("gas_max", .ofInt64 entry.2.gasMax),
  ("status", .text entry.2.status),
  ("hash", .text entry.2.hash),
  ("micros", .ofInt64 entry.2.micros),
  ("kind", entry.2.body.kind.toJson),
  ("body", entry.2.body.toJson)]

def ofJson? (json : Json) : Option (Identity × Row) := do
  let record ← json.record? names
  let kind ← record.required "kind" LedgerKind.ofJson?
  let row : Row := {
    gasPrice := ← record.required "gas_price" Json.string?
    gasUsed := ← record.required "gas_used" Json.int64?
    gasMax := ← record.required "gas_max" Json.int64?
    status := ← record.required "status" Json.string?
    hash := ← record.required "hash" Json.string?
    micros := ← record.required "micros" Json.int64?
    body := ← record.required "body" (RowBody.ofJson? kind) }
  return (← record.required "identity" Identity.ofJson?, row)

end Row

namespace Store

/-- A remark with what it is made on. -/
def remarkJson {α : Type} (write : α → Json) (entry : Identity × α) : Json :=
  .array [entry.1.toJson, write entry.2]

def remarkOfJson? {α : Type} (read : Json → Option α) : Json → Option (Identity × α)
  | .array [identity, remark] => do return (← Identity.ofJson? identity, ← read remark)
  | _ => none

def walletJson (holder : Holder) (address : String) : Json :=
  .array [.ofInt64 holder.account, .text holder.chain.name, .text address]

def walletOfJson? : Json → Option (Holder × String)
  | .array [account, chain, address] => do
      return (⟨← account.int64?, ⟨← chain.string?⟩⟩, ← address.string?)
  | _ => none

def names : List String := ["transactions", "sender_remarks", "account_remarks", "wallets"]

def toJson (store : Store) : Json := .record [
  ("transactions", .array (store.rows.entries.map Row.toJson)),
  ("sender_remarks", .array (store.senderRemarks.entries.map (remarkJson SenderRemark.toJson))),
  ("account_remarks", .array (store.accountRemarks.entries.flatMap fun account =>
    account.2.entries.map fun entry =>
      remarkJson AccountRemark.toJson (entry.1, ⟨account.1, entry.2⟩))),
  ("wallets", .array (store.wallets.entries.flatMap fun holder =>
    holder.2.values.map (walletJson holder.1)))]

def ofJson? (json : Json) : Option Store := do
  let record ← json.record? names
  let rows ← record.required "transactions" (Json.list? Row.ofJson?)
  let remarks ← record.required "sender_remarks" (Json.list? (remarkOfJson? SenderRemark.ofJson?))
  let notes ← record.required "account_remarks" (Json.list? (remarkOfJson? AccountRemark.ofJson?))
  let wallets ← record.required "wallets" (Json.list? walletOfJson?)
  let bare : Store := { rows := .ofList rows, senderRemarks := .ofList remarks }
  return wallets.foldl (fun store wallet => store.link wallet.1 wallet.2)
    (notes.foldl (fun store note => store.withNote note.1 note.2) bare)

/-- The text of a store that nothing was ever kept in may be empty. -/
def ofText? (text : String) : Option Store :=
  if text = "" then some .empty else (Json.parse? text).bind ofJson?

end Store

end Passbook
