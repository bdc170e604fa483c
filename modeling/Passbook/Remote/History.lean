import Passbook.Ledger.Json
/-!
What a node of a sequential ledger tells: the event streams of an account, their entries, and the
detail of one version.
-/

namespace Passbook

/-- The keys of the two event streams of an account. -/
structure AccountStreams where
  address : String
  sentKey : String
  receivedKey : String
  deriving DecidableEq, Repr, Inhabited

structure StreamEvent where
  key : String
  sequenceNumber : UInt64
  /-- The version of the transaction that the event belongs to. -/
  version : UInt64
  deriving DecidableEq, Repr, Inhabited

/-- A payment. Scripts that pay nothing leave all of it out. -/
structure PaymentScript where
  receiver : String := ""
  amount : UInt64 := 0
  currency : String := ""
  deriving DecidableEq, Repr, Inhabited

structure SignedDetail where
  sender : String := ""
  publicKey : String := ""
  maxGas : UInt64 := 0
  gasPrice : UInt64 := 0
  gasCurrency : String := ""
  /-- Microseconds since the start of 1970. -/
  micros : UInt64 := 0
  script : PaymentScript := {}
  deriving DecidableEq, Repr, Inhabited

structure VersionDetail where
  version : UInt64
  hash : String
  gasUsed : UInt64
  status : String
  signed : SignedDetail
  deriving DecidableEq, Repr, Inhabited

namespace AccountStreams

def names : List String := ["address", "sent_events_key", "received_events_key"]

def toJson (streams : AccountStreams) : Json := .record [
  ("address", .text streams.address),
  ("sent_events_key", .text streams.sentKey),
  ("received_events_key", .text streams.receivedKey)]

def ofJson? (json : Json) : Option AccountStreams := do
  let record ← json.record? names
  return {
    address := ← record.required "address" Json.string?
    sentKey := ← record.required "sent_events_key" Json.string?
    receivedKey := ← record.required "received_events_key" Json.string? }

end AccountStreams

namespace StreamEvent

def names : List String := ["key", "sequence_number", "transaction_version"]

def toJson (event : StreamEvent) : Json := .record [
  ("key", .text event.key),
  ("sequence_number", .ofUInt64 event.sequenceNumber),
  ("transaction_version", .ofUInt64 event.version)]

def ofJson? (json : Json) : Option StreamEvent := do
  let record ← json.record? names
  return {
    key := ← record.required "key" Json.string?
    sequenceNumber := ← record.required "sequence_number" Json.uint64?
    version := ← record.required "transaction_version" Json.uint64? }

end StreamEvent

namespace PaymentScript

def names : List String := ["receiver", "amount", "currency"]

def toJson (script : PaymentScript) : Json := .record [
  ("receiver", .text script.receiver),
  ("amount", .ofUInt64 script.amount),
  ("currency", .text script.currency)]

def ofJson? (json : Json) : Option PaymentScript := do
  let record ← json.record? names
  return {
    receiver := ← record.defaulted "receiver" "" Json.string?
    amount := ← record.defaulted "amount" 0 Json.uint64?
    currency := ← record.defaulted "currency" "" Json.string? }

end PaymentScript

namespace SignedDetail

def names : List String :=
  ["sender", "public_key", "max_gas_amount", "gas_unit_price", "gas_currency",
    "timestamp_usecs", "script"]

def toJson (signed : SignedDetail) : Json := .record [
  ("sender", .text signed.sender),
  ("public_key", .text signed.publicKey),
  ("max_gas_amount", .ofUInt64 signed.maxGas),
  ("gas_unit_price", .ofUInt64 signed.gasPrice),
  ("gas_currency", .text signed.gasCurrency),
  ("timestamp_usecs", .ofUInt64 signed.micros),
  ("script", signed.script.toJson)]

def ofJson? (json : Json) : Option SignedDetail := do
  let record ← json.record? names
  return {
    sender := ← record.defaulted "sender" "" Json.string?
    publicKey := ← record.defaulted "public_key" "" Json.string?
    maxGas := ← record.defaulted "max_gas_amount" 0 Json.uint64?
    gasPrice := ← record.defaulted "gas_unit_price" 0 Json.uint64?
    gasCurrency := ← record.defaulted "gas_currency" "" Json.string?
    micros := ← record.defaulted "timestamp_usecs" 0 Json.uint64?
    script := ← record.defaulted "script" {} PaymentScript.ofJson? }

end SignedDetail

namespace VersionDetail

def names : List String := ["version", "hash", "gas_used", "vm_status", "transaction"]

def statusJson (status : String) : Json := .record [("type", .text status)]

def statusOfJson? (json : Json) : Option String := do
  let record ← json.record? ["type"]
  record.required "type" Json.string?

def toJson (detail : VersionDetail) : Json := .record [
  ("version", .ofUInt64 detail.version),
  ("hash", .text detail.hash),
  ("gas_used", .ofUInt64 detail.gasUsed),
  ("vm_status", statusJson detail.status),
  ("transaction", detail.signed.toJson)]

def ofJson? (json : Json) : Option VersionDetail := do
  let record ← json.record? names
  return {
    version := ← record.required "version" Json.uint64?
    hash := ← record.required "hash" Json.string?
    gasUsed := ← record.required "gas_used" Json.uint64?
    status := ← record.required "vm_status" statusOfJson?
    signed := ← record.required "transaction" SignedDetail.ofJson? }

end VersionDetail

end Passbook
