import Passbook.Json.Double
import Passbook.Json.Reader
import Passbook.Json.Record
import Passbook.Remote.Client
import Passbook.Remote.Exchange
import Passbook.Text.Quoted
/-!
An explorer of a block ledger, asked by queries in the encoding of forms. It spells numbers as
texts, where an empty text is zero, and it reports an empty result as a failure with a message of
its own.
-/

namespace Passbook

open Retry (Question)

namespace Explorer

/-- What a text is to spell. -/
inductive Numbering where
  | unsigned
  | signed
  | amount
  deriving DecidableEq, Repr

namespace Numbering

def article : Numbering → String
  | .unsigned => "an unsigned integer"
  | .signed => "an integer"
  | .amount => "an amount"

end Numbering

/-- The number that a text spells, or what is wrong with the text. -/
def number {α : Type} (numbering : Numbering) (read : String → Option α) (zero : α)
    (field text : String) : Except Fault α :=
  if text = "" then .ok zero
  else
    match read text with
    | some value => .ok value
    | none =>
        .error (.parse (field ++ " is not " ++ numbering.article ++ ": " ++ Text.quoted text))

def unsigned : String → String → Except Fault UInt64 := number .unsigned Decimal.uint64? 0

def signed : String → String → Except Fault Int64 := number .signed Decimal.int64? 0

def amount : String → String → Except Fault Nat := number .amount Decimal.amount? 0

/-- A transfer row as it is spelled. -/
structure SpelledRow where
  block : String
  second : String
  hash : String
  index : String
  logIndex : String
  sender : String
  receiver : String
  contract : String
  value : String
  gas : String
  gasPrice : String
  gasUsed : String
  deriving DecidableEq, Repr, Inhabited

namespace SpelledRow

def names : List String :=
  ["blockNumber", "timeStamp", "hash", "transactionIndex", "logIndex", "from", "to",
    "contractAddress", "value", "gas", "gasPrice", "gasUsed"]

def ofJson? (json : Json) : Option SpelledRow := do
  let record ← json.record? names
  return {
    block := ← record.required "blockNumber" Json.string?
    second := ← record.required "timeStamp" Json.string?
    hash := ← record.required "hash" Json.string?
    index := ← record.defaulted "transactionIndex" "" Json.string?
    logIndex := ← record.defaulted "logIndex" "" Json.string?
    sender := ← record.required "from" Json.string?
    receiver := ← record.required "to" Json.string?
    contract := ← record.required "contractAddress" Json.string?
    value := ← record.required "value" Json.string?
    gas := ← record.defaulted "gas" "" Json.string?
    gasPrice := ← record.defaulted "gasPrice" "" Json.string?
    gasUsed := ← record.defaulted "gasUsed" "" Json.string? }

/-- Numbers are read in this order, and the first that cannot be read is reported. -/
def row (spelled : SpelledRow) : Except Fault TransferRow := do
  let block ← unsigned "blockNumber" spelled.block
  let second ← signed "timeStamp" spelled.second
  let index ← signed "transactionIndex" spelled.index
  let logIndex ← signed "logIndex" spelled.logIndex
  let value ← amount "value" spelled.value
  let gas ← unsigned "gas" spelled.gas
  let gasPrice ← amount "gasPrice" spelled.gasPrice
  let gasUsed ← unsigned "gasUsed" spelled.gasUsed
  return {
    block, second, index, logIndex, value, gas, gasPrice, gasUsed
    hash := spelled.hash
    sender := spelled.sender
    receiver := spelled.receiver
    contract := spelled.contract }

end SpelledRow

/-- What an explorer says about a transaction. -/
structure SpelledInfo where
  success : Option Bool := none
  revertReason : Option String := none
  feeCurrency : Option String := none
  gatewayFee : Option String := none
  gatewayRecipient : Option String := none
  deriving DecidableEq, Repr, Inhabited

namespace SpelledInfo

def names : List String :=
  ["success", "revertReason", "feeCurrency", "gatewayFee", "gatewayFeeRecipient"]

def ofJson? (json : Json) : Option SpelledInfo := do
  let record ← json.record? names
  return {
    success := ← record.defaulted "success" none (Json.nullable Json.bool?)
    revertReason := ← record.defaulted "revertReason" none (Json.nullable Json.string?)
    feeCurrency := ← record.defaulted "feeCurrency" none (Json.nullable Json.string?)
    gatewayFee := ← record.defaulted "gatewayFee" none (Json.nullable Json.string?)
    gatewayRecipient := ←
      record.defaulted "gatewayFeeRecipient" none (Json.nullable Json.string?) }

/-- A failure goes by its reason, if it has one. -/
def status (spelled : SpelledInfo) : String :=
  if spelled.success = some false then
    match spelled.revertReason with
    | some reason => if reason = "" then "failed" else reason
    | none => "failed"
  else "success"

def info (spelled : SpelledInfo) : Except Fault TransactionInfo := do
  let gatewayFee ← match spelled.gatewayFee with
    | none | some "" => pure none
    | some fee => some <$> amount "gatewayFee" fee
  return {
    status := spelled.status
    gatewayFee
    gatewayRecipient := spelled.gatewayRecipient.getD ""
    feeCurrency := spelled.feeCurrency.getD "" }

end SpelledInfo

structure Envelope where
  status : String
  message : String
  result : Json

namespace Envelope

/-- The result stands inside the envelope and is kept whole. -/
def ofJson? (json : Json) : Option Envelope := do
  let record ← json.record? ["status", "message", "result"]
  return {
    status := ← record.required "status" Json.string?
    message := ← record.defaulted "message" "" Json.string?
    result := ← record.defaulted "result" .null (Json.value? 1) }

/-- The result; none if the explorer reports that there is nothing. -/
def result? (envelope : Envelope) : Except Fault (Option Json) :=
  if envelope.status = "1" then .ok (some envelope.result)
  else if "No ".toList.isPrefixOf envelope.message.toList then .ok none
  else .error (.api (envelope.message ++ ": " ++ envelope.result.render))

end Envelope

def decode (content : String) : Except Fault (Option Json) :=
  match (Json.parse? content).bind Envelope.ofJson? with
  | none => .error .undecodable
  | some envelope => envelope.result?

/-- A result is not of the shape that is asked for. The text stands for the one in which the reader
of JSON says so, whatever it is. -/
def misshapen : Fault := .json "unexpected result"

/-- All rows of a result or none: the first that cannot be read stands for all. -/
def rows : Option Json → Except Fault (List TransferRow)
  | none => .ok []
  | some result =>
      match result.list? SpelledRow.ofJson? with
      | none => .error misshapen
      | some spelled => spelled.mapM SpelledRow.row

def info : Option Json → Except Fault TransactionInfo
  | none => .error .noData
  | some result =>
      match SpelledInfo.ofJson? result with
      | none => .error misshapen
      | some spelled => spelled.info

variable {m : Type → Type} [Monad m] {α : Type}

/-- Where an explorer is asked, and who is told the fields of each query before it is made. -/
structure Contact (m : Type → Type) where
  transport : Transport m
  tell : List (String × String) → m Unit
  address : String

def query (contact : Contact m) (fields : List (String × String))
    (read : Option Json → Except Fault α) : Question m α := do
  ExceptT.lift (contact.tell fields)
  let url ← ExceptT.mk (pure (Url.located contact.address))
  let content ← exchange contact.transport ⟨.get, url.withForm fields⟩
  ExceptT.mk (pure (decode content >>= read))

def transferFields (account : String) (start : UInt64) (page size : UInt32) :
    List (String × String) := [
  ("module", "account"),
  ("action", "tokentx"),
  ("address", account),
  ("startblock", toString start.toNat),
  ("sort", "asc"),
  ("page", toString page.toNat),
  ("offset", toString size.toNat)]

def client (contact : Contact m) (latency : String → Nat := fun _ => 0) : BlockClient m where
  transfers account start page size := query contact (transferFields account start page size) rows
  info hash := query contact [
    ("module", "transaction"),
    ("action", "gettxinfo"),
    ("txhash", hash)] info
  latency

end Explorer

end Passbook
