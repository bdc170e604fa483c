import Passbook.Query.Basic
/-!
The transactions of an address on a block ledger. The transfer index is read page by page; each
hash in it is looked up once, and the rows of one place in one block become one transaction.
-/

namespace Passbook

open Retry (Question)

namespace TransferRow

def identity (chain : ChainId) (row : TransferRow) : Identity := ⟨chain, row.block, row.index⟩

def event (row : TransferRow) : TransferEvent :=
  ⟨row.logIndex, row.contract, row.sender, row.receiver, row.value⟩

/-- The transaction of a row, without events. An instant that cannot be represented becomes the
start of 1970. -/
def transaction (chain : ChainId) (row : TransferRow) (info : TransactionInfo) :
    BlockTransaction :=
  { identity := row.identity chain
    gas := ⟨row.gasPrice, row.gasUsed, row.gas⟩
    status := info.status
    hash := row.hash
    timestamp := (Instant.of? row.second.toInt 0).getD .epoch
    gatewayFee := info.gatewayFee
    gatewayRecipient := info.gatewayRecipient
    gatewayCurrency := info.feeCurrency
    events := .empty }

end TransferRow

structure BlockQuery (m : Type → Type) extends QueryContext m where
  client : BlockClient m

namespace BlockQuery

/-- The first row of a transaction tells all but its events. -/
def addRow (chain : ChainId) (infos : SortedMap String TransactionInfo)
    (found : SortedMap Identity BlockTransaction) (row : TransferRow) :
    Except Fault (SortedMap Identity BlockTransaction) :=
  match infos.get? row.hash with
  | none => .error .noData
  | some info =>
      let identity := row.identity chain
      let tx := (found.get? identity).getD (row.transaction chain info)
      .ok (found.insert identity { tx with events := tx.events.add row.event })

variable {m : Type → Type} [Monad m]

/-- The rows at or after the start, from a page on. A page that is not full is the last. -/
def rowsFrom (query : BlockQuery m) (address : String) (start : UInt64) (page : Nat) :
    Question m (List TransferRow) := do
  let size := query.settings.pageLimit
  let batch ← query.ask "tokentx"
    (query.client.transfers address start (UInt32.ofNat page) (UInt32.ofNat size))
  let rows := batch.filter (start ≤ ·.block)
  if _more : size ≤ batch.length ∧ page + 1 < UInt32.size then
    return rows ++ (← rowsFrom query address start (page + 1))
  else return rows
  termination_by UInt32.size - page

/-- The hashes of rows in the order in which they first appear. -/
def hashes (rows : List TransferRow) : List String := (rows.map TransferRow.hash).eraseDups

def info (query : BlockQuery m) (hash : String) : Question m (String × TransactionInfo) := do
  return (hash, ← query.client.info hash)

def fetchSince (query : BlockQuery m) : Query m := fun spelling start => do
  let address ← ExceptT.mk (pure (Address.canonical? .block spelling))
  let rows ← query.rowsFrom address start 1
  ExceptT.lift (query.tell ("Fetched " ++ toString rows.length ++ " transfer rows in " ++
    toString (hashes rows).length ++ " transactions of " ++ address ++ " on " ++ query.chain.name))
  let infos ← query.lookups "gettxinfo" query.client.latency query.info (hashes rows)
  let found ← ExceptT.mk (pure
    (rows.foldlM (addRow query.chain (SortedMap.ofList infos)) .empty))
  return found.mapValues fun _ tx => .block tx

end BlockQuery

end Passbook
