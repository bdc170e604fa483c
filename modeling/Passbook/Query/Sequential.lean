import Passbook.Query.Basic
/-!
The transactions of an address on a sequential ledger. Both event streams of its account are read
to their ends; each version at or after the start is looked up once, however many events name it.
-/

namespace Passbook

open Retry (Question)

namespace VersionDetail

/-- An instant that cannot be represented becomes the start of 1970. -/
def transaction (chain : ChainId) (detail : VersionDetail) : SequentialTransaction :=
  let signed := detail.signed
  { identity := .sequential chain detail.version
    gas := ⟨signed.gasPrice.toNat, detail.gasUsed, signed.maxGas⟩
    gasCurrency := signed.gasCurrency
    status := detail.status
    hash := detail.hash
    timestamp := (Instant.ofMicros? signed.micros.toNat).getD .epoch
    publicKey := signed.publicKey
    transfer :=
      ⟨signed.script.currency, signed.sender, signed.script.receiver, signed.script.amount.toNat⟩ }

end VersionDetail

structure SequentialQuery (m : Type → Type) extends QueryContext m where
  client : SequentialClient m

namespace SequentialQuery

variable {m : Type → Type} [Monad m]

/-- The versions that a stream names from an offset on. A page that is not full is the last. -/
def versionsFrom (query : SequentialQuery m) (key : String) (next : Nat) :
    Question m (List UInt64) := do
  let limit := query.settings.pageLimit
  let page ← query.ask "get_events"
    (query.client.events key (UInt64.ofNat next) (UInt64.ofNat limit))
  let versions := page.map StreamEvent.version
  if _more : limit ≤ page.length ∧ next + page.length < UInt64.size then
    return versions ++ (← versionsFrom query key (next + page.length))
  else return versions
  termination_by UInt64.size - next
  decreasing_by
    have : 1 ≤ limit := Nat.le_max_right _ _
    omega

/-- A version that a stream names has a detail. -/
def detail (query : SequentialQuery m) (version : UInt64) : Question m VersionDetail := do
  match ← query.client.transaction version with
  | some detail => return detail
  | none => throw .noData

/-- Ascending, and each once. -/
def distinct (versions : List UInt64) : List UInt64 :=
  (SortedMap.ofList (versions.map fun version => (version, ()))).keys

def fetchSince (query : SequentialQuery m) : Query m := fun spelling start => do
  let address ← ExceptT.mk (pure (Address.canonical? .sequential spelling))
  match ← query.ask "get_account" (query.client.account address) with
  | none =>
      ExceptT.lift (query.tell ("Account " ++ address ++ " does not exist on " ++ query.chain.name))
      return .empty
  | some streams =>
      let sent ← query.versionsFrom streams.sentKey 0
      let received ← query.versionsFrom streams.receivedKey 0
      let versions := distinct ((sent ++ received).filter (start ≤ ·))
      ExceptT.lift (query.tell ("Fetching " ++ toString versions.length ++ " transactions of " ++
        address ++ " on " ++ query.chain.name ++ " from version " ++ toString start.toNat))
      let details ← query.lookups "get_transactions" query.client.latency query.detail versions
      return .ofTransactions (details.map fun detail =>
        .sequential (detail.transaction query.chain))

end SequentialQuery

end Passbook
