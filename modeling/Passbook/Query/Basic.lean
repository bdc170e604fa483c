import Passbook.Address
import Passbook.Ledger.Events
import Passbook.Query.Lookups
import Passbook.Remote.Client
import Passbook.Settings
/-!
Which transactions of an address a remote ledger has from a position on. Every question is asked
again while answers are stale; details are looked up side by side.
-/

namespace Passbook

open Retry (Question)

/-- How a query asks: for which ledger, how often and how much at once, and whom it tells when it
has to ask again and what it has found. -/
structure QueryContext (m : Type → Type) where
  chain : ChainId
  settings : FetchSettings
  /-- Told what was asked, the number of the attempt, and what was wrong with its answer. -/
  notice : String → UInt32 → Fault → m Unit
  tell : String → m Unit

/-- The transactions of an address from a position on. -/
abbrev Query (m : Type → Type) := String → UInt64 → Question m TransactionMap

variable {m : Type → Type} [Monad m] {α β : Type}

namespace QueryContext

def ask (context : QueryContext m) (what : String) (question : Question m α) : Question m α :=
  ExceptT.mk (Retry.Ending.outcome <$>
    Retry.whileStale context.settings.retry.maxAttempts (context.notice what) question)

/-- A lookup that begins now lands when its client has told and its waits are over. -/
def look (context : QueryContext m) (what : String) (latency : α → Nat)
    (question : α → Question m β) (now : Nat) (key : α) : m (Lookup β) := do
  let policy := context.settings.retry
  let ending ← Retry.whileStale policy.maxAttempts (context.notice what) (question key)
  return ⟨now + latency key + policy.waited ending.attempts.toNat, ending.outcome⟩

/-- The answers to a question about each of the keys, in the order in which they land. -/
def lookups (context : QueryContext m) (what : String) (latency : α → Nat)
    (question : α → Question m β) (keys : List α) : Question m (List β) :=
  Lookup.landings context.settings.width (context.look what latency question) 0 [] keys

end QueryContext

/-- An address in its canonical spelling. -/
def Address.canonical? (kind : LedgerKind) (spelling : String) : Except Fault String :=
  match Address.ofText kind spelling with
  | .ok address => .ok address.canonical
  | .error problem => .error (.invalidAddress (problem.message spelling))

end Passbook
