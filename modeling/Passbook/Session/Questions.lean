import Passbook.Query.Block
import Passbook.Query.Sequential
import Passbook.Remote.Explorer
import Passbook.Remote.Node
import Passbook.Session.Report
/-!
How a run asks the remote ledgers for its addresses, and what it tells of it.
-/

namespace Passbook.Session

variable {m : Type → Type} [Monad m]

def notice (around : Surroundings m) (policy : RetryPolicy) (what : String) (attempt : UInt32)
    (fault : Fault) : m Unit := do
  report around .retry .warn (what ++ " got a stale response on attempt " ++
    toString attempt.toNat ++ ": " ++ fault.message)
  around.pause (policy.backoff.wait attempt.toNat)

/-- The queries of several addresses. -/
structure Questions (m : Type → Type) where
  query : Query m
  /-- Tells of the first call of a query. -/
  begin : String → m Unit

/-- Asks for one address after another until a query fails, by which time all have begun. -/
def ask (questions : Questions m) (start : UInt64) : List String → m (List Pass.Arrival)
  | [] => pure []
  | address :: rest => do
      match ← (questions.query address start).run with
      | .ok found => return .found found :: (← ask questions start rest)
      | .error fault =>
          rest.forM questions.begin
          return [.failed address fault]

def context (around : Surroundings m) (settings : Settings) (chain : ChainId) : QueryContext m where
  chain
  settings := settings.fetch
  notice := notice around settings.fetch.retry
  tell := report around .query .debug

def lifted (context : QueryContext m) : QueryContext (StateT Node m) where
  chain := context.chain
  settings := context.settings
  notice what attempt fault := StateT.lift (context.notice what attempt fault)
  tell text := StateT.lift (context.tell text)

def sequentialQuestions (around : Surroundings m) (context : QueryContext m) (url : String) :
    Questions (StateT Node m) :=
  let contact : Node.Contact m := {
    transport := around.transport
    tell := fun method => report around .node .debug ("Calling " ++ method ++ " on " ++ url)
    address := url }
  let latency (version : UInt64) : Nat := around.latency url (toString version.toNat)
  let query : SequentialQuery (StateT Node m) :=
    { lifted context with client := Node.client contact latency }
  { query := query.fetchSince
    begin := fun _ => StateT.lift (contact.tell Node.accountCall) }

def fieldsText (fields : List (String × String)) : String :=
  let pairs := fields.map fun field =>
    "(" ++ Text.quoted field.1 ++ ", " ++ Text.quoted field.2 ++ ")"
  "[" ++ ", ".intercalate pairs ++ "]"

def blockQuestions (around : Surroundings m) (context : QueryContext m) (start : UInt64)
    (url : String) : Questions m :=
  let contact : Explorer.Contact m := {
    transport := around.transport
    tell := fun fields => report around .explorer .debug
      ("Querying explorer " ++ url ++ " with " ++ fieldsText fields)
    address := url }
  let query : BlockQuery m :=
    { context with client := Explorer.client contact (around.latency url) }
  let size := UInt32.ofNat context.settings.pageLimit
  { query := query.fetchSince
    begin := fun address => contact.tell (Explorer.transferFields address start 1 size) }

def arrivals (around : Surroundings m) (settings : Settings) (ledger : Ledger) (url : String)
    (addresses : List String) : m (List Pass.Arrival) :=
  let context := context around settings ledger.chain
  match ledger.kind with
  | .sequential =>
      (ask (sequentialQuestions around context url) settings.start addresses).run' {}
  | .block => ask (blockQuestions around context settings.start url) settings.start addresses

end Passbook.Session
