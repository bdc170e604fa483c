import Passbook.Ledger.Rules
import Passbook.Remote.Fault
import Passbook.Store.Problem
/-!
Why a pass fails.
-/

namespace Passbook.Pass

inductive Problem where
  | remote (address : String) (fault : Fault)
  | snapshot (problem : StoreProblem)
  | persistence (problem : StoreProblem)
  | resolver (problem : StoreProblem)
  /-- Nobody can tell the addresses of an account. -/
  | noResolver
  | violation (violation : Violation)
  | cancelled
  /-- A query came to no answer at all. -/
  | crashed (detail : String)
  deriving DecidableEq, Repr

namespace Problem

def message : Problem → String
  | .remote address fault => "remote query for " ++ address ++ " failed: " ++ fault.message
  | .snapshot problem => "loading local snapshot failed: " ++ problem.message
  | .persistence problem => "persisting reconciled transactions failed: " ++ problem.message
  | .resolver problem => "resolving account addresses failed: " ++ problem.message
  | .noResolver => "no address resolver configured for account-scoped fetch"
  | .violation found => found.message
  | .cancelled => "reconciliation cancelled"
  | .crashed detail => "fetch task failed: " ++ detail

end Problem

end Passbook.Pass
