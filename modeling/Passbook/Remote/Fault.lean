/-!
What can go wrong with a question to a remote ledger.
-/

namespace Passbook

inductive Fault where
  /-- No answer came, or none that can be read. -/
  | http (detail : String)
  | json (detail : String)
  | rpc (code : Int64) (message : String)
  | api (message : String)
  /-- The answer was given at an older version than one already seen. -/
  | stale (seen latest : UInt64)
  | staleTooOften (attempts : UInt32)
  | invalidAddress (problem : String)
  | noData
  | parse (problem : String)
  deriving DecidableEq, Repr, Inhabited

namespace Fault

def message : Fault → String
  | .http detail => "HTTP error: " ++ detail
  | .json detail => "JSON parse error: " ++ detail
  | .rpc code message => "RPC error " ++ toString code.toInt ++ ": " ++ message
  | .api message => "API error: " ++ message
  | .stale seen latest =>
      "stale response: ledger version " ++ toString seen.toNat ++ " is behind " ++
        toString latest.toNat
  | .staleTooOften attempts =>
      "remote kept returning stale responses after " ++ toString attempts.toNat ++ " attempts"
  | .invalidAddress problem => "invalid address: " ++ problem
  | .noData => "No data returned"
  | .parse problem => "parse error: " ++ problem

end Fault

end Passbook
