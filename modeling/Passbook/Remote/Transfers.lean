/-!
What an explorer of a block ledger tells: the rows of its transfer index, one for each transfer,
and what it knows about a transaction as a whole.
-/

namespace Passbook

structure TransferRow where
  block : UInt64
  /-- Seconds since the start of 1970. -/
  second : Int64
  hash : String
  /-- The place of the transaction in its block. -/
  index : Int64
  logIndex : Int64
  sender : String
  receiver : String
  /-- The token that is transferred. -/
  contract : String
  value : Nat
  gas : UInt64
  gasPrice : Nat
  gasUsed : UInt64
  deriving DecidableEq, Repr, Inhabited

structure TransactionInfo where
  status : String := ""
  gatewayFee : Option Nat := none
  gatewayRecipient : String := ""
  feeCurrency : String := ""
  deriving DecidableEq, Repr, Inhabited

end Passbook
