import Passbook.Ledger.Transaction
/-!
Token amounts as decimal fractions, and transactions in one line.
-/

namespace Passbook

/-- Decimal places of the native token of a kind of ledger. -/
def LedgerKind.decimals : LedgerKind → Nat
  | .sequential => 6
  | .block => 18

namespace Amount

/-- An amount of base units with `decimals` places after the point. Without places there is no
point. -/
def format (amount decimals : Nat) : String :=
  let digits := Nat.toDigits 10 amount
  if decimals = 0 then String.ofList digits
  else
    let padded := List.replicate (decimals + 1 - digits.length) '0' ++ digits
    let split := padded.length - decimals
    String.ofList (padded.take split ++ '.' :: padded.drop split)

end Amount

namespace TransferEvent

def describe (decimals : Nat) (event : TransferEvent) : String :=
  "#" ++ toString event.logIndex.toInt ++ " " ++ Amount.format event.amount decimals ++ " " ++
    event.currency ++ " from " ++ event.sender ++ " to " ++ event.receiver

end TransferEvent

namespace Transaction

/-- Amounts have the places of `kind`, whatever the kind of the transaction. -/
def describe (kind : LedgerKind) : Transaction → String
  | .sequential tx =>
      tx.identity.text ++ " " ++ Amount.format tx.transfer.amount kind.decimals ++ " " ++
        tx.transfer.currency ++ " from " ++ tx.transfer.sender ++ " to " ++
        tx.transfer.receiver ++ " [" ++ tx.status ++ "]"
  | .block tx =>
      tx.identity.text ++ " [" ++ tx.status ++ "] " ++
        "; ".intercalate (tx.events.values.map (TransferEvent.describe kind.decimals))

end Transaction

end Passbook
