import Passbook.Store.Statement
import Passbook.Text.Quoted
/-!
Why a store refuses to write or cannot read.
-/

namespace Passbook

/-- The stored numbers that can be out of range or unreadable. -/
inductive Column where
  | version
  | gasPrice
  | gasUsed
  | gasMax
  | amount
  | gatewayFee
  deriving DecidableEq, Repr, Inhabited

namespace Column

def name : Column → String
  | .version => "version"
  | .gasPrice => "gas_price"
  | .gasUsed => "gas_used"
  | .gasMax => "gas_max"
  | .amount => "amount"
  | .gatewayFee => "gateway_fee"

end Column

inductive StoreProblem where
  | cannotOpen (path : String)
  /-- What is kept at the path is something else. -/
  | notAStore
  /-- The place of the store is on another machine. -/
  | foreignAuthority (name : String)
  | noSuchMode (kind value : String)
  /-- The mode allows more than one before it. -/
  | notAllowed (mode : String)
  | noSuchSystem (name : String)
  | readOnly
  /-- A statement about so many addresses has too many marks. -/
  | tooManyMarks (count : Nat)
  /-- Two events of one transaction have the same log index. -/
  | eventTwice
  | tooLarge (column : Column) (value : UInt64)
  | negative (column : Column) (value : Int64)
  | notAnAmount (column : Column) (text : String)
  | noInstant (micros : Int64)
  /-- The task that the work was given to did not come to its end. -/
  | background (detail : String)
  deriving DecidableEq, Repr, Inhabited

namespace StoreProblem

def message : StoreProblem → String
  | .cannotOpen path => "database error: unable to open database file: " ++ path
  | .notAStore => "database error: file is not a database"
  | .foreignAuthority name => "database error: invalid uri authority: " ++ name
  | .noSuchMode kind value => "database error: no such " ++ kind ++ " mode: " ++ value
  | .notAllowed mode => "database error: access mode not allowed: " ++ mode
  | .noSuchSystem name => "database error: no such vfs: " ++ name
  | .readOnly => "database error: attempt to write a readonly database"
  | .tooManyMarks count =>
      "database error: too many SQL variables in " ++ Statement.text count ++ " at offset " ++
        toString ((Statement.excess? count).getD 0)
  | .eventTwice =>
      "database error: UNIQUE constraint failed: block_transfer.chain, block_transfer.version, " ++
        "block_transfer.tx_index, block_transfer.log_index"
  | .tooLarge column value =>
      "corrupt row: " ++ column.name ++ " " ++ toString value.toNat ++
        " does not fit in a database integer"
  | .negative column value =>
      "corrupt row: negative " ++ column.name ++ ": " ++ toString value.toInt
  | .notAnAmount column text =>
      "corrupt row: " ++ column.name ++ " is not an amount: " ++ Text.quoted text
  | .noInstant micros => "corrupt row: timestamp out of range: " ++ toString micros.toInt
  | .background detail => "background task failed: " ++ detail

end StoreProblem

end Passbook
