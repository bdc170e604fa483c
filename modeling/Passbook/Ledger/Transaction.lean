import Passbook.Instant.Basic
import Passbook.SortedMap
/-!
Transactions of two kinds of ledger. A sequential ledger numbers its transactions and each moves
one amount; a block ledger places them in blocks and each carries a log of transfer events.
-/

namespace Passbook

/-- The name of one ledger. -/
structure ChainId where
  name : String
  deriving DecidableEq, Repr, Inhabited

inductive LedgerKind where
  | sequential
  | block
  deriving DecidableEq, Repr, Inhabited

namespace LedgerKind

def name : LedgerKind → String
  | .sequential => "sequential"
  | .block => "block"

def ofName? : String → Option LedgerKind
  | "sequential" => some .sequential
  | "block" => some .block
  | _ => none

end LedgerKind

/-- Where a transaction stands among all transactions of all ledgers. The version is a block
number on a block ledger, and the index is zero on a sequential one. -/
structure Identity where
  chain : ChainId
  version : UInt64
  index : Int64
  deriving DecidableEq, Repr, Inhabited

namespace Identity

/-- By chain in code point order, then by version, then by index. -/
def order : Identity → Identity → Ordering :=
  compareLex (compareOn fun identity => identity.chain.name)
    (compareLex (compareOn Identity.version) (compareOn Identity.index))

instance : Ord Identity := ⟨order⟩

instance : Std.TransOrd Identity := inferInstanceAs (Std.TransCmp (compareLex _ _))

instance : Std.LawfulEqOrd Identity where
  eq_of_compare {first second} same := by
    have ⟨chain, rest⟩ := compareLex_eq_eq.mp (show order first second = .eq from same)
    have ⟨version, index⟩ := compareLex_eq_eq.mp rest
    obtain ⟨⟨name₁⟩, version₁, index₁⟩ := first
    obtain ⟨⟨name₂⟩, version₂, index₂⟩ := second
    have chain : name₁ = name₂ := Std.LawfulEqCmp.eq_of_compare chain
    have version : version₁ = version₂ := Std.LawfulEqCmp.eq_of_compare version
    have index : index₁ = index₂ := Std.LawfulEqCmp.eq_of_compare index
    rw [chain, version, index]

def sequential (chain : ChainId) (version : UInt64) : Identity := ⟨chain, version, 0⟩

def text (identity : Identity) : String :=
  "(" ++ identity.chain.name ++ ", " ++ toString identity.version.toNat ++ ", " ++
    toString identity.index.toInt ++ ")"

end Identity

structure Gas where
  price : Nat
  used : UInt64
  max : UInt64
  deriving DecidableEq, Repr, Inhabited

/-- The one movement of value in a transaction of a sequential ledger. -/
structure Transfer where
  currency : String
  sender : String
  receiver : String
  amount : Nat
  deriving DecidableEq, Repr, Inhabited

/-- One entry in the transfer log of a transaction of a block ledger. -/
structure TransferEvent where
  logIndex : Int64
  currency : String
  sender : String
  receiver : String
  amount : Nat
  deriving DecidableEq, Repr, Inhabited

structure SenderRemark where
  message : String
  isRefund : Bool
  deriving DecidableEq, Repr, Inhabited

structure AccountRemark where
  account : Int64
  message : String
  deriving DecidableEq, Repr, Inhabited

/-- What people have noted on a transaction. No remote ledger knows of it. -/
structure Annotations where
  sender : Option SenderRemark := none
  account : Option AccountRemark := none
  deriving DecidableEq, Repr, Inhabited

@[ext]
structure SequentialTransaction where
  identity : Identity
  gas : Gas
  gasCurrency : String
  status : String
  hash : String
  timestamp : Instant
  publicKey : String
  transfer : Transfer
  annotations : Annotations := {}
  deriving DecidableEq, Inhabited

/-- The transfer log of a transaction. -/
abbrev EventLog := SortedMap Int64 TransferEvent

structure BlockTransaction where
  identity : Identity
  gas : Gas
  status : String
  hash : String
  timestamp : Instant
  gatewayFee : Option Nat
  gatewayRecipient : String
  gatewayCurrency : String
  events : EventLog
  annotations : Annotations := {}
  deriving DecidableEq, Inhabited

inductive Transaction where
  | sequential (transaction : SequentialTransaction)
  | block (transaction : BlockTransaction)
  deriving DecidableEq, Inhabited

namespace Transaction

def identity : Transaction → Identity
  | .sequential tx => tx.identity
  | .block tx => tx.identity

def kind : Transaction → LedgerKind
  | .sequential _ => .sequential
  | .block _ => .block

def hash : Transaction → String
  | .sequential tx => tx.hash
  | .block tx => tx.hash

def gas : Transaction → Gas
  | .sequential tx => tx.gas
  | .block tx => tx.gas

def status : Transaction → String
  | .sequential tx => tx.status
  | .block tx => tx.status

def timestamp : Transaction → Instant
  | .sequential tx => tx.timestamp
  | .block tx => tx.timestamp

def annotations : Transaction → Annotations
  | .sequential tx => tx.annotations
  | .block tx => tx.annotations

def withAnnotations (annotations : Annotations) : Transaction → Transaction
  | .sequential tx => .sequential { tx with annotations }
  | .block tx => .block { tx with annotations }

/-- The transfer log; a transaction of a sequential ledger has none. -/
def events : Transaction → EventLog
  | .sequential _ => .empty
  | .block tx => tx.events

end Transaction

abbrev TransactionMap := SortedMap Identity Transaction

namespace TransactionMap

def ofTransactions (transactions : List Transaction) : TransactionMap :=
  SortedMap.ofList (transactions.map fun tx => (tx.identity, tx))

end TransactionMap

end Passbook
