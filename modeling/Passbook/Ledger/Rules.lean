import Passbook.Ledger.Events
/-!
The rules of one ledger: which transactions belong to it, how two sightings of a transaction
combine, and how a remote copy compares with the local one.
-/

namespace Passbook

/-- Why a transaction cannot belong to a ledger. -/
inductive Misfit where
  | foreignChain (expected found : ChainId)
  | otherKind (expected found : LedgerKind)
  | indexed (index : Int64)
  deriving DecidableEq, Repr

namespace Misfit

def message : Misfit → String
  | .foreignChain expected found =>
      "expected chain " ++ expected.name ++ ", found " ++ found.name
  | .otherKind expected found =>
      "expected " ++ expected.name ++ " transaction, found " ++ found.name
  | .indexed index => "sequential transaction with index " ++ toString index.toInt

end Misfit

structure Violation where
  identity : Identity
  misfit : Misfit
  deriving DecidableEq, Repr

namespace Violation

def message (violation : Violation) : String :=
  "transaction " ++ violation.identity.text ++ " violates merge invariant: " ++
    violation.misfit.message

end Violation

inductive Comparison where
  | unchanged
  /-- The remote ledger has another hash: the local copy is out of date. -/
  | changed
  /-- The hash is the same, but the remote copy logs events that the local one lacks. -/
  | extended
  deriving DecidableEq, Repr

namespace Comparison

def name : Comparison → String
  | .unchanged => "Unchanged"
  | .changed => "Changed"
  | .extended => "Extended"

end Comparison

structure Ledger where
  kind : LedgerKind
  chain : ChainId
  deriving DecidableEq, Repr

namespace Ledger

/-- The chain is looked at before the kind, and the kind before the index. -/
def misfit? (ledger : Ledger) (tx : Transaction) : Option Misfit :=
  if tx.identity.chain ≠ ledger.chain then
    some (.foreignChain ledger.chain tx.identity.chain)
  else if tx.kind ≠ ledger.kind then some (.otherKind ledger.kind tx.kind)
  else if ledger.kind = .sequential ∧ tx.identity.index ≠ 0 then
    some (.indexed tx.identity.index)
  else none

def identityOf (ledger : Ledger) (tx : Transaction) : Except Violation Identity :=
  match ledger.misfit? tx with
  | some misfit => .error ⟨tx.identity, misfit⟩
  | none => .ok tx.identity

/-- Only a block ledger has events to carry from one sighting into the next. -/
def mergeEvents (ledger : Ledger) (base incoming : Transaction) : Transaction :=
  match ledger.kind, base, incoming with
  | .block, .block base, .block incoming =>
      .block { incoming with events := base.events.carry incoming.events }
  | _, _, incoming => incoming

def compare (ledger : Ledger) (known remote : Transaction) : Comparison :=
  if known.hash ≠ remote.hash then .changed
  else
    match ledger.kind, known, remote with
    | .block, .block known, .block remote =>
        if remote.events.keys.any fun key => !known.events.contains key then .extended
        else .unchanged
    | _, _, _ => .unchanged

end Ledger

end Passbook
