import Passbook.Ledger.Rules
/-!
From sightings to stored transactions. The remote view of a ledger is what all queries found,
folded together; a merge sets each transaction of the view against its local copy.
-/

namespace Passbook

/-- What a merge finds about a transaction of the remote view. -/
inductive Verdict where
  /-- There is no local copy. -/
  | fresh (tx : Transaction)
  /-- The local copy is to give way to this one. -/
  | revised (tx : Transaction)
  | unchanged
  deriving DecidableEq, Inhabited

namespace Verdict

def fresh? : Verdict → Option Transaction
  | .fresh tx => some tx
  | _ => none

def revised? : Verdict → Option Transaction
  | .revised tx => some tx
  | _ => none

def written? : Verdict → Option Transaction
  | .fresh tx => some tx
  | .revised tx => some tx
  | .unchanged => none

end Verdict

structure Merge where
  /-- The local view with all that is new and revised. -/
  view : TransactionMap
  /-- The verdicts in the order of their identities. -/
  verdicts : List (Identity × Verdict)
  deriving DecidableEq, Inhabited

namespace Merge

def fresh (merge : Merge) : List Transaction := merge.verdicts.filterMap fun entry => entry.2.fresh?

def revised (merge : Merge) : List Transaction :=
  merge.verdicts.filterMap fun entry => entry.2.revised?

end Merge

namespace Ledger

/-- The view with one more sighting, which takes over the events of those before it. -/
def sight (ledger : Ledger) (view : TransactionMap) (tx : Transaction) :
    Except Violation TransactionMap := do
  let incoming := tx.normalized
  let identity ← ledger.identityOf incoming
  match view.get? identity with
  | none => return view.insert identity incoming
  | some seen => return view.insert identity (ledger.mergeEvents seen incoming)

def absorb (ledger : Ledger) (view found : TransactionMap) : Except Violation TransactionMap :=
  found.values.foldlM ledger.sight view

/-- A revised copy keeps the events and the annotations of the local one. -/
def judge (ledger : Ledger) (known : TransactionMap) (identity : Identity) (tx : Transaction) :
    Verdict :=
  match known.get? identity with
  | none => .fresh tx
  | some copy =>
      match ledger.compare copy tx with
      | .unchanged => .unchanged
      | .changed | .extended =>
          .revised ((ledger.mergeEvents copy tx).withAnnotations copy.annotations)

def merge (ledger : Ledger) (known remote : TransactionMap) : Merge :=
  let verdicts := remote.entries.map fun entry =>
    (entry.1, ledger.judge known entry.1 entry.2)
  let written := verdicts.filterMap fun entry => entry.2.written?.map fun tx => (entry.1, tx)
  { view := written.foldl (fun view entry => view.insert entry.1 entry.2) known
    verdicts }

end Ledger

end Passbook
