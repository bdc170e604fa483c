import Passbook.Ledger.Merge
import Passbook.Pass.Problem
import Passbook.Pass.Progress
import Passbook.Query.Basic
import Passbook.Store
/-!
One reconciliation pass: the local view is loaded and shown, the answers of the queries are folded
into the remote view as they arrive, both are merged and the merged view is shown, and then what is
new is stored and after it what is revised. A pass moves in steps, each of which is one access to
the store or one answer, so that passes may take turns on a store.
-/

namespace Passbook

namespace Pass

structure Request where
  ledger : Ledger
  addresses : List String
  start : UInt64
  /-- The account whose remarks are shown. -/
  viewer : Option Int64 := none
  deriving DecidableEq, Repr

/-- A view that is shown to the caller. -/
inductive Update where
  | known (view : TransactionMap)
  | merged (view : TransactionMap)
  deriving DecidableEq

namespace Update

def view : Update → TransactionMap
  | .known view => view
  | .merged view => view

end Update

/-- How a query ends. -/
inductive Arrival where
  | found (view : TransactionMap)
  | failed (address : String) (fault : Fault)
  | crashed (detail : String)
  /-- The caller cancelled the pass before the query had its answer. -/
  | cancelled
  deriving DecidableEq

inductive StoreCall where
  | snapshot
  | addNew
  | replace
  deriving DecidableEq, Repr

/-- The calls that a store fails for reasons that are not in its contents. -/
abbrev Outage := StoreCall → Option StoreProblem

namespace Outage

def none : Outage := fun _ => .none

def guard {α : Type} (outage : Outage) (call : StoreCall) (outcome : Except StoreProblem α) :
    Except StoreProblem α :=
  match outage call with
  | some problem => .error problem
  | .none => outcome

end Outage

inductive Phase where
  | opening
  | fetching (known remote : TransactionMap) (awaited : Nat)
  | adding (fresh revised : List Transaction)
  | replacing (revised : List Transaction)
  | ended
  deriving DecidableEq

end Pass

structure Pass where
  request : Pass.Request
  phase : Pass.Phase := .opening
  tracker : Pass.Tracker := .start request.addresses.length
  updates : List Pass.Update := []
  problems : List Pass.Problem := []
  deriving DecidableEq

namespace Pass

/-- The first address that cannot be read is reported as it is spelled. -/
def canonicalAddresses (kind : LedgerKind) (spellings : List String) :
    Except Problem (List String) :=
  spellings.mapM fun spelling =>
    match Address.canonical? kind spelling with
    | .ok address => .ok address
    | .error fault => .error (.remote spelling fault)

def abort (pass : Pass) (problem : Problem) : Pass :=
  { pass with
    phase := .ended
    tracker := pass.tracker.fail
    problems := pass.problems ++ [problem] }

def recordOf : Identity × Verdict → Record
  | (identity, .fresh _) => .stored identity
  | (identity, .revised _) => .replaced identity
  | (_, .unchanged) => .unchanged

def mergeViews (pass : Pass) (known remote : TransactionMap) : Pass :=
  let merge := pass.request.ledger.merge known remote
  let records := .remoteLoaded remote.size :: merge.verdicts.map recordOf
  { pass with
    phase := .adding merge.fresh merge.revised
    tracker := ((records.foldl Tracker.record pass.tracker).advance .merged).advance .persisting
    updates := pass.updates ++ [Update.merged merge.view] }

/-- Once no answer is awaited the views are merged. -/
def await (pass : Pass) (known remote : TransactionMap) : Nat → Pass
  | 0 => pass.mergeViews known remote
  | awaited + 1 => { pass with phase := .fetching known remote (awaited + 1) }

def load (outage : Outage) (store : Store) (pass : Pass) : Pass :=
  match canonicalAddresses pass.request.ledger.kind pass.request.addresses with
  | .error problem => pass.abort problem
  | .ok addresses =>
      match outage.guard .snapshot
        (store.snapshot pass.request.ledger.chain addresses pass.request.start
          pass.request.viewer) with
      | .error problem => pass.abort (.snapshot problem)
      | .ok known =>
          let tracker := (pass.tracker.record (.localLoaded known.size)).advance .localLoaded
          let opened := { pass with
            tracker := tracker.advance .fetching
            updates := pass.updates ++ [Update.known known] }
          opened.await known .empty addresses.length

/-- The first failure ends the pass, whatever else is awaited. -/
def receive (pass : Pass) (known remote : TransactionMap) (awaited : Nat) : Arrival → Pass
  | .found found =>
      match pass.request.ledger.absorb remote found with
      | .ok remote => pass.await known remote (awaited - 1)
      | .error violation => pass.abort (.violation violation)
  | .failed address fault => pass.abort (.remote address fault)
  | .crashed detail => pass.abort (.crashed detail)
  | .cancelled => pass.abort .cancelled

inductive Step where
  | load
  | receive (arrival : Arrival)
  | add
  | replace
  deriving DecidableEq

/-- A step that the phase of the pass does not wait for changes nothing. -/
def step (outage : Outage) (store : Store) (pass : Pass) (next : Step) : Store × Pass :=
  match pass.phase, next with
  | .opening, .load => (store, pass.load outage store)
  | .fetching known remote awaited, .receive arrival =>
      (store, pass.receive known remote awaited arrival)
  | .adding fresh revised, .add =>
      match outage.guard .addNew (store.addNew fresh) with
      | .ok store => (store, { pass with phase := .replacing revised })
      | .error problem => (store, pass.abort (.persistence problem))
  | .replacing revised, .replace =>
      match outage.guard .replace (store.replace revised) with
      | .ok store => (store, { pass with phase := .ended, tracker := pass.tracker.succeed })
      | .error problem => (store, pass.abort (.persistence problem))
  | _, _ => (store, pass)

/-- All steps of a pass whose queries end in the order given. -/
def steps (arrivals : List Arrival) : List Step :=
  .load :: arrivals.map .receive ++ [.add, .replace]

def runSteps (outage : Outage) (store : Store) (pass : Pass) (next : List Step) : Store × Pass :=
  next.foldl (fun reached next => step outage reached.1 reached.2 next) (store, pass)

def run (outage : Outage) (store : Store) (request : Request) (arrivals : List Arrival) :
    Store × Pass :=
  runSteps outage store { request } (steps arrivals)

/-- Whoever can tell the addresses of an account. -/
abbrev Resolver := Holder → Except StoreProblem (List String)

def resolve (resolver : Option Resolver) (holder : Holder) : Except Problem (List String) :=
  match resolver with
  | none => .error .noResolver
  | some resolver => (resolver holder).mapError .resolver

end Pass

end Passbook
