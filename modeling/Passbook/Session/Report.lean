import Passbook.Amount
import Passbook.Log
import Passbook.Pass
import Passbook.Remote.Exchange
import Passbook.Store.Place
import Passbook.Text.Visible
/-!
What a run finds around it, and what it tells of a pass: the views, why the pass failed, what the
store did, and how the pass moved on.
-/

namespace Passbook

/-- What a run finds around it. -/
structure Surroundings (m : Type → Type) where
  log : Log.Topic → Log.Level → String → m Unit
  openStore : StorePlace → m (Except StoreProblem Store)
  keepStore : StorePlace → Store → m Unit
  transport : Transport m
  /-- How long the server at an address takes to tell what it has under a key. -/
  latency : String → String → Nat := fun _ _ => 0
  pause : Duration → m Unit
  /-- The time on a clock that is never set back. -/
  nanos : m Nat

namespace Session

variable {m : Type → Type} [Monad m]

/-- The surroundings in which only what a filter shows is told. -/
def filtered (around : Surroundings m) (filter : Log.Filter) : Surroundings m :=
  { around with
    log := fun topic level message =>
      if filter.shows topic level then around.log topic level message else pure () }

def report (around : Surroundings m) (topic : Log.Topic) (level : Log.Level) (message : String) :
    m Unit :=
  around.log topic level (Text.visible message)

def lines (ledger : Ledger) : Pass.Update → List String
  | .known view =>
      [ledger.chain.name ++ ": " ++ toString view.size ++ " transactions stored locally"]
  | .merged view =>
      (ledger.chain.name ++ ": " ++ toString view.size ++ " transactions after reconciliation") ::
        view.values.map fun tx => "  " ++ tx.describe ledger.kind

def tellUpdate (around : Surroundings m) (ledger : Ledger) (update : Pass.Update) : m Unit :=
  (lines ledger update).forM (report around .program .info)

/-- Tells why a pass failed between two of its states. -/
def tellFailure (around : Surroundings m) (before after : Pass) : m Unit :=
  (after.problems.drop before.problems.length).forM fun problem =>
    report around .pass .error ("Reconciliation on " ++ after.request.ledger.chain.name ++
      " failed: " ++ problem.message)

def tellMoves (around : Surroundings m) (moves : List (Pass.Stage × Pass.Stage)) : m Unit :=
  moves.forM fun move =>
    report around .progress .debug
      ("Pass transition " ++ move.1.name ++ " -> " ++ move.2.name)

/-- Tells how many transactions a view has that was read from the store. -/
def tellLoaded (around : Surroundings m) (request : Pass.Request) (view : TransactionMap) :
    m Unit :=
  report around .store .debug ("Loaded " ++ toString view.size ++ " local transactions of " ++
    toString request.addresses.length ++ " addresses on " ++ request.ledger.chain.name)

/-- Tells how the local copies of revised transactions differ from them. -/
def tellRevised (around : Surroundings m) (ledger : Ledger) (known : TransactionMap)
    (revised : List Transaction) : m Unit :=
  revised.forM fun tx =>
    match known.get? tx.identity with
    | none => pure ()
    | some copy => report around .pass .debug
        ("Local copy of " ++ tx.identity.text ++ " is " ++ (ledger.compare copy tx).name)

/-- Tells what was written between two states of a pass. -/
def tellWritten (around : Surroundings m) (before after : Store × Pass) : m Unit :=
  match before.2.phase, after.2.phase with
  | .adding (tx :: fresh) _, .replacing _ =>
      report around .store .debug ("Stored " ++
        toString (after.1.rows.size - before.1.rows.size) ++ " of " ++
        toString (tx :: fresh).length ++ " new transactions")
  | .replacing (tx :: revised), _ =>
      if after.2.problems = [] then
        report around .store .debug ("Replaced " ++ toString (tx :: revised).length ++
          " changed transactions")
      else pure ()
  | _, _ => pure ()

end Session

end Passbook
