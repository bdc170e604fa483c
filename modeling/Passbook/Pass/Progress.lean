import Passbook.Duration
import Passbook.Ledger.Transaction
/-!
How far a pass has come. A tracker counts as the pass goes along; what observers see is the stage
and the counts of the last move, and a pass that is done moves no more.
-/

namespace Passbook.Pass

inductive Outcome where
  | success
  | failed
  deriving DecidableEq, Repr, Inhabited

inductive Stage where
  | idle
  | localLoaded
  | fetching
  | merged
  | persisting
  | done (outcome : Outcome)
  deriving DecidableEq, Repr, Inhabited

namespace Outcome

def name : Outcome → String
  | .success => "Success"
  | .failed => "Failed"

end Outcome

namespace Stage

def name : Stage → String
  | .idle => "Idle"
  | .localLoaded => "LocalLoaded"
  | .fetching => "Fetching"
  | .merged => "Merged"
  | .persisting => "Persisting"
  | .done outcome => "Done(" ++ outcome.name ++ ")"

def isDone : Stage → Bool
  | .done _ => true
  | _ => false

/-- The stages of a pass in which nothing fails. -/
def road : List Stage := [.idle, .localLoaded, .fetching, .merged, .persisting, .done .success]

/-- The moves of a pass from one stage to another. -/
def moves (start stop : Stage) : List (Stage × Stage) :=
  if start = stop then []
  else if stop = .done .failed then [(start, stop)]
  else
    let way := (road.dropWhile (· != start)).takeWhile (· != stop) ++ [stop]
    way.zip way.tail

/-- The stage after this one while nothing fails. -/
def next? : Stage → Option Stage
  | .idle => some .localLoaded
  | .localLoaded => some .fetching
  | .fetching => some .merged
  | .merged => some .persisting
  | .persisting => some (.done .success)
  | .done _ => none

/-- A pass moves to the next stage or, unless it is done, fails. -/
def canAdvance (stage target : Stage) : Bool :=
  !stage.isDone && (target == .done .failed || stage.next? == some target)

end Stage

structure Stats where
  addresses : Nat
  localCount : Nat := 0
  remoteCount : Nat := 0
  /-- Transactions that were not known locally. -/
  stored : List Identity := []
  /-- Transactions whose local copy was corrected or extended. -/
  replaced : List Identity := []
  unchanged : Nat := 0
  deriving DecidableEq, Repr, Inhabited

inductive Record where
  | localLoaded (count : Nat)
  | remoteLoaded (count : Nat)
  | stored (identity : Identity)
  | replaced (identity : Identity)
  | unchanged
  deriving DecidableEq, Repr

namespace Stats

/-- A count takes the place of the one before it, an identity goes behind the ones before it. -/
def add (stats : Stats) : Record → Stats
  | .localLoaded count => { stats with localCount := count }
  | .remoteLoaded count => { stats with remoteCount := count }
  | .stored identity => { stats with stored := stats.stored ++ [identity] }
  | .replaced identity => { stats with replaced := stats.replaced ++ [identity] }
  | .unchanged => { stats with unchanged := stats.unchanged + 1 }

/-- The counts in one line, without the time taken. -/
def counts (stats : Stats) : String :=
  toString stats.addresses ++ " addresses: " ++ toString stats.localCount ++ " local, " ++
    toString stats.remoteCount ++ " remote, " ++ toString stats.stored.length ++ " new, " ++
    toString stats.replaced.length ++ " replaced, " ++ toString stats.unchanged ++ " unchanged"

def summary (stats : Stats) (elapsed : Duration) : String :=
  stats.counts ++ " in " ++ elapsed.text

end Stats

/-- What observers see of a pass. -/
structure Progress where
  stage : Stage
  stats : Stats
  deriving DecidableEq, Repr, Inhabited

structure Tracker where
  stage : Stage
  stats : Stats
  published : Progress
  deriving DecidableEq, Repr, Inhabited

namespace Tracker

def start (addresses : Nat) : Tracker :=
  { stage := .idle, stats := { addresses }, published := ⟨.idle, { addresses }⟩ }

def record (tracker : Tracker) (entry : Record) : Tracker :=
  { tracker with stats := tracker.stats.add entry }

/-- A move out of order is ignored, and publishes nothing. -/
def advance (tracker : Tracker) (target : Stage) : Tracker :=
  if tracker.stage.canAdvance target then
    { tracker with stage := target, published := ⟨target, tracker.stats⟩ }
  else tracker

def fail (tracker : Tracker) : Tracker := tracker.advance (.done .failed)

def succeed (tracker : Tracker) : Tracker := tracker.advance (.done .success)

end Tracker

end Passbook.Pass
