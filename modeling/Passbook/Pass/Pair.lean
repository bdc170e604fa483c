import Passbook.Pass
/-!
Two passes over one store. Each goes its own way, step by step, and they take turns in any order.
What lies between two steps of a pass no transaction of the store holds together.
-/

namespace Passbook.Pass

inductive Side where
  | first
  | second
  deriving DecidableEq, Repr

namespace Side

def other : Side → Side
  | .first => .second
  | .second => .first

end Side

/-- One of the passes makes its next step. -/
structure Turn where
  side : Side
  step : Step
  outage : Outage := .none

/-- The call of the store that a step of the pass makes, whatever comes of it. -/
def call? (pass : Pass) (next : Step) : Option StoreCall :=
  match pass.phase, next with
  | .opening, .load =>
      match canonicalAddresses pass.request.ledger.kind pass.request.addresses with
      | .ok _ => some .snapshot
      | .error _ => none
  | .adding _ _, .add => some .addNew
  | .replacing _, .replace => some .replace
  | _, _ => none

structure Pair where
  store : Store
  passes : Side → Pass
  /-- The calls of the store in the order in which they were made. -/
  calls : List (Side × StoreCall) := []
  /-- What the store was when a pass asked for its snapshot. -/
  origins : Side → Option Store := fun _ => none

namespace Pair

def start (store : Store) (requests : Side → Request) : Pair :=
  { store, passes := fun side => { request := requests side } }

def turn (pair : Pair) (turn : Turn) : Pair :=
  let pass := pair.passes turn.side
  let call := call? pass turn.step
  let (store, after) := step turn.outage pair.store pass turn.step
  { store
    passes := fun side => if side = turn.side then after else pair.passes side
    calls := pair.calls ++ call.toList.map (turn.side, ·)
    origins := fun side =>
      if side = turn.side ∧ call = some .snapshot then some pair.store else pair.origins side }

def run (store : Store) (requests : Side → Request) (turns : List Turn) : Pair :=
  turns.foldl turn (start store requests)

end Pair

end Passbook.Pass
