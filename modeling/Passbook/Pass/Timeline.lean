import Passbook.Pass
/-!
When the queries of a pass end, and which of them it leaves behind. All begin at once, unless the
pass is cancelled before; an answer that comes at the moment of the cancellation comes too late.
-/

namespace Passbook.Pass

structure TimedQuery where
  address : String
  /-- How long the query takes; what takes no time is done before all else. -/
  delay : Option Nat := none
  /-- How the query ends. Without it the query hangs once its delay has passed. -/
  arrival : Option Arrival

structure Timeline where
  queries : List TimedQuery
  /-- When the pass is cancelled, if it is; at zero it is cancelled before it begins. -/
  cancelAt : Option Nat := none

/-- An arrival and its moment. -/
structure Ending where
  moment : Nat
  arrival : Arrival
  deriving DecidableEq

namespace TimedQuery

def moment (query : TimedQuery) : Nat :=
  match query.delay with
  | none => 0
  | some delay => delay + 1

def ending? (query : TimedQuery) : Option Ending := query.arrival.map (⟨query.moment, ·⟩)

/-- Whether the query hangs at a moment. -/
def isHanging (moment : Nat) (query : TimedQuery) : Bool :=
  query.arrival.isNone && query.moment ≤ moment

end TimedQuery

namespace Timeline

def begun (timeline : Timeline) : List TimedQuery :=
  if timeline.cancelAt = some 0 then [] else timeline.queries

/-- How the queries end of themselves; those of one moment end in the order of their addresses. -/
def answers (timeline : Timeline) : List Ending :=
  (timeline.begun.filterMap TimedQuery.ending?).mergeSort fun first second =>
    first.moment ≤ second.moment

/-- The answers that come in time, and behind them the cancellation if it leaves any out. -/
def endings (timeline : Timeline) : List Ending :=
  match timeline.cancelAt with
  | none => timeline.answers
  | some limit =>
      let inTime := timeline.answers.filter (·.moment ≤ limit)
      if inTime.length < timeline.queries.length then inTime ++ [⟨limit, .cancelled⟩] else inTime

def arrivals (timeline : Timeline) : List Arrival := timeline.endings.map Ending.arrival

/-- When a pass is over: the moment of the last ending that it waits for. -/
def lastMoment (pass : Pass) (moment : Nat) : List Ending → Nat
  | [] => moment
  | ending :: rest =>
      match pass.phase with
      | .fetching known remote awaited =>
          lastMoment (pass.receive known remote awaited ending.arrival) ending.moment rest
      | _ => moment

/-- The queries that a pass leaves hanging. -/
def hanging (timeline : Timeline) (loaded : Pass) : List String :=
  let moment := lastMoment loaded 0 timeline.endings
  (timeline.begun.filter (TimedQuery.isHanging moment)).map TimedQuery.address

end Timeline

end Passbook.Pass
