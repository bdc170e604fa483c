import Passbook.Pass
/-!
A pass among its queries. Each query is a task of its own; the pass hears of the tasks in any order
in which they end, and the first failure it hears of stops those that still run. The caller may
cancel the pass at any moment, and between any two moves others may write to the store.
-/

namespace Passbook.Pass

/-- How a query ends of itself. -/
inductive Reply where
  | found (view : TransactionMap)
  | failed (fault : Fault)
  | crashed (detail : String)
  deriving DecidableEq

namespace Reply

def arrival (address : String) : Reply → Arrival
  | .found view => .found view
  | .failed fault => .failed address fault
  | .crashed detail => .crashed detail

end Reply

inductive TaskState where
  | running
  /-- The task has ended, and the pass has not heard of it. -/
  | ended (arrival : Arrival)
  | heard (arrival : Arrival)
  deriving DecidableEq

/-- The query for one address. -/
structure Task where
  address : String
  state : TaskState := .running
  deriving DecidableEq

structure Race where
  store : Store
  pass : Pass
  /-- One task for each address, once the local view is shown. -/
  tasks : List Task := []
  /-- Whether the caller has cancelled the pass. -/
  isCancelled : Bool := false
  /-- Whether the pass has stopped its tasks. -/
  isStopped : Bool := false
  /-- The writes that were attempted, whatever came of them. -/
  writes : List StoreCall := []
  deriving DecidableEq

namespace Race

inductive Move where
  | cancel
  /-- Others have made this of the store. -/
  | intrude (store : Store)
  | load (outage : Outage)
  | answer (place : Nat) (reply : Reply)
  /-- A running task notices that it is to stop. -/
  | notice (place : Nat)
  /-- The pass hears of a task that has ended. -/
  | join (place : Nat)
  | add (outage : Outage)
  | replace (outage : Outage)

def start (store : Store) (request : Request) : Race := { store, pass := { request } }

/-- The tasks of a pass that has just been loaded. -/
def tasksOf (pass : Pass) : List Task :=
  match pass.phase, canonicalAddresses pass.request.ledger.kind pass.request.addresses with
  | .ended, _ => []
  | _, .error _ => []
  | _, .ok addresses => addresses.map fun address => { address }

def load (race : Race) (outage : Outage) : Race :=
  match race.pass.phase with
  | .opening =>
      let pass := (step outage race.store race.pass .load).2
      { race with pass, tasks := tasksOf pass }
  | _ => race

/-- A task that runs ends in this way. -/
def finish (race : Race) (place : Nat) (arrival : String → Arrival) : Race :=
  match race.tasks[place]? with
  | some ⟨address, .running⟩ =>
      { race with tasks := race.tasks.set place ⟨address, .ended (arrival address)⟩ }
  | _ => race

/-- A failure that the pass hears of stops all tasks. -/
def join (race : Race) (place : Nat) : Race :=
  match race.pass.phase, race.tasks[place]? with
  | .fetching _ _ _, some ⟨address, .ended arrival⟩ =>
      let pass := (step .none race.store race.pass (.receive arrival)).2
      { race with
        pass
        tasks := race.tasks.set place ⟨address, .heard arrival⟩
        isStopped := race.isStopped || pass.phase == .ended }
  | _, _ => race

def write (race : Race) (outage : Outage) (call : StoreCall) (next : Step) : Race :=
  let (store, pass) := step outage race.store race.pass next
  { race with store, pass, writes := race.writes ++ [call] }

/-- A move that cannot be made changes nothing. -/
def move (race : Race) : Move → Race
  | .cancel => { race with isCancelled := true }
  | .intrude store => { race with store }
  | .load outage => race.load outage
  | .answer place reply => race.finish place fun address => reply.arrival address
  | .notice place =>
      if race.isCancelled || race.isStopped then race.finish place fun _ => .cancelled else race
  | .join place => race.join place
  | .add outage =>
      match race.pass.phase with
      | .adding _ _ => race.write outage .addNew .add
      | _ => race
  | .replace outage =>
      match race.pass.phase with
      | .replacing _ => race.write outage .replace .replace
      | _ => race

/-- A pass after all moves of a schedule. -/
def run (store : Store) (request : Request) (moves : List Move) : Race :=
  moves.foldl move (start store request)

end Race

end Passbook.Pass
