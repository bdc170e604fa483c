import Passbook.Ledger.Transaction
/-!
How events take their place in a transfer log. Some explorers report negative log indexes; all of
those share place zero.
-/

namespace Passbook

namespace TransferEvent

/-- The event at the index under which it is logged. -/
def settled (event : TransferEvent) : TransferEvent :=
  if event.logIndex < 0 then { event with logIndex := 0 } else event

end TransferEvent

namespace EventLog

/-- An event displaces the one logged before it at its place. -/
def add (log : EventLog) (event : TransferEvent) : EventLog :=
  log.insert event.settled.logIndex event.settled

def ofEvents (events : List TransferEvent) : EventLog := events.foldl add .empty

def firstKey? (log : EventLog) : Option Int64 := log.entries.head?.map Prod.fst

/-- A log with a negative key is built anew from its events in the order of their keys. -/
def normalized (log : EventLog) : EventLog :=
  if log.firstKey?.any (· < 0) then ofEvents log.values else log

/-- The events of both logs; where both have a place the incoming event stands. -/
def carry (base incoming : EventLog) : EventLog :=
  base.entries.foldl (fun log entry => log.insertIfNew entry.1 entry.2) incoming

end EventLog

namespace Transaction

def normalized : Transaction → Transaction
  | .block tx => .block { tx with events := tx.events.normalized }
  | tx => tx

end Transaction

end Passbook
