import Passbook.Remote.History
import Passbook.Remote.Retry
import Passbook.Remote.Transfers
/-!
The questions that remote ledgers answer. Some of them are asked side by side; how long each takes
shows in nothing but the order in which the answers land.
-/

namespace Passbook

open Retry (Question)

structure SequentialClient (m : Type → Type) where
  /-- The event streams of an address, if it has an account. -/
  account : String → Question m (Option AccountStreams)
  /-- Events of a stream from an offset on, no more than a limit. -/
  events : String → UInt64 → UInt64 → Question m (List StreamEvent)
  /-- The detail of a version, if the ledger has reached it. -/
  transaction : UInt64 → Question m (Option VersionDetail)
  /-- How long it takes to tell the detail of a version. -/
  latency : UInt64 → Nat := fun _ => 0

structure BlockClient (m : Type → Type) where
  /-- The rows of an address from a block on: the page of a number, counted from one, and of a
  size. -/
  transfers : String → UInt64 → UInt32 → UInt32 → Question m (List TransferRow)
  /-- What is known about the transaction of a hash. -/
  info : String → Question m TransactionInfo
  /-- How long it takes to tell what is known about the transaction of a hash. -/
  latency : String → Nat := fun _ => 0

end Passbook
