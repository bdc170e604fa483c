import Passbook.Duration
import Passbook.Log
import Passbook.Text.Decimal
/-!
How remote ledgers are queried, and the settings read from named variables. A number that cannot
be read leaves its default in place.
-/

namespace Passbook

/-- Attempts, not elapsed time, bound the retries. -/
structure RetryPolicy where
  /-- The first attempt included. -/
  maxAttempts : UInt32 := 5
  initialInterval : Duration := .ofMillis 100
  maxInterval : Duration := .ofMillis 2000
  /-- The interval after each attempt is this much longer than the one before. -/
  multiplier : Float := 2.0

instance : Inhabited RetryPolicy := ⟨{}⟩

/-- The waits between attempts. -/
structure Backoff where
  initialInterval : Duration
  maxInterval : Duration
  multiplier : Float
  /-- How long attempts may go on in all. -/
  elapsedLimit : Option Duration := none

namespace Backoff

def grow (backoff : Backoff) (millis : Nat) : Nat :=
  min backoff.maxInterval.millis (millis.toFloat * backoff.multiplier).toUInt64.toNat

/-- The wait after an attempt. It stays the same when it has grown sixty-four times. -/
def wait (backoff : Backoff) (attempt : Nat) : Duration :=
  .ofMillis (Nat.repeat backoff.grow (min (attempt - 1) 64) backoff.initialInterval.millis)

end Backoff

namespace RetryPolicy

/-- There is always another wait: nothing but the number of attempts ends them. -/
def backoff (policy : RetryPolicy) : Backoff :=
  { initialInterval := policy.initialInterval
    maxInterval := policy.maxInterval
    multiplier := policy.multiplier }

/-- The milliseconds waited in all between a number of attempts. -/
def waited (policy : RetryPolicy) (attempts : Nat) : Nat :=
  (List.range (attempts - 1)).foldl
    (fun waited made => waited + (policy.backoff.wait (made + 1)).millis) 0

end RetryPolicy

structure FetchSettings where
  /-- Lookups under way at once. -/
  concurrency : UInt64 := 8
  pageSize : UInt32 := 1000
  httpTimeout : Duration := .ofSeconds 30
  retry : RetryPolicy := {}

instance : Inhabited FetchSettings := ⟨{}⟩

namespace FetchSettings

/-- A page has one entry at least. -/
def pageLimit (settings : FetchSettings) : Nat := max settings.pageSize.toNat 1

def width (settings : FetchSettings) : Nat := max settings.concurrency.toNat 1

end FetchSettings

structure Endpoint where
  chain : String
  url : String
  deriving DecidableEq, Repr

structure Settings where
  storePath : String
  sequential : Option Endpoint
  block : Option Endpoint
  start : UInt64
  fetch : FetchSettings
  /-- What is shown of what the run tells. -/
  log : Log.Filter

namespace Settings

/-- The variables that are looked up. -/
def names : List String :=
  ["LEDGER_DB_PATH", "SEQUENTIAL_CHAIN_ID", "SEQUENTIAL_RPC_URL", "BLOCK_CHAIN_ID",
    "BLOCK_EXPLORER_URL", "START_OFFSET", "FETCH_CONCURRENCY", "STALE_RETRY_ATTEMPTS", "RUST_LOG"]

/-- A ledger is configured by its address on the network; its name may be left out. -/
def endpoint? (lookup : String → Option String) (nameKey name urlKey : String) :
    Option Endpoint :=
  (lookup urlKey).map fun url => ⟨(lookup nameKey).getD name, url⟩

def ofLookup (lookup : String → Option String) : Settings :=
  let fetch : FetchSettings := {}
  let concurrency := (lookup "FETCH_CONCURRENCY").bind Decimal.uint64?
  let attempts := (lookup "STALE_RETRY_ATTEMPTS").bind Decimal.uint32?
  { storePath := (lookup "LEDGER_DB_PATH").getD "ledger.sqlite3"
    sequential := endpoint? lookup "SEQUENTIAL_CHAIN_ID" "diem" "SEQUENTIAL_RPC_URL"
    block := endpoint? lookup "BLOCK_CHAIN_ID" "celo" "BLOCK_EXPLORER_URL"
    start := ((lookup "START_OFFSET").bind Decimal.uint64?).getD 0
    fetch := { fetch with
      concurrency := concurrency.getD fetch.concurrency
      retry := { fetch.retry with maxAttempts := attempts.getD fetch.retry.maxAttempts } }
    log := .ofText ((lookup "RUST_LOG").getD "") }

end Settings

end Passbook
