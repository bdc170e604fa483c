import Passbook.Json.Double
import Passbook.Json.Record
import Passbook.Settings
/-!
The JSON form of the settings for fetching.
-/

namespace Passbook

namespace Duration

def names : List String := ["secs", "nanos"]

def toJson (duration : Duration) : Json := .record [
  ("secs", .nat duration.seconds.toNat),
  ("nanos", .nat duration.nanos)]

def ofJson? (json : Json) : Option Duration := do
  let record ← json.exactRecord? names
  of? (← record.required "secs" Json.uint64?) (← record.required "nanos" Json.uint32?)

end Duration

namespace RetryPolicy

def names : List String := ["max_attempts", "initial_interval", "max_interval", "multiplier"]

def toJson (policy : RetryPolicy) : Json := .record [
  ("max_attempts", .nat policy.maxAttempts.toNat),
  ("initial_interval", policy.initialInterval.toJson),
  ("max_interval", policy.maxInterval.toJson),
  ("multiplier", .float policy.multiplier)]

def ofJson? (json : Json) : Option RetryPolicy := do
  let record ← json.record? names
  return {
    maxAttempts := ← record.required "max_attempts" Json.uint32?
    initialInterval := ← record.required "initial_interval" Duration.ofJson?
    maxInterval := ← record.required "max_interval" Duration.ofJson?
    multiplier := ← record.required "multiplier" Json.float? }

end RetryPolicy

namespace FetchSettings

def names : List String := ["fetch_concurrency", "page_size", "http_timeout", "retry"]

def toJson (settings : FetchSettings) : Json := .record [
  ("fetch_concurrency", .nat settings.concurrency.toNat),
  ("page_size", .nat settings.pageSize.toNat),
  ("http_timeout", settings.httpTimeout.toJson),
  ("retry", settings.retry.toJson)]

def ofJson? (json : Json) : Option FetchSettings := do
  let record ← json.record? names
  return {
    concurrency := ← record.required "fetch_concurrency" Json.uint64?
    pageSize := ← record.required "page_size" Json.uint32?
    httpTimeout := ← record.required "http_timeout" Duration.ofJson?
    retry := ← record.required "retry" RetryPolicy.ofJson? }

end FetchSettings

end Passbook
