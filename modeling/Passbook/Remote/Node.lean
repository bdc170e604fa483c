import Passbook.Json.Reader
import Passbook.Json.Record
import Passbook.Remote.Client
import Passbook.Remote.Exchange
/-!
A node of a sequential ledger, asked by remote procedure calls. Its answers carry the version that
the ledger had; an answer at an older version than one already seen is stale.
-/

namespace Passbook

open Retry (Question)

/-- What is remembered from call to call. -/
structure Node where
  /-- The newest version seen. -/
  latest : UInt64 := 0
  nextCall : UInt64 := 1
  deriving DecidableEq, Repr, Inhabited

namespace Node

structure Refusal where
  code : Int64
  message : String
  deriving DecidableEq, Repr

/-- What an answer holds. -/
structure Envelope (α : Type) where
  result : Option α
  refusal : Option Refusal
  version : Option UInt64

namespace Refusal

def ofJson? (json : Json) : Option Refusal := do
  let record ← json.record? ["code", "message"]
  return {
    code := ← record.required "code" Json.int64?
    message := ← record.required "message" Json.string? }

end Refusal

variable {α : Type}

namespace Envelope

def ofJson? (read : Json → Option α) (json : Json) : Option (Envelope α) := do
  let record ← json.record? ["result", "error", "diem_ledger_version"]
  return {
    result := ← record.defaulted "result" none (Json.nullable read)
    refusal := ← record.defaulted "error" none (Json.nullable Refusal.ofJson?)
    version := ← record.defaulted "diem_ledger_version" none (Json.nullable Json.uint64?) }

end Envelope

/-- A refusal tells nothing about versions. -/
def accept (node : Node) (envelope : Envelope α) : Node × Except Fault (Option α) :=
  match envelope.refusal, envelope.version with
  | some refusal, _ => (node, .error (.rpc refusal.code refusal.message))
  | none, none => (node, .ok envelope.result)
  | none, some seen =>
      if seen < node.latest then (node, .error (.stale seen node.latest))
      else ({ node with latest := seen }, .ok envelope.result)

def decode? (read : Json → Option α) (content : String) : Option (Envelope α) :=
  (Json.parse? content).bind (Envelope.ofJson? read)

/-- What the outcome of a request comes to. Only an envelope can move the newest version. -/
def receive (node : Node) (read : Json → Option α) :
    Except Fault String → Node × Except Fault (Option α)
  | .error fault => (node, .error fault)
  | .ok content =>
      match decode? read content with
      | none => (node, .error .undecodable)
      | some envelope => node.accept envelope

def content (node : Node) (method : String) (params : List Json) : String :=
  (Json.record [
    ("id", .ofUInt64 node.nextCall),
    ("jsonrpc", .text "2.0"),
    ("method", .text method),
    ("params", .array params)]).render

variable {m : Type → Type} [Monad m]

/-- Where a node is asked, and who is told the name of each call before it is made. -/
structure Contact (m : Type → Type) where
  transport : Transport m
  tell : String → m Unit
  address : String

/-- Every call has a number of its own, also one that is a repetition. -/
def call (contact : Contact m) (method : String) (params : List Json)
    (read : Json → Option α) : Question (StateT Node m) (Option α) := ExceptT.mk fun node => do
  contact.tell method
  let asked := { node with nextCall := node.nextCall + 1 }
  match Url.located contact.address with
  | .error fault => return (.error fault, asked)
  | .ok url =>
      let outcome ← (exchange contact.transport ⟨.post (node.content method params), url⟩).run
      let (node, result) := asked.receive read outcome
      return (result, node)

/-- The name of the call by which an account is asked for. -/
def accountCall : String := "get_account"

def client (contact : Contact m) (latency : UInt64 → Nat := fun _ => 0) :
    SequentialClient (StateT Node m) where
  account spelling := call contact accountCall [.text spelling] AccountStreams.ofJson?
  events key start limit := do
    let events ← call contact "get_events"
      [.text key, .ofUInt64 start, .ofUInt64 limit] (Json.list? StreamEvent.ofJson?)
    return events.getD []
  transaction version := do
    let details ← call contact "get_transactions"
      [.ofUInt64 version, .nat 1, .bool false] (Json.list? VersionDetail.ofJson?)
    return (details.getD []).find? fun detail => detail.version == version
  latency

end Node

end Passbook
