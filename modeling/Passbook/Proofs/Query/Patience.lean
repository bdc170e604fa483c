import Passbook.Proofs.Query.Block
import Passbook.Proofs.Query.Faults
import Passbook.Proofs.Query.Sequential
import Passbook.Proofs.Query.Staleness
/-!
What stale answers make of the queries. A client that is behind less often than it is asked again
leads both queries to what the same client leads them to when it is never behind, but for the order
in which lookups that are under way side by side land: of several that fail another may be the
first, and of several transactions that claim one identity another may be the last.
-/

namespace Passbook

open Retry

variable {σ : Type}

/-- Both fail or both find; what differs is in dispute. -/
inductive Agree (disputed : Identity → Prop) (rivals : Fault → Fault → Prop) :
    Except Fault TransactionMap → Except Fault TransactionMap → Prop
  | found {view other : TransactionMap}
      (same : ∀ identity, ¬ disputed identity → view.get? identity = other.get? identity) :
      Agree disputed rivals (.ok view) (.ok other)
  | failed {fault other : Fault} (same : fault = other ∨ rivals fault other) :
      Agree disputed rivals (.error fault) (.error other)

theorem Agree.refl {disputed : Identity → Prop} {rivals : Fault → Fault → Prop} :
    ∀ outcome, Agree disputed rivals outcome outcome
  | .ok _ => .found fun _ _ => rfl
  | .error _ => .failed (.inl rfl)

/-- A question that fails with no stale answer never comes to one. -/
theorem Retry.FailsOnly.prompt {α : Type} {question : Question (StateM σ) α}
    (fails : FailsOnly Fault.IsFinal question) : Ensures (fun _ => True) Prompt question := by
  refine fun state _ => ⟨trivial, fun seen latest failed => ?_⟩
  have reached : MayFail question (.stale seen latest) := ⟨state, _, Prod.ext failed rfl⟩
  exact fails _ reached seen latest rfl

/-- Every call of the client lags behind the same call of the steady one. -/
structure SequentialClient.Lags (client : SequentialClient (StateM σ)) (fit : σ → Prop)
    (attempts : Nat) (steady : SequentialClient (StateM Unit)) : Prop where
  account : ∀ address, Retry.Lags fit attempts (client.account address) (steady.account address)
  events : ∀ key offset limit, Retry.Lags fit attempts (client.events key offset limit)
    (steady.events key offset limit)
  transaction : ∀ version,
    Retry.Lags fit attempts (client.transaction version) (steady.transaction version)

namespace SequentialQuery
variable {query : SequentialQuery (StateM σ)} {fit : σ → Prop}
  {client : SequentialClient (StateM Unit)} {spelling : String} {start : UInt64}

end SequentialQuery

/-- Every call of the client lags behind the same call of the steady one. -/
structure BlockClient.Lags (client : BlockClient (StateM σ)) (fit : σ → Prop) (attempts : Nat)
    (steady : BlockClient (StateM Unit)) : Prop where
  transfers : ∀ address start page size, Retry.Lags fit attempts
    (client.transfers address start page size) (steady.transfers address start page size)
  info : ∀ hash, Retry.Lags fit attempts (client.info hash) (steady.info hash)

namespace BlockQuery
variable {query : BlockQuery (StateM σ)} {fit : σ → Prop} {client : BlockClient (StateM Unit)}
  {spelling : String} {start : UInt64}

end BlockQuery

/-- The same client when it owes stale answers to its calls. -/
def SequentialClient.owing (steady : SequentialClient (StateM Unit)) :
    SequentialClient (StateM (Chronicle.Asked → Nat)) where
  account address := Retry.owing (.account address) (steady.account address)
  events key offset limit := Retry.owing (.page key offset limit) (steady.events key offset limit)
  transaction version := Retry.owing (.detail version) (steady.transaction version)
  latency := steady.latency

theorem SequentialClient.lags_owing (steady : SequentialClient (StateM Unit))
    (account : ∀ address, Prompt (verdict (steady.account address)))
    (events : ∀ key offset limit, Prompt (verdict (steady.events key offset limit)))
    (transaction : ∀ version, Prompt (verdict (steady.transaction version))) (attempts : Nat) :
    steady.owing.Lags (fun owed => ∀ call, owed call < attempts) attempts steady where
  account address := Retry.lags_owing (account address) _ _
  events key offset limit := Retry.lags_owing (events key offset limit) _ _
  transaction version := Retry.lags_owing (transaction version) _ _

/-- The same client when it owes stale answers to its calls. -/
def BlockClient.owing (steady : BlockClient (StateM Unit)) :
    BlockClient (StateM (TransferIndex.Asked → Nat)) where
  transfers address start page size :=
    Retry.owing (.page address start page size) (steady.transfers address start page size)
  info hash := Retry.owing (.info hash) (steady.info hash)
  latency := steady.latency

theorem BlockClient.lags_owing (steady : BlockClient (StateM Unit))
    (transfers : ∀ address start page size,
      Prompt (verdict (steady.transfers address start page size)))
    (info : ∀ hash, Prompt (verdict (steady.info hash))) (attempts : Nat) :
    steady.owing.Lags (fun owed => ∀ call, owed call < attempts) attempts steady where
  transfers address start page size := Retry.lags_owing (transfers address start page size) _ _
  info hash := Retry.lags_owing (info hash) _ _

namespace Sample

/-- An account has sent versions 1 and 2; this is what is told about versions. -/
def pair (told : UInt64 → Except Fault (Option VersionDetail)) :
    SequentialClient (StateM Unit) where
  account _ := pure (some ⟨holder, "sent", "received"⟩)
  events key offset limit :=
    pure (((if key = "sent" then [⟨key, 0, 1⟩, ⟨key, 1, 2⟩] else []).drop offset.toNat).take
      limit.toNat)
  transaction version := ExceptT.mk (pure (told version))

/-- Each detail is that of its own version. -/
def honest (version : UInt64) : Except Fault (Option VersionDetail) :=
  .ok (some { detail with version })

end Sample

end Passbook
