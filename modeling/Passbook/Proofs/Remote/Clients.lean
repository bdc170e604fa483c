import Passbook.Proofs.Maps
import Passbook.Proofs.Query.Faults
import Passbook.Remote.Explorer
import Passbook.Remote.Node
/-!
The clients that ask over the network find fault with the network, with the answers and with the
numbers in them. They never find fault with an address.
-/

namespace Passbook

open MonadAttach (CanReturn)
open LawfulMonadAttach
open Retry

/-- The fault is not with an address. -/
def Fault.SparesAddress (fault : Fault) : Prop := ∀ problem, fault ≠ .invalidAddress problem

/-- Whatever the outcome is, it does not find fault with an address. -/
def Spares {α : Type} (outcome : Except Fault α) : Prop :=
  ∀ fault, outcome = .error fault → fault.SparesAddress

section Spares
variable {α β : Type}

theorem spares_ok (value : α) : Spares (.ok value) := by rintro _ ⟨⟩

theorem spares_error {fault : Fault} (spares : fault.SparesAddress) :
    Spares (.error fault : Except Fault α) := by
  rintro _ ⟨⟩
  exact spares

theorem Spares.bind {outcome : Except Fault α} {next : α → Except Fault β}
    (first : Spares outcome) (rest : ∀ value, Spares (next value)) : Spares (outcome >>= next) := by
  cases outcome with
  | error fault => exact spares_error (first fault rfl)
  | ok value => exact rest value

theorem Spares.map {outcome : Except Fault α} (first : Spares outcome) (made : α → β) :
    Spares (made <$> outcome) := by
  cases outcome with
  | error fault => exact spares_error (first fault rfl)
  | ok value => exact spares_ok (made value)

theorem spares_mapM {step : α → Except Fault β} (spares : ∀ item, Spares (step item))
    (items : List α) : Spares (items.mapM step) := by
  intro fault failed
  obtain ⟨item, _, failed⟩ := exists_of_mapM_eq_error failed
  exact spares item fault failed

theorem spares_located (text : String) : Spares (Url.located text) := by
  unfold Url.located
  split
  · exact spares_error (by rintro _ ⟨⟩)
  · split
    · exact spares_ok _
    · exact spares_error (by rintro _ ⟨⟩)

theorem spares_outcome (request : NetRequest) (response : Option NetResponse) :
    Spares (request.outcome response) := by
  cases response with
  | none => exact spares_error (by rintro _ ⟨⟩)
  | some response =>
      change Spares (if response.isSuccess then _ else _)
      split
      · exact spares_ok _
      · exact spares_error (by rintro _ ⟨⟩)

end Spares

section Clients
variable {m : Type → Type} [Monad m] [LawfulMonad m] [MonadAttach m] [LawfulMonadAttach m]
  {α : Type}

theorem failsOnly_exchange (transport : Transport m) (request : NetRequest) :
    FailsOnly Fault.SparesAddress (exchange transport request) := by
  unfold exchange
  split
  · intro fault failed
    obtain ⟨response, -, outcome⟩ := canReturn_map_imp' failed
    exact spares_outcome request response fault outcome
  · exact failsOnly_mk (by rintro _ ⟨⟩ _ ⟨⟩)

namespace Explorer

theorem spares_number (numbering : Numbering) (read : String → Option α) (zero : α)
    (field text : String) : Spares (number numbering read zero field text) := by
  unfold number
  split
  · exact spares_ok _
  · split
    · exact spares_ok _
    · exact spares_error (by rintro _ ⟨⟩)

theorem spares_row (spelled : SpelledRow) : Spares spelled.row := by
  refine (spares_number _ _ _ _ _).bind fun _ => ?_
  refine (spares_number _ _ _ _ _).bind fun _ => ?_
  refine (spares_number _ _ _ _ _).bind fun _ => ?_
  refine (spares_number _ _ _ _ _).bind fun _ => ?_
  refine (spares_number _ _ _ _ _).bind fun _ => ?_
  refine (spares_number _ _ _ _ _).bind fun _ => ?_
  refine (spares_number _ _ _ _ _).bind fun _ => ?_
  exact (spares_number _ _ _ _ _).bind fun _ => spares_ok _

theorem spares_rows (result : Option Json) : Spares (rows result) := by
  unfold rows
  split
  · exact spares_ok _
  · split
    · exact spares_error (by rintro _ ⟨⟩)
    · exact spares_mapM spares_row _

theorem spares_spelledInfo (spelled : SpelledInfo) : Spares spelled.info := by
  unfold SpelledInfo.info
  split
  · exact spares_ok _
  · exact spares_ok _
  · exact ((spares_number _ _ _ _ _).map some).bind fun _ => spares_ok _

theorem spares_info (result : Option Json) : Spares (info result) := by
  unfold info
  split
  · exact spares_error (by rintro _ ⟨⟩)
  · split
    · exact spares_error (by rintro _ ⟨⟩)
    · exact spares_spelledInfo _

theorem spares_decode (content : String) : Spares (decode content) := by
  unfold decode
  split
  · exact spares_error (by rintro _ ⟨⟩)
  · unfold Envelope.result?
    split
    · exact spares_ok _
    · split
      · exact spares_ok _
      · exact spares_error (by rintro _ ⟨⟩)

theorem failsOnly_query (contact : Contact m) (fields : List (String × String))
    {read : Option Json → Except Fault α} (spares : ∀ result, Spares (read result)) :
    FailsOnly Fault.SparesAddress (query contact fields read) := by
  refine (failsOnly_lift _).bind fun _ _ => ?_
  refine (failsOnly_mk (spares_located _)).bind fun url _ => ?_
  refine (failsOnly_exchange _ _).bind fun content _ => ?_
  exact failsOnly_mk ((spares_decode content).bind spares)

theorem sparesAddress_of_reports {contact : Contact m} {latency : String → Nat} {fault : Fault}
    (reports : (client contact latency).Reports fault) : fault.SparesAddress := by
  cases reports with
  | transfers address start page size failed =>
      exact failsOnly_query contact _ spares_rows fault failed
  | info hash failed => exact failsOnly_query contact _ spares_info fault failed

end Explorer

namespace Node

theorem spares_receive (node : Node) (read : Json → Option α) {outcome : Except Fault String}
    (spares : Spares outcome) : Spares (node.receive read outcome).2 := by
  unfold receive
  split
  · exact spares_error (spares _ rfl)
  · split
    · exact spares_error (by rintro _ ⟨⟩)
    · unfold accept
      split
      · exact spares_error (by rintro _ ⟨⟩)
      · exact spares_ok _
      · split
        · exact spares_error (by rintro _ ⟨⟩)
        · exact spares_ok _

theorem failsOnly_call (contact : Contact m) (method : String) (params : List Json)
    (read : Json → Option α) : FailsOnly Fault.SparesAddress (call contact method params read) := by
  rintro fault ⟨node, after, failed⟩
  obtain ⟨_, -, failed⟩ := canReturn_bind_imp' failed
  split at failed
  case h_1 problem unlocated =>
    cases eq_of_canReturn_pure failed
    exact spares_located _ _ unlocated
  case h_2 url located =>
    obtain ⟨outcome, exchanged, failed⟩ := canReturn_bind_imp' failed
    have spares : Spares outcome := by
      rintro problem rfl
      exact failsOnly_exchange _ _ _ exchanged
    have received := Prod.mk.inj (eq_of_canReturn_pure failed)
    exact spares_receive _ read spares fault received.1

theorem sparesAddress_of_reports {contact : Contact m} {latency : UInt64 → Nat} {fault : Fault}
    (reports : (client contact latency).Reports fault) : fault.SparesAddress := by
  cases reports with
  | account spelling failed => exact failsOnly_call contact _ _ _ fault failed
  | events key start limit failed =>
      exact (failsOnly_call contact _ _ _).bind (fun _ _ => failsOnly_pure _) fault failed
  | transaction version failed =>
      exact (failsOnly_call contact _ _ _).bind (fun _ _ => failsOnly_pure _) fault failed

end Node

end Clients

end Passbook
