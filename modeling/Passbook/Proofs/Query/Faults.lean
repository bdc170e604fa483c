import Passbook.Proofs.Query.Questions
import Passbook.Proofs.Query.Rows
import Passbook.Query.Sequential
/-!
How a query can fail, whatever its client is and does. It fails where the address cannot be read,
where nothing is known of what a row or a stream names, where answers keep being stale, and
otherwise only as the client does. It never fails with a stale answer.
-/

namespace Passbook

open MonadAttach (CanReturn)
open LawfulMonadAttach
open Retry (Question Ending Prompt)

variable {m : Type → Type} [Monad m] [LawfulMonad m] [MonadAttach m] [LawfulMonadAttach m]
  {α β : Type}

/-- A question that fails so is not asked again. -/
def Fault.IsFinal (fault : Fault) : Prop := ∀ seen latest, fault ≠ .stale seen latest

theorem Retry.Prompt.isFinal {fault : Fault} (prompt : Prompt (.error fault : Except Fault α)) :
    fault.IsFinal := fun seen latest same => prompt seen latest (congrArg _ same)

namespace Retry

/-- Asking the question can come to this fault. -/
def MayFail (question : Question m α) (fault : Fault) : Prop :=
  CanReturn question.run (.error fault)

/-- Whenever the question fails, it fails in an allowed way. -/
def FailsOnly (allowed : Fault → Prop) (question : Question m α) : Prop :=
  ∀ fault, MayFail question fault → allowed fault

section FailsOnly
variable {allowed : Fault → Prop} {question : Question m α}

theorem failsOnly_mk {outcome : Except Fault α}
    (told : ∀ fault, outcome = .error fault → allowed fault) :
    FailsOnly allowed (ExceptT.mk (pure outcome) : Question m α) :=
  fun fault failed => told fault (eq_of_canReturn_pure failed)

theorem failsOnly_pure (value : α) : FailsOnly allowed (pure value : Question m α) :=
  failsOnly_mk (by rintro _ ⟨⟩)

theorem failsOnly_lift (action : m α) : FailsOnly allowed (ExceptT.lift action) := by
  intro fault failed
  obtain ⟨_, -, same⟩ := canReturn_map_imp' failed
  cases same

theorem FailsOnly.bind {next : α → Question m β} (first : FailsOnly allowed question)
    (rest : ∀ value, CanReturn question.run (.ok value) → FailsOnly allowed (next value)) :
    FailsOnly allowed (question >>= next) := by
  intro fault failed
  obtain ⟨outcome | value, reached, last⟩ := canReturn_bind_imp' failed
  · cases eq_of_canReturn_pure last
    exact first fault reached
  · exact rest value reached fault last

end FailsOnly

end Retry

open Retry

namespace Lookup
variable {allowed : Fault → Prop}

/-- If the lookup has failed, it has failed in an allowed way. -/
def LandsOnly (allowed : Fault → Prop) (lookup : Lookup β) : Prop :=
  ∀ fault, lookup.outcome = .error fault → allowed fault

theorem failsOnly_cons {outcome : Except Fault β} {more : Question m (List β)}
    (told : ∀ fault, outcome = .error fault → allowed fault) (rest : FailsOnly allowed more) :
    FailsOnly allowed (do
      let answer ← ExceptT.mk (pure outcome)
      return answer :: (← more)) :=
  (failsOnly_mk told).bind fun _ _ => rest.bind fun _ _ => failsOnly_pure _

/-- If those under way fail in allowed ways only and each that begins does, so do all together. -/
theorem failsOnly_landings {width : Nat} {look : Nat → α → m (Lookup β)}
    (looked : ∀ now key lookup, CanReturn (look now key) lookup → lookup.LandsOnly allowed)
    (now : Nat) (underway : List (Lookup β)) (keys : List α)
    (begun : ∀ lookup ∈ underway, lookup.LandsOnly allowed) :
    FailsOnly allowed (landings width look now underway keys) := by
  have begins (now : Nat) (key : α) {next : Lookup β → Question m (List β)}
      (rest : ∀ lookup, lookup.LandsOnly allowed → FailsOnly allowed (next lookup)) :
      FailsOnly allowed (ExceptT.lift (look now key) >>= next) := by
    refine (failsOnly_lift _).bind fun lookup reached => rest lookup ?_
    obtain ⟨_, begun, same⟩ := canReturn_map_imp' reached
    cases same
    exact looked now key lookup begun
  induction now, underway, keys using landings.induct width with
  | case1 now =>
      rw [landings]
      exact failsOnly_pure []
  | case2 now key keys ih =>
      rw [landings]
      exact begins now key fun lookup lands => ih lookup (List.forall_mem_singleton.mpr lands)
  | case3 now first rest ih =>
      obtain ⟨told, others⟩ := List.forall_mem_cons.mp begun
      rw [landings]
      exact failsOnly_cons told (ih others)
  | case4 now first rest key keys room ih =>
      rw [landings, if_pos room]
      refine begins now key fun lookup lands => ih lookup fun other member => ?_
      rcases List.mem_cons.mp ((perm_enqueue lookup _).mem_iff.mp member) with rfl | earlier
      · exact lands
      · exact begun other earlier
  | case5 now first rest key keys full ih =>
      obtain ⟨told, others⟩ := List.forall_mem_cons.mp begun
      rw [landings, if_neg full]
      exact failsOnly_cons told (ih others)

end Lookup

namespace QueryContext
variable {context : QueryContext m} {what : String} {allowed : Fault → Prop}
  (tired : ∀ attempts, allowed (.staleTooOften attempts))
include tired

theorem allowed_of_canReturn_whileStale {policy : UInt32} {notice : UInt32 → Fault → m Unit}
    {question : Question m α}
    (asked : FailsOnly (fun fault => fault.IsFinal → allowed fault) question)
    {ending : Ending α} (reached : CanReturn (whileStale policy notice question) ending)
    {fault : Fault} (failed : ending.outcome = .error fault) : allowed fault := by
  rcases outcome_of_canReturn_ask reached with ⟨attempts, last⟩ | ⟨prompt, answered⟩
  · cases failed.symm.trans last
    exact tired attempts
  · rw [failed] at prompt answered
    exact asked fault answered prompt.isFinal

/-- What is asked again as long as answers are stale fails as the question itself does otherwise. -/
theorem failsOnly_ask {question : Question m α}
    (asked : FailsOnly (fun fault => fault.IsFinal → allowed fault) question) :
    FailsOnly allowed (context.ask what question) := by
  intro fault failed
  obtain ⟨ending, reached, last⟩ := canReturn_map_imp' failed
  exact allowed_of_canReturn_whileStale tired asked reached last

theorem failsOnly_lookups {question : α → Question m β}
    (asked : ∀ key, FailsOnly (fun fault => fault.IsFinal → allowed fault) (question key))
    (latency : α → Nat) (keys : List α) :
    FailsOnly allowed (context.lookups what latency question keys) := by
  refine Lookup.failsOnly_landings ?_ 0 [] keys (by simp)
  intro now key lookup reached fault failed
  obtain ⟨ending, ended, made⟩ := canReturn_bind_imp' reached
  cases eq_of_canReturn_pure made
  exact allowed_of_canReturn_whileStale tired (asked key) ended failed

end QueryContext

/-! The clients, and the queries that ask them. -/

/-- Some call of the client can come to this fault. -/
inductive SequentialClient.Reports (client : SequentialClient m) (fault : Fault) : Prop where
  | account (spelling : String) (failed : MayFail (client.account spelling) fault)
  | events (key : String) (start limit : UInt64)
      (failed : MayFail (client.events key start limit) fault)
  | transaction (version : UInt64) (failed : MayFail (client.transaction version) fault)

/-- Some call of the client can come to this fault. -/
inductive BlockClient.Reports (client : BlockClient m) (fault : Fault) : Prop where
  | transfers (address : String) (start : UInt64) (page size : UInt32)
      (failed : MayFail (client.transfers address start page size) fault)
  | info (hash : String) (failed : MayFail (client.info hash) fault)

/-- What a query may fail with if its client reports these faults. -/
inductive Fault.OfQuery (kind : LedgerKind) (spelling : String) (reports : Fault → Prop) :
    Fault → Prop where
  | unread {fault : Fault} (failed : Address.canonical? kind spelling = .error fault) :
      OfQuery kind spelling reports fault
  | staleTooOften (attempts : UInt32) : OfQuery kind spelling reports (.staleTooOften attempts)
  | noData : OfQuery kind spelling reports .noData
  | reported {fault : Fault} (reported : reports fault) (final : fault.IsFinal) :
      OfQuery kind spelling reports fault

theorem Fault.OfQuery.isFinal {kind : LedgerKind} {spelling : String} {reports : Fault → Prop}
    {fault : Fault} (cause : Fault.OfQuery kind spelling reports fault) : fault.IsFinal := by
  cases cause with
  | unread failed =>
      unfold Address.canonical? at failed
      split at failed <;> cases failed
      rintro _ _ ⟨⟩
  | staleTooOften attempts => rintro _ _ ⟨⟩
  | noData => rintro _ _ ⟨⟩
  | reported _ final => exact final

namespace SequentialQuery
variable (query : SequentialQuery m) {spelling : String}

theorem failsOnly_versionsFrom (key : String) (next : Nat) :
    FailsOnly (Fault.OfQuery .sequential spelling query.client.Reports)
      (query.versionsFrom key next) := by
  -- How much there can be left of the stream carries the induction.
  induction left : UInt64.size - next using Nat.strongRecOn generalizing next with
  | _ left ih =>
    subst left
    rw [versionsFrom]
    refine (QueryContext.failsOnly_ask .staleTooOften fun _ failed =>
      .reported (.events _ _ _ failed)).bind fun page _ => ?_
    split
    case isTrue more =>
      have positive := query.settings.pageLimit_pos
      exact (ih _ (by omega) _ rfl).bind fun _ _ => failsOnly_pure _
    case isFalse => exact failsOnly_pure _

theorem failsOnly_detail (version : UInt64) :
    FailsOnly (fun fault =>
      fault.IsFinal → Fault.OfQuery .sequential spelling query.client.Reports fault)
      (query.detail version) := by
  refine FailsOnly.bind (fun _ failed => .reported (.transaction version failed)) fun found _ => ?_
  cases found with
  | none => exact failsOnly_mk (by rintro _ ⟨⟩ _; exact .noData)
  | some detail => exact failsOnly_pure detail

theorem failsOnly_fetchSince (start : UInt64) :
    FailsOnly (Fault.OfQuery .sequential spelling query.client.Reports)
      (query.fetchSince spelling start) := by
  unfold fetchSince
  refine (failsOnly_mk fun _ => .unread).bind fun address _ => ?_
  refine (QueryContext.failsOnly_ask .staleTooOften fun _ failed =>
    .reported (.account address failed)).bind fun account _ => ?_
  cases account with
  | none => exact (failsOnly_lift _).bind fun _ _ => failsOnly_pure _
  | some streams =>
      refine (query.failsOnly_versionsFrom _ _).bind fun sent _ => ?_
      refine (query.failsOnly_versionsFrom _ _).bind fun received _ => ?_
      refine (failsOnly_lift _).bind fun _ _ => ?_
      exact (QueryContext.failsOnly_lookups .staleTooOften query.failsOnly_detail _ _).bind
        fun details _ => failsOnly_pure _

end SequentialQuery

namespace BlockQuery
variable (query : BlockQuery m) {spelling : String}

theorem failsOnly_rowsFrom (address : String) (start : UInt64) (page : Nat) :
    FailsOnly (Fault.OfQuery .block spelling query.client.Reports)
      (query.rowsFrom address start page) := by
  induction left : UInt32.size - page using Nat.strongRecOn generalizing page with
  | _ left ih =>
    subst left
    rw [rowsFrom]
    refine (QueryContext.failsOnly_ask .staleTooOften fun _ failed =>
      .reported (.transfers _ _ _ _ failed)).bind fun batch _ => ?_
    split
    case isTrue more => exact (ih _ (by omega) _ rfl).bind fun _ _ => failsOnly_pure _
    case isFalse => exact failsOnly_pure _

theorem failsOnly_info (hash : String) :
    FailsOnly (fun fault =>
      fault.IsFinal → Fault.OfQuery .block spelling query.client.Reports fault)
      (query.info hash) :=
  FailsOnly.bind (fun _ failed => .reported (.info hash failed)) fun _ _ => failsOnly_pure _

theorem failsOnly_fetchSince (start : UInt64) :
    FailsOnly (Fault.OfQuery .block spelling query.client.Reports)
      (query.fetchSince spelling start) := by
  unfold fetchSince
  refine (failsOnly_mk fun _ => .unread).bind fun address _ => ?_
  refine (query.failsOnly_rowsFrom _ _ _).bind fun rows _ => ?_
  refine (failsOnly_lift _).bind fun _ _ => ?_
  refine (QueryContext.failsOnly_lookups .staleTooOften query.failsOnly_info _ _).bind
    fun infos _ => ?_
  refine (failsOnly_mk fun fault failed => ?_).bind fun found _ => failsOnly_pure _
  -- A row can only lack the details of its transaction.
  obtain ⟨_, row, _, middle, _, _, refused⟩ := foldlM_eq_error_iff.mp failed
  rw [(addRow_eq_error_iff.mp refused).2]
  exact .noData

end BlockQuery

end Passbook
