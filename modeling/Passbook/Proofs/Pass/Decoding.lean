import Mathlib.Data.List.Induction
import Passbook.Pass.Pair
import Passbook.Proofs.Address
import Passbook.Proofs.Pass.Race
import Passbook.Proofs.Pass.Views
import Passbook.Proofs.Query.Faults
/-!
Where a pass reads its addresses. The first that cannot be read ends the pass before anything is
asked for. If all can be read, the queries are asked for canonical spellings, which they read again,
so that an address is found fault with only if a client does so.
-/

namespace Passbook

open MonadAttach (CanReturn)
open Retry

variable {m : Type → Type} [Monad m] [LawfulMonad m] [MonadAttach m] [LawfulMonadAttach m]

/-- The query of a ledger of either kind. -/
inductive Adapter (m : Type → Type) where
  | sequential (query : SequentialQuery m)
  | block (query : BlockQuery m)

namespace Adapter

def kind : Adapter m → LedgerKind
  | .sequential _ => .sequential
  | .block _ => .block

def query : Adapter m → Query m
  | .sequential query => query.fetchSince
  | .block query => query.fetchSince

/-- Some call of its client can come to this fault. -/
def Reports : Adapter m → Fault → Prop
  | .sequential query => query.client.Reports
  | .block query => query.client.Reports

/-- The query can end so, if it is asked for this address. -/
def Gives (adapter : Adapter m) (address : String) (start : UInt64) : Pass.Reply → Prop
  | .found view => CanReturn (adapter.query address start).run (.ok view)
  | .failed fault => MayFail (adapter.query address start) fault
  | .crashed _ => True

theorem failsOnly_query (adapter : Adapter m) (spelling : String) (start : UInt64) :
    FailsOnly (Fault.OfQuery adapter.kind spelling adapter.Reports)
      (adapter.query spelling start) := by
  cases adapter with
  | sequential query => exact query.failsOnly_fetchSince start
  | block query => exact query.failsOnly_fetchSince start

/-- A query that can read its address finds fault with one only if its client does. -/
theorem reports_of_invalidAddress {adapter : Adapter m} {spelling canonical text : String}
    (read : Address.canonical? adapter.kind spelling = .ok canonical) {start : UInt64}
    (failed : MayFail (adapter.query spelling start) (.invalidAddress text)) :
    adapter.Reports (.invalidAddress text) := by
  cases adapter.failsOnly_query spelling start _ failed with
  | unread unread => cases read.symm.trans unread
  | reported reported _ => exact reported

end Adapter

namespace Pass

theorem problems_await (pass : Pass) (known remote : TransactionMap) (awaited : Nat) :
    (pass.await known remote awaited).problems = pass.problems := by
  cases awaited <;> rfl

theorem mem_problems_abort {pass : Pass} {cause problem : Problem}
    (member : problem ∈ (pass.abort cause).problems) : problem ∈ pass.problems ∨ problem = cause :=
  (List.mem_append.mp member).imp_right List.mem_singleton.mp

/-- A pass tells of a remote problem when it cannot read its addresses or when a query fails. -/
theorem remote_mem_step {outage : Outage} {store : Store} {pass : Pass} {next : Step}
    {address : String} {fault : Fault}
    (member : Problem.remote address fault ∈ (step outage store pass next).2.problems) :
    Problem.remote address fault ∈ pass.problems ∨
      (next = .load ∧ canonicalAddresses pass.request.ledger.kind pass.request.addresses =
        .error (.remote address fault)) ∨
      next = .receive (.failed address fault) := by
  -- The cases are those of a step: every other end of a pass has a cause that is not remote.
  unfold step at member
  split at member
  case h_1 opening =>
    simp only [load] at member
    split at member
    case h_1 problem unread =>
      refine (mem_problems_abort member).imp_right ?_
      rintro rfl
      exact .inl ⟨rfl, unread⟩
    case h_2 addresses read =>
      split at member
      case h_1 problem unshown =>
        refine (mem_problems_abort member).imp_right ?_
        rintro ⟨⟩
      case h_2 known shown =>
        rw [problems_await] at member
        exact .inl member
  case h_2 known remote awaited arrival fetching =>
    cases arrival with
    | found view =>
        simp only [receive] at member
        split at member
        case h_1 after absorbed =>
          rw [problems_await] at member
          exact .inl member
        case h_2 violation refused =>
          refine (mem_problems_abort member).imp_right ?_
          rintro ⟨⟩
    | failed own problem =>
        refine (mem_problems_abort member).imp_right ?_
        rintro ⟨⟩
        exact .inr rfl
    | crashed detail =>
        refine (mem_problems_abort member).imp_right ?_
        rintro ⟨⟩
    | cancelled =>
        refine (mem_problems_abort member).imp_right ?_
        rintro ⟨⟩
  case h_3 fresh revised adding =>
    split at member
    case h_1 after added => exact .inl member
    case h_2 problem refused =>
      refine (mem_problems_abort member).imp_right ?_
      rintro ⟨⟩
  case h_4 revised replacing =>
    split at member
    case h_1 after replaced => exact .inl member
    case h_2 problem refused =>
      refine (mem_problems_abort member).imp_right ?_
      rintro ⟨⟩
  case h_5 => exact .inl member

/-- One address of a pass. -/
def canonicalAddress (kind : LedgerKind) (spelling : String) : Except Problem String :=
  match Address.canonical? kind spelling with
  | .ok address => .ok address
  | .error fault => .error (.remote spelling fault)

theorem canonicalAddress_eq_ok_iff {kind : LedgerKind} {spelling canonical : String} :
    canonicalAddress kind spelling = .ok canonical ↔
      Address.canonical? kind spelling = .ok canonical := by
  unfold canonicalAddress
  cases Address.canonical? kind spelling <;> simp

theorem canonicalAddresses_eq_mapM (kind : LedgerKind) (spellings : List String) :
    canonicalAddresses kind spellings = spellings.mapM (canonicalAddress kind) := rfl

/-- Addresses that are not all valid are told of by the first of them. -/
theorem exists_of_canonicalAddresses_eq_error {kind : LedgerKind} {spellings : List String}
    {problem : Problem} (unread : canonicalAddresses kind spellings = .error problem) :
    ∃ before spelling rest trouble, spellings = before ++ spelling :: rest ∧
      (∀ earlier ∈ before, Address.isValid kind earlier) ∧
      Address.ofText kind spelling = .error trouble ∧
      problem = .remote spelling (.invalidAddress (trouble.message spelling)) := by
  rw [canonicalAddresses_eq_mapM] at unread
  obtain ⟨before, spelling, rest, rfl, passed, met⟩ := exists_split_of_mapM_eq_error unread
  unfold canonicalAddress Address.canonical? at met
  cases read : Address.ofText kind spelling with
  | ok address =>
      rw [read] at met
      cases met
  | error trouble =>
      rw [read] at met
      cases met
      refine ⟨before, spelling, rest, trouble, rfl, fun earlier member => ?_, read, rfl⟩
      obtain ⟨canonical, done⟩ := passed earlier member
      exact Address.isValid_of_canonical? (canonicalAddress_eq_ok_iff.mp done)

theorem isValid_of_canonicalAddresses {kind : LedgerKind} {spellings addresses : List String}
    (read : canonicalAddresses kind spellings = .ok addresses) {spelling : String}
    (member : spelling ∈ spellings) : Address.isValid kind spelling := by
  rw [canonicalAddresses_eq_mapM] at read
  obtain ⟨canonical, done⟩ := exists_of_mapM_eq_ok read member
  exact Address.isValid_of_canonical? (canonicalAddress_eq_ok_iff.mp done)

theorem exists_canonicalAddresses {kind : LedgerKind} {spellings : List String}
    (valid : ∀ spelling ∈ spellings, Address.isValid kind spelling) :
    ∃ addresses, canonicalAddresses kind spellings = .ok addresses := by
  apply exists_mapM_eq_ok (canonicalAddress kind)
  intro spelling member
  obtain ⟨canonical, read, -⟩ := Address.canonical?_of_isValid (valid spelling member)
  exact ⟨canonical, canonicalAddress_eq_ok_iff.mpr read⟩

/-- A canonical spelling is read again, as what it is. -/
theorem canonical?_of_mem {kind : LedgerKind} {spellings addresses : List String}
    (read : canonicalAddresses kind spellings = .ok addresses) {address : String}
    (member : address ∈ addresses) : Address.canonical? kind address = .ok address := by
  rw [canonicalAddresses_eq_mapM] at read
  obtain ⟨spelling, -, done⟩ := (mem_of_mapM_eq_ok read).mp member
  have first := canonicalAddress_eq_ok_iff.mp done
  obtain ⟨canonical, again, fixed⟩ :=
    Address.canonical?_of_isValid (Address.isValid_of_canonical? first)
  cases first.symm.trans again
  exact fixed

/-- The pass is the one requested, and whatever it tells of an address that cannot be read, there
is a report for it. -/
structure Backed (request : Request) (reports : Fault → Prop) (pass : Pass) : Prop where
  own : pass.request = request
  told : ∀ address text, .remote address (.invalidAddress text) ∈ pass.problems →
    reports (.invalidAddress text)

section Backed
variable {request : Request} {reports : Fault → Prop} {pass : Pass} {addresses : List String}
  (read : canonicalAddresses request.ledger.kind request.addresses = .ok addresses)

theorem backed_start (request : Request) (reports : Fault → Prop) :
    Backed request reports { request } where
  own := rfl
  told := fun _ _ member => absurd member List.not_mem_nil

include read

/-- A pass whose addresses can be read tells of one only what it hears. -/
theorem Backed.step (backed : pass.Backed request reports) (outage : Outage) (store : Store)
    (next : Step)
    (heard : ∀ address text, next = .receive (.failed address (.invalidAddress text)) →
      reports (.invalidAddress text)) :
    (step outage store pass next).2.Backed request reports where
  own := (request_step outage store pass next).trans backed.own
  told := by
    intro address text member
    rcases remote_mem_step member with before | ⟨-, unread⟩ | now
    · exact backed.told address text before
    · rw [backed.own, read] at unread
      cases unread
    · exact heard address text now

theorem Backed.runSteps (backed : pass.Backed request reports) (outage : Outage) (store : Store)
    (steps : List Step)
    (heard : ∀ address text, .receive (.failed address (.invalidAddress text)) ∈ steps →
      reports (.invalidAddress text)) :
    (runSteps outage store pass steps).2.Backed request reports := by
  induction steps generalizing store pass with
  | nil => exact backed
  | cons next rest ih =>
      have first := backed.step read outage store next fun address text same =>
        heard address text (same ▸ List.mem_cons_self)
      exact ih first _ fun address text member =>
        heard address text (List.mem_cons_of_mem next member)

end Backed

namespace Race

/-! A pass that cannot read its addresses. -/

section Unread
variable {race : Race} {request : Request} {problem : Problem}

theorem finish_of_unasked (unasked : race.tasks = []) (place : Nat) (arrival : String → Arrival) :
    race.finish place arrival = race := by
  unfold finish
  rw [unasked]
  rfl

/-- While nothing is asked, a pass that is not opened or has ended is only moved by being loaded. -/
theorem move_of_unasked (unasked : race.tasks = []) (next : Move)
    (still : race.pass.phase = .opening ∧ (∀ outage, next ≠ .load outage) ∨
      race.pass.phase = .ended) :
    (race.move next).tasks = [] ∧ (race.move next).writes = race.writes ∧
      (race.move next).pass = race.pass := by
  cases next with
  | cancel => exact ⟨unasked, rfl, rfl⟩
  | intrude store => exact ⟨unasked, rfl, rfl⟩
  | load outage =>
      rcases still with ⟨-, unloaded⟩ | ended
      · exact absurd rfl (unloaded outage)
      · simp only [move, load, ended]
        exact ⟨unasked, trivial, trivial⟩
  | answer place reply =>
      rw [move, finish_of_unasked unasked]
      exact ⟨unasked, rfl, rfl⟩
  | notice place =>
      rw [move, finish_of_unasked unasked, ite_self]
      exact ⟨unasked, rfl, rfl⟩
  | join place =>
      have nobody : race.join place = race := by
        unfold join
        rw [unasked]
        split
        case h_1 none => cases none
        case h_2 => rfl
      rw [move, nobody]
      exact ⟨unasked, rfl, rfl⟩
  | add outage =>
      rcases still with ⟨opening, -⟩ | ended
      · simp only [move, opening]
        exact ⟨unasked, trivial, trivial⟩
      · simp only [move, ended]
        exact ⟨unasked, trivial, trivial⟩
  | replace outage =>
      rcases still with ⟨opening, -⟩ | ended
      · simp only [move, opening]
        exact ⟨unasked, trivial, trivial⟩
      · simp only [move, ended]
        exact ⟨unasked, trivial, trivial⟩

theorem load_of_unread
    (unread : canonicalAddresses request.ledger.kind request.addresses = .error problem)
    (outage : Outage) (store : Store) :
    Pass.load outage store { request } = abort { request } problem := by
  simp only [Pass.load, unread]

/-- Such a pass has not been opened, or it has ended at once. -/
theorem run_of_unread
    (unread : canonicalAddresses request.ledger.kind request.addresses = .error problem)
    (store : Store) (moves : List Move) :
    (run store request moves).tasks = [] ∧ (run store request moves).writes = [] ∧
      ((∀ outage, .load outage ∉ moves) ∧ (run store request moves).pass = { request } ∨
        (∃ outage, .load outage ∈ moves) ∧
          (run store request moves).pass = abort { request } problem) := by
  -- The last move meets a pass that is not opened yet, or one that has ended.
  induction moves using List.reverseRecOn with
  | nil => exact ⟨rfl, rfl, .inl ⟨by simp, rfl⟩⟩
  | append_singleton moves next ih =>
      have onward : run store request (moves ++ [next]) = (run store request moves).move next := by
        rw [run, List.foldl_append]
        rfl
      rw [onward]
      generalize run store request moves = race at ih ⊢
      obtain ⟨unasked, unwritten, ⟨unloaded, opening⟩ | ⟨⟨outage, loaded⟩, ended⟩⟩ := ih
      · by_cases load : ∃ outage, next = .load outage
        · obtain ⟨outage, rfl⟩ := load
          have failed : race.move (.load outage) =
              { race with pass := abort { request } problem, tasks := [] } := by
            simp only [move, load, opening, step, load_of_unread unread]
            rfl
          rw [failed]
          exact ⟨rfl, unwritten, .inr ⟨⟨outage, by simp⟩, rfl⟩⟩
        · push Not at load
          obtain ⟨tasks, writes, pass⟩ := move_of_unasked unasked next
            (.inl ⟨by rw [opening], load⟩)
          refine ⟨tasks, writes.trans unwritten, .inl ⟨fun outage member => ?_, pass.trans opening⟩⟩
          rcases List.mem_append.mp member with before | now
          · exact unloaded outage before
          · exact load outage (List.mem_singleton.mp now).symm
      · obtain ⟨tasks, writes, pass⟩ := move_of_unasked unasked next
          (.inr (by rw [ended]; rfl))
        exact ⟨tasks, writes.trans unwritten,
          .inr ⟨⟨outage, List.mem_append_left _ loaded⟩, pass.trans ended⟩⟩

end Unread

/-! A pass that can. -/

/-- The queries are asked for these addresses in their order, and one that has failed over an
address has a report for it. -/
structure Asked (addresses : List String) (reports : Fault → Prop) (tasks : List Task) : Prop where
  placed : ∀ (place : Nat) (task : Task), tasks[place]? = some task →
    addresses[place]? = some task.address
  reported : ∀ task ∈ tasks, ∀ address text,
    task.state = .ended (.failed address (.invalidAddress text)) → reports (.invalidAddress text)

/-- The pass and its tasks have reports for what they tell. -/
structure Decodes (request : Request) (addresses : List String) (reports : Fault → Prop)
    (race : Race) : Prop where
  backed : race.pass.Backed request reports
  asked : Asked addresses reports race.tasks

section Decodes
variable {race : Race} {request : Request} {addresses : List String} {reports : Fault → Prop}

theorem asked_nil : Asked addresses reports [] where
  placed := by simp
  reported := by simp

theorem asked_map : Asked addresses reports (addresses.map fun address => { address }) where
  placed := by
    intro place task found
    rw [List.getElem?_map, Option.map_eq_some_iff] at found
    obtain ⟨address, there, rfl⟩ := found
    exact there
  reported := by
    intro task member
    obtain ⟨address, -, rfl⟩ := List.mem_map.mp member
    rintro _ _ ⟨⟩

theorem Asked.set {tasks : List Task} (asked : Asked addresses reports tasks) {place : Nat}
    {address : String} {before after : TaskState}
    (there : tasks[place]? = some ⟨address, before⟩)
    (spares : ∀ own text, after = .ended (.failed own (.invalidAddress text)) →
      reports (.invalidAddress text)) :
    Asked addresses reports (tasks.set place ⟨address, after⟩) where
  placed := by
    intro other task found
    rw [List.getElem?_set] at found
    split at found
    case isTrue same =>
      subst same
      split at found
      case isTrue =>
        cases found
        exact asked.placed place ⟨address, before⟩ there
      case isFalse => cases found
    case isFalse => exact asked.placed other task found
  reported := by
    intro task member own text same
    rcases List.mem_or_eq_of_mem_set member with earlier | rfl
    · exact asked.reported task earlier own text same
    · exact spares own text same

theorem Decodes.finish (decodes : race.Decodes request addresses reports) (place : Nat)
    {arrival : String → Arrival}
    (spares : ∀ address, addresses[place]? = some address → ∀ own text,
      arrival address = .failed own (.invalidAddress text) → reports (.invalidAddress text)) :
    (race.finish place arrival).Decodes request addresses reports := by
  unfold Race.finish
  split
  case h_1 address there =>
    refine ⟨decodes.backed, decodes.asked.set there fun own text same => ?_⟩
    exact spares address (decodes.asked.placed place _ there) own text (TaskState.ended.inj same)
  case h_2 => exact decodes

theorem Decodes.load (decodes : race.Decodes request addresses reports)
    (read : canonicalAddresses request.ledger.kind request.addresses = .ok addresses)
    (outage : Outage) : (race.load outage).Decodes request addresses reports := by
  unfold Race.load
  split
  case h_1 opening =>
    have backed := decodes.backed.step read outage race.store .load (by rintro _ _ ⟨⟩)
    refine ⟨backed, ?_⟩
    change Asked addresses reports (tasksOf _)
    unfold tasksOf
    rw [backed.own, read]
    split
    case h_1 => exact asked_nil
    case h_2 same _ => cases same
    case h_3 same _ =>
      cases same
      exact asked_map
  case h_2 => exact decodes

theorem Decodes.join (decodes : race.Decodes request addresses reports)
    (read : canonicalAddresses request.ledger.kind request.addresses = .ok addresses)
    (place : Nat) : (race.join place).Decodes request addresses reports := by
  unfold Race.join
  split
  case h_1 known remote awaited address arrival fetching there =>
    refine ⟨decodes.backed.step read .none race.store (.receive arrival) ?_,
      decodes.asked.set there (by rintro _ _ ⟨⟩)⟩
    rintro other text ⟨⟩
    exact decodes.asked.reported _ (List.mem_of_getElem? there) other text rfl
  case h_2 => exact decodes

/-- The reply of a query that is asked for a canonical spelling. -/
theorem reports_of_gives {adapter : Adapter m} {address : String} {start : UInt64} {reply : Reply}
    (read : Address.canonical? adapter.kind address = .ok address)
    (gives : adapter.Gives address start reply) {own text : String}
    (failed : reply.arrival address = .failed own (.invalidAddress text)) :
    adapter.Reports (.invalidAddress text) := by
  cases reply with
  | found view => cases failed
  | failed fault =>
      cases failed
      exact Adapter.reports_of_invalidAddress read gives
  | crashed detail => cases failed

/-- Every reply among the moves is one that the query can give for the address of its place. -/
def AnsweredBy (adapter : Adapter m) (request : Request) (moves : List Move) : Prop :=
  ∀ addresses, canonicalAddresses request.ledger.kind request.addresses = .ok addresses →
    ∀ (place : Nat) reply, .answer place reply ∈ moves →
      ∀ address, addresses[place]? = some address →
      adapter.Gives address request.start reply

theorem Decodes.move {adapter : Adapter m}
    (decodes : race.Decodes request addresses adapter.Reports)
    (read : canonicalAddresses request.ledger.kind request.addresses = .ok addresses)
    (kind : request.ledger.kind = adapter.kind) {next : Move}
    (answered : ∀ place reply, next = .answer place reply → ∀ address,
      addresses[place]? = some address → adapter.Gives address request.start reply) :
    (race.move next).Decodes request addresses adapter.Reports := by
  cases next with
  | cancel => exact ⟨decodes.backed, decodes.asked⟩
  | intrude store => exact ⟨decodes.backed, decodes.asked⟩
  | load outage => exact decodes.load read outage
  | answer place reply =>
      -- What is asked is canonical, so the query reads it again and its client must have reported.
      refine decodes.finish place fun address there own text failed => ?_
      have again := canonical?_of_mem read (List.mem_of_getElem? there)
      rw [kind] at again
      exact reports_of_gives again (answered place reply rfl address there) failed
  | notice place =>
      rw [Race.move]
      split
      case isTrue => exact decodes.finish place (by rintro _ _ _ _ ⟨⟩)
      case isFalse => exact decodes
  | join place => exact decodes.join read place
  | add outage =>
      simp only [Race.move]
      split
      case h_1 =>
        exact ⟨decodes.backed.step read outage race.store .add (by rintro _ _ ⟨⟩), decodes.asked⟩
      case h_2 => exact decodes
  | replace outage =>
      simp only [Race.move]
      split
      case h_1 =>
        exact ⟨decodes.backed.step read outage race.store .replace (by rintro _ _ ⟨⟩),
          decodes.asked⟩
      case h_2 => exact decodes

theorem decodes_run {adapter : Adapter m} {moves : List Move}
    (read : canonicalAddresses request.ledger.kind request.addresses = .ok addresses)
    (kind : request.ledger.kind = adapter.kind) (answered : AnsweredBy adapter request moves)
    (store : Store) :
    (run store request moves).Decodes request addresses adapter.Reports := by
  refine List.foldlRecOn moves move (b := start store request)
    (motive := fun race => race.Decodes request addresses adapter.Reports)
    ⟨backed_start request adapter.Reports, asked_nil⟩ ?_
  intro race decodes next member
  refine decodes.move read kind fun place reply same => ?_
  subst same
  exact answered addresses read place reply member

end Decodes

end Race

end Pass

end Passbook
