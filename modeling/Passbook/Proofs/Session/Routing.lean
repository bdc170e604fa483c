import Passbook.Proofs.Pass.Decoding
import Passbook.Proofs.Remote.Clients
import Passbook.Session
/-!
Which addresses a run hands to which ledger. No address goes to both kinds, and no pass that a run
makes finds an address that cannot be read.
-/

namespace Passbook

open MonadAttach (CanReturn)
open LawfulMonadAttach
open Retry

variable {m : Type → Type} [Monad m] [LawfulMonad m] [MonadAttach m] [LawfulMonadAttach m]

/-- A query whose client finds no fault with an address finds none with one that it can read. -/
theorem Fault.OfQuery.sparesAddress {kind : LedgerKind} {spelling canonical : String}
    {reports : Fault → Prop} {fault : Fault} (cause : Fault.OfQuery kind spelling reports fault)
    (read : Address.canonical? kind spelling = .ok canonical)
    (spares : ∀ fault, reports fault → fault.SparesAddress) : fault.SparesAddress := by
  cases cause with
  | unread failed => cases read.symm.trans failed
  | staleTooOften attempts => rintro _ ⟨⟩
  | noData => rintro _ ⟨⟩
  | reported reported _ => exact spares _ reported

namespace Session

/-- Queries fail as the last of them does. -/
theorem mayFail_of_canReturn_ask {questions : Questions m} {start : UInt64}
    {addresses : List String} {arrivals : List Pass.Arrival}
    (reached : CanReturn (ask questions start addresses) arrivals) {address : String}
    {fault : Fault} (failed : .failed address fault ∈ arrivals) :
    address ∈ addresses ∧ MayFail (questions.query address start) fault := by
  induction addresses generalizing arrivals with
  | nil =>
      cases eq_of_canReturn_pure reached
      cases failed
  | cons first rest ih =>
      obtain ⟨outcome, asked, reached⟩ := canReturn_bind_imp' reached
      cases outcome with
      | ok found =>
          obtain ⟨others, asked, reached⟩ := canReturn_bind_imp' reached
          cases eq_of_canReturn_pure reached
          rcases List.mem_cons.mp failed with now | later
          · cases now
          · exact (ih asked later).imp_left (List.mem_cons_of_mem first)
      | error problem =>
          obtain ⟨_, -, reached⟩ := canReturn_bind_imp' reached
          cases eq_of_canReturn_pure reached
          cases List.mem_singleton.mp failed
          exact ⟨List.mem_cons_self, asked⟩

theorem sparesAddress_of_canReturn_arrivals {around : Surroundings m} {settings : Settings}
    {ledger : Ledger} {url : String} {addresses : List String} {arrived : List Pass.Arrival}
    (readable : ∀ address ∈ addresses, Address.canonical? ledger.kind address = .ok address)
    (reached : CanReturn (arrivals around settings ledger url addresses) arrived)
    {address : String} {fault : Fault} (failed : .failed address fault ∈ arrived) :
    fault.SparesAddress := by
  unfold arrivals at reached
  cases kind : ledger.kind with
  | sequential =>
      rw [kind] at readable
      simp only [kind] at reached
      obtain ⟨⟨found, node⟩, reached, same⟩ := canReturn_map_imp' reached
      have asked : CanReturn (ask (sequentialQuestions around (context around settings
        ledger.chain) url) settings.start addresses) found := ⟨{}, node, reached⟩
      change found = arrived at same
      rw [← same] at failed
      obtain ⟨among, failed⟩ := mayFail_of_canReturn_ask asked failed
      have cause := SequentialQuery.failsOnly_fetchSince _ _ fault failed
      exact cause.sparesAddress (readable address among) fun _ => Node.sparesAddress_of_reports
  | block =>
      rw [kind] at readable
      simp only [kind] at reached
      obtain ⟨among, failed⟩ := mayFail_of_canReturn_ask reached failed
      have cause := BlockQuery.failsOnly_fetchSince _ _ fault failed
      exact cause.sparesAddress (readable address among) fun _ => Explorer.sparesAddress_of_reports

theorem eq_of_canReturn_loadPass {around : Surroundings m} {store : Store} {opened loaded : Pass}
    (reached : CanReturn (loadPass around store opened) loaded) :
    loaded = (Pass.step .none store opened .load).2 := by
  -- What is told and shown on the way leaves the pass as it is.
  obtain ⟨_, -, reached⟩ := canReturn_bind_imp' reached
  obtain ⟨_, -, reached⟩ := canReturn_bind_imp' reached
  obtain ⟨_, -, reached⟩ := canReturn_bind_imp' reached
  obtain ⟨_, -, reached⟩ := canReturn_bind_imp' reached
  obtain ⟨_, -, reached⟩ := canReturn_bind_imp' reached
  exact (eq_of_canReturn_pure reached).symm

theorem eq_of_canReturn_hearPass {around : Surroundings m} {loaded answered : Pass}
    {arrived : List Pass.Arrival} (reached : CanReturn (hearPass around loaded arrived) answered) :
    answered = (Pass.runSteps .none .empty loaded (arrived.map .receive)).2 := by
  obtain ⟨_, -, reached⟩ := canReturn_bind_imp' reached
  split at reached
  case h_1 =>
    obtain ⟨_, -, reached⟩ := canReturn_bind_imp' reached
    obtain ⟨_, -, reached⟩ := canReturn_bind_imp' reached
    exact (eq_of_canReturn_pure reached).symm
  case h_2 =>
    obtain ⟨_, -, reached⟩ := canReturn_bind_imp' reached
    exact (eq_of_canReturn_pure reached).symm

/-- A pass that is open hears what the queries for its addresses come to. -/
theorem exists_of_canReturn_answerPass {around : Surroundings m} {settings : Settings}
    {url : String} {loaded answered : Pass}
    (reached : CanReturn (answerPass around settings url loaded) answered) :
    ∃ arrived, answered = (Pass.runSteps .none .empty loaded (arrived.map .receive)).2 ∧
      (arrived = [] ∨ ∃ canonical,
        Pass.canonicalAddresses loaded.request.ledger.kind loaded.request.addresses =
          .ok canonical ∧
        CanReturn (arrivals around settings loaded.request.ledger url canonical) arrived) := by
  simp only [answerPass] at reached
  split at reached
  case h_1 canonical read _ =>
    obtain ⟨arrived, asked, reached⟩ := canReturn_bind_imp' reached
    exact ⟨arrived, eq_of_canReturn_hearPass reached, .inr ⟨canonical, read, asked⟩⟩
  case h_2 => exact ⟨[], eq_of_canReturn_hearPass reached, .inl rfl⟩

theorem eq_of_canReturn_writePass {around : Surroundings m} {place : StorePlace}
    {store : Store} {answered : Pass} {result : Store × Pass}
    (reached : CanReturn (writePass around place store answered) result) :
    result =
      let added := Pass.step (outage place answered) store answered .add
      Pass.step (outage place added.2) added.1 added.2 .replace := by
  obtain ⟨_, -, reached⟩ := canReturn_bind_imp' reached
  obtain ⟨_, -, reached⟩ := canReturn_bind_imp' reached
  obtain ⟨_, -, reached⟩ := canReturn_bind_imp' reached
  obtain ⟨_, -, reached⟩ := canReturn_bind_imp' reached
  obtain ⟨_, -, reached⟩ := canReturn_bind_imp' reached
  exact (eq_of_canReturn_pure reached).symm

/-- No pass that asks over the network for addresses of its own kind finds one that it cannot
read. -/
theorem backed_of_canReturn_conduct {around : Surroundings m} {settings : Settings}
    {place : StorePlace} {request : Pass.Request} {url : String} {store : Store}
    (valid : ∀ address ∈ request.addresses, Address.isValid request.ledger.kind address)
    {conclusion : Conclusion}
    (reached : CanReturn (conduct around settings place request url store) conclusion) :
    conclusion.pass.Backed request fun _ => False := by
  obtain ⟨canonical, read⟩ := Pass.exists_canonicalAddresses valid
  obtain ⟨loaded, loading, reached⟩ := canReturn_bind_imp' reached
  obtain ⟨answered, answering, reached⟩ := canReturn_bind_imp' reached
  obtain ⟨_, -, reached⟩ := canReturn_bind_imp' reached
  obtain ⟨⟨after, pass⟩, writing, reached⟩ := canReturn_bind_imp' reached
  cases eq_of_canReturn_pure reached
  -- The client reports nothing of the kind, so there is nothing a pass could tell.
  have opened : loaded.Backed request fun _ => False := by
    rw [eq_of_canReturn_loadPass loading]
    exact (Pass.backed_start request _).step read .none store .load (by rintro _ _ ⟨⟩)
  have heard : answered.Backed request fun _ => False := by
    obtain ⟨arrived, rfl, none | ⟨asked, same, reached⟩⟩ := exists_of_canReturn_answerPass answering
    · subst none
      exact opened
    · rw [opened.own] at same reached
      cases same.symm.trans read
      refine opened.runSteps read .none .empty _ fun address text member => ?_
      obtain ⟨arrival, among, same⟩ := List.mem_map.mp member
      cases same
      exact sparesAddress_of_canReturn_arrivals (fun _ => Pass.canonical?_of_mem read) reached among
        text rfl
  have wrote := eq_of_canReturn_writePass writing
  have added := heard.step read (outage place answered) store .add (by rintro _ _ ⟨⟩)
  obtain rfl : pass = _ := congrArg Prod.snd wrote
  exact added.step read _ _ .replace (by rintro _ _ ⟨⟩)

theorem canReturn_conduct_of_reconcile {around : Surroundings m} {settings : Settings}
    {place : StorePlace} {request : Pass.Request} {url : String} {store : Store}
    {conclusion : Conclusion}
    (reached : CanReturn (reconcile around settings place request url store) conclusion) :
    CanReturn (conduct around settings place request url store) conclusion := by
  obtain ⟨_, -, reached⟩ := canReturn_bind_imp' reached
  obtain ⟨_, -, reached⟩ := canReturn_bind_imp' reached
  obtain ⟨own, conducted, reached⟩ := canReturn_bind_imp' reached
  -- What is told of the conclusion leaves it as it is.
  obtain ⟨_, -, reached⟩ := canReturn_bind_imp' reached
  obtain ⟨_, -, reached⟩ := canReturn_bind_imp' reached
  obtain ⟨_, -, reached⟩ := canReturn_bind_imp' reached
  obtain ⟨_, -, reached⟩ := canReturn_bind_imp' reached
  obtain ⟨_, -, reached⟩ := canReturn_bind_imp' reached
  cases eq_of_canReturn_pure reached
  exact conducted

section Requests
variable {settings : Settings} {names : List String} {ledger : Ledger} {request : Pass.Request}

/-- What a ledger is asked for is an address of its kind. -/
theorem mem_owned_of_request? (requested : request? settings names ledger = some request)
    {name : String} (member : name ∈ request.addresses) :
    name ∈ owned request.ledger.kind names := by
  unfold request? at requested
  split at requested
  case h_1 => cases requested
  case h_2 =>
    cases requested
    exact member

theorem isValid_of_request? (requested : request? settings names ledger = some request) :
    ∀ name ∈ request.addresses, Address.isValid request.ledger.kind name :=
  fun _ member => (List.mem_filter.mp (mem_owned_of_request? requested member)).2

theorem request?_nil : request? settings [] ledger = none := rfl

end Requests

theorem requests_of_backed {requests : List Pass.Request} {passes : List Conclusion}
    (backed : List.Forall₂ (fun request conclusion => conclusion.pass.Backed request fun _ => False)
      requests passes) : (passes.map fun made => made.pass.request) = requests := by
  induction backed with
  | nil => rfl
  | cons first _ ih => rw [List.map_cons, first.own, ih]

section Visits
variable {around : Surroundings m} {settings : Settings} {place : StorePlace} {names : List String}
  {store : Store} {passes : List Conclusion}

/-- Each ledger that is asked for anything has one pass, which never finds an address that it cannot
read. -/
theorem backed_of_canReturn_visit {targets : List (Ledger × String)}
    (reached : CanReturn (visit around settings place names store targets) passes) :
    List.Forall₂ (fun request conclusion => conclusion.pass.Backed request fun _ => False)
      (targets.filterMap fun target => request? settings names target.1) passes := by
  induction targets generalizing store passes with
  | nil =>
      cases eq_of_canReturn_pure reached
      exact .nil
  | cons target rest ih =>
      unfold visit at reached
      cases requested : request? settings names target.1 with
      | none =>
          simp only [requested] at reached
          simp only [List.filterMap_cons, requested]
          exact ih reached
      | some request =>
          simp only [requested] at reached
          simp only [List.filterMap_cons, requested]
          obtain ⟨conclusion, reconciled, reached⟩ := canReturn_bind_imp' reached
          obtain ⟨others, visited, reached⟩ := canReturn_bind_imp' reached
          cases eq_of_canReturn_pure reached
          refine .cons ?_ (ih visited)
          exact backed_of_canReturn_conduct (isValid_of_request? requested)
            (canReturn_conduct_of_reconcile reconciled)

theorem backed_of_canReturn_visitAll
    (reached : CanReturn (visitAll around settings place names store) passes) :
    List.Forall₂ (fun request conclusion => conclusion.pass.Backed request fun _ => False)
      ((ledgers settings).filterMap fun target => request? settings names target.1) passes := by
  obtain ⟨_, -, reached⟩ := canReturn_bind_imp' reached
  split at reached
  case isTrue =>
    obtain ⟨_, -, reached⟩ := canReturn_bind_imp' reached
    exact backed_of_canReturn_visit reached
  case isFalse => exact backed_of_canReturn_visit reached

/-- What a run asks its ledgers for, if it gets as far as that. -/
theorem backed_of_canReturn_runPasses {ended : Ended}
    (reached : CanReturn (runPasses around settings names) ended) :
    List.Forall₂ (fun request conclusion => conclusion.pass.Backed request fun _ => False)
      (if ended.code = 0 then
        (ledgers settings).filterMap fun target => request? settings names target.1 else [])
      ended.passes := by
  unfold runPasses at reached
  split at reached
  case isTrue empty =>
    obtain ⟨_, -, reached⟩ := canReturn_bind_imp' reached
    cases eq_of_canReturn_pure reached
    rw [List.isEmpty_iff.mp empty]
    simp [request?_nil]
  case isFalse =>
    obtain ⟨_, -, reached⟩ := canReturn_bind_imp' reached
    split at reached
    case h_1 =>
      obtain ⟨_, -, reached⟩ := canReturn_bind_imp' reached
      cases eq_of_canReturn_pure reached
      exact .nil
    case h_2 =>
      obtain ⟨opened, -, reached⟩ := canReturn_bind_imp' reached
      cases opened with
      | error problem =>
          obtain ⟨_, -, reached⟩ := canReturn_bind_imp' reached
          cases eq_of_canReturn_pure reached
          exact .nil
      | ok store =>
          obtain ⟨passes, visited, reached⟩ := canReturn_bind_imp' reached
          cases eq_of_canReturn_pure reached
          exact backed_of_canReturn_visitAll visited

/-- A pass is asked for names that are addresses of its kind. -/
theorem mem_owned_of_canReturn_runPasses {ended : Ended}
    (reached : CanReturn (runPasses around settings names) ended) {made : Conclusion}
    (among : made ∈ ended.passes) {name : String} (member : name ∈ made.pass.request.addresses) :
    name ∈ owned made.pass.request.ledger.kind names := by
  have requested : made.pass.request ∈ ended.passes.map fun made => made.pass.request :=
    List.mem_map.mpr ⟨made, among, rfl⟩
  rw [requests_of_backed (backed_of_canReturn_runPasses reached)] at requested
  split at requested
  · obtain ⟨_, _, requested⟩ := List.mem_filterMap.mp requested
    exact mem_owned_of_request? requested member
  · cases requested

end Visits

theorem kind_eq_of_mem_owned {kind other : LedgerKind} {names : List String} {name : String}
    (member : name ∈ owned kind names) (member' : name ∈ owned other names) : kind = other :=
  Address.kind_eq_of_isValid (List.mem_filter.mp member).2 (List.mem_filter.mp member').2

end Session

open Pass

/-- A pass with a query of its own kind either finds an address that it cannot read, and then ends
as soon as it is loaded, without a look at the store or a query, and tells of the first such address
as it is spelled; or it can read them all, and then the queries can read what they are asked for,
and whoever finds fault with an address is the client. The clients that ask over the network never
do. A run asks each configured ledger for those of the names that are addresses of its kind, so it
hands none to both kinds, and none of its passes tells of an address that cannot be read. -/
theorem invalidAddress_only_at_opening {adapter : Adapter m} {request : Request}
    {moves : List Race.Move} (own : request.ledger.kind = adapter.kind)
    (answered : Race.AnsweredBy adapter request moves) (store : Store) :
    let race := Race.run store request moves
    ((∃ before spelling rest trouble, request.addresses = before ++ spelling :: rest ∧
        (∀ earlier ∈ before, Address.isValid adapter.kind earlier) ∧
        Address.ofText adapter.kind spelling = .error trouble ∧
        call? { request } .load = none ∧ race.tasks = [] ∧ race.writes = [] ∧
        ((∀ outage, .load outage ∉ moves) ∧ race.pass = { request } ∨
          (∃ outage, .load outage ∈ moves) ∧ race.pass = abort { request }
            (.remote spelling (.invalidAddress (trouble.message spelling))))) ∨
      ((∀ spelling ∈ request.addresses, Address.isValid adapter.kind spelling) ∧
        (∀ task ∈ race.tasks, Address.canonical? adapter.kind task.address = .ok task.address) ∧
        ∀ address text, .remote address (.invalidAddress text) ∈ race.pass.problems →
          adapter.Reports (.invalidAddress text))) ∧
    (∀ (contact : Node.Contact m) latency text,
      ¬ (Node.client contact latency).Reports (.invalidAddress text)) ∧
    (∀ (contact : Explorer.Contact m) latency text,
      ¬ (Explorer.client contact latency).Reports (.invalidAddress text)) ∧
    ∀ (around : Surroundings m) (settings : Settings) (names : List String) (ended : Session.Ended),
      CanReturn (Session.runPasses around settings names) ended →
        (ended.passes.map fun made => made.pass.request) =
          (if ended.code = 0 then (Session.ledgers settings).filterMap fun target =>
            Session.request? settings names target.1 else []) ∧
        (∀ first ∈ ended.passes, ∀ second ∈ ended.passes, ∀ name ∈ first.pass.request.addresses,
          name ∈ second.pass.request.addresses →
            first.pass.request.ledger.kind = second.pass.request.ledger.kind) ∧
        ∀ made ∈ ended.passes, ∀ address text,
          .remote address (.invalidAddress text) ∉ made.pass.problems := by
  intro race
  refine ⟨?_, fun contact latency text reports => ?_, fun contact latency text reports => ?_,
    fun around settings names ended reached => ?_⟩
  · cases read : canonicalAddresses request.ledger.kind request.addresses with
    | error problem =>
        left
        obtain ⟨before, spelling, rest, trouble, same, valid, unread, rfl⟩ :=
          exists_of_canonicalAddresses_eq_error read
        obtain ⟨unasked, unwritten, ended⟩ := Race.run_of_unread read store moves
        have uncalled : call? { request } .load = none := by simp only [call?, read]
        rw [own] at valid unread
        exact ⟨before, spelling, rest, trouble, same, valid, unread, uncalled, unasked, unwritten,
          ended⟩
    | ok addresses =>
        right
        have decodes := Race.decodes_run read own answered store
        rw [own] at read
        refine ⟨fun _ => isValid_of_canonicalAddresses read, fun task member => ?_,
          decodes.backed.told⟩
        obtain ⟨place, there⟩ := List.getElem?_of_mem member
        exact canonical?_of_mem read (List.mem_of_getElem? (decodes.asked.placed place task there))
  · exact Node.sparesAddress_of_reports reports text rfl
  · exact Explorer.sparesAddress_of_reports reports text rfl
  · have backed := Session.backed_of_canReturn_runPasses reached
    refine ⟨Session.requests_of_backed backed, fun first one second two name member member' => ?_,
      fun made among address text told => ?_⟩
    · exact Session.kind_eq_of_mem_owned
        (Session.mem_owned_of_canReturn_runPasses reached one member)
        (Session.mem_owned_of_canReturn_runPasses reached two member')
    · obtain ⟨_, _, spared⟩ := exists_of_forall₂ backed.flip among
      exact spared.told address text told

namespace Sample

/-- A query to a ledger that has no accounts. -/
def vacant : Adapter Id := .sequential {
  chain := ⟨"diem"⟩
  settings := {}
  notice := fun _ _ _ => pure ()
  tell := fun _ => pure ()
  client := {
    account := fun _ => pure none
    events := fun _ _ _ => pure []
    transaction := fun _ => pure none } }

def loudRequest : Pass.Request where
  ledger := ⟨.sequential, ⟨"diem"⟩⟩
  addresses := ["0xABABABABABABABABABABABABABABABAB"]
  start := 0

def vacantMoves : List Race.Move := [.load .none, .answer 0 (.found .empty), .join 0]

theorem canonicalAddresses_loud : canonicalAddresses .sequential loudRequest.addresses =
    .ok ["abababababababababababababababab"] := by
  decide +kernel

theorem answeredBy_vacant : Race.AnsweredBy vacant loudRequest vacantMoves := by
  intro addresses read place reply member address there
  cases canonicalAddresses_loud.symm.trans read
  have only : place = 0 ∧ reply = .found .empty := by simpa [vacantMoves] using member
  obtain ⟨rfl, rfl⟩ := only
  cases there
  change CanReturn (vacant.query "abababababababababababababababab" 0).run (.ok .empty)
  rfl

/-- Both ledgers are configured, and the store is kept nowhere. -/
def bothLedgers : Settings := .ofLookup fun name =>
  if name = "LEDGER_DB_PATH" then some ":memory:"
  else if name = "SEQUENTIAL_RPC_URL" ∨ name = "BLOCK_EXPLORER_URL" then some "http://localhost"
  else none

/-- Nothing on the network answers. -/
def offline : Surroundings Id where
  log _ _ _ := pure ()
  openStore _ := pure (.ok .empty)
  keepStore _ _ := pure ()
  transport _ := pure none
  pause _ := pure ()
  nanos := pure 0

/-- An address of either kind and one of none. -/
def mixedNames : List String :=
  ["0x1111111111111111111111111111111111111111", "nobody", "0xABABABABABABABABABABABABABABABAB"]

end Sample

/-- The query is asked for the small letters, which it reads again. The run has a pass for either
ledger, and neither is asked for a name that is no address. -/
theorem invalidAddress_only_at_opening_sample :
    let race := Race.run .empty Sample.loudRequest Sample.vacantMoves
    let ended := Id.run (Session.runPasses Sample.offline Sample.bothLedgers Sample.mixedNames)
    race.tasks.map Task.address = ["abababababababababababababababab"] ∧
      (∀ task ∈ race.tasks, Address.canonical? .sequential task.address = .ok task.address) ∧
      (∀ address text, .remote address (.invalidAddress text) ∈ race.pass.problems →
        Sample.vacant.Reports (.invalidAddress text)) ∧
      (ended.passes.map fun made => made.pass.request.addresses) =
        [["0xABABABABABABABABABABABABABABABAB"], ["0x1111111111111111111111111111111111111111"]] ∧
      ∀ made ∈ ended.passes, ∀ address text,
        .remote address (.invalidAddress text) ∉ made.pass.problems := by
  intro race ended
  obtain ⟨⟨before, spelling, rest, trouble, same, _, unread, _⟩ | ⟨_, fixed, reported⟩, _, _,
      routed⟩ := invalidAddress_only_at_opening rfl Sample.answeredBy_vacant .empty
  · have valid := isValid_of_canonicalAddresses Sample.canonicalAddresses_loud
      (show spelling ∈ Sample.loudRequest.addresses by rw [same]; simp)
    obtain ⟨address, read⟩ := Address.isValid_iff_exists.mp valid
    cases read.symm.trans unread
  · obtain ⟨requests, _, spared⟩ :=
      routed Sample.offline Sample.bothLedgers Sample.mixedNames ended rfl
    refine ⟨by decide +kernel, fixed, reported, ?_, spared⟩
    have done : ended.code = 0 := by decide +kernel
    rw [if_pos done] at requests
    have addresses := congrArg (List.map Pass.Request.addresses) requests
    rw [List.map_map] at addresses
    refine addresses.trans ?_
    decide +kernel

end Passbook
