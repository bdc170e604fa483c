import Passbook.Proofs.Pass.Convergence
import Passbook.Proofs.Pass.Isolation
import Passbook.Proofs.Pass.Order
import Passbook.Proofs.Text.Hex
/-!
How addresses are written does not matter. Two lists that denote the same addresses, in whatever
order, however often and in whatever spelling, make for the same pass up to the count of addresses.
-/

namespace Passbook

namespace Store

/-- What is shown of a store depends on which addresses are asked for. -/
theorem snapshot_congr (store : Store) {addresses others : List String}
    (allowed : Statement.isAllowed addresses.length) (allowed' : Statement.isAllowed others.length)
    (same : ∀ address, address ∈ others ↔ address ∈ addresses) (chain : ChainId) (start : UInt64)
    (viewer : Option Int64) :
    store.snapshot chain others start viewer = store.snapshot chain addresses start viewer := by
  have wanted : ∀ text, (others.map Text.folded).contains text =
      (addresses.map Text.folded).contains text := by
    intro text
    rw [Bool.eq_iff_iff, List.contains_iff_mem, List.contains_iff_mem, List.mem_map, List.mem_map]
    exact exists_congr fun address => and_congr_left' (same address)
  have involved : ∀ row, involves row others = involves row addresses := by
    intro row
    simp only [involves, wanted]
  have chosen : selects chain others start = selects chain addresses start := by
    funext identity row
    simp only [selects, involved]
  rw [snapshot_of_allowed allowed, snapshot_of_allowed allowed', chosen]

end Store

namespace Pass

namespace Tracker

/-- The tracker of a pass over another number of addresses. -/
def recounted (count : Nat) (tracker : Tracker) : Tracker :=
  { tracker with
    stats := { tracker.stats with addresses := count }
    published := { tracker.published with
      stats := { tracker.published.stats with addresses := count } } }

variable (count : Nat) (tracker : Tracker)

theorem record_recounted (entry : Record) :
    (tracker.recounted count).record entry = (tracker.record entry).recounted count := by
  cases entry <;> rfl

theorem records_recounted (entries : List Record) :
    entries.foldl record (tracker.recounted count) =
      (entries.foldl record tracker).recounted count := by
  induction entries generalizing tracker with
  | nil => rfl
  | cons entry rest ih => rw [List.foldl_cons, List.foldl_cons, record_recounted, ih]

theorem advance_recounted (target : Stage) :
    (tracker.recounted count).advance target = (tracker.advance target).recounted count := by
  have stage : (tracker.recounted count).stage = tracker.stage := rfl
  rw [advance, advance, stage]
  split <;> rfl

end Tracker

/-- The pass as it is over another list of addresses. -/
def readdressed (addresses : List String) (pass : Pass) : Pass :=
  { pass with
    request := { pass.request with addresses }
    tracker := pass.tracker.recounted addresses.length }

variable (addresses : List String) (request : Request)

theorem abort_readdressed (pass : Pass) (problem : Problem) :
    (pass.readdressed addresses).abort problem = (pass.abort problem).readdressed addresses := by
  simp only [abort, readdressed, Tracker.fail, Tracker.advance_recounted]

theorem opened_readdressed (known : TransactionMap) :
    opened { request with addresses } known = (opened request known).readdressed addresses := by
  have start : (Tracker.start addresses.length) =
      (Tracker.start request.addresses.length).recounted addresses.length := rfl
  simp only [opened, readdressed, start, Tracker.record_recounted, Tracker.advance_recounted]

theorem merging_readdressed (known remote : TransactionMap) :
    merging { request with addresses } known remote =
      (merging request known remote).readdressed addresses := by
  simp only [merging, opened_readdressed, mergeViews, readdressed, Tracker.records_recounted,
    Tracker.advance_recounted]

theorem closed_readdressed (pass : Pass) (outcome : Option StoreProblem) :
    (pass.readdressed addresses).closed outcome = (pass.closed outcome).readdressed addresses := by
  cases outcome with
  | none => simp only [closed, readdressed, Tracker.succeed, Tracker.advance_recounted]
  | some problem => exact abort_readdressed addresses pass (.persistence problem)

theorem canonicalAddresses_of_decoded {kind : LedgerKind} {spellings : List String}
    {decoded : List Address} (read : spellings.mapM (Address.ofText kind) = .ok decoded) :
    canonicalAddresses kind spellings = .ok (decoded.map Address.canonical) := by
  rw [canonicalAddresses, mapM_eq_ok_iff, List.forall₂_map_right_iff]
  refine (mapM_eq_ok_iff.mp read).imp fun spelling address denotes => ?_
  simp only [Address.canonical?, denotes]

variable {outage : Outage} {store : Store} {request : Request} {arrivals others : List Arrival}

section Answers
variable {answer : String → TransactionMap} {names : List String}

/-- The views that come in are those of the answers. -/
theorem views_of_answered (came : Answered answer names arrivals) :
    ∃ views : List TransactionMap, arrivals = views.map .found ∧ views.length = names.length ∧
      ∀ view, view ∈ views ↔ ∃ name ∈ names, answer name = view := by
  have turned : arrivals.Perm ((names.map answer).map .found) := by
    rw [List.map_map]
    exact came
  obtain ⟨views, rfl, perm⟩ := found_of_perm turned
  refine ⟨views, rfl, perm.length_eq.trans (List.length_map _), fun view => ?_⟩
  rw [perm.mem_iff, List.mem_map]

end Answers

section Respelled
variable {spellings : List String}

/-- Two passes end alike up to the count of addresses, or both fail with what does not belong. -/
def EndAlike (request : Request) (spellings : List String) (first second : Store × Pass) : Prop :=
  second = (first.1, first.2.readdressed spellings) ∨
    ∃ store known violation violation',
      first = (store, (opened request known).abort (.violation violation)) ∧
        second = (store, ((opened request known).abort (.violation violation')).readdressed
          spellings)

/-- Where the same is sighted, and nothing of it contradictory, the passes end alike. -/
theorem endAlike_of_sighted {known : TransactionMap} {views views' : List TransactionMap}
    (loads : Loads outage store request known)
    (loads' : Loads outage store { request with addresses := spellings } known)
    (count : views.length = request.addresses.length) (count' : views'.length = spellings.length)
    (sighted : ∀ tx, tx ∈ Ledger.sightings views' ↔ tx ∈ Ledger.sightings views)
    (agreed : Ledger.Agreed views) :
    EndAlike request spellings (run outage store request (views.map .found))
      (run outage store { request with addresses := spellings } (views'.map .found)) := by
  cases done : request.ledger.remote views with
  | ok remote =>
      left
      obtain ⟨remote', done'⟩ := (Ledger.exists_remote_iff sighted).mpr ⟨remote, done⟩
      obtain rfl := Ledger.remote_eq_of_agreed sighted agreed done done'
      rw [run_of_gathers loads (gathers_of_views count done),
        run_of_gathers loads' (gathers_of_views count' done'), merging_readdressed,
        closed_readdressed]
  | error violation =>
      right
      cases done' : request.ledger.remote views' with
      | ok remote =>
          obtain ⟨remote, done''⟩ := (Ledger.exists_remote_iff sighted).mp ⟨remote, done'⟩
          cases done.symm.trans done''
      | error violation' =>
          refine ⟨store, known, violation, violation',
            run_of_violation loads count done, ?_⟩
          rw [run_of_violation loads' count' done', opened_readdressed, abort_readdressed]

variable {answer : String → TransactionMap} {decoded again : List Address}

theorem endAlike_of_decoded (allowed : Statement.isAllowed request.addresses.length)
    (allowed' : Statement.isAllowed spellings.length)
    (read : request.addresses.mapM (Address.ofText request.ledger.kind) = .ok decoded)
    (read' : spellings.mapM (Address.ofText request.ledger.kind) = .ok again)
    (same : ∀ address, address ∈ again ↔ address ∈ decoded)
    (agreed : Ledger.Agreed (decoded.map fun address => answer address.canonical))
    (came : Answered answer (decoded.map Address.canonical) arrivals)
    (came' : Answered answer (again.map Address.canonical) others) :
    EndAlike request spellings (run outage store request arrivals)
      (run outage store { request with addresses := spellings } others) := by
  have canonical := canonicalAddresses_of_decoded read
  have canonical' := canonicalAddresses_of_decoded read'
  have named : ∀ name, name ∈ again.map Address.canonical ↔
      name ∈ decoded.map Address.canonical := by
    intro name
    rw [List.mem_map, List.mem_map]
    exact exists_congr fun address => and_congr_left' (same address)
  have shown := store.snapshot_congr (length_canonicalAddresses canonical ▸ allowed)
    (length_canonicalAddresses canonical' ▸ allowed') named request.ledger.chain request.start
    request.viewer
  cases taken : outage.guard .snapshot (store.snapshot request.ledger.chain
      (decoded.map Address.canonical) request.start request.viewer) with
  | error problem =>
      left
      have failed : load outage store { request } = abort { request } (.snapshot problem) := by
        simp only [load, canonical, taken]
      have failed' : load outage store { request := { request with addresses := spellings } } =
          abort { request := { request with addresses := spellings } } (.snapshot problem) := by
        simp only [load, canonical', shown, taken]
      rw [run_of_unopened failed, run_of_unopened failed']
      exact congrArg (Prod.mk store) (abort_readdressed spellings { request } (.snapshot problem))
  | ok known =>
      obtain ⟨views, rfl, count, answers⟩ := views_of_answered came
      obtain ⟨views', rfl, count', answers'⟩ := views_of_answered came'
      have sighted : ∀ tx, tx ∈ Ledger.sightings views' ↔ tx ∈ Ledger.sightings views := by
        intro tx
        rw [Ledger.mem_sightings, Ledger.mem_sightings]
        refine exists_congr fun view => and_congr_left' ?_
        rw [answers, answers']
        exact exists_congr fun name => and_congr_left' (named name)
      have told : ∀ tx, tx ∈ Ledger.sightings views →
          tx ∈ Ledger.sightings (decoded.map fun address => answer address.canonical) := by
        intro tx member
        obtain ⟨view, among, member⟩ := Ledger.mem_sightings.mp member
        obtain ⟨name, listed, rfl⟩ := (answers view).mp among
        obtain ⟨address, denoted, rfl⟩ := List.mem_map.mp listed
        exact Ledger.mem_sightings.mpr ⟨_, List.mem_map.mpr ⟨address, denoted, rfl⟩, member⟩
      exact endAlike_of_sighted ⟨_, canonical, taken⟩ ⟨_, canonical', shown ▸ taken⟩
        (count.trans (length_canonicalAddresses canonical))
        (count'.trans (length_canonicalAddresses canonical')) sighted
        fun first member second member' =>
          agreed first (told first member) second (told second member')

/-- A pass depends on which addresses it is for, and not on how they are written. If each of them
has its answer and no two sightings contradict each other, two lists of the same addresses make for
the same views, the same counts but that of the addresses, and the same store. If what is
found does not belong to the ledger, both passes fail with a violation. -/
theorem run_respelled (few : request.addresses.length ≤ Statement.capacity)
    (few' : spellings.length ≤ Statement.capacity)
    (read : request.addresses.mapM (Address.ofText request.ledger.kind) = .ok decoded)
    (read' : spellings.mapM (Address.ofText request.ledger.kind) = .ok again)
    (same : ∀ address, address ∈ again ↔ address ∈ decoded)
    (agreed : Ledger.Agreed (decoded.map fun address => answer address.canonical))
    (came : Answered answer (decoded.map Address.canonical) arrivals)
    (came' : Answered answer (again.map Address.canonical) others) :
    let first := run outage store request arrivals
    let second := run outage store { request with addresses := spellings } others
    second.1 = first.1 ∧ second.2.updates = first.2.updates ∧
      second.2.tracker.published = { first.2.tracker.published with
        stats := { first.2.tracker.published.stats with addresses := spellings.length } } ∧
      (second.2.problems = first.2.problems ∨
        ∃ violation violation', first.2.problems = [.violation violation] ∧
          second.2.problems = [.violation violation']) := by
  intro first second
  have ends : EndAlike request spellings first second :=
    endAlike_of_decoded (Statement.isAllowed_iff.mpr few) (Statement.isAllowed_iff.mpr few') read
      read' same agreed came came'
  rcases ends with alike | ⟨_, _, violation, violation', failed, failed'⟩
  · rw [alike]
    exact ⟨rfl, rfl, rfl, .inl rfl⟩
  · rw [failed, failed']
    exact ⟨rfl, rfl, rfl, .inr ⟨violation, violation', rfl, rfl⟩⟩

end Respelled

end Pass

namespace Sample

def purse : String := "abababababababababababababababab"

def spellings : List String :=
  ["0xABABABABABABABABABABABABABABABAB", purse, "0xabABabABabABabABabABabABabABabAB"]

def spending : Transaction :=
  .sequential {
    identity := ⟨ledger.chain, 10, 0⟩
    gas := ⟨1, 21000, 21000⟩
    gasCurrency := ""
    status := "ok"
    hash := "0x11"
    timestamp := .epoch
    publicKey := ""
    transfer := ⟨"CELO", purse, purse, 5⟩ }

def spendings (_ : String) : TransactionMap := .ofTransactions [spending]

def purseRequest : Pass.Request :=
  { ledger := ⟨.sequential, ledger.chain⟩, addresses := [purse], start := 0 }

end Sample

namespace Pass

/-- One address against three spellings of it. -/
theorem run_respelled_sample :
    let first := run .none .empty Sample.purseRequest [.found (Sample.spendings Sample.purse)]
    let second := run .none .empty { Sample.purseRequest with addresses := Sample.spellings }
      (List.replicate 3 (.found (Sample.spendings Sample.purse)))
    first.2.tracker.published.stats.stored = [Sample.spending.identity] ∧
      second.1 = first.1 ∧ second.2.updates = first.2.updates ∧
      second.2.tracker.published =
        { first.2.tracker.published with
          stats := { first.2.tracker.published.stats with addresses := 3 } } := by
  have told : Ledger.sightings [Sample.spendings Sample.purse] = [Sample.spending] := by
    decide +kernel
  have agreed : Ledger.Agreed [Sample.spendings Sample.purse] := by
    intro first member second member' _
    rw [told, List.mem_singleton] at member member'
    rw [member, member']
    exact .refl _
  intro first second
  obtain ⟨stores, shown, counted, _⟩ := @run_respelled .none .empty Sample.purseRequest
    [.found (Sample.spendings Sample.purse)]
    (List.replicate 3 (.found (Sample.spendings Sample.purse))) Sample.spellings Sample.spendings
    [⟨.sequential, List.replicate 16 0xab⟩] (List.replicate 3 ⟨.sequential, List.replicate 16 0xab⟩)
    (by decide) (by decide) (by decide +kernel) (by decide +kernel) (by simp) agreed
    (List.Perm.refl _) (List.Perm.refl _)
  exact ⟨by decide +kernel, stores, shown, counted⟩

/-- One address against so many repetitions of it that no statement can ask for all: only the pass
over the one address shows anything. -/
theorem respelled_beyond_capacity :
    let answer : String → TransactionMap := fun _ => .empty
    let decoded : List Address := [⟨.sequential, List.replicate 16 0xab⟩]
    let again := List.replicate 16382 ⟨.sequential, List.replicate 16 0xab⟩
    let spellings := List.replicate 16382 Sample.purse
    let arrivals := List.replicate 16382 (Arrival.found .empty)
    let first := run .none .empty Sample.purseRequest [.found .empty]
    let second := run .none .empty { Sample.purseRequest with addresses := spellings } arrivals
    [Sample.purse].mapM (Address.ofText .sequential) = .ok decoded ∧
      spellings.mapM (Address.ofText .sequential) = .ok again ∧
      (∀ address, address ∈ again ↔ address ∈ decoded) ∧
      Ledger.Agreed (decoded.map fun address => answer address.canonical) ∧
      Answered answer (decoded.map Address.canonical) [.found .empty] ∧
      Answered answer (again.map Address.canonical) arrivals ∧
      first.2.updates = [.known .empty, .merged .empty] ∧
      first.2.tracker.published.stage = .done .success ∧
      second.2.updates = [] ∧ second.2.tracker.published.stage = .done .failed := by
  intro answer decoded again spellings arrivals first second
  have denoted : Address.ofText .sequential Sample.purse =
      .ok ⟨.sequential, List.replicate 16 0xab⟩ := by decide +kernel
  have read : Address.canonical? .sequential Sample.purse = .ok Sample.purse := by decide +kernel
  have many : Statement.capacity < 16382 := by decide
  obtain ⟨_, failed⟩ := @run_of_repeated .none .empty Sample.purseRequest arrivals _ _ _ rfl read
    many
  have same : second =
      (.empty, abort { request := { Sample.purseRequest with addresses := spellings } }
        (.snapshot (.tooManyMarks 16382))) := failed
  have told : Ledger.sightings (decoded.map fun address => answer address.canonical) = [] := rfl
  refine ⟨mapM_replicate denoted 1, mapM_replicate denoted 16382, fun address => ?_, ?_,
    .refl _, ?_, by decide +kernel, by decide +kernel, ?_⟩
  · rw [List.mem_replicate, List.mem_singleton]
    exact and_iff_right (by decide)
  · intro tx member
    rw [told] at member
    exact absurd member List.not_mem_nil
  · rw [Answered, List.map_replicate, List.map_replicate]
  · rw [same]
    exact ⟨rfl, stage_abort_start _ _⟩

end Pass

end Passbook
