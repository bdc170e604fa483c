import Passbook.Pass.Pair
import Passbook.Proofs.Pass.Effect
import Passbook.Proofs.Store.Logs
/-!
The way of one pass, step by step, as long as it meets no problem. What a pass knows and what it is
about to write is told by the two views that it holds, and a step either takes it one leg further
or ends it.
-/

namespace Passbook

namespace Ledger

/-- A remote view that answers fold into, all of which log events at their own indexes. -/
def Gathered (ledger : Ledger) (remote : TransactionMap) : Prop :=
  ∃ views, ledger.remote views = .ok remote ∧ ∀ tx ∈ sightings views, EventLog.Keyed tx.events

variable {ledger : Ledger} {remote : TransactionMap}

theorem gathered_empty (ledger : Ledger) : ledger.Gathered .empty :=
  ⟨[], rfl, by simp [sightings]⟩

theorem Gathered.absorb {view after : TransactionMap} (gathered : ledger.Gathered remote)
    (keyed : ∀ tx ∈ view.values, EventLog.Keyed tx.events)
    (folded : ledger.absorb remote view = .ok after) : ledger.Gathered after := by
  obtain ⟨views, done, before⟩ := gathered
  refine ⟨views ++ [view], ?_, ?_⟩
  · rw [Ledger.remote, List.foldlM_append, bind_eq_ok_iff]
    exact ⟨remote, done, by simp [folded, bind, Except.bind, pure, Except.pure]⟩
  · have joined : sightings (views ++ [view]) = sightings views ++ view.values := by
      simp [sightings]
    rw [joined]
    exact List.forall_mem_append.mpr ⟨before, keyed⟩

theorem Gathered.belongs (gathered : ledger.Gathered remote) {identity : Identity}
    {tx : Transaction} (found : remote.get? identity = some tx) :
    tx.identity = identity ∧ tx.kind = ledger.kind ∧ tx.Tidy := by
  obtain ⟨views, done, keyed⟩ := gathered
  obtain ⟨own, belongs⟩ := belongs_of_remote done found
  exact ⟨own, (belongs_of_misfit? belongs).2, tidy_of_remote done keyed found⟩

theorem Gathered.keyed (gathered : ledger.Gathered remote) : TransactionMap.Keyed remote :=
  fun _ _ found => (gathered.belongs found).1

/-- The views of a pass: local copies as a store shows them, and what answers fold into. -/
structure Views (ledger : Ledger) (known remote : TransactionMap) : Prop where
  tidy : ∀ identity copy, known.get? identity = some copy → copy.Tidy
  gathered : ledger.Gathered remote

end Ledger

namespace Pass

/-- The transactions that are heard of in this step log events at their own indexes. -/
def Step.Keyed (next : Step) : Prop :=
  ∀ view, next = .receive (.found view) → ∀ tx ∈ view.values, EventLog.Keyed tx.events

namespace Step

@[simp] theorem keyed_load : Step.load.Keyed := by rintro _ ⟨⟩

@[simp] theorem keyed_add : Step.add.Keyed := by rintro _ ⟨⟩

@[simp] theorem keyed_replace : Step.replace.Keyed := by rintro _ ⟨⟩

theorem keyed_found {sightings : List Transaction}
    (keyed : ∀ tx ∈ sightings, EventLog.Keyed tx.events) :
    (Step.receive (.found (.ofTransactions sightings))).Keyed := by
  rintro _ ⟨⟩ _ among
  obtain ⟨⟨identity, tx⟩, entry, rfl⟩ := List.mem_map.mp among
  have found := SortedMap.get?_eq_some_iff.mpr entry
  exact keyed tx (TransactionMap.mem_of_get?_ofTransactions found).1

end Step

/-- How far a pass has come, with its local view and with what is folded of the remote one. -/
inductive Leg where
  | opening
  /-- Once nothing is awaited the views are merged. -/
  | opened (known remote : TransactionMap) (awaited : Nat)
  | added (known remote : TransactionMap)
  | done (known remote : TransactionMap)

structure HasFailed (pass : Pass) : Prop where
  ended : pass.phase = .ended
  failed : pass.tracker.At (.done .failed)

namespace Leg

inductive Stands (request : Request) : Leg → Pass → Prop where
  | opening : Stands request .opening { request }
  | opened {known remote : TransactionMap} {awaited : Nat}
      (views : request.ledger.Views known remote) :
      Stands request (.opened known remote awaited)
        ((Pass.opened request known).await known remote awaited)
  | added {known remote : TransactionMap} (views : request.ledger.Views known remote) :
      Stands request (.added known remote)
        { merging request known remote with
          phase := .replacing (request.ledger.merge known remote).revised }
  | done {known remote : TransactionMap} (views : request.ledger.Views known remote) :
      Stands request (.done known remote) ((merging request known remote).closed none)

/-- What a step makes of a leg and of the store, and the call of the store that it takes. -/
inductive Moves (request : Request) (store : Store) : Leg → Option StoreCall → Leg → Store → Prop
    where
  | stay {leg : Leg} : Moves request store leg none leg store
  | load {outage : Outage} {known : TransactionMap} (loads : Loads outage store request known) :
      Moves request store .opening (some .snapshot)
        (.opened known .empty request.addresses.length) store
  | hear {known remote after : TransactionMap} {awaited : Nat} :
      Moves request store (.opened known remote (awaited + 1)) none (.opened known after awaited)
        store
  | add {known remote : TransactionMap} {added : Store}
      (views : request.ledger.Views known remote)
      (stored : store.addNew (request.ledger.merge known remote).fresh = .ok added) :
      Moves request store (.opened known remote 0) (some .addNew) (.added known remote) added
  | replace {known remote : TransactionMap} {after : Store}
      (views : request.ledger.Views known remote)
      (replaced : store.replace (request.ledger.merge known remote).revised = .ok after) :
      Moves request store (.added known remote) (some .replace) (.done known remote) after

end Leg

variable {outage : Outage} {store : Store} {request : Request} {pass : Pass} {leg : Leg}

theorem HasFailed.step (failed : pass.HasFailed) (next : Step) :
    step outage store pass next = (store, pass) := by
  cases next <;> simp only [Pass.step, failed.ended]

theorem hasFailed_abort {stage : Stage} (here : pass.tracker.At stage)
    (running : stage.isDone = false) (problem : Problem) : (pass.abort problem).HasFailed :=
  ⟨rfl, here.fail running⟩

theorem tidy_of_loads {known : TransactionMap} (loads : Loads outage store request known)
    (identity : Identity) (copy : Transaction) (found : known.get? identity = some copy) :
    copy.Tidy := by
  obtain ⟨_, _, taken⟩ := loads.unhindered
  obtain ⟨_, _, _, read⟩ := (Store.get?_of_snapshot taken).mp found
  exact Row.tidy_of_transaction read

theorem Leg.Stands.exists_done {request : Request} {leg : Leg} {pass : Pass}
    (stands : leg.Stands request pass) (success : pass.tracker.published.stage = .done .success) :
    ∃ known remote, leg = .done known remote ∧ pass = (merging request known remote).closed none := by
  cases stands with
  | opening => cases success
  | @opened known remote awaited views =>
      -- Whether it still waits or is merging already, the pass is not done.
      cases awaited with
      | zero =>
          have here : ((Pass.opened request known).await known remote 0).tracker.At .persisting :=
            at_merging request known remote
          cases here.shown.symm.trans success
      | succ awaited => cases (at_opened request known).shown.symm.trans success
  | added views => cases (at_merging request _ _).shown.symm.trans success
  | done views => exact ⟨_, _, rfl, rfl⟩

section Steps
variable {known remote : TransactionMap}

theorem step_load_cases (outage : Outage) (store : Store) (request : Request) :
    (step outage store { request } .load).2.HasFailed ∨
      ∃ after, Leg.Stands request after (step outage store { request } .load).2 ∧
        Leg.Moves request store .opening (call? { request } .load) after
          (step outage store { request } .load).1 := by
  have stepped : step outage store { request } .load = (store, load outage store { request }) :=
    rfl
  rw [stepped]
  rcases load_cases outage store request with ⟨known, loads, loaded⟩ | ⟨problem, _, aborted⟩
  · right
    have called : call? { request } .load = some .snapshot := by
      obtain ⟨addresses, read, _⟩ := loads
      simp only [call?, read]
    rw [loaded, called]
    exact ⟨_, .opened ⟨tidy_of_loads loads, Ledger.gathered_empty _⟩, .load loads⟩
  · left
    rw [aborted]
    exact hasFailed_abort (Tracker.at_start _) rfl problem

theorem step_receive_cases (outage : Outage) (store : Store)
    (views : request.ledger.Views known remote) (awaited : Nat) (arrival : Arrival)
    (keyed : (Step.receive arrival).Keyed) :
    let pass := (opened request known).await known remote (awaited + 1)
    (step outage store pass (.receive arrival)).2.HasFailed ∨
      ∃ after, Leg.Stands request after (step outage store pass (.receive arrival)).2 ∧
        Leg.Moves request store (.opened known remote (awaited + 1))
          (call? pass (.receive arrival)) after (step outage store pass (.receive arrival)).1 := by
  have stepped : step outage store ((opened request known).await known remote (awaited + 1))
      (.receive arrival) =
        (store, ((opened request known).await known remote (awaited + 1)).receive known remote
          (awaited + 1) arrival) := rfl
  intro pass
  rw [stepped]
  rcases receive_cases pass known remote (awaited + 1) arrival with
    ⟨view, after, rfl, folded, heard⟩ | ⟨problem, _, _, heard⟩
  · right
    have onward : pass.await known after (awaited + 1 - 1) =
        (opened request known).await known after awaited := await_phase _ _ _ _ _
    rw [heard, onward]
    exact ⟨_, .opened ⟨views.tidy, views.gathered.absorb (keyed view rfl) folded⟩, .hear⟩
  · left
    rw [heard]
    exact hasFailed_abort (at_opened request known) rfl problem

theorem step_add_cases (outage : Outage) (store : Store)
    (views : request.ledger.Views known remote) :
    (step outage store (merging request known remote) .add).2.HasFailed ∨
      ∃ after, Leg.Stands request after (step outage store (merging request known remote) .add).2 ∧
        Leg.Moves request store (.opened known remote 0) (some .addNew) after
          (step outage store (merging request known remote) .add).1 := by
  have adding : (merging request known remote).phase =
      .adding (request.ledger.merge known remote).fresh
        (request.ledger.merge known remote).revised := rfl
  cases outcome : outage.guard .addNew
      (store.addNew (request.ledger.merge known remote).fresh) with
  | ok added =>
      right
      simp only [step, adding, outcome]
      exact ⟨_, .added views, .add views (guard_eq_ok_iff.mp outcome).2⟩
  | error problem =>
      left
      simp only [step, adding, outcome]
      exact hasFailed_abort (at_merging request known remote) rfl _

theorem step_replace_cases (outage : Outage) (store : Store)
    (views : request.ledger.Views known remote) :
    let pass : Pass := { merging request known remote with
      phase := .replacing (request.ledger.merge known remote).revised }
    (step outage store pass .replace).2.HasFailed ∨
      ∃ after, Leg.Stands request after (step outage store pass .replace).2 ∧
        Leg.Moves request store (.added known remote) (some .replace) after
          (step outage store pass .replace).1 := by
  cases outcome : outage.guard .replace
      (store.replace (request.ledger.merge known remote).revised) with
  | ok after =>
      right
      simp only [step, outcome]
      exact ⟨_, .done views, .replace views (guard_eq_ok_iff.mp outcome).2⟩
  | error problem =>
      left
      simp only [step, outcome]
      exact hasFailed_abort (at_merging request known remote) rfl _

end Steps

/-- Every step of a pass that has met no problem goes one leg further, or it ends the pass. -/
theorem Leg.Stands.step_cases (stands : leg.Stands request pass) {next : Step}
    (keyed : next.Keyed) :
    (step outage store pass next).2.HasFailed ∨
      ∃ after, after.Stands request (step outage store pass next).2 ∧
        leg.Moves request store (call? pass next) after (step outage store pass next).1 := by
  cases stands with
  | opening =>
      cases next with
      | load => exact step_load_cases outage store request
      | _ => exact .inr ⟨_, .opening, .stay⟩
  | @opened known remote awaited views =>
      -- With nothing awaited the pass is merging, and otherwise it listens.
      cases awaited with
      | zero =>
          cases next with
          | add => exact step_add_cases outage store views
          | _ => exact .inr ⟨_, .opened views, .stay⟩
      | succ awaited =>
          cases next with
          | receive arrival =>
              exact step_receive_cases outage store views awaited arrival keyed
          | _ => exact .inr ⟨_, .opened views, .stay⟩
  | added views =>
      cases next with
      | replace => exact step_replace_cases outage store views
      | _ => exact .inr ⟨_, .added views, .stay⟩
  | done views =>
      cases next with
      | _ => exact .inr ⟨_, .done views, .stay⟩

end Pass

end Passbook
