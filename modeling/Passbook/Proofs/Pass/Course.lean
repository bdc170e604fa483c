import Passbook.Pass
import Passbook.Proofs.Ledger.Merge
import Passbook.Proofs.Store.Reads
/-!
The course of one pass. Either its queries all find something and the views fold into a remote
view, and then both batches of the merge are handed to the store one after the other, or the pass
comes to nothing and the store is left alone.
-/

namespace Passbook.Pass

namespace Record

def stored? : Record → Option Identity
  | .stored identity => some identity
  | _ => none

def replaced? : Record → Option Identity
  | .replaced identity => some identity
  | _ => none

end Record

namespace Stats

theorem stored_foldl_add (entries : List Record) (stats : Stats) :
    (entries.foldl add stats).stored = stats.stored ++ entries.filterMap Record.stored? := by
  induction entries generalizing stats with
  | nil => simp
  | cons entry rest ih =>
      rw [List.foldl_cons, ih]
      cases entry <;> simp [add, Record.stored?, List.filterMap_cons]

theorem replaced_foldl_add (entries : List Record) (stats : Stats) :
    (entries.foldl add stats).replaced =
      stats.replaced ++ entries.filterMap Record.replaced? := by
  induction entries generalizing stats with
  | nil => simp
  | cons entry rest ih =>
      rw [List.foldl_cons, ih]
      cases entry <;> simp [add, Record.replaced?, List.filterMap_cons]

theorem foldl_add_unchanged (count : Nat) (stats : Stats) :
    (List.replicate count Record.unchanged).foldl add stats =
      { stats with unchanged := stats.unchanged + count } := by
  induction count generalizing stats with
  | zero => rfl
  | succ count ih =>
      rw [List.replicate_succ, List.foldl_cons, ih]
      simp [add, Nat.add_assoc, Nat.add_comm 1]

theorem unchanged_foldl_add (entries : List Record) (stats : Stats) :
    (entries.foldl add stats).unchanged =
      stats.unchanged + entries.countP fun entry => entry = .unchanged := by
  induction entries generalizing stats with
  | nil => rfl
  | cons entry rest ih =>
      rw [List.foldl_cons, ih]
      cases entry <;> simp [add, Nat.add_assoc, Nat.add_comm 1]

theorem remoteCount_foldl_add (entries : List Record) (stats : Stats)
    (counted : ∀ count, Record.remoteLoaded count ∉ entries) :
    (entries.foldl add stats).remoteCount = stats.remoteCount := by
  induction entries generalizing stats with
  | nil => rfl
  | cons entry rest ih =>
      rw [List.foldl_cons, ih]
      · cases entry with
        | remoteLoaded count => exact absurd List.mem_cons_self (counted count)
        | _ => rfl
      · exact fun count member => counted count (List.mem_cons_of_mem entry member)

end Stats

namespace Tracker

/-- The tracker stands at a stage, and observers see it there. -/
structure At (tracker : Tracker) (place : Stage) : Prop where
  reached : tracker.stage = place
  shown : tracker.published.stage = place

variable {tracker : Tracker} {stage : Stage}

theorem at_start (addresses : Nat) : (start addresses).At .idle := ⟨rfl, rfl⟩

theorem At.record (here : tracker.At stage) (entry : Record) : (tracker.record entry).At stage :=
  ⟨here.reached, here.shown⟩

theorem At.records (here : tracker.At stage) (entries : List Record) :
    (entries.foldl Tracker.record tracker).At stage := by
  induction entries generalizing tracker with
  | nil => exact here
  | cons entry rest ih => exact ih (here.record entry)

theorem advance_of_canAdvance (here : tracker.At stage) (target : Stage)
    (free : stage.canAdvance target = true) :
    tracker.advance target =
      { tracker with stage := target, published := ⟨target, tracker.stats⟩ } := by
  rw [Tracker.advance, here.reached, if_pos free]

theorem At.advance (here : tracker.At stage) (target : Stage)
    (free : stage.canAdvance target = true) : (tracker.advance target).At target := by
  rw [advance_of_canAdvance here target free]
  exact ⟨rfl, rfl⟩

theorem At.fail (here : tracker.At stage) (running : stage.isDone = false) :
    tracker.fail.At (.done .failed) := by
  refine here.advance (.done .failed) ?_
  simp [Stage.canAdvance, running]

theorem stats_records (entries : List Record) (tracker : Tracker) :
    (entries.foldl Tracker.record tracker).stats = entries.foldl Stats.add tracker.stats := by
  induction entries generalizing tracker with
  | nil => rfl
  | cons entry rest ih => exact ih (tracker.record entry)

theorem stats_advance (tracker : Tracker) (target : Stage) :
    (tracker.advance target).stats = tracker.stats := by
  rw [Tracker.advance]
  split <;> rfl

end Tracker

variable {outage : Outage} {store : Store} {request : Request} {arrivals : List Arrival}

/-- The local view is loaded and shown, and the queries are under way. -/
def opened (request : Request) (known : TransactionMap) : Pass :=
  let start : Pass := { request }
  { start with
    tracker := ((start.tracker.record (.localLoaded known.size)).advance .localLoaded).advance
      .fetching
    updates := [.known known] }

theorem at_opened (request : Request) (known : TransactionMap) :
    (opened request known).tracker.At .fetching := by
  have idle := (Tracker.at_start request.addresses.length).record (.localLoaded known.size)
  have loaded := idle.advance .localLoaded rfl
  exact loaded.advance .fetching rfl

/-- The merged view is shown, and nothing is written yet. -/
def merging (request : Request) (known remote : TransactionMap) : Pass :=
  (opened request known).mergeViews known remote

theorem at_mergeViews {pass : Pass} (here : pass.tracker.At .fetching)
    (known remote : TransactionMap) : (pass.mergeViews known remote).tracker.At .persisting := by
  have counted := here.records (.remoteLoaded remote.size ::
    (pass.request.ledger.merge known remote).verdicts.map recordOf)
  have merged := counted.advance .merged rfl
  exact merged.advance .persisting rfl

theorem at_merging (request : Request) (known remote : TransactionMap) :
    (merging request known remote).tracker.At .persisting :=
  at_mergeViews (at_opened request known) known remote

theorem stats_merging (request : Request) (known remote : TransactionMap) :
    (merging request known remote).tracker.stats =
      (.remoteLoaded remote.size ::
        (request.ledger.merge known remote).verdicts.map recordOf).foldl Stats.add
          (opened request known).tracker.stats := by
  rw [merging, mergeViews, Tracker.stats_advance, Tracker.stats_advance, Tracker.stats_records]
  rfl

theorem stored_merging (request : Request) (known remote : TransactionMap) :
    (merging request known remote).tracker.stats.stored =
      (request.ledger.merge known remote).verdicts.filterMap
        fun entry => (recordOf entry).stored? := by
  rw [stats_merging, Stats.stored_foldl_add]
  exact List.filterMap_map

theorem replaced_merging (request : Request) (known remote : TransactionMap) :
    (merging request known remote).tracker.stats.replaced =
      (request.ledger.merge known remote).verdicts.filterMap
        fun entry => (recordOf entry).replaced? := by
  rw [stats_merging, Stats.replaced_foldl_add]
  exact List.filterMap_map

/-- What counts as stored is what was sighted and no copy of it known. -/
theorem mem_stored_merging {known remote : TransactionMap} {identity : Identity} :
    identity ∈ (merging request known remote).tracker.stats.stored ↔
      known.get? identity = none ∧ remote.contains identity = true := by
  rw [stored_merging, List.mem_filterMap, SortedMap.contains_iff_exists]
  constructor
  · rintro ⟨⟨own, verdict⟩, member, picked⟩
    obtain ⟨tx, found, judged⟩ := Ledger.mem_verdicts.mp member
    cases verdict with
    | fresh fresh =>
        cases picked
        rcases @Ledger.judge_cases _ known identity tx with
          ⟨unknown, _⟩ | ⟨_, _, _, other⟩ | ⟨_, _, _, other⟩
        · exact ⟨unknown, tx, found⟩
        · cases other.symm.trans judged
        · cases other.symm.trans judged
    | _ => cases picked
  · rintro ⟨unknown, tx, found⟩
    exact ⟨_, Ledger.mem_verdicts.mpr ⟨tx, found, Ledger.judge_of_unknown unknown⟩, rfl⟩

/-- What counts as replaced is what was sighted other than the copy known of it. -/
theorem mem_replaced_merging {known remote : TransactionMap} {identity : Identity} :
    identity ∈ (merging request known remote).tracker.stats.replaced ↔
      ∃ copy tx, known.get? identity = some copy ∧ remote.get? identity = some tx ∧
        request.ledger.compare copy tx ≠ .unchanged := by
  rw [replaced_merging, List.mem_filterMap]
  constructor
  · rintro ⟨⟨own, verdict⟩, member, picked⟩
    obtain ⟨tx, found, judged⟩ := Ledger.mem_verdicts.mp member
    cases verdict with
    | revised revision =>
        cases picked
        rcases @Ledger.judge_cases _ known identity tx with
          ⟨_, other⟩ | ⟨_, _, _, other⟩ | ⟨copy, held, differs, _⟩
        · cases other.symm.trans judged
        · cases other.symm.trans judged
        · exact ⟨copy, tx, held, found, differs⟩
    | _ => cases picked
  · rintro ⟨copy, tx, held, found, differs⟩
    have judged := (@Ledger.judge_of_known _ known identity copy tx held).trans (if_neg differs)
    exact ⟨_, Ledger.mem_verdicts.mpr ⟨tx, found, judged⟩, rfl⟩

/-- Nothing is counted as written that is not in the remote view. -/
theorem contains_of_counted {known remote : TransactionMap} {identity : Identity}
    (counted : identity ∈ (merging request known remote).tracker.stats.stored ∨
      identity ∈ (merging request known remote).tracker.stats.replaced) :
    remote.contains identity = true := by
  rw [mem_stored_merging, mem_replaced_merging] at counted
  rcases counted with ⟨_, listed⟩ | ⟨_, tx, _, found, _⟩
  · exact listed
  · exact SortedMap.contains_iff_exists.mpr ⟨tx, found⟩

/-- Where nothing differs everything is counted as unchanged. -/
theorem stats_merging_of_unchanged {known remote : TransactionMap}
    (same : ∀ entry ∈ (request.ledger.merge known remote).verdicts, entry.2 = .unchanged) :
    (merging request known remote).tracker.stats =
      { addresses := request.addresses.length
        localCount := known.size
        remoteCount := remote.size
        unchanged := remote.size } := by
  have size : (request.ledger.merge known remote).verdicts.length = remote.size :=
    List.length_map _
  have records : (request.ledger.merge known remote).verdicts.map recordOf =
      List.replicate remote.size .unchanged := by
    rw [List.eq_replicate_iff, List.length_map]
    refine ⟨size, ?_⟩
    rintro record member
    obtain ⟨⟨identity, verdict⟩, among, rfl⟩ := List.mem_map.mp member
    cases same _ among
    rfl
  have before : (opened request known).tracker.stats =
      { addresses := request.addresses.length, localCount := known.size } := by
    rw [opened, Tracker.stats_advance, Tracker.stats_advance]
    rfl
  rw [stats_merging, records, List.foldl_cons, Stats.foldl_add_unchanged, before]
  simp [Stats.add]

theorem guard_eq_ok_iff {α : Type} {call : StoreCall} {outcome : Except StoreProblem α}
    {result : α} :
    outage.guard call outcome = .ok result ↔ outage call = none ∧ outcome = .ok result := by
  unfold Outage.guard
  cases outage call with
  | none => simp
  | some problem => simp

/-- Whether the local view of a pass is loaded. -/
def Loads (outage : Outage) (store : Store) (request : Request) (known : TransactionMap) : Prop :=
  ∃ addresses, canonicalAddresses request.ledger.kind request.addresses = .ok addresses ∧
    outage.guard .snapshot (store.snapshot request.ledger.chain addresses request.start
      request.viewer) = .ok known

theorem length_canonicalAddresses {kind : LedgerKind} {spellings addresses : List String}
    (read : canonicalAddresses kind spellings = .ok addresses) :
    addresses.length = spellings.length :=
  (mapM_eq_ok_iff.mp read).length_eq.symm

/-- A problem that keeps a pass from being opened. -/
def Problem.isRejection : Problem → Bool
  | .remote _ (.invalidAddress _) => true
  | .snapshot _ => true
  | _ => false

theorem isRejection_of_canonicalAddresses {kind : LedgerKind} {spellings : List String}
    {problem : Problem} (failed : canonicalAddresses kind spellings = .error problem) :
    problem.isRejection = true := by
  obtain ⟨spelling, _, unread⟩ := exists_of_mapM_eq_error failed
  unfold Address.canonical? at unread
  cases decoded : Address.ofText kind spelling with
  | ok address => simp [decoded] at unread
  | error unreadable =>
      simp only [decoded, Except.error.injEq] at unread
      rw [← unread]
      rfl

theorem load_cases (outage : Outage) (store : Store) (request : Request) :
    (∃ known, Loads outage store request known ∧
      load outage store { request } =
        (opened request known).await known .empty request.addresses.length) ∨
    ∃ problem : Problem, problem.isRejection = true ∧
      load outage store { request } = abort { request } problem := by
  cases read : canonicalAddresses request.ledger.kind request.addresses with
  | error problem =>
      right
      exact ⟨problem, isRejection_of_canonicalAddresses read, by simp only [load, read]⟩
  | ok addresses =>
      cases taken : outage.guard .snapshot (store.snapshot request.ledger.chain addresses
          request.start request.viewer) with
      | error problem =>
          right
          exact ⟨.snapshot problem, rfl, by simp only [load, read, taken]⟩
      | ok known =>
          left
          refine ⟨known, ⟨addresses, read, taken⟩, ?_⟩
          simp only [load, read, taken, length_canonicalAddresses read]
          rfl

theorem loads_unique {known other : TransactionMap} (first : Loads outage store request known)
    (second : Loads outage store request other) : known = other := by
  obtain ⟨addresses, read, taken⟩ := first
  obtain ⟨_, read', taken'⟩ := second
  rw [read] at read'
  cases read'
  rw [taken] at taken'
  cases taken'
  rfl

/-- A store that does fail now and then shows nothing else when it does not. -/
theorem Loads.unhindered {known : TransactionMap} (loads : Loads outage store request known) :
    Loads .none store request known := by
  obtain ⟨addresses, read, taken⟩ := loads
  exact ⟨addresses, read, (guard_eq_ok_iff.mp taken).2⟩

/-- Nothing is loaded for more addresses than one statement can ask for. -/
theorem load_of_long {addresses : List String} (free : outage .snapshot = none)
    (read : canonicalAddresses request.ledger.kind request.addresses = .ok addresses)
    (long : ¬ Statement.isAllowed request.addresses.length) :
    load outage store { request } =
      abort { request } (.snapshot (.tooManyMarks request.addresses.length)) := by
  rw [← length_canonicalAddresses read] at long ⊢
  simp only [load, read, Outage.guard, free, Store.snapshot_of_long long]

theorem load_of_loads {known : TransactionMap} (loads : Loads outage store request known) :
    load outage store { request } =
      (opened request known).await known .empty request.addresses.length := by
  obtain ⟨addresses, read, taken⟩ := loads
  simp only [load, read, taken, length_canonicalAddresses read]
  rfl

theorem runSteps_append (outage : Outage) (store : Store) (pass : Pass)
    (first second : List Step) :
    runSteps outage store pass (first ++ second) =
      runSteps outage (runSteps outage store pass first).1 (runSteps outage store pass first).2
        second := by
  rw [runSteps, List.foldl_append]
  rfl

/-- A pass that waits for no answers ignores them. -/
theorem runSteps_receive_of_deaf {pass : Pass}
    (deaf : ∀ arrival, step outage store pass (.receive arrival) = (store, pass))
    (arrivals : List Arrival) :
    runSteps outage store pass (arrivals.map .receive) = (store, pass) := by
  induction arrivals with
  | nil => rfl
  | cons arrival rest ih =>
      rw [runSteps, List.map_cons, List.foldl_cons, deaf arrival]
      exact ih

theorem runSteps_receive_of_abort (pass : Pass) (problem : Problem) (arrivals : List Arrival) :
    runSteps outage store (pass.abort problem) (arrivals.map .receive) =
      (store, pass.abort problem) :=
  runSteps_receive_of_deaf (fun _ => rfl) arrivals

theorem await_phase (pass : Pass) (phase : Phase) (known remote : TransactionMap)
    (awaited : Nat) :
    ({ pass with phase } : Pass).await known remote awaited =
      pass.await known remote awaited := by
  cases awaited <;> rfl

/-- A problem that a pass can meet while it waits for its queries. -/
def Problem.isAbandonment : Problem → Bool
  | .remote _ _ => true
  | .cancelled => true
  | .crashed _ => true
  | .violation _ => true
  | _ => false

/-- The pass folds what it hears of, or is abandoned. -/
theorem receive_cases (pass : Pass) (known remote : TransactionMap) (awaited : Nat)
    (arrival : Arrival) :
    (∃ view after, arrival = .found view ∧ pass.request.ledger.absorb remote view = .ok after ∧
      pass.receive known remote awaited arrival = pass.await known after (awaited - 1)) ∨
    ∃ problem : Problem, problem.isAbandonment = true ∧
      (problem = .cancelled → arrival = .cancelled) ∧
      pass.receive known remote awaited arrival = pass.abort problem := by
  cases arrival with
  | found view =>
      cases folded : pass.request.ledger.absorb remote view with
      | ok after =>
          left
          exact ⟨view, after, rfl, folded, by simp only [receive, folded]⟩
      | error violation =>
          right
          exact ⟨.violation violation, rfl, by simp, by simp only [receive, folded]⟩
  | failed address fault =>
      right
      exact ⟨.remote address fault, rfl, by simp, rfl⟩
  | crashed detail =>
      right
      exact ⟨.crashed detail, rfl, by simp, rfl⟩
  | cancelled =>
      right
      exact ⟨.cancelled, rfl, by simp, rfl⟩

/-- How a pass goes on with the answers that it still awaits: they fold into the remote view, or
one of them ends the pass, or there are too few. -/
theorem runSteps_receive (outage : Outage) (store : Store) (pass : Pass)
    (known remote : TransactionMap) (awaited : Nat) (arrivals : List Arrival) :
    (∃ (views : List TransactionMap) (after : TransactionMap),
      arrivals.take awaited = views.map Arrival.found ∧ views.length = awaited ∧
      views.foldlM pass.request.ledger.absorb remote = .ok after ∧
      runSteps outage store (pass.await known remote awaited) (arrivals.map .receive) =
        (store, pass.mergeViews known after)) ∨
    (∃ problem,
      runSteps outage store (pass.await known remote awaited) (arrivals.map .receive) =
        (store, pass.abort problem)) ∨
    ∃ after left,
      runSteps outage store (pass.await known remote awaited) (arrivals.map .receive) =
        (store, { pass with phase := .fetching known after left }) := by
  -- What is folded so far and how many answers are awaited change with every arrival.
  induction arrivals generalizing remote awaited with
  | nil =>
      cases awaited with
      | zero =>
          left
          exact ⟨[], remote, rfl, rfl, rfl, rfl⟩
      | succ left =>
          right; right
          exact ⟨remote, left + 1, rfl⟩
  | cons arrival rest ih =>
      cases awaited with
      | zero =>
          left
          refine ⟨[], remote, rfl, rfl, rfl, ?_⟩
          exact runSteps_receive_of_deaf (fun _ => rfl) (arrival :: rest)
      | succ left =>
          -- The head is received, and the pass goes on from wherever that leads.
          have onward : runSteps outage store (pass.await known remote (left + 1))
              ((arrival :: rest).map .receive) =
                runSteps outage store
                  (({ pass with phase := .fetching known remote (left + 1) } : Pass).receive known
                    remote (left + 1) arrival)
                  (rest.map .receive) := rfl
          rw [onward]
          rcases receive_cases { pass with phase := .fetching known remote (left + 1) } known remote
            (left + 1) arrival with
            ⟨view, after, rfl, folded, heard⟩ | ⟨problem, _, _, heard⟩
          · rw [heard, await_phase]
            rcases ih after left with ⟨views, last, taken, length, done, reached⟩ | others
            · left
              refine ⟨view :: views, last, by simp [taken], by simp [length], ?_, reached⟩
              rw [List.foldlM_cons, folded]
              exact done
            · right
              exact others
          · right; left
            rw [heard]
            exact ⟨problem, runSteps_receive_of_abort _ _ rest⟩

theorem runSteps_receive_of_found (outage : Outage) (store : Store) (pass : Pass)
    (known : TransactionMap) {remote after : TransactionMap} {awaited : Nat} {arrivals : List Arrival}
    {views : List TransactionMap} (taken : arrivals.take awaited = views.map .found)
    (length : views.length = awaited)
    (done : views.foldlM pass.request.ledger.absorb remote = .ok after) :
    runSteps outage store (pass.await known remote awaited) (arrivals.map .receive) =
      (store, pass.mergeViews known after) := by
  -- Each view takes one answer with it; what is left over when none is awaited is not heard.
  induction views generalizing remote awaited arrivals with
  | nil =>
      subst length
      cases done
      exact runSteps_receive_of_deaf (fun _ => rfl) arrivals
  | cons view others ih =>
      subst length
      cases arrivals with
      | nil => simp at taken
      | cons arrival rest =>
          have both : arrival = .found view ∧
              rest.take others.length = others.map .found := by simpa using taken
          obtain ⟨rfl, others_taken⟩ := both
          rw [List.foldlM_cons, bind_eq_ok_iff] at done
          obtain ⟨middle, folded, done⟩ := done
          have onward : runSteps outage store (pass.await known remote (others.length + 1))
              ((Arrival.found view :: rest).map .receive) =
                runSteps outage store
                  (({ pass with
                      phase := .fetching known remote (others.length + 1) } : Pass).receive known
                    remote (others.length + 1) (.found view))
                  (rest.map .receive) := rfl
          rw [List.length_cons, onward]
          simp only [receive, folded, await_phase, Nat.add_sub_cancel]
          exact ih others_taken rfl done

/-- Whether all queries of a pass find something that folds into this remote view. -/
def Gathers (request : Request) (arrivals : List Arrival) (remote : TransactionMap) : Prop :=
  ∃ views : List TransactionMap,
    arrivals.take request.addresses.length = views.map .found ∧
    views.length = request.addresses.length ∧ request.ledger.remote views = .ok remote

theorem sighted_of_gathers {views : List TransactionMap}
    (came : arrivals.take request.addresses.length = views.map .found) {tx : Transaction}
    (member : tx ∈ Ledger.sightings views) :
    ∃ view, Arrival.found view ∈ arrivals ∧ tx ∈ view.values := by
  obtain ⟨view, among, member⟩ := Ledger.mem_sightings.mp member
  have folded : Arrival.found view ∈ arrivals.take request.addresses.length := by
    rw [came]
    exact List.mem_map_of_mem among
  exact ⟨view, List.mem_of_mem_take folded, member⟩

/-- What the two writes of a pass leave behind, and what kept them from it. -/
def written (outage : Outage) (store : Store) (fresh revised : List Transaction) :
    Store × Option StoreProblem :=
  match outage.guard .addNew (store.addNew fresh) with
  | .error problem => (store, some problem)
  | .ok added =>
      match outage.guard .replace (added.replace revised) with
      | .error problem => (added, some problem)
      | .ok after => (after, none)

/-- The end of a pass that has come to write. -/
def closed (pass : Pass) : Option StoreProblem → Pass
  | some problem => pass.abort (.persistence problem)
  | none => { pass with phase := .ended, tracker := pass.tracker.succeed }

section Written
variable {fresh revised : List Transaction} {known remote : TransactionMap}

/-- Both batches are stored, or the first alone, or neither. -/
theorem written_cases (outage : Outage) (store : Store) (fresh revised : List Transaction) :
    (∃ problem, outage.guard .addNew (store.addNew fresh) = .error problem ∧
      written outage store fresh revised = (store, some problem)) ∨
    (∃ added problem, outage .addNew = none ∧ store.addNew fresh = .ok added ∧
      outage.guard .replace (added.replace revised) = .error problem ∧
      written outage store fresh revised = (added, some problem)) ∨
    ∃ added after, store.addNew fresh = .ok added ∧ added.replace revised = .ok after ∧
      written outage store fresh revised = (after, none) := by
  cases first : outage.guard .addNew (store.addNew fresh) with
  | error problem =>
      left
      exact ⟨problem, rfl, by simp only [written, first]⟩
  | ok added =>
      obtain ⟨free, stored⟩ := guard_eq_ok_iff.mp first
      right
      cases second : outage.guard .replace (added.replace revised) with
      | error problem =>
          left
          exact ⟨added, problem, free, stored, second, by simp only [written, first, second]⟩
      | ok after =>
          right
          obtain ⟨_, replaced⟩ := guard_eq_ok_iff.mp second
          exact ⟨added, after, stored, replaced, by simp only [written, first, second]⟩

theorem runSteps_write (store : Store) :
    runSteps outage store (merging request known remote) [.add, .replace] =
      ((written outage store (request.ledger.merge known remote).fresh
          (request.ledger.merge known remote).revised).1,
        (merging request known remote).closed
          (written outage store (request.ledger.merge known remote).fresh
            (request.ledger.merge known remote).revised).2) := by
  have adding : (merging request known remote).phase =
      .adding (request.ledger.merge known remote).fresh
        (request.ledger.merge known remote).revised := rfl
  unfold written
  cases first : outage.guard .addNew
      (store.addNew (request.ledger.merge known remote).fresh) with
  | error problem =>
      simp only [runSteps, List.foldl_cons, List.foldl_nil, step, adding, first]
      rfl
  | ok added =>
      cases second : outage.guard .replace
          (added.replace (request.ledger.merge known remote).revised) with
      | error problem =>
          simp only [runSteps, List.foldl_cons, List.foldl_nil, step, adding, first, second]
          rfl
      | ok after =>
          simp only [runSteps, List.foldl_cons, List.foldl_nil, step, adding, first, second]
          rfl

theorem published_closed_none : ((merging request known remote).closed none).tracker.published =
    ⟨.done .success, (merging request known remote).tracker.stats⟩ := by
  have done := Tracker.advance_of_canAdvance (at_merging request known remote)
    (.done .success) rfl
  rw [closed, Tracker.succeed, done]

theorem at_closed_some (problem : StoreProblem) :
    ((merging request known remote).closed (some problem)).tracker.At (.done .failed) :=
  (at_merging request known remote).fail rfl

end Written

def Arrival.found? : Arrival → Option TransactionMap
  | .found view => some view
  | _ => none

theorem found_of_perm {views : List TransactionMap}
    (turned : arrivals.Perm (views.map .found)) :
    ∃ others : List TransactionMap, arrivals = others.map .found ∧ others.Perm views := by
  have found : ∀ arrival ∈ arrivals, ∃ view, Arrival.found view = arrival := by
    intro arrival member
    obtain ⟨view, _, same⟩ := List.mem_map.mp (turned.mem_iff.mp member)
    exact ⟨view, same⟩
  -- The views are those that can be picked out of the answers, and so come in their order.
  have picked : (views.map Arrival.found).filterMap Arrival.found? = views := by
    rw [List.filterMap_map]
    exact List.filterMap_some
  refine ⟨arrivals.filterMap Arrival.found?, ?_, ?_⟩
  · clear turned
    induction arrivals with
    | nil => rfl
    | cons arrival rest ih =>
        obtain ⟨⟨view, rfl⟩, others⟩ := List.forall_mem_cons.mp found
        exact congrArg (Arrival.found view :: ·) (ih others)
  · have both := turned.filterMap Arrival.found?
    rwa [picked] at both

theorem run_eq (outage : Outage) (store : Store) (request : Request) (arrivals : List Arrival) :
    run outage store request arrivals =
      let received := runSteps outage store (load outage store { request })
        (arrivals.map .receive)
      runSteps outage received.1 received.2 [.add, .replace] := by
  have first : runSteps outage store { request } (steps arrivals) =
      runSteps outage store (load outage store { request })
        (arrivals.map .receive ++ [.add, .replace]) := rfl
  rw [run, first, runSteps_append]

/-- A pass that sees its queries through writes what the merge comes to. -/
theorem run_of_gathers {known remote : TransactionMap} (loads : Loads outage store request known)
    (gathers : Gathers request arrivals remote) :
    run outage store request arrivals =
      ((written outage store (request.ledger.merge known remote).fresh
          (request.ledger.merge known remote).revised).1,
        (merging request known remote).closed
          (written outage store (request.ledger.merge known remote).fresh
            (request.ledger.merge known remote).revised).2) := by
  obtain ⟨views, taken, length, done⟩ := gathers
  have received := runSteps_receive_of_found outage store (opened request known)
    known taken length done
  rw [run_eq, load_of_loads loads, received]
  exact runSteps_write store

theorem run_of_unopened {problem : Problem}
    (failed : load outage store { request } = abort { request } problem)
    (arrivals : List Arrival) :
    run outage store request arrivals = (store, abort { request } problem) := by
  rw [run_eq, failed, runSteps_receive_of_abort]
  rfl

/-- A pass over more addresses than one statement can ask for fails before it shows anything. -/
theorem run_of_long {addresses : List String} (free : outage .snapshot = none)
    (read : canonicalAddresses request.ledger.kind request.addresses = .ok addresses)
    (long : ¬ Statement.isAllowed request.addresses.length) :
    run outage store request arrivals = (store,
      abort { request } (.snapshot (.tooManyMarks request.addresses.length))) :=
  run_of_unopened (load_of_long free read long) arrivals

/-- So it is if one address is asked for too often. -/
theorem run_of_repeated {spelling address : String} {count : Nat} (free : outage .snapshot = none)
    (read : Address.canonical? request.ledger.kind spelling = .ok address)
    (many : Statement.capacity < count) :
    let crowd := { request with addresses := List.replicate count spelling }
    canonicalAddresses crowd.ledger.kind crowd.addresses = .ok (List.replicate count address) ∧
      run outage store crowd arrivals =
        (store, abort { request := crowd } (.snapshot (.tooManyMarks count))) := by
  intro crowd
  have repeated : canonicalAddresses crowd.ledger.kind crowd.addresses =
      .ok (List.replicate count address) := mapM_replicate (by simp only [crowd, read]) count
  have length : crowd.addresses.length = count := List.length_replicate
  have long : ¬ Statement.isAllowed crowd.addresses.length := by
    rw [length, Statement.isAllowed_iff]
    omega
  exact ⟨repeated, length ▸ run_of_long free repeated long⟩

theorem stage_abort_start (request : Request) (problem : Problem) :
    (abort { request } problem).tracker.published.stage = .done .failed :=
  ((Tracker.at_start request.addresses.length).fail rfl).shown

/-- Where no call of the store fails and both batches can be written, the pass ends well. -/
theorem run_of_writes {known remote : TransactionMap} {added after : Store}
    (loads : Loads .none store request known) (gathers : Gathers request arrivals remote)
    (stored : store.addNew (request.ledger.merge known remote).fresh = .ok added)
    (replaced : added.replace (request.ledger.merge known remote).revised = .ok after) :
    run .none store request arrivals =
      (after, (merging request known remote).closed none) := by
  have both : written .none store (request.ledger.merge known remote).fresh
      (request.ledger.merge known remote).revised = (after, none) := by
    simp only [written, Outage.guard, Outage.none, stored, replaced]
  rw [run_of_gathers loads gathers, both]

/-- Any other pass leaves the store alone, and does not succeed. -/
theorem run_cases (outage : Outage) (store : Store) (request : Request)
    (arrivals : List Arrival) :
    (∃ known remote, Loads outage store request known ∧ Gathers request arrivals remote) ∨
      (run outage store request arrivals).1 = store ∧
        ((run outage store request arrivals).2.tracker.At (.done .failed) ∨
          (run outage store request arrivals).2.tracker.At .fetching) := by
  rw [run_eq]
  rcases load_cases outage store request with ⟨known, loads, loaded⟩ | ⟨problem, _, failed⟩
  · rcases runSteps_receive outage store (opened request known) known .empty
      request.addresses.length arrivals with
      ⟨views, remote, taken, length, done, _⟩ | ⟨problem, failed⟩ | ⟨after, left, waiting⟩
    · left
      exact ⟨known, remote, loads, views, taken, length, done⟩
    · right
      rw [loaded, failed]
      exact ⟨rfl, Or.inl ((at_opened request known).fail rfl)⟩
    · right
      rw [loaded, waiting]
      exact ⟨rfl, Or.inr (at_opened request known)⟩
  · right
    rw [failed, runSteps_receive_of_abort]
    exact ⟨rfl, Or.inl ((Tracker.at_start request.addresses.length).fail rfl)⟩

/-- A pass that ends well has stored what is new and then what is revised. -/
theorem writes_of_success
    (success : (run outage store request arrivals).2.tracker.published.stage = .done .success) :
    ∃ known remote added, Loads outage store request known ∧
      Gathers request arrivals remote ∧
      store.addNew (request.ledger.merge known remote).fresh = .ok added ∧
      added.replace (request.ledger.merge known remote).revised =
        .ok (run outage store request arrivals).1 ∧
      (run outage store request arrivals).2 = (merging request known remote).closed none := by
  rcases run_cases outage store request arrivals with
    ⟨known, remote, loads, gathers⟩ | ⟨_, failed | waiting⟩
  · rw [run_of_gathers loads gathers] at success ⊢
    rcases written_cases outage store (request.ledger.merge known remote).fresh
        (request.ledger.merge known remote).revised with
      ⟨problem, _, built⟩ | ⟨_, problem, _, _, _, built⟩ | ⟨added, after, stored, replaced, built⟩
    · rw [built, (at_closed_some problem).shown] at success
      cases success
    · rw [built, (at_closed_some problem).shown] at success
      cases success
    · rw [built]
      exact ⟨known, remote, added, loads, gathers, stored, replaced, rfl⟩
  · rw [failed.shown] at success
    cases success
  · rw [waiting.shown] at success
    cases success

end Passbook.Pass
