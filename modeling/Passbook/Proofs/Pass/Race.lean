import Mathlib.Logic.ExistsUnique
import Passbook.Pass.Race
import Passbook.Proofs.Pass.Effect
/-!
What comes of a pass among its queries. However the queries race, whenever the caller cancels and
whatever befalls the store, a pass that ends has one of four histories, and these tell success from
failure.
-/

namespace Passbook.Pass

theorem Reply.arrival_ne_cancelled (reply : Reply) (address : String) :
    reply.arrival address ≠ .cancelled := by
  cases reply <;> simp [Reply.arrival]

namespace Task

def arrival? (task : Task) : Option Arrival :=
  match task.state with
  | .running => none
  | .ended arrival => some arrival
  | .heard arrival => some arrival

/-- The query has ended without a view. -/
def hasFailed (task : Task) : Bool :=
  match task.arrival? with
  | none => false
  | some arrival => arrival.found?.isNone

/-- The pass still waits for the view of this query. -/
def isAwaited (task : Task) : Bool :=
  match task.state with
  | .heard (.found _) => false
  | _ => true

theorem hasFailed_of_not_isAwaited {task : Task} (had : task.isAwaited = false) :
    task.hasFailed = false := by
  obtain ⟨address, state⟩ := task
  cases state with
  | running => simp [isAwaited] at had
  | ended arrival => simp [isAwaited] at had
  | heard arrival =>
      cases arrival with
      | found view => rfl
      | failed address fault => simp [isAwaited] at had
      | crashed detail => simp [isAwaited] at had
      | cancelled => simp [isAwaited] at had

end Task

/-- What can be told of a pass that has ended. -/
inductive Outline where
  /-- The pass was not opened. -/
  | rejected
  /-- The queries came to nothing. -/
  | abandoned
  /-- The merge could not be stored. -/
  | unsaved
  | saved
  deriving DecidableEq

namespace Race

/-- What each outline says of the views shown, the problems reported, the progress, the queries
and the writes. -/
inductive Fits (race : Race) : Outline → Prop where
  | rejected {problem : Problem} (cause : problem.isRejection = true)
      (shown : race.pass.updates = []) (reported : race.pass.problems = [problem])
      (failed : race.pass.tracker.At (.done .failed)) (unasked : race.tasks = [])
      (unwritten : race.writes = []) : Fits race .rejected
  | abandoned {known : TransactionMap} {problem : Problem} (cause : problem.isAbandonment = true)
      (shown : race.pass.updates = [.known known]) (reported : race.pass.problems = [problem])
      (failed : race.pass.tracker.At (.done .failed)) (unwritten : race.writes = []) :
      Fits race .abandoned
  | unsaved {known merged : TransactionMap} {problem : StoreProblem}
      (shown : race.pass.updates = [.known known, .merged merged])
      (reported : race.pass.problems = [.persistence problem])
      (failed : race.pass.tracker.At (.done .failed))
      (wrote : race.writes = [.addNew] ∨ race.writes = [.addNew, .replace]) :
      Fits race .unsaved
  | saved {known merged : TransactionMap}
      (shown : race.pass.updates = [.known known, .merged merged])
      (unharmed : race.pass.problems = []) (succeeded : race.pass.tracker.At (.done .success))
      (wrote : race.writes = [.addNew, .replace]) : Fits race .saved

/-- A pass that has met no problem, and stands at this stage. -/
structure Going (race : Race) (stage : Stage) (writes : List StoreCall) : Prop where
  here : race.pass.tracker.At stage
  unharmed : race.pass.problems = []
  unstopped : race.isStopped = false
  wrote : race.writes = writes

/-- How a race stands at each phase of its pass. -/
inductive Standing (race : Race) : Phase → Prop where
  | opening (going : race.Going .idle []) (unbegun : race.pass = { request := race.pass.request })
      (unasked : race.tasks = []) : Standing race .opening
  | fetching {known remote view : TransactionMap} (going : race.Going .fetching [])
      (shown : race.pass.updates = [.known view]) :
      Standing race (.fetching known remote (race.tasks.countP Task.isAwaited))
  | adding {fresh revised : List Transaction} {known merged : TransactionMap}
      (going : race.Going .persisting [])
      (shown : race.pass.updates = [.known known, .merged merged]) :
      Standing race (.adding fresh revised)
  | replacing {revised : List Transaction} {known merged : TransactionMap}
      (going : race.Going .persisting [.addNew])
      (shown : race.pass.updates = [.known known, .merged merged]) :
      Standing race (.replacing revised)
  | ended {outline : Outline} (fits : race.Fits outline) : Standing race .ended

/-- What holds of a race at every moment. -/
structure Sound (race : Race) : Prop where
  stands : race.Standing race.pass.phase
  /-- A task does not stop of itself. -/
  noticed : ∀ task ∈ race.tasks, task.arrival? = some .cancelled →
    race.isCancelled = true ∨ race.isStopped = true
  honest : .cancelled ∈ race.pass.problems → race.isCancelled = true
  /-- The merged view is not shown before all queries have found something. -/
  heard : ∀ merged, .merged merged ∈ race.pass.updates →
    ∀ task ∈ race.tasks, task.isAwaited = false

variable {race other : Race} {outage : Outage}

theorem sound_start (store : Store) (request : Request) : (start store request).Sound where
  stands := .opening ⟨Tracker.at_start request.addresses.length, rfl, rfl, rfl⟩ rfl rfl
  noticed := by simp [start]
  honest := by simp [start]
  heard := by simp [start]

theorem Fits.undisturbed {outline : Outline} (fits : race.Fits outline)
    (pass : other.pass = race.pass) (writes : other.writes = race.writes)
    (unasked : race.tasks = [] → other.tasks = []) : other.Fits outline := by
  cases fits with
  | rejected cause shown reported failed none unwritten =>
      rw [← pass] at shown reported failed
      exact .rejected cause shown reported failed (unasked none) (writes.trans unwritten)
  | abandoned cause shown reported failed unwritten =>
      rw [← pass] at shown reported failed
      exact .abandoned cause shown reported failed (writes.trans unwritten)
  | unsaved shown reported failed wrote =>
      rw [← pass] at shown reported failed
      exact .unsaved shown reported failed (writes ▸ wrote)
  | saved shown unharmed succeeded wrote =>
      rw [← pass] at shown unharmed succeeded
      exact .saved shown unharmed succeeded (writes.trans wrote)

/-- What others do, and what a query does until the pass hears of it, does not show. -/
theorem Standing.undisturbed {phase : Phase} (stands : race.Standing phase)
    (pass : other.pass = race.pass) (stopped : other.isStopped = race.isStopped)
    (writes : other.writes = race.writes) (unasked : race.tasks = [] → other.tasks = [])
    (awaited : other.tasks.countP Task.isAwaited = race.tasks.countP Task.isAwaited) :
    other.Standing phase := by
  have going : ∀ {stage before}, race.Going stage before → other.Going stage before := by
    rintro stage before ⟨here, unharmed, unstopped, wrote⟩
    rw [← pass] at here unharmed
    exact ⟨here, unharmed, stopped.trans unstopped, writes.trans wrote⟩
  cases stands with
  | opening before unbegun none =>
      exact .opening (going before) (by rw [pass]; exact unbegun) (unasked none)
  | fetching before shown =>
      rw [← awaited]
      exact .fetching (going before) (by rw [pass]; exact shown)
  | adding before shown => exact .adding (going before) (by rw [pass]; exact shown)
  | replacing before shown => exact .replacing (going before) (by rw [pass]; exact shown)
  | ended fits => exact .ended (fits.undisturbed pass writes unasked)

theorem sound_cancel (sound : race.Sound) : (race.move .cancel).Sound where
  stands := sound.stands.undisturbed rfl rfl rfl id rfl
  noticed := fun _ _ _ => Or.inl rfl
  honest := fun _ => rfl
  heard := sound.heard

theorem sound_intrude (sound : race.Sound) (store : Store) : (race.move (.intrude store)).Sound :=
  ⟨sound.stands.undisturbed rfl rfl rfl id rfl, sound.noticed, sound.honest, sound.heard⟩

theorem sound_finish (sound : race.Sound) (place : Nat) {arrival : String → Arrival}
    (caused : ∀ address, arrival address = .cancelled →
      race.isCancelled = true ∨ race.isStopped = true) : (race.finish place arrival).Sound := by
  unfold finish
  split
  · next address running =>
    obtain ⟨inside, here⟩ := List.getElem?_eq_some_iff.mp running
    -- The task is awaited until the pass has heard of it, so the count stays.
    refine ⟨sound.stands.undisturbed rfl rfl rfl ?_ ?_, ?_, sound.honest, ?_⟩
    · intro unasked
      simp [unasked]
    · simp only [List.countP_set inside, here, Task.isAwaited]
      have among : 0 < race.tasks.countP Task.isAwaited :=
        List.countP_pos_iff.mpr ⟨_, List.mem_of_getElem? running, rfl⟩
      simp only [if_true]
      omega
    · intro task member stopped
      rcases List.mem_or_eq_of_mem_set member with before | rfl
      · exact sound.noticed task before stopped
      · exact caused address (Option.some.inj stopped)
    -- With the merged view on show no task can have been running.
    · intro merged shown
      have had := sound.heard merged shown _ (List.mem_of_getElem? running)
      simp [Task.isAwaited] at had
  · exact sound

/-- A pass that has its last view merges, and any other awaits the rest. -/
theorem sound_await {pass : Pass} {known remote view : TransactionMap} {awaited : Nat}
    (reached : race.pass = pass.await known remote awaited) (here : pass.tracker.At .fetching)
    (shown : pass.updates = [.known view]) (unharmed : pass.problems = [])
    (unstopped : race.isStopped = false) (unwritten : race.writes = [])
    (waits : race.tasks.countP Task.isAwaited = awaited)
    (noticed : ∀ task ∈ race.tasks, task.arrival? = some .cancelled →
      race.isCancelled = true ∨ race.isStopped = true) : race.Sound := by
  cases awaited with
  | zero =>
      -- All tasks have been heard of, and each has found something.
      have had : ∀ task ∈ race.tasks, task.isAwaited = false := by
        simpa [List.countP_eq_zero] using waits
      have reported : race.pass.problems = [] := by rw [reached]; exact unharmed
      refine ⟨?_, noticed, by simp [reported], fun _ _ => had⟩
      have phase : race.pass.phase = .adding (pass.request.ledger.merge known remote).fresh
          (pass.request.ledger.merge known remote).revised := by rw [reached]; rfl
      have stage : race.pass.tracker.At .persisting := by
        rw [reached]
        exact at_mergeViews here known remote
      have both : race.pass.updates =
          [.known view, .merged (pass.request.ledger.merge known remote).view] := by
        rw [reached]
        exact congrArg (· ++ _) shown
      rw [phase]
      exact .adding ⟨stage, reported, unstopped, unwritten⟩ both
  | succ left =>
      have phase : race.pass.phase = .fetching known remote (left + 1) := by rw [reached]; rfl
      have stage : race.pass.tracker.At .fetching := by rw [reached]; exact here
      have single : race.pass.updates = [.known view] := by rw [reached]; exact shown
      have reported : race.pass.problems = [] := by rw [reached]; exact unharmed
      refine ⟨?_, noticed, by simp [reported], by simp [single]⟩
      rw [phase, ← waits]
      exact .fetching ⟨stage, reported, unstopped, unwritten⟩ single

theorem exists_tasksOf_await {store : Store} {request : Request} {known : TransactionMap}
    (loads : Loads outage store request known) :
    ∃ addresses : List String, addresses.length = request.addresses.length ∧
      tasksOf ((opened request known).await known .empty request.addresses.length) =
        addresses.map fun address => { address } := by
  obtain ⟨addresses, read, _⟩ := loads
  have length := length_canonicalAddresses read
  refine ⟨addresses, length, ?_⟩
  cases count : request.addresses.length with
  | zero =>
      simp only [tasksOf, await, mergeViews, opened, read]
  | succ left =>
      simp only [tasksOf, await, opened, read]

theorem sound_load (sound : race.Sound) (outage : Outage) : (race.load outage).Sound := by
  unfold load
  split
  · next phase =>
    have stands := sound.stands
    rw [phase] at stands
    cases stands with
    | opening going unbegun unasked =>
      have stepped : (step outage race.store race.pass .load).2 =
          Pass.load outage race.store { request := race.pass.request } := by
        rw [← unbegun]
        simp only [step, phase]
      simp only [stepped]
      rcases load_cases outage race.store race.pass.request with
        ⟨known, loads, loaded⟩ | ⟨problem, cause, loaded⟩
      · obtain ⟨addresses, length, tasks⟩ := exists_tasksOf_await loads
        rw [loaded]
        refine sound_await rfl (at_opened _ known) rfl rfl going.unstopped going.wrote ?_ ?_
        -- One task is awaited for each address.
        · simp only [tasks]
          rw [List.countP_map, ← length]
          exact List.countP_eq_length.mpr fun _ _ => rfl
        · intro task member stopped
          simp only [tasks, List.mem_map] at member
          obtain ⟨address, _, rfl⟩ := member
          cases stopped
      · rw [loaded]
        have failed := (Tracker.at_start race.pass.request.addresses.length).fail rfl
        refine ⟨.ended (.rejected cause rfl rfl failed rfl going.wrote), ?_, ?_, ?_⟩
        · simp [tasksOf, abort]
        · intro reported
          cases List.mem_singleton.mp reported
          cases cause
        · simp [tasksOf, abort]
  · exact sound

theorem await_phase_ne_ended (pass : Pass) (known remote : TransactionMap) (awaited : Nat) :
    (pass.await known remote awaited).phase ≠ .ended := by
  cases awaited <;> simp [await, mergeViews]

theorem sound_join (sound : race.Sound) (place : Nat) : (race.join place).Sound := by
  unfold join
  split
  · next known remote awaited address arrival phase ready =>
    obtain ⟨inside, here⟩ := List.getElem?_eq_some_iff.mp ready
    have stepped : (step .none race.store race.pass (.receive arrival)).2 =
        race.pass.receive known remote awaited arrival := by simp only [step, phase]
    have stands := sound.stands
    rw [phase] at stands
    cases stands with
    | fetching going shown =>
      have noticed : ∀ task ∈ race.tasks.set place ⟨address, .heard arrival⟩,
          task.arrival? = some .cancelled → race.isCancelled = true := by
        intro task member stopped
        -- As long as views are awaited the pass has not stopped its tasks: it was the caller.
        have cause : race.isCancelled = true ∨ race.isStopped = true := by
          rcases List.mem_or_eq_of_mem_set member with before | rfl
          · exact sound.noticed task before stopped
          · exact sound.noticed _ (List.mem_of_getElem? ready) stopped
        simpa [going.unstopped] using cause
      simp only [stepped]
      rcases receive_cases race.pass known remote (race.tasks.countP Task.isAwaited) arrival with
        ⟨view, after, rfl, _, heard⟩ | ⟨problem, cause, caused, heard⟩
      · rw [heard]
        refine sound_await rfl going.here shown going.unharmed ?_ going.wrote ?_ ?_
        · simp [going.unstopped, await_phase_ne_ended]
        · simp [List.countP_set inside, here, Task.isAwaited]
        · intro task member stopped
          exact Or.inl (noticed task member stopped)
      · rw [heard]
        refine ⟨.ended (.abandoned cause shown ?_ (going.here.fail rfl) going.wrote), ?_, ?_, ?_⟩
        · simp [abort, going.unharmed]
        · intro task member stopped
          exact Or.inl (noticed task member stopped)
        · intro reported
          simp only [abort, going.unharmed, List.nil_append, List.mem_singleton] at reported
          have stopped := caused reported.symm
          exact noticed _ (List.mem_set inside _) (by rw [stopped]; rfl)
        · simp [abort, shown]
  · exact sound

theorem sound_unsaved (sound : race.Sound) {store : Store} {known merged : TransactionMap}
    {problem : StoreProblem} {wrote : List StoreCall}
    (going : race.Going .persisting wrote)
    (shown : race.pass.updates = [.known known, .merged merged]) (call : StoreCall)
    (called : wrote ++ [call] = [.addNew] ∨ wrote ++ [call] = [.addNew, .replace]) :
    Sound { race with
      store
      pass := race.pass.abort (.persistence problem)
      writes := race.writes ++ [call] } where
  stands := by
    have reported : (race.pass.abort (.persistence problem)).problems =
        [.persistence problem] := by
      simp [abort, going.unharmed]
    exact .ended (.unsaved shown reported (going.here.fail rfl) (going.wrote ▸ called))
  noticed := sound.noticed
  honest := by simp [abort, going.unharmed]
  heard := sound.heard

theorem sound_add (sound : race.Sound) (outage : Outage) : (race.move (.add outage)).Sound := by
  simp only [move]
  split
  · next fresh revised phase =>
    have stands := sound.stands
    rw [phase] at stands
    cases stands with
    | adding going shown =>
      unfold write
      cases stored : outage.guard .addNew (race.store.addNew fresh) with
      | ok added =>
          simp only [step, phase, stored]
          refine ⟨.replacing ⟨going.here, going.unharmed, going.unstopped, ?_⟩ shown,
            sound.noticed, sound.honest, sound.heard⟩
          simp [going.wrote]
      | error problem =>
          simp only [step, phase, stored]
          exact sound_unsaved sound going shown .addNew (Or.inl rfl)
  · exact sound

theorem sound_replace (sound : race.Sound) (outage : Outage) :
    (race.move (.replace outage)).Sound := by
  simp only [move]
  split
  · next revised phase =>
    have stands := sound.stands
    rw [phase] at stands
    cases stands with
    | replacing going shown =>
      unfold write
      cases stored : outage.guard .replace (race.store.replace revised) with
      | ok after =>
          simp only [step, phase, stored]
          refine ⟨.ended (.saved shown going.unharmed (going.here.advance (.done .success) rfl) ?_),
            sound.noticed, sound.honest, sound.heard⟩
          simp [going.wrote]
      | error problem =>
          simp only [step, phase, stored]
          exact sound_unsaved sound going shown .replace (Or.inr rfl)
  · exact sound

theorem sound_move (sound : race.Sound) (next : Move) : (race.move next).Sound := by
  cases next with
  | cancel => exact sound_cancel sound
  | intrude store => exact sound_intrude sound store
  | load outage => exact sound_load sound outage
  | answer place reply =>
      exact sound_finish sound place fun address same =>
        absurd same (reply.arrival_ne_cancelled address)
  | notice place =>
      simp only [move]
      split
      · next stop => exact sound_finish sound place fun _ _ => by simpa using stop
      · exact sound
  | join place => exact sound_join sound place
  | add outage => exact sound_add sound outage
  | replace outage => exact sound_replace sound outage

/-- Every race is sound after each of its moves. -/
theorem sound_run (store : Store) (request : Request) (moves : List Move) :
    (run store request moves).Sound := by
  -- An induction along the moves, with the race so far as what changes.
  have onward : ∀ race : Race, race.Sound → (moves.foldl move race).Sound := by
    induction moves with
    | nil => exact fun _ sound => sound
    | cons next rest ih => exact fun race sound => ih (race.move next) (sound_move sound next)
  exact onward (start store request) (sound_start store request)

/-- No two outlines fit one race: the views shown tell them apart, or else the problems do. -/
theorem Fits.unique {first second : Outline} (one : race.Fits first) (two : race.Fits second) :
    first = second := by
  cases one <;> cases two <;> simp_all

theorem Fits.length_problems_le_one {outline : Outline} (fits : race.Fits outline) :
    race.pass.problems.length ≤ 1 := by
  cases fits <;> simp [*]

theorem Fits.succeeded_iff {outline : Outline} (fits : race.Fits outline) :
    race.pass.tracker.published.stage = .done .success ↔ race.pass.problems = [] := by
  cases fits with
  | rejected _ _ reported failed _ _ => simp [reported, failed.shown]
  | abandoned _ _ reported failed _ => simp [reported, failed.shown]
  | unsaved _ reported failed _ => simp [reported, failed.shown]
  | saved _ unharmed succeeded _ => simp [unharmed, succeeded.shown]

theorem Sound.exists_fits (sound : race.Sound) (ended : race.pass.phase = .ended) :
    ∃ outline, race.Fits outline := by
  have stands := sound.stands
  rw [ended] at stands
  cases stands with
  | ended fits => exact ⟨_, fits⟩

theorem Sound.length_problems_le_one (sound : race.Sound) : race.pass.problems.length ≤ 1 := by
  have single : ∀ {stage writes}, race.Going stage writes → race.pass.problems.length ≤ 1 := by
    intro stage writes going
    simp [going.unharmed]
  have stands := sound.stands
  generalize race.pass.phase = phase at stands
  cases stands with
  | opening going => exact single going
  | fetching going => exact single going
  | adding going => exact single going
  | replacing going => exact single going
  | ended fits => exact fits.length_problems_le_one

/-- What a caller can rely on. -/
structure Protocol (race : Race) : Prop where
  outlined : race.pass.phase = .ended → ∃! outline, race.Fits outline
  told : race.pass.phase = .ended →
    (race.pass.tracker.published.stage = .done .success ↔ race.pass.problems = [])
  single : race.pass.problems.length ≤ 1
  unmerged : ∀ task ∈ race.tasks, task.hasFailed = true →
    ∀ merged, .merged merged ∉ race.pass.updates
  /-- That the pass stops its own tasks is never told as if the caller had cancelled it. -/
  honest : .cancelled ∈ race.pass.problems → race.isCancelled = true

/-- However a race goes, the pass keeps to its protocol. -/
theorem protocol_run (store : Store) (request : Request) (moves : List Move) :
    (run store request moves).Protocol where
  outlined ended := by
    obtain ⟨outline, fits⟩ := (sound_run store request moves).exists_fits ended
    exact ⟨outline, fits, fun _ other => other.unique fits⟩
  told ended := by
    obtain ⟨outline, fits⟩ := (sound_run store request moves).exists_fits ended
    exact fits.succeeded_iff
  single := (sound_run store request moves).length_problems_le_one
  unmerged := by
    intro task member failed merged shown
    have had := (sound_run store request moves).heard merged shown task member
    rw [Task.hasFailed_of_not_isAwaited had] at failed
    cases failed
  honest := (sound_run store request moves).honest

/-- The second of two queries fails, and the first is stopped. -/
theorem protocol_run_of_failure :
    let race := run .empty { Sample.request Sample.first with
        addresses := [Sample.first, Sample.second] }
      [.load .none, .answer 1 (.failed .noData), .join 1, .notice 0, .join 0]
    race.pass.phase = .ended ∧ race.pass.problems = [.remote Sample.second .noData] ∧
      race.isCancelled = false ∧ race.Protocol :=
  ⟨by decide +kernel, by decide +kernel, by decide +kernel, protocol_run _ _ _⟩

/-- Each outline is that of some race. -/
theorem exists_run_fits (outline : Outline) :
    ∃ store request moves, (run store request moves).Fits outline := by
  cases outline with
  | rejected =>
      refine ⟨.empty, Sample.request Sample.first, [.load (Sample.failing .snapshot)], ?_⟩
      refine .rejected rfl (by decide +kernel)
        (show _ = [Problem.snapshot (.background "stopped")] by decide +kernel) ?_ ?_ ?_
      · exact ⟨by decide +kernel, by decide +kernel⟩
      · decide +kernel
      · decide +kernel
  | abandoned =>
      refine ⟨.empty, Sample.request Sample.first,
        [.load .none, .answer 0 (.failed .noData), .join 0], ?_⟩
      refine .abandoned rfl (show _ = [Update.known .empty] by decide +kernel)
        (show _ = [Problem.remote Sample.first .noData] by decide +kernel) ?_ ?_
      · exact ⟨by decide +kernel, by decide +kernel⟩
      · decide +kernel
  | unsaved =>
      refine ⟨.empty, Sample.request Sample.first,
        [.load .none, .answer 0 (.found .empty), .join 0, .add (Sample.failing .addNew)], ?_⟩
      refine .unsaved (show _ = [Update.known .empty, Update.merged .empty] by decide +kernel)
        (show _ = [Problem.persistence (.background "stopped")] by decide +kernel) ?_ ?_
      · exact ⟨by decide +kernel, by decide +kernel⟩
      · decide +kernel
  | saved =>
      refine ⟨.empty, Sample.request Sample.first,
        [.load .none, .answer 0 (.found .empty), .join 0, .add .none, .replace .none], ?_⟩
      refine .saved (show _ = [Update.known .empty, Update.merged .empty] by decide +kernel) ?_ ?_ ?_
      · decide +kernel
      · exact ⟨by decide +kernel, by decide +kernel⟩
      · decide +kernel

end Race

end Passbook.Pass
