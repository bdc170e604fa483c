import Passbook.Proofs.Pass.Race
/-!
A race that is left alone is a run of the pass. Whatever order the queries end in, the steps that
the pass takes are to load, to hear of some answers one after another, and to write.
-/

namespace Passbook.Pass

/-- The steps that a pass waits for. -/
inductive Phase.Awaits : Phase → Step → Prop where
  | load : Awaits .opening .load
  | receive {known remote : TransactionMap} {awaited : Nat} (arrival : Arrival) :
      Awaits (.fetching known remote awaited) (.receive arrival)
  | add {fresh revised : List Transaction} : Awaits (.adding fresh revised) .add
  | replace {revised : List Transaction} : Awaits (.replacing revised) .replace

/-- The steps that have led to a phase, if these are the answers heard on the way. -/
def taken (arrivals : List Arrival) : Phase → List Step
  | .opening => []
  | .fetching _ _ _ => .load :: arrivals.map .receive
  | .adding _ _ => .load :: arrivals.map .receive
  | .replacing _ => .load :: arrivals.map .receive ++ [.add]
  | .ended => steps arrivals

section Reached
variable {outage : Outage} {store : Store} {request : Request}

def Reached (outage : Outage) (store : Store) (request : Request) (here : Store × Pass) : Prop :=
  ∃ arrivals, here = runSteps outage store { request } (taken arrivals here.2.phase)

theorem runSteps_of_ended {pass : Pass} (ended : pass.phase = .ended) (next : List Step) :
    runSteps outage store pass next = (store, pass) := by
  induction next with
  | nil => rfl
  | cons first rest ih =>
      have still : step outage store pass first = (store, pass) := by
        simp only [step, ended]
      rw [runSteps, List.foldl_cons, still]
      exact ih

/-- An ended pass takes no more steps, so it has come by all of them. -/
theorem reached_of_ended {here : Store × Pass} (ended : here.2.phase = .ended)
    (arrivals : List Arrival) {done : List Step} (rest : List Step)
    (came : here = runSteps outage store { request } done)
    (way : steps arrivals = done ++ rest) : Reached outage store request here := by
  refine ⟨arrivals, ?_⟩
  rw [ended, taken, way, runSteps_append, ← came]
  exact (runSteps_of_ended ended rest).symm

theorem taken_await (arrivals : List Arrival) (pass : Pass) (known remote : TransactionMap)
    (awaited : Nat) :
    taken arrivals (pass.await known remote awaited).phase = .load :: arrivals.map .receive := by
  cases awaited <;> rfl

theorem reached_step {here : Store × Pass} (reached : Reached outage store request here)
    {next : Step} (awaited : here.2.phase.Awaits next) :
    Reached outage store request (step outage here.1 here.2 next) := by
  obtain ⟨arrivals, came⟩ := reached
  generalize phase : here.2.phase = place at awaited came
  have onward : step outage here.1 here.2 next =
      runSteps outage store { request } (taken arrivals place ++ [next]) := by
    rw [runSteps_append, ← came]
    rfl
  cases awaited with
  | load =>
      have began : here = (store, { request }) := came
      subst began
      rcases load_cases outage store request with ⟨known, _, loaded⟩ | ⟨problem, _, loaded⟩
      · refine ⟨[], ?_⟩
        have reached : (step outage store { request } .load).2 =
          (opened request known).await known .empty request.addresses.length := loaded
        rw [reached, taken_await]
        exact onward
      · have reached : (step outage store { request } .load).2 =
          abort { request } problem := loaded
        exact reached_of_ended (by rw [reached]; rfl) [] [.add, .replace] onward rfl
  | @receive known remote count arrival =>
      have reached : (step outage here.1 here.2 (.receive arrival)).2 =
          here.2.receive known remote count arrival := by
        simp only [step, phase]
      have heard : taken arrivals (.fetching known remote count) ++ [.receive arrival] =
          .load :: (arrivals ++ [arrival]).map .receive := by
        rw [List.map_append]
        rfl
      rw [heard] at onward
      rcases receive_cases here.2 known remote count arrival with
        ⟨_, after, _, _, folded⟩ | ⟨problem, _, _, failed⟩
      · refine ⟨arrivals ++ [arrival], ?_⟩
        rw [reached, folded, taken_await]
        exact onward
      · exact reached_of_ended (by rw [reached, failed]; rfl) (arrivals ++ [arrival])
          [.add, .replace] onward rfl
  | @add fresh revised =>
      cases stored : outage.guard .addNew (here.1.addNew fresh) with
      | ok added =>
          have reached : (step outage here.1 here.2 .add).2.phase = .replacing revised := by
            simp only [step, phase, stored]
          refine ⟨arrivals, ?_⟩
          rw [reached]
          exact onward
      | error problem =>
          have reached : (step outage here.1 here.2 .add).2.phase = .ended := by
            simp only [step, phase, stored]
            rfl
          refine reached_of_ended reached arrivals [.replace] onward ?_
          simp [steps, taken]
  | @replace revised =>
      have reached : (step outage here.1 here.2 .replace).2.phase = .ended := by
        cases stored : outage.guard .replace (here.1.replace revised) <;>
          simp only [step, phase, stored]
        rfl
      refine reached_of_ended reached arrivals [] onward ?_
      simp [steps, taken]

end Reached

namespace Race
variable {race : Race} {outage : Outage}

/-- A move that leaves the store to the pass, which meets these failures of it. -/
def Move.IsUnder (outage : Outage) : Move → Prop
  | .intrude _ => False
  | .load own => own = outage
  | .add own => own = outage
  | .replace own => own = outage
  | _ => True

/-- A move is a step that the pass waits for, or the pass takes none. -/
theorem step_of_move {next : Move} (alone : next.IsUnder outage) :
    ((race.move next).store, (race.move next).pass) = (race.store, race.pass) ∨
      ∃ taken, race.pass.phase.Awaits taken ∧
        ((race.move next).store, (race.move next).pass) =
          step outage race.store race.pass taken := by
  have finished : ∀ place arrival,
      ((race.finish place arrival).store, (race.finish place arrival).pass) =
        (race.store, race.pass) := by
    intro place arrival
    unfold finish
    split <;> rfl
  cases next with
  | cancel => exact Or.inl rfl
  | intrude store => exact alone.elim
  | load own =>
      cases alone
      simp only [move, load]
      split
      · next phase =>
        refine Or.inr ⟨.load, phase ▸ .load, ?_⟩
        simp only [step, phase]
      · exact Or.inl rfl
  | answer place reply => exact Or.inl (finished place _)
  | notice place =>
      simp only [move]
      split
      · exact Or.inl (finished place _)
      · exact Or.inl rfl
  | join place =>
      simp only [move, join]
      split
      · next arrival phase _ =>
        refine Or.inr ⟨.receive arrival, phase ▸ .receive arrival, ?_⟩
        simp only [step, phase]
      · exact Or.inl rfl
  | add own =>
      cases alone
      simp only [move]
      split
      · next phase => exact Or.inr ⟨.add, phase ▸ .add, rfl⟩
      · exact Or.inl rfl
  | replace own =>
      cases alone
      simp only [move]
      split
      · next phase => exact Or.inr ⟨.replace, phase ▸ .replace, rfl⟩
      · exact Or.inl rfl

theorem reached_move {store : Store} {request : Request} {next : Move}
    (alone : next.IsUnder outage) (reached : Reached outage store request (race.store, race.pass)) :
    Reached outage store request ((race.move next).store, (race.move next).pass) := by
  rcases step_of_move alone with same | ⟨taken, awaited, stepped⟩
  · rw [same]
    exact reached
  · rw [stepped]
    exact reached_step reached awaited

/-- A race of which nobody but the pass writes to the store ends as the run of the pass over some
answers: those that were heard, in the order in which they were. -/
theorem exists_run_of_ended (store : Store) (request : Request) {moves : List Move}
    (alone : ∀ next ∈ moves, next.IsUnder outage)
    (ended : (run store request moves).pass.phase = .ended) :
    ∃ arrivals, ((run store request moves).store, (run store request moves).pass) =
      Pass.run outage store request arrivals := by
  have reached : Reached outage store request
      ((run store request moves).store, (run store request moves).pass) := by
    have begun : Reached outage store request (store, { request }) := ⟨[], rfl⟩
    refine List.foldlRecOn moves move (b := start store request)
      (motive := fun race => Reached outage store request (race.store, race.pass)) begun ?_
    intro race reached next member
    exact reached_move (alone next member) reached
  obtain ⟨arrivals, came⟩ := reached
  refine ⟨arrivals, came.trans ?_⟩
  simp only [ended]
  rfl

end Race

end Passbook.Pass
