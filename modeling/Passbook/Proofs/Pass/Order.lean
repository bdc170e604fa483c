import Passbook.Proofs.Ledger.Agreement
import Passbook.Proofs.Pass.Effect
/-!
The order in which queries end. Whether the answers fold into a remote view, which transactions it
holds and which log indexes they have does not depend on it; and when the sightings of one
transaction contradict each other nowhere, nothing of a pass depends on it.
-/

namespace Passbook

namespace Pass

def gathering (views : List TransactionMap) : List Step :=
  .load :: (views.map Arrival.found).map .receive

theorem runSteps_gathering {outage : Outage} {store : Store} {request : Request}
    {views : List TransactionMap} {known remote : TransactionMap}
    (loads : Loads outage store request known)
    (length : request.addresses.length = views.length)
    (done : request.ledger.remote views = .ok remote) :
    runSteps outage store { request } (gathering views) =
      (store, merging request known remote) := by
  have received := runSteps_receive_of_found outage store (opened request known) known
    (List.take_of_length_le (by simp [length])) length.symm done
  rw [← load_of_loads loads] at received
  exact received

theorem run_eq_gathering (outage : Outage) (store : Store) (request : Request)
    (views : List TransactionMap) :
    run outage store request (views.map .found) =
      let gathered := runSteps outage store { request } (gathering views)
      runSteps outage gathered.1 gathered.2 [.add, .replace] :=
  runSteps_append outage store { request } (gathering views) [.add, .replace]

theorem runSteps_gathering_congr (outage : Outage) (store : Store) {request : Request}
    {views others : List TransactionMap} {remote : TransactionMap}
    (length : request.addresses.length = views.length)
    (length' : request.addresses.length = others.length)
    (done : request.ledger.remote views = .ok remote)
    (done' : request.ledger.remote others = .ok remote) :
    runSteps outage store { request } (gathering others) =
      runSteps outage store { request } (gathering views) := by
  rcases load_cases outage store request with ⟨known, loads, _⟩ | ⟨problem, _, failed⟩
  · rw [runSteps_gathering loads length done, runSteps_gathering loads length' done']
  · have stopped : ∀ answers : List TransactionMap,
        runSteps outage store { request } (gathering answers) =
          (store, abort { request } problem) := by
      intro answers
      have first : runSteps outage store { request } (gathering answers) =
          runSteps outage store (load outage store { request })
            ((answers.map .found).map .receive) := rfl
      rw [first, failed, runSteps_receive_of_abort]
    rw [stopped, stopped]

/-- In whatever order the answers are folded, the fold fails or does not, and what it comes to has
the same transactions with the same log indexes. Where no two sightings contradict each other it
is the same remote view, and passes over it are the same: what they show, what they are about to
write and what they count, and in what they leave behind. -/
theorem remote_perm {views others : List TransactionMap} (turned : others.Perm views)
    (ledger : Ledger) :
    ((∃ remote, ledger.remote others = .ok remote) ↔ ∃ remote, ledger.remote views = .ok remote) ∧
      ∀ remote remote', ledger.remote views = .ok remote → ledger.remote others = .ok remote' →
        (∀ identity, remote'.contains identity = remote.contains identity ∧
          (remote.contains identity = true ↔
            ∃ view ∈ views, ∃ tx ∈ view.values, tx.identity = identity)) ∧
        (∀ identity tx tx', remote.get? identity = some tx → remote'.get? identity = some tx' →
          ∀ key, tx'.events.contains key = tx.events.contains key ∧
            (tx.events.contains key = true ↔ ∃ view ∈ views, ∃ seen ∈ view.values,
              seen.identity = identity ∧ seen.normalized.events.contains key = true)) ∧
        (Ledger.Agreed views → remote' = remote ∧
          ∀ outage store (request : Request), request.ledger = ledger →
            request.addresses.length = views.length →
            (∀ known, Loads outage store request known →
              runSteps outage store { request } (gathering views) =
                  (store, merging request known remote) ∧
                runSteps outage store { request } (gathering others) =
                  (store, merging request known remote)) ∧
            run outage store request (others.map .found) =
              run outage store request (views.map .found)) := by
  -- Of the order nothing is left when only membership of sightings is looked at.
  have same : ∀ tx, tx ∈ Ledger.sightings others ↔ tx ∈ Ledger.sightings views := by
    intro tx
    rw [Ledger.mem_sightings, Ledger.mem_sightings]
    exact exists_congr fun view => and_congr_left' turned.mem_iff
  refine ⟨Ledger.exists_remote_iff same, fun remote remote' done done' => ⟨?_, ?_, ?_⟩⟩
  · intro identity
    refine ⟨Ledger.contains_remote_congr same done done' identity, ?_⟩
    rw [Ledger.contains_remote done]
    simp only [Ledger.mem_sightingsOf, Ledger.mem_sightings]
    tauto
  · intro identity tx tx' found found' key
    refine ⟨Ledger.contains_event_remote_congr same done done' found found' key, ?_⟩
    rw [Ledger.contains_event_remote done found]
    simp only [Ledger.mem_sightingsOf, Ledger.mem_sightings]
    tauto
  · intro agreed
    obtain rfl := Ledger.remote_eq_of_agreed same agreed done done'
    refine ⟨rfl, ?_⟩
    rintro outage store request rfl length
    have length' : request.addresses.length = others.length := length.trans turned.length_eq.symm
    refine ⟨fun known loads => ⟨runSteps_gathering loads length done,
      runSteps_gathering loads length' done'⟩, ?_⟩
    rw [run_eq_gathering, run_eq_gathering,
      runSteps_gathering_congr outage store length length' done done']

/-- Two queries tell of one transaction, each of another event of it. -/
theorem remote_perm_sample :
    let views := [Sample.answer Sample.first, Sample.answer Sample.second]
    let request : Request :=
      { ledger := Sample.ledger, addresses := [Sample.first, Sample.second], start := 0 }
    ∃ known remote, Sample.ledger.remote views = .ok remote ∧
      Sample.ledger.remote views.reverse = .ok remote ∧
      remote.values.map (fun tx => tx.events.keys) = [[0, 1]] ∧
      runSteps .none .empty { request } (gathering views.reverse) =
        (.empty, merging request known remote) ∧
      run .none .empty request (views.reverse.map .found) =
        run .none .empty request (views.map .found) := by
  have told : Ledger.sightings [Sample.answer Sample.first, Sample.answer Sample.second] =
      [Sample.shared [Sample.transfer Sample.first 0],
        Sample.shared [Sample.transfer Sample.second 1]] := by decide +kernel
  have keys : (Sample.shared [Sample.transfer Sample.first 0]).normalized.events.keys = [0] := by
    decide +kernel
  have agrees : (Sample.shared [Sample.transfer Sample.first 0]).Agrees
      (Sample.shared [Sample.transfer Sample.second 1]) := by
    refine Transaction.agrees_of_disjoint (by decide +kernel) ?_
    rw [keys]
    exact List.forall_mem_singleton.mpr (by decide +kernel)
  have agreed : Ledger.Agreed [Sample.answer Sample.first, Sample.answer Sample.second] := by
    intro first member second member' _
    rw [told] at member member'
    simp only [List.mem_cons, List.not_mem_nil, or_false] at member member'
    rcases member with rfl | rfl <;> rcases member' with rfl | rfl
    · exact .refl _
    · exact agrees
    · exact agrees.symm
    · exact .refl _
  have done : Sample.ledger.remote [Sample.answer Sample.first, Sample.answer Sample.second] =
      .ok (.ofTransactions [Sample.shared
        [Sample.transfer Sample.first 0, Sample.transfer Sample.second 1]]) := by decide +kernel
  have turned := List.reverse_perm [Sample.answer Sample.first, Sample.answer Sample.second]
  obtain ⟨both, outcome⟩ := remote_perm turned Sample.ledger
  obtain ⟨remote', done'⟩ := both.mpr ⟨_, done⟩
  obtain ⟨_, _, alike⟩ := outcome _ remote' done done'
  obtain ⟨rfl, passes⟩ := alike agreed
  obtain ⟨gathered, ran⟩ := passes .none .empty
    { ledger := Sample.ledger, addresses := [Sample.first, Sample.second], start := 0 } rfl rfl
  exact ⟨.empty, _, done, done', by decide +kernel,
    (gathered .empty ⟨[Sample.first, Sample.second], by decide +kernel, by decide +kernel⟩).2, ran⟩

end Pass

end Passbook
