import Passbook.Proofs.Pass.Phases
/-!
Engines of several ledgers over one store. Whatever its queries answer, a pass writes and shows
nothing of another ledger, and leaves alone what is stored of other chains and what people wrote.
If any answer holds a transaction that does not belong to the ledger, the pass comes to nothing.
-/

namespace Passbook

namespace Ledger

/-- The transaction can be one of the ledger. -/
structure Owns (ledger : Ledger) (tx : Transaction) : Prop where
  chain : tx.identity.chain = ledger.chain
  kind : tx.kind = ledger.kind
  index : ledger.kind = .sequential → tx.identity.index = 0

variable {ledger : Ledger} {views : List TransactionMap} {known remote : TransactionMap}

theorem misfit?_eq_none_iff {tx : Transaction} : ledger.misfit? tx = none ↔ ledger.Owns tx := by
  unfold misfit?
  constructor
  · intro fits
    by_cases chain : tx.identity.chain = ledger.chain
    · by_cases kind : tx.kind = ledger.kind
      · refine ⟨chain, kind, fun sequential => ?_⟩
        simpa [chain, kind, sequential] using fits
      · simp [chain, kind] at fits
    · simp [chain] at fits
  · rintro ⟨chain, kind, index⟩
    simpa [chain, kind] using index

theorem owns_of_remote (done : ledger.remote views = .ok remote) {identity : Identity}
    {tx : Transaction} (seen : remote.get? identity = some tx) :
    tx.identity = identity ∧ ledger.Owns tx := by
  obtain ⟨own, belongs⟩ := belongs_of_remote done seen
  exact ⟨own, misfit?_eq_none_iff.mp belongs⟩

/-- The copy that is revised has no say in where the revision belongs. -/
theorem owns_revision {copy tx : Transaction} (owns : ledger.Owns tx) :
    ledger.Owns (ledger.revision copy tx) := by
  obtain ⟨chain, kind, index⟩ := owns
  constructor
  · rwa [identity_revision]
  · rwa [kind_revision]
  · rwa [identity_revision]

theorem owns_of_merge (done : ledger.remote views = .ok remote) :
    (∀ tx ∈ (ledger.merge known remote).fresh, ledger.Owns tx) ∧
      ∀ tx ∈ (ledger.merge known remote).revised, ledger.Owns tx := by
  constructor
  · intro tx member
    obtain ⟨identity, _, seen⟩ := mem_fresh.mp member
    exact (owns_of_remote done seen).2
  · intro tx member
    obtain ⟨identity, copy, sighting, _, seen, _, rfl⟩ := mem_revised.mp member
    exact owns_revision (owns_of_remote done seen).2

/-- What a merged view shows beyond the local one belongs to the ledger. -/
theorem owns_of_view (done : ledger.remote views = .ok remote) {identity : Identity}
    {tx : Transaction} (shown : (ledger.merge known remote).view.get? identity = some tx) :
    known.get? identity = some tx ∨ tx.identity = identity ∧ ledger.Owns tx := by
  rw [get?_view, Option.or_eq_some_iff] at shown
  rcases shown with written | ⟨_, held⟩
  · right
    obtain ⟨sighting, seen, written⟩ := Option.bind_eq_some_iff.mp written
    obtain ⟨own, owns⟩ := owns_of_remote done seen
    rcases @judge_cases ledger known identity sighting with
      ⟨_, judged⟩ | ⟨_, _, _, judged⟩ | ⟨copy, _, _, judged⟩
    · rw [judged] at written
      cases written
      exact ⟨own, owns⟩
    · rw [judged] at written
      cases written
    · rw [judged] at written
      cases written
      exact ⟨(identity_revision copy sighting).trans own, owns_revision owns⟩
  · exact .inl held

/-- The violation that a fold of answers fails with is that of some sighting. -/
theorem exists_misfit_of_remote {violation : Violation}
    (failed : ledger.remote views = .error violation) :
    ∃ tx ∈ sightings views, tx.identity = violation.identity ∧
      ledger.misfit? tx = some violation.misfit := by
  rw [Ledger.remote, foldlM_absorb, foldlM_eq_error_iff] at failed
  obtain ⟨before, tx, rest, middle, split, _, met⟩ := failed
  refine ⟨tx, by simp [split], ?_⟩
  cases belongs : ledger.misfit? tx with
  | none =>
      have goes := (@sight_eq_ok_iff ledger middle _ tx).mpr ⟨belongs, rfl⟩
      cases met.symm.trans goes
  | some misfit =>
      simp only [sight, identityOf, misfit?_normalized, belongs, bind, Except.bind,
        Except.error.injEq] at met
      subst met
      exact ⟨(Transaction.identity_normalized tx).symm, rfl⟩

theorem exists_violation {tx : Transaction} (member : tx ∈ sightings views)
    (alien : ¬ ledger.Owns tx) : ∃ violation, ledger.remote views = .error violation := by
  cases done : ledger.remote views with
  | ok remote =>
      have belongs := (remote_eq_ok_iff.mp done).1 tx member
      exact absurd (misfit?_eq_none_iff.mp belongs) alien
  | error violation => exact ⟨violation, rfl⟩

end Ledger

namespace Store

/-- All that a pass of the ledger may do to a store: rows of transactions that belong to the ledger
are written, each under its own identity. -/
structure Serves (ledger : Ledger) (before after : Store) : Prop where
  rows : ∀ identity, after.rows.get? identity = before.rows.get? identity ∨
    ∃ tx, tx.identity = identity ∧ ledger.Owns tx ∧
      after.rows.get? identity = some (.keeping tx)
  senderRemarks : after.senderRemarks = before.senderRemarks
  accountRemarks : after.accountRemarks = before.accountRemarks
  wallets : after.wallets = before.wallets

namespace Serves
variable {ledger : Ledger} {first second third : Store}

theorem refl (ledger : Ledger) (store : Store) : store.Serves ledger store where
  rows := fun _ => .inl rfl
  senderRemarks := rfl
  accountRemarks := rfl
  wallets := rfl

theorem trans (earlier : first.Serves ledger second) (later : second.Serves ledger third) :
    first.Serves ledger third where
  rows := by
    intro identity
    rcases later.rows identity with same | written
    · rw [same]
      exact earlier.rows identity
    · exact .inr written
  senderRemarks := later.senderRemarks.trans earlier.senderRemarks
  accountRemarks := later.accountRemarks.trans earlier.accountRemarks
  wallets := later.wallets.trans earlier.wallets

theorem foreign (serves : first.Serves ledger second) {identity : Identity}
    (elsewhere : identity.chain ≠ ledger.chain) :
    second.rows.get? identity = first.rows.get? identity := by
  rcases serves.rows identity with same | ⟨tx, rfl, owns, _⟩
  · exact same
  · exact absurd owns.chain elsewhere

end Serves

end Store

namespace Pass

/-- What a pass has at hand to write. -/
def Phase.batches : Phase → List Transaction
  | .adding fresh revised => fresh ++ revised
  | .replacing revised => revised
  | _ => []

variable {outage : Outage} {store : Store} {request : Request} {heard : List Arrival} {pass : Pass}
  {known : TransactionMap} {views : List TransactionMap}

theorem remarks_of_step (outage : Outage) (store : Store) (pass : Pass) (next : Step) :
    ∃ rows, (step outage store pass next).1 = { store with rows } := by
  rcases step_store_cases outage store pass next with
    same | ⟨fresh, revised, _, added, _⟩ | ⟨revised, _, replaced, _⟩
  · exact ⟨store.rows, same⟩
  · obtain ⟨rows, _, same⟩ := Store.addNew_eq_ok_iff.mp added
    exact ⟨rows, same⟩
  · obtain ⟨_, rows, _, _, same⟩ := Store.replace_eq_ok_iff.mp replaced
    exact ⟨rows, same⟩

namespace Course

theorem serves (course : Course request heard pass) (outage : Outage) (store : Store)
    (next : Step) :
    store.Serves request.ledger (Pass.step outage store pass next).1 := by
  obtain ⟨rows, built⟩ := remarks_of_step outage store pass next
  have same := course.request_eq
  subst same
  refine ⟨fun identity => ?_, by rw [built], by rw [built], by rw [built]⟩
  cases found : (Pass.step outage store pass next).1.rows.get? identity with
  | none =>
      left
      cases stored : store.rows.get? identity with
      | none => rfl
      | some old =>
          obtain ⟨row, there⟩ := exists_row_of_step outage pass next stored
          cases found.symm.trans there
  | some row =>
      cases course.origin found with
      | kept stored => exact .inl stored.symm
      | @fresh remote tx _ gathers seen written =>
          obtain ⟨views, _, _, done⟩ := gathers
          obtain ⟨own, owns⟩ := Ledger.owns_of_remote done seen
          exact .inr ⟨tx, own, owns, congrArg some written⟩
      | @revised _ remote copy tx _ _ _ gathers seen written =>
          obtain ⟨views, _, _, done⟩ := gathers
          obtain ⟨own, owns⟩ := Ledger.owns_of_remote done seen
          exact .inr ⟨_, (Ledger.identity_revision copy tx).trans own,
            Ledger.owns_revision owns, congrArg some written⟩

theorem owns_of_batches (course : Course request heard pass) {tx : Transaction}
    (member : tx ∈ pass.phase.batches) : request.ledger.Owns tx := by
  cases phase : pass.phase with
  | adding fresh revised =>
      rw [phase] at member
      obtain ⟨known, remote, ⟨views, _, _, done⟩, merging⟩ := course.of_adding phase
      rw [merging] at phase
      cases phase
      obtain ⟨fresh, revised⟩ := @Ledger.owns_of_merge _ _ known _ done
      exact (List.mem_append.mp member).elim (fresh tx) (revised tx)
  | replacing revised =>
      rw [phase] at member
      obtain ⟨known, remote, ⟨views, _, _, done⟩, halfway⟩ := course.of_replacing phase
      rw [halfway] at phase
      cases phase
      exact (@Ledger.owns_of_merge _ _ known _ done).2 tx member
  | _ =>
      rw [phase] at member
      cases member

theorem owns_of_merged (course : Course request heard pass) {merged : TransactionMap}
    (shown : Update.merged merged ∈ pass.updates) :
    ∃ known, Update.known known ∈ pass.updates ∧
      ∀ identity tx, merged.get? identity = some tx →
        known.get? identity = some tx ∨ tx.identity = identity ∧ request.ledger.Owns tx := by
  rcases course.updates_cases with nothing | ⟨known, one⟩ | ⟨views, known, remote, done, both⟩
  · rw [nothing] at shown
    cases shown
  · rw [one] at shown
    cases List.mem_singleton.mp shown
  · rw [both] at shown ⊢
    have last : merged = (request.ledger.merge known remote).view := by simpa using shown
    subst last
    exact ⟨known, List.mem_cons_self, fun identity tx found => Ledger.owns_of_view done found⟩

/-- Whatever steps a pass makes, it is on its course, and the store serves its ledger. -/
theorem runSteps (course : Course request heard pass) (outage : Outage) (store : Store)
    (next : List Step) :
    (∃ later, Course request later (Pass.runSteps outage store pass next).2) ∧
      store.Serves request.ledger (Pass.runSteps outage store pass next).1 := by
  induction next generalizing heard pass store with
  | nil => exact ⟨⟨heard, course⟩, .refl _ store⟩
  | cons first rest ih =>
      obtain ⟨onward, serves⟩ := ih (course.step outage store first)
        (Pass.step outage store pass first).1
      exact ⟨onward, (course.serves outage store first).trans serves⟩

end Course

theorem runSteps_receive_of_violation (outage : Outage) (store : Store) (pass : Pass)
    (known : TransactionMap) {remote : TransactionMap} {violation : Violation}
    (failed : views.foldlM pass.request.ledger.absorb remote = .error violation) :
    runSteps outage store (pass.await known remote views.length)
        ((views.map .found).map .receive) = (store, pass.abort (.violation violation)) := by
  induction views generalizing remote with
  | nil => cases failed
  | cons view others ih =>
      have onward : runSteps outage store (pass.await known remote (others.length + 1))
          (((view :: others).map .found).map .receive) =
            runSteps outage store
              (({ pass with phase := .fetching known remote (others.length + 1) } : Pass).receive
                known remote (others.length + 1) (.found view))
              ((others.map .found).map .receive) := rfl
      rw [List.length_cons, onward]
      rw [List.foldlM_cons] at failed
      cases folded : pass.request.ledger.absorb remote view with
      | error other =>
          rw [folded] at failed
          cases failed
          simp only [receive, folded]
          exact runSteps_receive_of_abort _ _ _
      | ok after =>
          rw [folded] at failed
          simp only [receive, folded, await_phase, Nat.add_sub_cancel]
          exact ih failed

/-- A pass that hears of a transaction which does not belong to its ledger writes nothing. -/
theorem run_of_violation {violation : Violation} (loads : Loads outage store request known)
    (count : views.length = request.addresses.length)
    (failed : request.ledger.remote views = .error violation) :
    run outage store request (views.map .found) =
      (store, (opened request known).abort (.violation violation)) := by
  have received := runSteps_receive_of_violation outage store (opened request known) known failed
  rw [run_eq, load_of_loads loads, ← count, received]
  rfl

/-- Whatever the queries answer, all that a pass is about to write or shows beyond what it knows
belongs to its ledger. It writes nothing else, and leaves alone the rows of other chains, the
remarks and the wallets. Where all queries find something, and any of it does not belong to the
ledger, the pass fails with that, shows no merged view and leaves the store as it was. -/
theorem isolated (outage : Outage) (store : Store) (request : Request) :
    (∀ next : List Step,
      let reached := runSteps outage store { request } next
      (∀ tx ∈ reached.2.phase.batches, request.ledger.Owns tx) ∧
      (∀ merged, Update.merged merged ∈ reached.2.updates →
        ∃ known, Update.known known ∈ reached.2.updates ∧
          ∀ identity tx, merged.get? identity = some tx →
            known.get? identity = some tx ∨ tx.identity = identity ∧ request.ledger.Owns tx) ∧
      store.Serves request.ledger reached.1 ∧
      ∀ identity, identity.chain ≠ request.ledger.chain →
        reached.1.rows.get? identity = store.rows.get? identity) ∧
    ∀ (known : TransactionMap) (views : List TransactionMap),
      Loads outage store request known → views.length = request.addresses.length →
      (∃ view ∈ views, ∃ tx ∈ view.values, ¬ request.ledger.Owns tx) →
      ∃ violation, (∃ view ∈ views, ∃ tx ∈ view.values, tx.identity = violation.identity ∧
          request.ledger.misfit? tx = some violation.misfit) ∧
        let reached := run outage store request (views.map .found)
        reached.1 = store ∧ reached.2.phase = .ended ∧
        reached.2.tracker.published.stage = .done .failed ∧
        reached.2.problems = [.violation violation] ∧ reached.2.updates = [.known known] := by
  constructor
  · intro next reached
    obtain ⟨⟨later, course⟩, serves⟩ := Course.opening.runSteps outage store next
    exact ⟨fun tx member => course.owns_of_batches member, fun merged shown =>
      course.owns_of_merged shown, serves, fun identity elsewhere => serves.foreign elsewhere⟩
  · rintro known views loads count ⟨view, among, tx, member, alien⟩
    obtain ⟨violation, failed⟩ :=
      Ledger.exists_violation (Ledger.mem_sightings.mpr ⟨view, among, member⟩) alien
    obtain ⟨culprit, sighted, found⟩ := Ledger.exists_misfit_of_remote failed
    obtain ⟨origin, among, member⟩ := Ledger.mem_sightings.mp sighted
    refine ⟨violation, ⟨origin, among, culprit, member, found⟩, ?_⟩
    intro reached
    have ended : reached = (store, (opened request known).abort (.violation violation)) :=
      run_of_violation loads count failed
    rw [ended]
    exact ⟨rfl, rfl, ((at_opened request known).fail rfl).shown, rfl, rfl⟩

/-- An engine of another chain is told of a transaction on this one. -/
theorem isolated_sample :
    let request := { Sample.request Sample.first with ledger := ⟨.block, ⟨"base"⟩⟩ }
    let reached := run .none .empty request [.found (Sample.answer Sample.first)]
    reached.1 = .empty ∧ reached.2.updates = [.known .empty] ∧
      reached.2.problems = [.violation ⟨(Sample.shared []).identity,
        .foreignChain ⟨"base"⟩ Sample.ledger.chain⟩] := by
  intro request reached
  have alien : ¬ request.ledger.Owns (Sample.shared [Sample.transfer Sample.first 0]) := fun owns =>
    absurd owns.chain (by decide)
  obtain ⟨_, _, stores, _, _, _, shown⟩ := (isolated .none .empty request).2 .empty
    [Sample.answer Sample.first] ⟨[Sample.first], by decide +kernel, by decide +kernel⟩ rfl
    ⟨_, List.mem_singleton_self _, _, by decide +kernel, alien⟩
  exact ⟨stores, shown, by decide +kernel⟩

end Pass

end Passbook
