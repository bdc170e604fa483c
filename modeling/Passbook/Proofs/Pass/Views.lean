import Passbook.Proofs.Pass.Phases
/-!
Where the views of a pass come from. Whatever the store is at each step, a local view is what the
store showed at some step, and a merged view is a merge of the local one with a fold of what was
heard. So what holds of all that the store shows and of all that is heard can be told of every view.
-/

namespace Passbook.Pass

/-- Local views are of one sort, and what they are merged with, and what is folded so far, is of
another. -/
structure Draws (copies found : TransactionMap → Prop) (pass : Pass) : Prop where
  known : ∀ known, Update.known known ∈ pass.updates → copies known
  merged : ∀ view, Update.merged view ∈ pass.updates → ∃ known remote,
    Update.known known ∈ pass.updates ∧ found remote ∧
      view = (pass.request.ledger.merge known remote).view
  held : ∀ known remote awaited, pass.phase = .fetching known remote awaited →
    Update.known known ∈ pass.updates ∧ found remote

variable {copies found : TransactionMap → Prop} {pass : Pass}

namespace Draws

theorem begin (copies found : TransactionMap → Prop) (request : Request) :
    Draws copies found { request } where
  known := fun _ member => absurd member List.not_mem_nil
  merged := fun _ member => absurd member List.not_mem_nil
  held := by rintro _ _ _ ⟨⟩

/-- A pass that listens no longer has nothing more to show. -/
theorem silent (draws : pass.Draws copies found) {after : Pass}
    (own : after.request = pass.request) (shown : after.updates = pass.updates)
    (deaf : ∀ known remote awaited, after.phase ≠ .fetching known remote awaited) :
    after.Draws copies found where
  known := shown ▸ draws.known
  merged := by
    rw [shown, own]
    exact draws.merged
  held := fun known remote awaited phase => absurd phase (deaf known remote awaited)

theorem await (draws : pass.Draws copies found) {known remote : TransactionMap}
    (shown : Update.known known ∈ pass.updates) (folded : found remote) (awaited : Nat) :
    (pass.await known remote awaited).Draws copies found := by
  cases awaited with
  | zero =>
      refine ⟨fun view member => ?_, fun view member => ?_, by rintro _ _ _ ⟨⟩⟩
      · exact draws.known view (known_mem_await.mp member)
      · rcases List.mem_append.mp member with before | now
        · obtain ⟨copy, other, there, sort, same⟩ := draws.merged view before
          exact ⟨copy, other, known_mem_await.mpr there, sort, same⟩
        · cases List.mem_singleton.mp now
          exact ⟨known, remote, known_mem_await.mpr shown, folded, rfl⟩
  | succ awaited =>
      refine ⟨draws.known, draws.merged, ?_⟩
      rintro _ _ _ ⟨⟩
      exact ⟨shown, folded⟩

/-- What is loaded is shown at once, and what is heard is folded into what was found before. -/
theorem step (draws : pass.Draws copies found) (outage : Outage) {store : Store} {next : Step}
    (loaded : ∀ addresses known, store.snapshot pass.request.ledger.chain addresses
      pass.request.start pass.request.viewer = .ok known → copies known)
    (nothing : found .empty)
    (folded : ∀ remote view after, next = .receive (.found view) → found remote →
      pass.request.ledger.absorb remote view = .ok after → found after) :
    (step outage store pass next).2.Draws copies found := by
  have stepped := stepsTo outage store pass next
  generalize Pass.step outage store pass next = reached at stepped ⊢
  cases stepped with
  | idle => exact draws
  | aborted problem => exact draws.silent rfl rfl (by rintro _ _ _ ⟨⟩)
  | @loaded addresses known opening read taken =>
      refine await ⟨fun view member => ?_, fun view member => ?_, ?_⟩
        (List.mem_append_right _ (List.mem_singleton_self _)) nothing addresses.length
      · rcases List.mem_append.mp member with before | now
        · exact draws.known view before
        · cases List.mem_singleton.mp now
          exact loaded addresses known taken
      · rcases List.mem_append.mp member with before | now
        · obtain ⟨copy, other, there, sort, same⟩ := draws.merged view before
          exact ⟨copy, other, List.mem_append_left _ there, sort, same⟩
        · cases List.mem_singleton.mp now
      · intro known remote awaited phase
        cases opening.symm.trans phase
  | @folded known remote view after awaited fetching absorbed =>
      obtain ⟨shown, before⟩ := draws.held known remote awaited fetching
      exact draws.await shown (folded remote view after rfl before absorbed) (awaited - 1)
  | added => exact draws.silent rfl rfl (by rintro _ _ _ ⟨⟩)
  | replaced => exact draws.silent rfl rfl (by rintro _ _ _ ⟨⟩)

end Draws

theorem request_step (outage : Outage) (store : Store) (pass : Pass) (next : Step) :
    (step outage store pass next).2.request = pass.request := by
  have stepped := stepsTo outage store pass next
  generalize step outage store pass next = reached at stepped ⊢
  cases stepped with
  | @loaded addresses => cases addresses.length <;> rfl
  | @folded _ _ _ _ awaited => cases awaited - 1 <;> rfl
  | _ => rfl

end Passbook.Pass
