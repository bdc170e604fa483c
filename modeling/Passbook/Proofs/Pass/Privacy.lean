import Passbook.Proofs.Pass.Remarks
/-!
Who can see notes. What an account notes on a transaction is seen by nobody else: stores that
differ in the notes of others answer a viewer alike, and a pass of the viewer over them goes alike
from step to step and leaves the notes of both as they are.
-/

namespace Passbook

namespace Store

/-- The stores differ at most in what accounts other than the viewer have noted. -/
structure SameFor (viewer : Option Int64) (first second : Store) : Prop where
  rows : second.rows = first.rows
  senderRemarks : second.senderRemarks = first.senderRemarks
  wallets : second.wallets = first.wallets
  own : ∀ account, viewer = some account → second.remarksOf account = first.remarksOf account

/-- Addresses are told by the wallets that are linked. -/
def resolver (store : Store) : Pass.Resolver := fun holder => .ok (store.addressesOf holder)

namespace SameFor
variable {viewer : Option Int64} {first second : Store}

theorem annotations (same : first.SameFor viewer second) :
    second.annotations viewer = first.annotations viewer := by
  funext identity
  cases viewer with
  | none => simp only [Store.annotations, same.senderRemarks, Option.bind_none]
  | some account =>
      simp only [Store.annotations, same.senderRemarks, Option.bind_some, same.own account rfl]

theorem snapshot (same : first.SameFor viewer second) (chain : ChainId) (addresses : List String)
    (start : UInt64) :
    second.snapshot chain addresses start viewer = first.snapshot chain addresses start viewer := by
  simp only [Store.snapshot, Store.read, same.rows, same.annotations]

theorem transaction? (same : first.SameFor viewer second) (identity : Identity) :
    second.transaction? identity viewer = first.transaction? identity viewer := by
  simp only [Store.transaction?, same.rows, same.annotations]

theorem resolver (same : first.SameFor viewer second) : second.resolver = first.resolver := by
  funext holder
  simp only [Store.resolver, addressesOf, walletsOf, same.wallets]

/-- Both stores have the same rows written. -/
theorem withRows (same : first.SameFor viewer second) (rows : Rows) :
    ({ first with rows } : Store).SameFor viewer { second with rows } :=
  ⟨rfl, same.senderRemarks, same.wallets, same.own⟩

end SameFor

theorem addNew_of_rows {first second : Store} (rows : second.rows = first.rows)
    (batch : List Transaction) :
    second.addNew batch =
      (first.addNew batch).map fun after => { second with rows := after.rows } := by
  simp only [addNew, rows]
  cases batch.foldlM Rows.addNew first.rows <;> rfl

theorem replace_of_rows {first second : Store} (rows : second.rows = first.rows)
    (batch : List Transaction) :
    second.replace batch =
      (first.replace batch).map fun after => { second with rows := after.rows } := by
  simp only [replace, rows]
  cases first.rows.drop batch with
  | error problem => rfl
  | ok left =>
      cases done : batch.foldlM Rows.addNew left <;> simp only [bind, Except.bind, done] <;> rfl

end Store

namespace Pass

variable {first second : Store} {pass : Pass} {viewer : Option Int64}

/-- The pass goes on alike, and the second store has the rows of the first. -/
theorem step_of_sameFor (same : first.SameFor pass.request.viewer second) (outage : Outage)
    (next : Step) :
    step outage second pass next =
      ({ second with rows := (step outage first pass next).1.rows },
        (step outage first pass next).2) := by
  have still : ({ second with rows := first.rows } : Store) = second := by rw [← same.rows]
  cases phase : pass.phase with
  | opening =>
      cases next with
      | load =>
          have loaded : pass.load outage second = pass.load outage first := by
            simp only [load, same.snapshot]
          simp only [step, phase, loaded, still]
      | _ => simp only [step, phase, still]
  | fetching known remote awaited => cases next <;> simp only [step, phase, still]
  | adding fresh revised =>
      cases next with
      | add =>
          simp only [step, phase, Store.addNew_of_rows same.rows, Outage.guard]
          cases outage .addNew with
          | some problem => simp only [still]
          | none => cases first.addNew fresh <;> simp only [Except.map, still]
      | _ => simp only [step, phase, still]
  | replacing revised =>
      cases next with
      | replace =>
          simp only [step, phase, Store.replace_of_rows same.rows, Outage.guard]
          cases outage .replace with
          | some problem => simp only [still]
          | none => cases first.replace revised <;> simp only [Except.map, still]
      | _ => simp only [step, phase, still]
  | ended => simp only [step_of_ended phase, still]

theorem runSteps_of_sameFor (same : first.SameFor pass.request.viewer second) (outage : Outage)
    (next : List Step) :
    runSteps outage second pass next =
      ({ second with rows := (runSteps outage first pass next).1.rows },
        (runSteps outage first pass next).2) := by
  induction next generalizing first second pass with
  | nil => simp only [runSteps, List.foldl_nil, ← same.rows]
  | cons head rest ih =>
      obtain ⟨rows, stepped⟩ := remarks_of_step outage first pass head
      have onward : ∀ store, runSteps outage store pass (head :: rest) =
          runSteps outage (step outage store pass head).1 (step outage store pass head).2 rest :=
        fun _ => rfl
      have own := request_step outage first pass head
      rw [onward, onward, step_of_sameFor same, stepped]
      exact ih (own.symm ▸ same.withRows rows)

theorem amid_steps (outage : Outage) (store : Store) (request : Request) (next : List Step) :
    amid store request (next.map (.step outage)) = runSteps outage store { request } next := by
  rw [amid, List.foldl_map]
  rfl

theorem viewer_of_annotations {store : Store} {identity : Identity} {noted : AccountRemark}
    (shown : (store.annotations viewer identity).account = some noted) :
    viewer = some noted.account := by
  cases viewer with
  | none => cases shown
  | some account =>
      obtain ⟨message, _, rfl⟩ := Option.map_eq_some_iff.mp shown
      rfl

/-- What is noted in any view is noted by the viewer. -/
theorem viewer_of_draws {store : Store} (draws : pass.DrawsNoted (store.annotations viewer))
    {update : Update} (member : update ∈ pass.updates) {identity : Identity} {tx : Transaction}
    (shown : update.view.get? identity = some tx) {noted : AccountRemark}
    (own : tx.annotations.account = some noted) : viewer = some noted.account := by
  cases update with
  | known known =>
      rw [draws.known known member identity tx shown] at own
      exact viewer_of_annotations own
  | merged merged =>
      obtain ⟨known, remote, among, found, rfl⟩ := draws.merged merged member
      rw [Ledger.annotations_of_view (draws.known known among) found shown] at own
      split at own
      · exact viewer_of_annotations own
      · cases own

/-- A viewer cannot tell stores apart that differ in the notes of other accounts: they answer
alike, and a pass goes alike over both, with the same views, statistics and problems, writes the
same rows and leaves the rest of each store as it was. If nothing is noted on what the queries
find, every note in its views is of the viewer's account, and without a viewer there is none. -/
theorem notes_private (same : first.SameFor viewer second) :
    (∀ chain addresses start,
      second.snapshot chain addresses start viewer =
        first.snapshot chain addresses start viewer) ∧
    (∀ identity, second.transaction? identity viewer = first.transaction? identity viewer) ∧
    (∀ holder, resolve (some second.resolver) holder = resolve (some first.resolver) holder) ∧
    ∀ (outage : Outage) (request : Request), request.viewer = viewer → ∀ next : List Step,
      let reached := runSteps outage first { request } next
      runSteps outage second { request } next =
          ({ second with rows := reached.1.rows }, reached.2) ∧
        reached.1 = { first with rows := reached.1.rows } ∧
        ((∀ view, Step.receive (.found view) ∈ next → ∀ tx ∈ view.values, tx.annotations = {}) →
          ∀ update ∈ reached.2.updates, ∀ identity tx, update.view.get? identity = some tx →
            ∀ noted, tx.annotations.account = some noted → viewer = some noted.account) := by
  refine ⟨same.snapshot, same.transaction?, fun holder => by rw [same.resolver], ?_⟩
  rintro outage request rfl next reached
  refine ⟨runSteps_of_sameFor same outage next, ?_, ?_⟩
  · obtain ⟨rows, built⟩ := remarks_of_runSteps outage first { request } next
    have ended : reached.1 = { first with rows } := built
    rw [ended]
  · intro bare update member identity tx shown noted own
    have told : ∀ event ∈ next.map (Event.step outage), event.Bare := by
      intro event among
      obtain ⟨step, member, rfl⟩ := List.mem_map.mp among
      unfold Event.Bare
      split
      case h_1 view same => exact bare view (by cases same; exact member)
      case h_2 => trivial
    have silent : ∀ event ∈ next.map (Event.step outage), event.IsSilent := by
      intro event among
      obtain ⟨step, _, rfl⟩ := List.mem_map.mp among
      trivial
    obtain ⟨_, _, draws⟩ := @draws_amid first request _ told silent
    rw [amid_steps] at draws
    exact viewer_of_draws draws member shown own

/-- Another account has a note on the transaction that the pass revises. -/
theorem notes_private_sample :
    let first := Store.after (.add [Sample.shared [Sample.transfer Sample.first 2]] ::
      Sample.remarked)
    let second := Deed.apply first (.note (Sample.shared []).identity ⟨8, "secret"⟩)
    let request := { Sample.request Sample.first with viewer := some 7 }
    let next := steps [.found (Sample.answer Sample.first)]
    (runSteps .none first { request } next).2.updates =
        [.known (Sample.seen [2]), .merged (Sample.seen [0, 2])] ∧
      second.accountRemarks ≠ first.accountRemarks ∧
      (runSteps .none second { request } next).2 = (runSteps .none first { request } next).2 ∧
      (runSteps .none second { request } next).1.accountRemarks = second.accountRemarks ∧
      ∀ tx, (Sample.seen [0, 2]).get? (Sample.shared []).identity = some tx →
        ∀ noted, tx.annotations.account = some noted → noted.account = 7 := by
  intro first second request next
  have same : first.SameFor (some 7) second := by
    refine ⟨by decide +kernel, by decide +kernel, by decide +kernel, ?_⟩
    rintro _ ⟨⟩
    decide +kernel
  have shown : (runSteps .none first { request } next).2.updates =
      [.known (Sample.seen [2]), .merged (Sample.seen [0, 2])] := by
    decide +kernel
  obtain ⟨alike, _, own⟩ := (notes_private same).2.2.2 .none request rfl next
  refine ⟨shown, by decide +kernel, by rw [alike], by rw [alike], fun tx held noted account => ?_⟩
  have bare : ∀ view, Step.receive (.found view) ∈ next →
      ∀ tx ∈ view.values, tx.annotations = {} := by
    intro view member
    have only : view = Sample.answer Sample.first := by simpa [next, steps] using member
    rw [only]
    decide +kernel
  have last : Update.merged (Sample.seen [0, 2]) ∈
      (runSteps .none first { request } next).2.updates := by
    rw [shown]
    exact List.mem_cons_of_mem _ List.mem_cons_self
  exact (Option.some.inj (own bare _ last _ tx held noted account)).symm

end Pass

end Passbook
