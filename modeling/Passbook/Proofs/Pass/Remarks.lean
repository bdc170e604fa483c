import Passbook.Proofs.Pass.History
import Passbook.Proofs.Pass.Isolation
import Passbook.Proofs.Pass.Views
/-!
What a pass shows of remarks. A local view has what the store has, and a revised copy keeps what
the local one shows; a transaction that is new to the pass is shown as the remote ledger tells it,
without any remark, even if there is one in the store.
-/

namespace Passbook

namespace TransactionMap

/-- Every transaction in the view has the annotations of its identity. -/
def Noted (noted : Identity → Annotations) (view : TransactionMap) : Prop :=
  ∀ identity tx, view.get? identity = some tx → tx.annotations = noted identity

/-- Nothing is noted on any transaction, as with all that remote ledgers tell. -/
def Bare (view : TransactionMap) : Prop :=
  ∀ identity tx, view.get? identity = some tx → tx.annotations = {}

theorem bare_empty : Bare .empty := by
  rintro identity tx ⟨⟩

end TransactionMap

namespace Transaction

@[simp] theorem annotations_normalized (tx : Transaction) :
    tx.normalized.annotations = tx.annotations := by
  cases tx <;> rfl

end Transaction

namespace Ledger
variable {ledger : Ledger} {known remote view after : TransactionMap}

theorem bare_of_absorb (before : remote.Bare) (told : ∀ tx ∈ view.values, tx.annotations = {})
    (folded : ledger.absorb remote view = .ok after) : after.Bare := by
  intro identity tx stands
  rw [(foldlM_sight_eq_ok_iff.mp folded).2] at stands
  have sighted : ∀ tx ∈ view.values.filter fun tx => tx.identity = identity,
      tx.annotations = {} := fun tx member => told tx (List.mem_filter.mp member).1
  refine @blended_induction ledger (fun tx => tx.annotations = {}) _ ?_ ?_ _ (before identity) _
    stands
  · intro tx member
    rw [Transaction.annotations_normalized, sighted tx member]
  · intro seen _ tx member
    rw [annotations_mergeEvents, Transaction.annotations_normalized, sighted tx member]

/-- A merged view has what is noted on the copies that were known, and no more. -/
theorem annotations_of_view {noted : Identity → Annotations} (copies : known.Noted noted)
    (found : remote.Bare) {identity : Identity} {tx : Transaction}
    (shown : (ledger.merge known remote).view.get? identity = some tx) :
    tx.annotations = if known.contains identity then noted identity else {} := by
  rw [get?_view, Option.or_eq_some_iff] at shown
  cases held : known.get? identity with
  | none =>
      rw [SortedMap.contains_eq_false_iff.mpr held]
      rcases shown with written | ⟨_, copy⟩
      · obtain ⟨sighting, seen, written⟩ := Option.bind_eq_some_iff.mp written
        rw [judge_of_unknown held] at written
        cases written
        exact found identity _ seen
      · cases held.symm.trans copy
  | some copy =>
      rw [SortedMap.contains_iff_exists.mpr ⟨copy, held⟩]
      rcases shown with written | ⟨_, same⟩
      · obtain ⟨sighting, _, written⟩ := Option.bind_eq_some_iff.mp written
        rw [judge_of_known held] at written
        split at written
        · cases written
        · cases written
          rw [annotations_revision]
          exact copies identity copy held
      · cases held.symm.trans same
        exact copies identity _ held

end Ledger

namespace Store

theorem noted_of_snapshot {store : Store} {chain : ChainId} {addresses : List String}
    {start : UInt64} {viewer : Option Int64} {view : TransactionMap}
    (done : store.snapshot chain addresses start viewer = .ok view) :
    view.Noted (store.annotations viewer) := by
  intro identity tx found
  obtain ⟨row, _, _, read⟩ := (get?_of_snapshot done).mp found
  exact (Row.transaction_eq_ok read).2.1

end Store

/-- However far a pass comes, it changes nothing of its store but the rows. -/
theorem Pass.remarks_of_runSteps (outage : Pass.Outage) (store : Store) (pass : Pass)
    (next : List Pass.Step) :
    ∃ rows, (Pass.runSteps outage store pass next).1 = { store with rows } := by
  induction next generalizing store pass with
  | nil => exact ⟨store.rows, rfl⟩
  | cons first rest ih =>
      obtain ⟨rows, stepped⟩ := Pass.remarks_of_step outage store pass first
      obtain ⟨later, reached⟩ := ih (Pass.step outage store pass first).1
        (Pass.step outage store pass first).2
      have onward : Pass.runSteps outage store pass (first :: rest) =
          Pass.runSteps outage (Pass.step outage store pass first).1
            (Pass.step outage store pass first).2 rest := rfl
      exact ⟨later, by rw [onward, reached, stepped]⟩

namespace Deed

/-- It writes no remark of anyone. -/
def IsSilent : Deed → Prop
  | .remark _ _ => False
  | .note _ _ => False
  | _ => True

theorem annotations_of_silent {deed : Deed} (silent : deed.IsSilent) (store : Store) :
    (deed.apply store).annotations = store.annotations := by
  cases deed with
  | add batch =>
      cases done : store.addNew batch with
      | error problem => simp only [apply, done, settle]
      | ok after => simpa only [apply, done, settle] using Store.annotations_addNew done
  | replace batch =>
      cases done : store.replace batch with
      | error problem => simp only [apply, done, settle]
      | ok after => simpa only [apply, done, settle] using Store.annotations_replace done
  | remark identity noted => exact silent.elim
  | note identity noted => exact silent.elim
  | link holder address => rfl
  | pass outage request arrivals =>
      obtain ⟨rows, built⟩ :=
        Pass.remarks_of_runSteps outage store { request } (Pass.steps arrivals)
      rw [apply, Pass.run, built]
      rfl

end Deed

namespace Pass

/-- What happens while a pass is under way: it makes a step, or something else is done to the
store. -/
inductive Event where
  | step (outage : Outage) (next : Step)
  | other (deed : Deed)

namespace Event

def apply (reached : Store × Pass) : Event → Store × Pass
  | .step outage next => Pass.step outage reached.1 reached.2 next
  | .other deed => (deed.apply reached.1, reached.2)

/-- If it is an answer, nothing is noted on what it tells. -/
def Bare : Event → Prop
  | .step _ (.receive (.found view)) => ∀ tx ∈ view.values, tx.annotations = {}
  | _ => True

/-- No remark is written. -/
def IsSilent : Event → Prop
  | .step _ _ => True
  | .other deed => deed.IsSilent

end Event

/-- A pass for the request, and its store, after these events. -/
def amid (store : Store) (request : Request) (events : List Event) : Store × Pass :=
  events.foldl Event.apply (store, { request })

/-- What the pass knows is annotated so, and what it hears is not annotated. -/
abbrev DrawsNoted (noted : Identity → Annotations) (pass : Pass) : Prop :=
  pass.Draws (TransactionMap.Noted noted) TransactionMap.Bare

variable {store : Store} {pass : Pass} {request : Request} {events : List Event}

theorem DrawsNoted.step
    (draws : pass.DrawsNoted (store.annotations pass.request.viewer)) (outage : Outage)
    {next : Step} (bare : (Event.step outage next).Bare) :
    (step outage store pass next).2.DrawsNoted (store.annotations pass.request.viewer) := by
  refine Draws.step draws outage (fun _ _ taken => Store.noted_of_snapshot taken)
    TransactionMap.bare_empty ?_
  rintro remote view after rfl before absorbed
  exact Ledger.bare_of_absorb before bare absorbed

theorem annotations_step (outage : Outage) (store : Store) (pass : Pass) (next : Step) :
    (step outage store pass next).1.annotations = store.annotations := by
  obtain ⟨rows, built⟩ := remarks_of_step outage store pass next
  rw [built]
  rfl

/-- As long as nobody writes remarks, all that a pass knows is annotated as it was at first. -/
theorem draws_amid (bare : ∀ event ∈ events, event.Bare)
    (silent : ∀ event ∈ events, event.IsSilent) :
    (amid store request events).1.annotations = store.annotations ∧
      (amid store request events).2.request = request ∧
      (amid store request events).2.DrawsNoted (store.annotations request.viewer) := by
  suffices onward : ∀ reached : Store × Pass, reached.1.annotations = store.annotations →
      reached.2.request = request →
      reached.2.DrawsNoted (store.annotations request.viewer) →
      (events.foldl Event.apply reached).1.annotations = store.annotations ∧
        (events.foldl Event.apply reached).2.request = request ∧
        (events.foldl Event.apply reached).2.DrawsNoted (store.annotations request.viewer) from
    onward (store, { request }) rfl rfl (Draws.begin _ _ request)
  induction events with
  | nil => exact fun reached kept own draws => ⟨kept, own, draws⟩
  | cons event rest ih =>
      rintro ⟨current, pass⟩ kept own draws
      obtain ⟨told, later⟩ := List.forall_mem_cons.mp bare
      obtain ⟨quiet, still⟩ := List.forall_mem_cons.mp silent
      refine ih later still _ ?_ ?_ ?_
      · cases event with
        | step outage next => exact (annotations_step outage current pass next).trans kept
        | other deed => exact (Deed.annotations_of_silent quiet current).trans kept
      · cases event with
        | step outage next => exact (request_step outage current pass next).trans own
        | other deed => exact own
      · cases event with
        | step outage next =>
            have same : store.annotations request.viewer =
                current.annotations pass.request.viewer := by rw [← kept, ← own]
            rw [same] at draws ⊢
            exact draws.step outage told
        | other deed => exact draws

/-- A merged view shows what is noted on a transaction if the pass knew a copy of it, and shows
nothing as noted otherwise: so it has the remarks of the store exactly where a copy was known or
there are none. -/
theorem merged_noted_iff (store : Store) (request : Request) {events : List Event}
    (bare : ∀ event ∈ events, event.Bare) (silent : ∀ event ∈ events, event.IsSilent) :
    let reached := amid store request events
    reached.1.annotations = store.annotations ∧
      ∀ merged, Update.merged merged ∈ reached.2.updates →
        ∃ known, Update.known known ∈ reached.2.updates ∧
          ∀ identity tx, merged.get? identity = some tx →
            (tx.annotations = store.annotations request.viewer identity ∨ tx.annotations = {}) ∧
            (tx.annotations = store.annotations request.viewer identity ↔
              known.contains identity = true ∨
                store.annotations request.viewer identity = {}) := by
  intro reached
  obtain ⟨kept, own, draws⟩ := draws_amid bare silent
  refine ⟨kept, fun merged shown => ?_⟩
  obtain ⟨known, remote, among, found, rfl⟩ := draws.merged merged shown
  refine ⟨known, among, fun identity tx held => ?_⟩
  have noted := Ledger.annotations_of_view (draws.known known among) found held
  by_cases copied : known.contains identity = true
  · rw [if_pos copied] at noted
    exact ⟨.inl noted, fun _ => .inl copied, fun _ => noted⟩
  · rw [if_neg copied] at noted
    refine ⟨.inr noted, fun same => .inr (same.symm.trans noted), fun either => ?_⟩
    rw [noted, either.resolve_left copied]

end Pass

namespace Sample

/-- A remark of the sender of the transaction of both wallets, and a note of an account on it. -/
def remarked : List Deed :=
  [.remark (shared []).identity ⟨"rent", false⟩, .note (shared []).identity ⟨7, "split"⟩]

def noted : Annotations := ⟨some ⟨"rent", false⟩, some ⟨7, "split"⟩⟩

/-- The transaction with these events of the first wallet, as the account sees it. -/
def seen (logIndexes : List Int64) : TransactionMap :=
  .ofTransactions [(shared (logIndexes.map (transfer first))).withAnnotations noted]

/-- A pass of the account, while a transaction is stored by another. -/
def overtaken : List Pass.Event :=
  [.step .none .load, .other (.add [shared [] 11]),
    .step .none (.receive (.found (answer first)))]

end Sample

namespace Pass

/-- The wallet's own copy is revised, and keeps its remarks. -/
theorem merged_noted_iff_sample :
    let store := Store.after (.add [Sample.shared [Sample.transfer Sample.first 2]] ::
      Sample.remarked)
    let request := { Sample.request Sample.first with viewer := some 7 }
    (amid store request Sample.overtaken).2.updates =
        [.known (Sample.seen [2]), .merged (Sample.seen [0, 2])] ∧
      store.annotations (some 7) (Sample.shared []).identity = Sample.noted ∧
      ∀ tx, (Sample.seen [0, 2]).get? (Sample.shared []).identity = some tx →
        tx.annotations = store.annotations (some 7) (Sample.shared []).identity := by
  intro store request
  have bare : ∀ event ∈ Sample.overtaken, event.Bare := by
    simp only [Sample.overtaken, List.forall_mem_cons, List.not_mem_nil, false_implies,
      implies_true, Event.Bare, true_and, and_true]
    decide +kernel
  have silent : ∀ event ∈ Sample.overtaken, event.IsSilent := by
    simp [Sample.overtaken, Event.IsSilent, Deed.IsSilent]
  have shown : (amid store request Sample.overtaken).2.updates =
      [.known (Sample.seen [2]), .merged (Sample.seen [0, 2])] := by
    decide +kernel
  refine ⟨shown, by decide +kernel, fun tx held => ?_⟩
  obtain ⟨known, among, exactly⟩ := (merged_noted_iff store request bare silent).2
    (Sample.seen [0, 2]) (by rw [shown]; exact List.mem_cons_of_mem _ List.mem_cons_self)
  have first : known = Sample.seen [2] := by
    rw [shown] at among
    simpa using among
  exact (exactly _ tx held).2.mpr (.inl (by rw [first]; decide +kernel))

/-- A remark is written before its transaction is stored, and one on a transaction that is stored
for another wallet: in neither case does the merged view show it, although the store has it. -/
theorem remark_not_shown :
    let merged := TransactionMap.ofTransactions [Sample.shared [Sample.transfer Sample.first 0]]
    (∀ deeds ∈ [Sample.remarked, .add [Sample.shared [Sample.transfer Sample.second 1]] ::
        Sample.remarked],
      let store := Store.after deeds
      let request := { Sample.request Sample.first with viewer := some 7 }
      let reached := run .none store request [.found (Sample.answer Sample.first)]
      reached.2.updates = [.known .empty, .merged merged] ∧
        store.annotations (some 7) (Sample.shared []).identity = Sample.noted ∧
        reached.1.annotations (some 7) (Sample.shared []).identity = Sample.noted) ∧
    merged.values.map Transaction.annotations = [{}] := by
  decide +kernel

end Pass

end Passbook
