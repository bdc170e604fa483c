import Passbook.Proofs.Pass.History
import Passbook.Proofs.Pass.Views
import Passbook.Proofs.Query.Findings
import Passbook.Proofs.Store.Snapshots
/-!
How far back a view goes. Queries look for versions from the start on, whatever the start is; a
store looks no further than the greatest version that it can hold, and shows that version although
the start lies beyond it.
-/

namespace Passbook

open Retry (Answers)

/-- The version is not before the start, or it is the greatest that a store can hold and the start
is one that no store can. -/
def Identity.Onward (start : UInt64) (identity : Identity) : Prop :=
  start ≤ identity.version ∨
    Word.limit ≤ start.toNat ∧ identity.version.toNat = Word.limit - 1

theorem Identity.onward_iff_of_lt {start : UInt64} (small : start.toNat < Word.limit)
    {identity : Identity} : identity.Onward start ↔ start ≤ identity.version := by
  unfold Onward
  constructor
  · rintro (onward | ⟨large, _⟩)
    · exact onward
    · omega
  · exact .inl

/-- Every identity in the view is onward. -/
def TransactionMap.From (start : UInt64) (view : TransactionMap) : Prop :=
  ∀ identity, view.contains identity = true → identity.Onward start

theorem TransactionMap.from_empty {start : UInt64} :
    TransactionMap.From start .empty := fun _ held => Bool.noConfusion held

namespace Store
variable {store : Store} {chain : ChainId} {addresses : List String} {start : UInt64}
  {viewer : Option Int64} {view : TransactionMap}

/-- A position that rows cannot have is taken for the last one that they can. -/
theorem clamped_le_iff {identity : Identity} (small : identity.version.toNat < Word.limit) :
    clamped start ≤ identity.version ↔ identity.Onward start := by
  by_cases inside : start.toNat < Word.limit
  · rw [clamped_of_lt inside, Identity.onward_iff_of_lt inside]
  · have highest : (UInt64.ofNat (Word.limit - 1)).toNat = Word.limit - 1 := by decide
    have last : clamped start = UInt64.ofNat (Word.limit - 1) := by
      refine if_neg ?_
      rw [UInt64.le_iff_toNat_le, highest]
      omega
    unfold Identity.Onward
    rw [last, UInt64.le_iff_toNat_le, UInt64.le_iff_toNat_le, highest]
    omega

/-- What a snapshot shows is onward, and of what is onward and selected it leaves nothing out. -/
theorem contains_snapshot_iff (reach : store.Every fun identity _ =>
      identity.version.toNat < Word.limit)
    (done : store.snapshot chain addresses start viewer = .ok view) {identity : Identity} :
    view.contains identity = true ↔ identity.Onward start ∧
      ∃ row, store.rows.get? identity = some row ∧ identity.chain = chain ∧
        involves row addresses = true := by
  rw [contains_of_snapshot done]
  have chosen : ∀ row, store.rows.get? identity = some row →
      (selects chain addresses start identity row = true ↔
        identity.chain = chain ∧ identity.Onward start ∧ involves row addresses = true) := by
    intro row found
    rw [← clamped_le_iff (reach identity row found)]
    simp [selects, and_assoc]
  constructor
  · rintro ⟨row, found, selected⟩
    obtain ⟨home, onward, named⟩ := (chosen row found).mp selected
    exact ⟨onward, row, found, home, named⟩
  · rintro ⟨onward, row, found, home, named⟩
    exact ⟨row, found, (chosen row found).mpr ⟨home, onward, named⟩⟩

theorem from_of_snapshot (reach : store.Every fun identity _ =>
      identity.version.toNat < Word.limit)
    (done : store.snapshot chain addresses start viewer = .ok view) : view.From start :=
  fun _ held => ((contains_snapshot_iff reach done).mp held).1

end Store

namespace Ledger
variable {ledger : Ledger} {start : UInt64} {known remote view after : TransactionMap}

theorem from_of_absorb (before : remote.From start)
    (found : ∀ tx ∈ view.values, tx.identity.Onward start)
    (folded : ledger.absorb remote view = .ok after) : after.From start := by
  intro identity held
  rw [SortedMap.contains, (foldlM_sight_eq_ok_iff.mp folded).2, blended_isSome_iff] at held
  rcases held with seen | sighted
  · exact before identity seen
  · obtain ⟨tx, member⟩ := List.exists_mem_of_ne_nil _ sighted
    obtain ⟨among, own⟩ := List.mem_filter.mp member
    rw [← of_decide_eq_true own]
    exact found tx among

theorem from_of_merge (local_ : known.From start) (remote_ : remote.From start) :
    (ledger.merge known remote).view.From start := by
  intro identity held
  rw [SortedMap.contains, get?_view, Option.isSome_or, Bool.or_eq_true] at held
  rcases held with written | copy
  · refine remote_ identity ?_
    cases seen : remote.get? identity with
    | none => simp [seen] at written
    | some tx => exact SortedMap.contains_iff_exists.mpr ⟨tx, seen⟩
  · exact local_ identity copy

end Ledger

namespace Pass
variable {pass : Pass} {store : Store}

theorem reach_step (outage : Outage) (pass : Pass) (next : Step)
    (reach : store.Every fun identity _ => identity.version.toNat < Word.limit) :
    (step outage store pass next).1.Every fun identity _ =>
      identity.version.toNat < Word.limit := by
  have entails : Store.Entails (fun _ => True) fun identity _ =>
      identity.version.toNat < Word.limit := fun tx fits _ => fits.1
  rcases step_store_cases outage store pass next with
    same | ⟨fresh, _, _, added, _⟩ | ⟨revised, _, replaced, _⟩
  · rw [same]
    exact reach
  · exact Store.every_addNew entails reach (fun _ _ => trivial) added
  · exact Store.every_replace entails reach (fun _ _ => trivial) replaced

/-- Local views show nothing before the start, and nothing is found before it. -/
abbrev DrawsFrom (start : UInt64) (pass : Pass) : Prop :=
  pass.Draws (TransactionMap.From start) (TransactionMap.From start)

/-- Nothing that is shown is before the start, as long as nothing that is heard is. -/
theorem DrawsFrom.runSteps (draws : pass.DrawsFrom pass.request.start) (outage : Outage)
    (reach : store.Every fun identity _ => identity.version.toNat < Word.limit)
    {next : List Step} (told : ∀ view, Step.receive (.found view) ∈ next →
      ∀ tx ∈ view.values, tx.identity.Onward pass.request.start) :
    (runSteps outage store pass next).2.DrawsFrom pass.request.start := by
  induction next generalizing store pass with
  | nil => exact draws
  | cons first rest ih =>
      have own := request_step outage store pass first
      have here : (step outage store pass first).2.DrawsFrom pass.request.start := by
        refine Draws.step draws outage (fun _ _ taken => Store.from_of_snapshot reach taken)
          TransactionMap.from_empty ?_
        rintro remote view after rfl before absorbed
        exact Ledger.from_of_absorb before (told view List.mem_cons_self) absorbed
      rw [← own] at here told ⊢
      exact ih here (reach_step outage pass first reach) fun view member =>
        told view (List.mem_cons_of_mem first member)

/-- Whatever the answers are and however the pass ends, it shows nothing before the start, if no
query finds anything before it. -/
theorem from_of_run (outage : Outage) (request : Request)
    (reach : store.Every fun identity _ => identity.version.toNat < Word.limit)
    {arrivals : List Arrival} (told : ∀ view, Arrival.found view ∈ arrivals →
      ∀ tx ∈ view.values, request.start ≤ tx.identity.version) {update : Update}
    (shown : update ∈ (run outage store request arrivals).2.updates) :
    update.view.From request.start := by
  have draws : (run outage store request arrivals).2.DrawsFrom request.start := by
    refine DrawsFrom.runSteps (Draws.begin _ _ request) outage reach fun view member tx among => ?_
    have heard : Arrival.found view ∈ arrivals := by simpa [steps] using member
    exact .inl (told view heard tx among)
  cases update with
  | known known => exact draws.known known shown
  | merged merged =>
      obtain ⟨known, remote, among, found, rfl⟩ := draws.merged merged shown
      exact Ledger.from_of_merge (draws.known known among) found

end Pass

namespace Store

/-- The start is a lower bound on all that is shown, but for one version: a store takes a start that
no signed word holds for the greatest that one does. -/
theorem onward_of_start (deeds : List Deed) (start : UInt64) :
    (∀ chain addresses viewer view,
      (after deeds).snapshot chain addresses start viewer = .ok view → ∀ identity,
        view.contains identity = true ↔ identity.Onward start ∧
          ∃ row, (after deeds).rows.get? identity = some row ∧ identity.chain = chain ∧
            involves row addresses = true) ∧
    (∀ (outage : Pass.Outage) (request : Pass.Request) (arrivals : List Pass.Arrival),
      request.start = start →
      (∀ view, Pass.Arrival.found view ∈ arrivals →
        ∀ tx ∈ view.values, start ≤ tx.identity.version) →
      ∀ update ∈ (Pass.run outage (after deeds) request arrivals).2.updates,
        ∀ identity, update.view.contains identity = true → identity.Onward start) ∧
    (∀ (σ : Type) (query : SequentialQuery (StateM σ)),
      (∀ version detail, Answers (query.client.transaction version) (some detail) →
        detail.version = version) →
      ∀ spelling view, Answers (query.fetchSince spelling start) view →
        ∀ tx ∈ view.values, start ≤ tx.identity.version) ∧
    (∀ (σ : Type) (query : BlockQuery (StateM σ)) (spelling : String) (view : TransactionMap),
      Answers (query.fetchSince spelling start) view →
        ∀ tx ∈ view.values, start ≤ tx.identity.version) ∧
    (start.toNat < Word.limit →
      ∀ identity : Identity, identity.Onward start → start ≤ identity.version) := by
  have reach := version_lt_of_after deeds
  refine ⟨fun chain addresses viewer view done identity => contains_snapshot_iff reach done,
    ?_, ?_, ?_, fun small identity => (Identity.onward_iff_of_lt small).mp⟩
  · rintro outage request arrivals rfl told update shown
    exact Pass.from_of_run outage request reach told shown
  · intro σ query own spelling view answered tx member
    obtain ⟨identity, found⟩ := SortedMap.mem_values_iff.mp member
    obtain ⟨_, version, detail, onward, told, rfl⟩ :=
      SequentialQuery.exists_of_found answered found
    rw [← own version detail told] at onward
    exact onward
  · intro σ query spelling view answered tx member
    obtain ⟨identity, found⟩ := SortedMap.mem_values_iff.mp member
    obtain ⟨part, rfl, stands⟩ := BlockQuery.stands_of_found answered found
    change start ≤ part.identity.version
    rw [stands.own]
    exact stands.onward

/-- A version is stored before the start, and one is found at it: only this one is shown. -/
theorem onward_of_start_sample :
    let deeds : List Deed := [.add [Sample.shared [Sample.transfer Sample.first 0] 9]]
    let request := { Sample.request Sample.first with start := 10 }
    let pass := Pass.run .none (after deeds) request [.found (Sample.answer Sample.first)]
    pass.2.updates = [.known .empty, .merged (Sample.answer Sample.first)] ∧
      ∀ update ∈ pass.2.updates, ∀ identity, update.view.contains identity = true →
        10 ≤ identity.version := by
  intro deeds request pass
  obtain ⟨_, passes, _, _, bound⟩ := onward_of_start deeds 10
  have told : ∀ view, Pass.Arrival.found view ∈ [Pass.Arrival.found (Sample.answer Sample.first)] →
      ∀ tx ∈ view.values, (10 : UInt64) ≤ tx.identity.version := by
    intro view member
    cases List.mem_singleton.mp member
    decide +kernel
  refine ⟨by decide +kernel, fun update member identity held => ?_⟩
  exact bound (by decide) identity (passes .none request _ rfl told update member identity held)

/-- The greatest version that is stored is shown although it is before the start, by the store and
in both views of a pass. -/
theorem shown_before_start :
    let tx := Sample.shared [Sample.transfer Sample.first 0] 9223372036854775807
    let store := after [.add [tx]]
    let start : UInt64 := 9223372036854775808
    let request := { Sample.request Sample.first with start }
    tx.identity.version < start ∧
      store.snapshot Sample.ledger.chain [Sample.first] start none = .ok (.ofTransactions [tx]) ∧
      (Pass.run .none store request [.found .empty]).2.updates =
        [.known (.ofTransactions [tx]), .merged (.ofTransactions [tx])] := by
  decide +kernel

end Store

end Passbook
