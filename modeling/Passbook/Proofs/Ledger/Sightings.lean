import Passbook.Ledger.Merge
import Passbook.Proofs.Ledger.Events
/-!
What the queries of a pass come to. The remote view holds one transaction for each identity that
was sighted; it is the last sighting with the events of all of them. The fold fails exactly when
some sighting does not belong to the ledger.
-/

namespace Passbook

namespace Transaction

@[simp] theorem identity_normalized (tx : Transaction) : tx.normalized.identity = tx.identity := by
  cases tx <;> rfl

@[simp] theorem kind_normalized (tx : Transaction) : tx.normalized.kind = tx.kind := by
  cases tx <;> rfl

@[simp] theorem hash_normalized (tx : Transaction) : tx.normalized.hash = tx.hash := by
  cases tx <;> rfl

@[simp] theorem timestamp_normalized (tx : Transaction) :
    tx.normalized.timestamp = tx.timestamp := by
  cases tx <;> rfl

theorem events_normalized (tx : Transaction) :
    tx.normalized.events = EventLog.normalized tx.events := by
  cases tx with
  | sequential tx => rfl
  | block tx => rfl

theorem normalized_of_settled {tx : Transaction} (settled : EventLog.Settled tx.events) :
    tx.normalized = tx := by
  cases tx with
  | sequential tx => rfl
  | block tx =>
      have same : EventLog.normalized tx.events = tx.events :=
        EventLog.normalized_of_settled settled
      rw [normalized, same]

theorem tidy_normalized {tx : Transaction} (keyed : EventLog.Keyed tx.events) :
    tx.normalized.Tidy := by
  constructor
  · rw [events_normalized]
    exact EventLog.keyed_normalized keyed
  · rw [events_normalized]
    exact EventLog.settled_normalized tx.events

end Transaction

namespace Ledger
variable {ledger : Ledger}

@[simp] theorem misfit?_normalized (tx : Transaction) :
    ledger.misfit? tx.normalized = ledger.misfit? tx := by
  simp [misfit?]

theorem belongs_of_misfit? {tx : Transaction} (belongs : ledger.misfit? tx = none) :
    tx.identity.chain = ledger.chain ∧ tx.kind = ledger.kind := by
  unfold misfit? at belongs
  by_cases chain : tx.identity.chain = ledger.chain
  · by_cases kind : tx.kind = ledger.kind
    · exact ⟨chain, kind⟩
    · simp [chain, kind] at belongs
  · simp [chain] at belongs

/-- Merging takes nothing but events from the copy seen before. -/
theorem mergeEvents_cases (ledger : Ledger) (base incoming : Transaction) :
    ledger.mergeEvents base incoming = incoming ∨
      ∃ seen tx, base = .block seen ∧ incoming = .block tx ∧
        ledger.mergeEvents base incoming =
          .block { tx with events := EventLog.carry seen.events tx.events } := by
  cases kind : ledger.kind with
  | sequential =>
      left
      simp [mergeEvents, kind]
  | block =>
      cases base with
      | sequential seen =>
          left
          simp [mergeEvents]
      | block seen =>
          cases incoming with
          | sequential tx =>
              left
              simp [mergeEvents]
          | block tx =>
              right
              exact ⟨seen, tx, rfl, rfl, by simp [mergeEvents, kind]⟩

section Carried
variable (base incoming : Transaction)

/-- Whatever the events do not enter into is as in the incoming copy. -/
theorem blind_mergeEvents {α : Type} (part : Transaction → α)
    (blind : ∀ (tx : BlockTransaction) (events : EventLog),
      part (.block { tx with events }) = part (.block tx)) :
    part (ledger.mergeEvents base incoming) = part incoming := by
  rcases mergeEvents_cases ledger base incoming with same | ⟨_, tx, _, rfl, same⟩
  · rw [same]
  · rw [same]
    exact blind tx _

@[simp] theorem identity_mergeEvents :
    (ledger.mergeEvents base incoming).identity = incoming.identity :=
  blind_mergeEvents base incoming Transaction.identity fun _ _ => rfl

@[simp] theorem kind_mergeEvents :
    (ledger.mergeEvents base incoming).kind = incoming.kind :=
  blind_mergeEvents base incoming Transaction.kind fun _ _ => rfl

@[simp] theorem hash_mergeEvents :
    (ledger.mergeEvents base incoming).hash = incoming.hash :=
  blind_mergeEvents base incoming Transaction.hash fun _ _ => rfl

@[simp] theorem gas_mergeEvents :
    (ledger.mergeEvents base incoming).gas = incoming.gas :=
  blind_mergeEvents base incoming Transaction.gas fun _ _ => rfl

@[simp] theorem timestamp_mergeEvents :
    (ledger.mergeEvents base incoming).timestamp = incoming.timestamp :=
  blind_mergeEvents base incoming Transaction.timestamp fun _ _ => rfl

@[simp] theorem annotations_mergeEvents :
    (ledger.mergeEvents base incoming).annotations = incoming.annotations :=
  blind_mergeEvents base incoming Transaction.annotations fun _ _ => rfl

end Carried

theorem get?_mergeEvents {base incoming : Transaction} {key : Int64} {event : TransferEvent}
    (found : incoming.events.get? key = some event) :
    (ledger.mergeEvents base incoming).events.get? key = some event := by
  rcases mergeEvents_cases ledger base incoming with same | ⟨seen, tx, _, rfl, same⟩
  · rw [same]
    exact found
  · rw [same]
    change (EventLog.carry seen.events tx.events).get? key = some event
    rw [EventLog.get?_carry, Option.or_eq_some_iff]
    exact Or.inl found

theorem contains_mergeEvents {base incoming : Transaction} (own₁ : base.kind = ledger.kind)
    (own₂ : incoming.kind = ledger.kind) (key : Int64) :
    (ledger.mergeEvents base incoming).events.contains key =
      (incoming.events.contains key || base.events.contains key) := by
  cases base with
  | sequential seen =>
      cases incoming with
      | sequential tx =>
          have sequential : ledger.kind = .sequential := own₁.symm
          simp [mergeEvents, sequential, Transaction.events, SortedMap.contains]
      | block tx => cases own₁.trans own₂.symm
  | block seen =>
      cases incoming with
      | sequential tx => cases own₁.trans own₂.symm
      | block tx =>
          have block : ledger.kind = .block := own₁.symm
          have merged : ledger.mergeEvents (.block seen) (.block tx) =
              .block { tx with events := EventLog.carry seen.events tx.events } := by
            simp only [mergeEvents, block]
          rw [merged]
          exact EventLog.contains_carry seen.events tx.events key

/-- A sighting of the ledger's own kind takes over the log of the copy seen before. -/
theorem mergeEvents_eq_withEvents {base incoming : Transaction}
    (own : incoming.kind = ledger.kind) :
    ledger.mergeEvents base incoming =
      incoming.withEvents (EventLog.carry base.events incoming.events) := by
  cases incoming with
  | sequential tx =>
      have sequential : ledger.kind = .sequential := own.symm
      simp [mergeEvents, sequential, Transaction.withEvents]
  | block tx =>
      have block : ledger.kind = .block := own.symm
      cases base with
      | sequential seen =>
          have nothing : EventLog.carry .empty tx.events = tx.events := rfl
          simp [mergeEvents, Transaction.events, nothing, Transaction.withEvents]
      | block seen => simp [mergeEvents, block, Transaction.events, Transaction.withEvents]

theorem tidy_mergeEvents {base incoming : Transaction} (tidy₁ : base.Tidy)
    (tidy₂ : incoming.Tidy) : (ledger.mergeEvents base incoming).Tidy := by
  rcases mergeEvents_cases ledger base incoming with
    same | ⟨seen, tx, rfl, rfl, same⟩
  · rw [same]
    exact tidy₂
  · rw [same]
    exact ⟨EventLog.keyed_carry tidy₁.keyed tidy₂.keyed,
      EventLog.settled_carry tidy₁.settled tidy₂.settled⟩

/-- What stands for a transaction after one more sighting of it. -/
def blend (ledger : Ledger) (seen : Option Transaction) (tx : Transaction) : Transaction :=
  match seen with
  | none => tx.normalized
  | some seen => ledger.mergeEvents seen tx.normalized

/-- What stands for a transaction after all sightings of it. -/
def blended (ledger : Ledger) (seen : Option Transaction) (sightings : List Transaction) :
    Option Transaction :=
  sightings.foldl (fun seen tx => some (ledger.blend seen tx)) seen

@[simp] theorem kind_blend (seen : Option Transaction) (tx : Transaction) :
    (ledger.blend seen tx).kind = tx.kind := by
  cases seen <;> simp [blend]

theorem sight_eq_ok_iff {view result : TransactionMap} {tx : Transaction} :
    ledger.sight view tx = .ok result ↔ ledger.misfit? tx = none ∧
      result = view.insert tx.identity (ledger.blend (view.get? tx.identity) tx) := by
  rw [sight, bind_eq_ok_iff]
  cases belongs : ledger.misfit? tx with
  | some misfit => simp [identityOf, belongs]
  | none =>
      cases seen : view.get? tx.identity <;>
        simp [identityOf, belongs, seen, blend, pure, Except.pure, eq_comm]

/-- Folding sightings one after another goes through exactly when all of them belong to the
ledger, and then each identity stands for its own sightings. -/
theorem foldlM_sight_eq_ok_iff {view result : TransactionMap} {sightings : List Transaction} :
    sightings.foldlM ledger.sight view = .ok result ↔
      (∀ tx ∈ sightings, ledger.misfit? tx = none) ∧
        ∀ identity, result.get? identity =
          ledger.blended (view.get? identity)
            (sightings.filter fun tx => tx.identity = identity) := by
  induction sightings generalizing view with
  | nil =>
      constructor
      · intro done
        cases done
        simp [blended]
      · rintro ⟨_, same⟩
        have equal : result = view := SortedMap.ext same
        rw [equal]
        rfl
  | cons tx rest ih =>
      rw [List.foldlM_cons, bind_eq_ok_iff]
      -- After the sighting only its own identity stands for something else.
      have after : ∀ identity,
          ledger.blended ((view.insert tx.identity
              (ledger.blend (view.get? tx.identity) tx)).get? identity)
            (rest.filter fun tx => tx.identity = identity) =
          ledger.blended (view.get? identity)
            ((tx :: rest).filter fun tx => tx.identity = identity) := by
        intro identity
        rw [SortedMap.get?_insert]
        by_cases own : tx.identity = identity
        · rw [List.filter_cons_of_pos (by simpa using own), if_pos own.symm, ← own]
          rfl
        · rw [List.filter_cons_of_neg (by simpa using own), if_neg (Ne.symm own)]
      constructor
      · rintro ⟨middle, first, later⟩
        obtain ⟨belongs, rfl⟩ := sight_eq_ok_iff.mp first
        obtain ⟨others, stands⟩ := ih.mp later
        exact ⟨List.forall_mem_cons.mpr ⟨belongs, others⟩,
          fun identity => (stands identity).trans (after identity)⟩
      · rintro ⟨all, stands⟩
        obtain ⟨belongs, others⟩ := List.forall_mem_cons.mp all
        exact ⟨_, sight_eq_ok_iff.mpr ⟨belongs, rfl⟩,
          ih.mpr ⟨others, fun identity => (stands identity).trans (after identity).symm⟩⟩

/-- All transactions of the views, in the order in which they are folded. -/
def sightings (views : List TransactionMap) : List Transaction := views.flatMap SortedMap.values

theorem mem_sightings {views : List TransactionMap} {tx : Transaction} :
    tx ∈ sightings views ↔ ∃ view ∈ views, tx ∈ view.values := List.mem_flatMap

def sightingsOf (views : List TransactionMap) (identity : Identity) : List Transaction :=
  (sightings views).filter fun tx => tx.identity = identity

theorem mem_sightingsOf {views : List TransactionMap} {identity : Identity} {tx : Transaction} :
    tx ∈ sightingsOf views identity ↔ tx ∈ sightings views ∧ tx.identity = identity := by
  rw [sightingsOf, List.mem_filter, decide_eq_true_eq]

theorem foldlM_absorb (views : List TransactionMap) (view : TransactionMap) :
    views.foldlM ledger.absorb view = (sightings views).foldlM ledger.sight view := by
  induction views generalizing view with
  | nil => rfl
  | cons found rest ih =>
      have joined : sightings (found :: rest) = found.values ++ sightings rest := rfl
      rw [List.foldlM_cons, joined, List.foldlM_append, absorb]
      exact bind_congr fun after => ih after

/-- A property of every sighting by itself that one more sighting keeps is a property of whatever
stands for them in the end. -/
theorem blended_induction {holds : Transaction → Prop} {txs : List Transaction}
    (first : ∀ tx ∈ txs, holds tx.normalized)
    (again : ∀ seen, holds seen → ∀ tx ∈ txs, holds (ledger.mergeEvents seen tx.normalized))
    {seen : Option Transaction} (before : ∀ tx, seen = some tx → holds tx) {tx : Transaction}
    (stands : ledger.blended seen txs = some tx) : holds tx := by
  -- What was seen before the head carries the property on to the rest.
  induction txs generalizing seen with
  | nil => exact before tx stands
  | cons head rest ih =>
      refine ih (fun tx member => first tx (List.mem_cons_of_mem head member))
        (fun seen held tx member => again seen held tx (List.mem_cons_of_mem head member)) ?_
        stands
      rintro other built
      cases built
      cases seen with
      | none => exact first head List.mem_cons_self
      | some seen => exact again seen (before seen rfl) head List.mem_cons_self

theorem blended_isSome_iff {seen : Option Transaction} {txs : List Transaction} :
    (ledger.blended seen txs).isSome = true ↔ seen.isSome = true ∨ txs ≠ [] := by
  induction txs generalizing seen with
  | nil => simp [blended]
  | cons head rest ih =>
      have onward : ledger.blended seen (head :: rest) =
          ledger.blended (some (ledger.blend seen head)) rest := rfl
      rw [onward, ih]
      simp

/-- The log indexes of what stands in the end are those of all sightings together. -/
theorem contains_event_blended (seen : Option Transaction) {txs : List Transaction}
    (own : ∀ tx ∈ txs, tx.kind = ledger.kind)
    (before : ∀ tx, seen = some tx → tx.kind = ledger.kind) {tx : Transaction}
    (stands : ledger.blended seen txs = some tx) (key : Int64) :
    tx.events.contains key = true ↔
      (∃ other, seen = some other ∧ other.events.contains key = true) ∨
        ∃ other ∈ txs, other.normalized.events.contains key = true := by
  induction txs generalizing seen with
  | nil => simp [show seen = some tx from stands]
  | cons head rest ih =>
      obtain ⟨here, others⟩ := List.forall_mem_cons.mp own
      -- The head moves over to what was seen before the rest.
      rw [ih (some (ledger.blend seen head)) others (by simp [here]) stands]
      cases seen with
      | none => simp [blend]
      | some seen =>
          have joined := contains_mergeEvents (before seen rfl)
            ((Transaction.kind_normalized head).trans here) key
          simp only [blend, Option.some.injEq, exists_eq_left', joined, Bool.or_eq_true,
            List.mem_cons, exists_eq_or_imp]
          exact (or_congr_left or_comm).trans or_assoc

/-- The remote view: everything that the queries found. -/
def remote (ledger : Ledger) (views : List TransactionMap) : Except Violation TransactionMap :=
  views.foldlM ledger.absorb .empty

theorem remote_eq_ok_iff {views : List TransactionMap} {remote : TransactionMap} :
    ledger.remote views = .ok remote ↔
      (∀ tx ∈ sightings views, ledger.misfit? tx = none) ∧
        ∀ identity, remote.get? identity = ledger.blended none (sightingsOf views identity) := by
  rw [Ledger.remote, foldlM_absorb, foldlM_sight_eq_ok_iff]
  rfl

theorem exists_remote (ledger : Ledger) (views : List TransactionMap)
    (belong : ∀ tx ∈ sightings views, ledger.misfit? tx = none) :
    ∃ remote, ledger.remote views = .ok remote := by
  rw [Ledger.remote, foldlM_absorb]
  suffices onward : ∀ view, ∃ result, (sightings views).foldlM ledger.sight view = .ok result from
    onward .empty
  generalize sightings views = txs at belong ⊢
  -- The view grows with every sighting, so the induction is for any view to begin with.
  induction txs with
  | nil => exact fun view => ⟨view, rfl⟩
  | cons tx rest ih =>
      intro view
      obtain ⟨belongs, others⟩ := List.forall_mem_cons.mp belong
      obtain ⟨result, later⟩ := ih others
        (view.insert tx.identity (ledger.blend (view.get? tx.identity) tx))
      refine ⟨result, ?_⟩
      rw [List.foldlM_cons, bind_eq_ok_iff]
      exact ⟨_, sight_eq_ok_iff.mpr ⟨belongs, rfl⟩, later⟩

section Remote
variable {views : List TransactionMap} {remote : TransactionMap}

theorem remote_induction (done : ledger.remote views = .ok remote) (holds : Transaction → Prop)
    {identity : Identity} (first : ∀ tx ∈ sightingsOf views identity, holds tx.normalized)
    (again : ∀ seen, holds seen → ∀ tx ∈ sightingsOf views identity,
      holds (ledger.mergeEvents seen tx.normalized))
    {tx : Transaction} (found : remote.get? identity = some tx) : holds tx := by
  rw [(remote_eq_ok_iff.mp done).2] at found
  exact blended_induction first again (by simp) found

theorem contains_remote (done : ledger.remote views = .ok remote) {identity : Identity} :
    remote.contains identity = true ↔ ∃ tx, tx ∈ sightingsOf views identity := by
  rw [SortedMap.contains, (remote_eq_ok_iff.mp done).2, blended_isSome_iff]
  simp [List.eq_nil_iff_forall_not_mem]

/-- Whatever the events do not enter into is as in one of the sightings. -/
theorem exists_sighting_of_remote (done : ledger.remote views = .ok remote) {α : Type}
    (part : Transaction → α)
    (blind : ∀ (tx : BlockTransaction) (events : EventLog),
      part (.block { tx with events }) = part (.block tx))
    {identity : Identity} {tx : Transaction} (found : remote.get? identity = some tx) :
    ∃ sighting ∈ sightingsOf views identity, part tx = part sighting := by
  have normal : ∀ tx : Transaction, part tx.normalized = part tx := by
    intro tx
    cases tx with
    | sequential tx => rfl
    | block tx => exact blind tx _
  refine remote_induction done
    (fun tx => ∃ sighting ∈ sightingsOf views identity, part tx = part sighting) ?_ ?_ found
  · intro tx sighted
    exact ⟨tx, sighted, normal tx⟩
  · intro seen _ tx sighted
    exact ⟨tx, sighted, (blind_mergeEvents seen tx.normalized part blind).trans (normal tx)⟩

theorem belongs_of_remote (done : ledger.remote views = .ok remote) {identity : Identity}
    {tx : Transaction} (found : remote.get? identity = some tx) :
    tx.identity = identity ∧ ledger.misfit? tx = none := by
  have belong := (remote_eq_ok_iff.mp done).1
  constructor
  · obtain ⟨sighting, seen, same⟩ :=
      exists_sighting_of_remote done Transaction.identity (fun _ _ => rfl) found
    exact same.trans (mem_sightingsOf.mp seen).2
  · obtain ⟨sighting, seen, same⟩ :=
      exists_sighting_of_remote done ledger.misfit? (fun _ _ => rfl) found
    exact same.trans (belong sighting (mem_sightingsOf.mp seen).1)

/-- Log indexes are gathered from all sightings, in whatever order they come. -/
theorem contains_event_remote (done : ledger.remote views = .ok remote) {identity : Identity}
    {tx : Transaction} (found : remote.get? identity = some tx) (key : Int64) :
    tx.events.contains key = true ↔
      ∃ seen ∈ sightingsOf views identity, seen.normalized.events.contains key = true := by
  obtain ⟨belong, stands⟩ := remote_eq_ok_iff.mp done
  have kinds : ∀ tx ∈ sightingsOf views identity, tx.kind = ledger.kind := fun tx sighted =>
    (belongs_of_misfit? (belong tx (mem_sightingsOf.mp sighted).1)).2
  rw [stands] at found
  simpa using contains_event_blended none kinds (by simp) found key

theorem tidy_of_remote (done : ledger.remote views = .ok remote)
    (keyed : ∀ tx ∈ sightings views, EventLog.Keyed tx.events) {identity : Identity}
    {tx : Transaction} (found : remote.get? identity = some tx) : tx.Tidy := by
  refine remote_induction done Transaction.Tidy ?_ ?_ found
  · intro tx sighted
    exact Transaction.tidy_normalized (keyed tx (mem_sightingsOf.mp sighted).1)
  · intro seen tidy tx sighted
    exact tidy_mergeEvents tidy
      (Transaction.tidy_normalized (keyed tx (mem_sightingsOf.mp sighted).1))

end Remote

end Ledger

end Passbook
