import Passbook.Proofs.Ledger.Sightings
/-!
A remote view against the local one, identity by identity: what is not known is new, what differs
from its local copy is revised, and everything else stays as it is.
-/

namespace Passbook

namespace Transaction
variable (annotations : Annotations) (tx : Transaction)

@[simp] theorem identity_withAnnotations :
    (tx.withAnnotations annotations).identity = tx.identity := by
  cases tx <;> rfl

@[simp] theorem hash_withAnnotations : (tx.withAnnotations annotations).hash = tx.hash := by
  cases tx <;> rfl

@[simp] theorem kind_withAnnotations : (tx.withAnnotations annotations).kind = tx.kind := by
  cases tx <;> rfl

@[simp] theorem gas_withAnnotations : (tx.withAnnotations annotations).gas = tx.gas := by
  cases tx <;> rfl

@[simp] theorem timestamp_withAnnotations :
    (tx.withAnnotations annotations).timestamp = tx.timestamp := by
  cases tx <;> rfl

@[simp] theorem events_withAnnotations : (tx.withAnnotations annotations).events = tx.events := by
  cases tx <;> rfl

@[simp] theorem annotations_withAnnotations :
    (tx.withAnnotations annotations).annotations = annotations := by
  cases tx <;> rfl

@[simp] theorem withAnnotations_withAnnotations (others : Annotations) :
    (tx.withAnnotations annotations).withAnnotations others = tx.withAnnotations others := by
  cases tx <;> rfl

theorem tidy_withAnnotations {tx : Transaction} (tidy : tx.Tidy) :
    (tx.withAnnotations annotations).Tidy := by
  constructor
  · rw [events_withAnnotations]
    exact tidy.keyed
  · rw [events_withAnnotations]
    exact tidy.settled

end Transaction

namespace Ledger
variable {ledger : Ledger} {known remote : TransactionMap}

/-- The sighting that takes the place of a local copy. -/
def revision (ledger : Ledger) (copy tx : Transaction) : Transaction :=
  (ledger.mergeEvents copy tx).withAnnotations copy.annotations

@[simp] theorem identity_revision (copy tx : Transaction) :
    (ledger.revision copy tx).identity = tx.identity := by simp [revision]

@[simp] theorem hash_revision (copy tx : Transaction) :
    (ledger.revision copy tx).hash = tx.hash := by simp [revision]

@[simp] theorem gas_revision (copy tx : Transaction) :
    (ledger.revision copy tx).gas = tx.gas := by simp [revision]

@[simp] theorem timestamp_revision (copy tx : Transaction) :
    (ledger.revision copy tx).timestamp = tx.timestamp := by simp [revision]

@[simp] theorem annotations_revision (copy tx : Transaction) :
    (ledger.revision copy tx).annotations = copy.annotations := by simp [revision]

@[simp] theorem kind_revision (copy tx : Transaction) :
    (ledger.revision copy tx).kind = tx.kind := by simp [revision]

theorem tidy_revision (ledger : Ledger) {copy tx : Transaction} (tidy₁ : copy.Tidy)
    (tidy₂ : tx.Tidy) : (ledger.revision copy tx).Tidy :=
  Transaction.tidy_withAnnotations _ (tidy_mergeEvents tidy₁ tidy₂)

theorem get?_revision {copy tx : Transaction} {key : Int64} {event : TransferEvent}
    (found : tx.events.get? key = some event) :
    (ledger.revision copy tx).events.get? key = some event := by
  rw [revision, Transaction.events_withAnnotations]
  exact get?_mergeEvents found

theorem contains_revision {copy tx : Transaction} {key : Int64}
    (held : tx.events.contains key = true) :
    (ledger.revision copy tx).events.contains key = true := by
  obtain ⟨event, found⟩ := SortedMap.contains_iff_exists.mp held
  exact SortedMap.contains_iff_exists.mpr ⟨event, get?_revision found⟩

/-- A copy of the ledger's own kind hands all its log indexes on. -/
theorem contains_revision_of_copy {copy tx : Transaction} (own : copy.kind = ledger.kind)
    (own' : tx.kind = ledger.kind) {key : Int64} (held : copy.events.contains key = true) :
    (ledger.revision copy tx).events.contains key = true := by
  rw [revision, Transaction.events_withAnnotations, contains_mergeEvents own own', held,
    Bool.or_true]

/-- A copy is left alone if it has the hash of the sighting and, if it is of the same kind, all
its log indexes. -/
theorem compare_eq_unchanged_iff {copy tx : Transaction} (own : tx.kind = ledger.kind) :
    ledger.compare copy tx = .unchanged ↔ copy.hash = tx.hash ∧
      (copy.kind = tx.kind →
        ∀ key, tx.events.contains key = true → copy.events.contains key = true) := by
  by_cases same : copy.hash = tx.hash
  · cases tx with
    | sequential tx =>
        simp [compare, same, Transaction.events, SortedMap.contains]
    | block tx =>
        cases copy with
        | sequential copy => simp [compare, same, Transaction.kind]
        | block copy =>
            -- Here alone the log indexes are compared.
            have block : ledger.kind = .block := own.symm
            simp only [compare, same, ne_eq, not_true_eq_false, if_false, block, true_and,
              Transaction.kind, Transaction.events, forall_const]
            simp only [SortedMap.contains_iff_mem_keys]
            split
            case isTrue lacking =>
              simp only [List.any_eq_true, Bool.not_eq_eq_eq_not, Bool.not_true] at lacking
              obtain ⟨key, member, absent⟩ := lacking
              simp only [reduceCtorEq, false_iff, not_forall]
              refine ⟨key, member, fun there => ?_⟩
              rw [SortedMap.contains_iff_mem_keys.mpr there] at absent
              cases absent
            case isFalse complete =>
              simp only [List.any_eq_true, not_exists, not_and, Bool.not_eq_eq_eq_not,
                Bool.not_true, Bool.not_eq_false] at complete
              simp only [true_iff]
              exact fun key member => SortedMap.contains_iff_mem_keys.mp (complete key member)
  · simp [compare, same]

section Judge
variable {identity : Identity} {copy tx : Transaction}

theorem judge_of_unknown (unknown : known.get? identity = none) :
    ledger.judge known identity tx = .fresh tx := by
  rw [judge, unknown]

theorem judge_of_known (found : known.get? identity = some copy) :
    ledger.judge known identity tx =
      if ledger.compare copy tx = .unchanged then .unchanged
      else .revised (ledger.revision copy tx) := by
  rw [judge, found]
  cases verdict : ledger.compare copy tx <;> simp [verdict, revision]

/-- A verdict tells what is known of a transaction, and how it compares. -/
theorem judge_cases (identity : Identity) (tx : Transaction) :
    (known.get? identity = none ∧ ledger.judge known identity tx = .fresh tx) ∨
    (∃ copy, known.get? identity = some copy ∧ ledger.compare copy tx = .unchanged ∧
      ledger.judge known identity tx = .unchanged) ∨
    ∃ copy, known.get? identity = some copy ∧ ledger.compare copy tx ≠ .unchanged ∧
      ledger.judge known identity tx = .revised (ledger.revision copy tx) := by
  cases held : known.get? identity with
  | none => exact .inl ⟨rfl, judge_of_unknown held⟩
  | some copy =>
      have judged := @judge_of_known ledger known identity copy tx held
      by_cases same : ledger.compare copy tx = .unchanged
      · exact .inr (.inl ⟨copy, rfl, same, judged.trans (if_pos same)⟩)
      · exact .inr (.inr ⟨copy, rfl, same, judged.trans (if_neg same)⟩)

end Judge

/-- Annotations play no part in a comparison, nor in what is merged. -/
@[simp] theorem compare_withAnnotations (copy tx : Transaction) (annotations : Annotations) :
    ledger.compare (copy.withAnnotations annotations) tx = ledger.compare copy tx := by
  obtain ⟨kind, chain⟩ := ledger
  cases kind <;> cases copy <;> cases tx <;> rfl

@[simp] theorem mergeEvents_withAnnotations (copy tx : Transaction) (annotations : Annotations) :
    ledger.mergeEvents (copy.withAnnotations annotations) tx = ledger.mergeEvents copy tx := by
  obtain ⟨kind, chain⟩ := ledger
  cases kind <;> cases copy <;> cases tx <;> rfl

theorem fresh_eq : (ledger.merge known remote).fresh =
    remote.entries.filterMap fun entry => (ledger.judge known entry.1 entry.2).fresh? :=
  List.filterMap_map

theorem revised_eq : (ledger.merge known remote).revised =
    remote.entries.filterMap fun entry => (ledger.judge known entry.1 entry.2).revised? :=
  List.filterMap_map

theorem mem_verdicts {identity : Identity} {verdict : Verdict} :
    (identity, verdict) ∈ (ledger.merge known remote).verdicts ↔
      ∃ tx, remote.get? identity = some tx ∧ ledger.judge known identity tx = verdict := by
  simp only [merge, List.mem_map, Prod.exists, Prod.mk.injEq, SortedMap.get?_eq_some_iff]
  constructor
  · rintro ⟨identity, tx, member, rfl, same⟩
    exact ⟨tx, member, same⟩
  · rintro ⟨tx, member, same⟩
    exact ⟨identity, tx, member, rfl, same⟩

theorem mem_fresh {tx : Transaction} :
    tx ∈ (ledger.merge known remote).fresh ↔
      ∃ identity, known.get? identity = none ∧ remote.get? identity = some tx := by
  simp only [Merge.fresh, List.mem_filterMap, Prod.exists, mem_verdicts]
  constructor
  · rintro ⟨identity, verdict, ⟨other, found, rfl⟩, picked⟩
    cases stored : known.get? identity with
    | none =>
        rw [judge_of_unknown stored] at picked
        cases picked
        exact ⟨identity, stored, found⟩
    | some copy =>
        rw [judge_of_known stored] at picked
        split at picked <;> cases picked
  · rintro ⟨identity, unknown, found⟩
    exact ⟨identity, .fresh tx, ⟨tx, found, judge_of_unknown unknown⟩, rfl⟩

theorem mem_revised {tx : Transaction} :
    tx ∈ (ledger.merge known remote).revised ↔
      ∃ identity copy sighting, known.get? identity = some copy ∧
        remote.get? identity = some sighting ∧ ledger.compare copy sighting ≠ .unchanged ∧
        tx = ledger.revision copy sighting := by
  simp only [Merge.revised, List.mem_filterMap, Prod.exists, mem_verdicts]
  constructor
  · rintro ⟨identity, verdict, ⟨other, found, rfl⟩, picked⟩
    cases stored : known.get? identity with
    | none =>
        rw [judge_of_unknown stored] at picked
        cases picked
    | some copy =>
        rw [judge_of_known stored] at picked
        split at picked
        case isTrue => cases picked
        case isFalse differs =>
          cases picked
          exact ⟨identity, copy, other, stored, found, differs, rfl⟩
  · rintro ⟨identity, copy, sighting, found, seen, differs, rfl⟩
    refine ⟨identity, .revised (ledger.revision copy sighting), ⟨sighting, seen, ?_⟩, rfl⟩
    rw [judge_of_known found, if_neg differs]

/-- The merged view has every written transaction in the place of its local copy. -/
theorem get?_view (identity : Identity) :
    (ledger.merge known remote).view.get? identity =
      ((remote.get? identity).bind fun tx => (ledger.judge known identity tx).written?).or
        (known.get? identity) := by
  have written : (ledger.merge known remote).view =
      (remote.entries.filterMap fun entry =>
        ((ledger.judge known entry.1 entry.2).written?).map (entry.1, ·)).foldl
          (fun view entry => view.insert entry.1 entry.2) known := by
    rw [merge, List.filterMap_map]
    rfl
  -- No identity is written twice, so it does not matter which write comes last.
  have distinct := Entries.nodup_filterMap remote.keys_nodup fun identity tx =>
    (ledger.judge known identity tx).written?
  rw [written, SortedMap.get?_foldl_insert, Entries.find?_reverse_of_nodup distinct,
    Entries.find?_filterMap remote.keys_nodup fun identity tx =>
      (ledger.judge known identity tx).written?]
  rfl

/-- After a merge nothing of the remote view differs from its copy in the merged view. -/
theorem unchanged_in_view (known : TransactionMap) {identity : Identity} {tx : Transaction}
    (found : remote.get? identity = some tx) (own : tx.kind = ledger.kind) :
    ∃ copy, (ledger.merge known remote).view.get? identity = some copy ∧
      ledger.compare copy tx = .unchanged := by
  rw [get?_view, found, Option.bind_some]
  cases held : known.get? identity with
  | none =>
      rw [judge_of_unknown held]
      exact ⟨tx, rfl, (compare_eq_unchanged_iff own).mpr ⟨rfl, fun _ _ held => held⟩⟩
  | some copy =>
      rw [judge_of_known held]
      by_cases same : ledger.compare copy tx = .unchanged
      · rw [if_pos same]
        exact ⟨copy, rfl, same⟩
      · rw [if_neg same]
        refine ⟨ledger.revision copy tx, rfl, (compare_eq_unchanged_iff own).mpr ?_⟩
        exact ⟨hash_revision copy tx, fun _ _ held => contains_revision held⟩

/-- What no comparison tells apart. -/
structure Alike (first second : Transaction) : Prop where
  kind : first.kind = second.kind
  hash : first.hash = second.hash
  indexes : ∀ key, first.events.contains key = second.events.contains key

theorem compare_of_alike {copy first second : Transaction} (alike : Alike first second)
    (own : first.kind = ledger.kind) (same : ledger.compare copy first = .unchanged) :
    ledger.compare copy second = .unchanged := by
  obtain ⟨hash, complete⟩ := (compare_eq_unchanged_iff own).mp same
  refine (compare_eq_unchanged_iff (alike.kind.symm.trans own)).mpr ⟨hash.trans alike.hash, ?_⟩
  intro kind key held
  exact complete (kind.trans alike.kind.symm) key ((alike.indexes key).trans held)

/-- A remote view that shows no difference leaves nothing to write and the local view as it is. -/
theorem merge_of_unchanged (ledger : Ledger) (known remote : TransactionMap)
    (same : ∀ identity tx, remote.get? identity = some tx →
      ∃ copy, known.get? identity = some copy ∧ ledger.compare copy tx = .unchanged) :
    (ledger.merge known remote).fresh = [] ∧ (ledger.merge known remote).revised = [] ∧
      (ledger.merge known remote).view = known ∧
      ∀ entry ∈ (ledger.merge known remote).verdicts, entry.2 = .unchanged := by
  have judged : ∀ identity tx, remote.get? identity = some tx →
      ledger.judge known identity tx = .unchanged := by
    intro identity tx found
    obtain ⟨copy, held, alike⟩ := same identity tx found
    rw [judge_of_known held, if_pos alike]
  refine ⟨?_, ?_, ?_, ?_⟩
  · apply List.eq_nil_iff_forall_not_mem.mpr
    intro tx member
    obtain ⟨identity, unknown, found⟩ := mem_fresh.mp member
    obtain ⟨copy, held, _⟩ := same identity tx found
    cases unknown.symm.trans held
  · apply List.eq_nil_iff_forall_not_mem.mpr
    intro tx member
    obtain ⟨identity, copy, sighting, held, found, differs, _⟩ := mem_revised.mp member
    obtain ⟨other, held', alike⟩ := same identity sighting found
    cases held.symm.trans held'
    exact differs alike
  · ext identity : 1
    rw [get?_view]
    cases found : remote.get? identity with
    | none => rfl
    | some tx => simp [judged identity tx found, Verdict.written?]
  · rintro ⟨identity, verdict⟩ member
    obtain ⟨tx, found, rfl⟩ := mem_verdicts.mp member
    exact judged identity tx found

end Ledger

end Passbook
