import Mathlib.Data.List.Induction
import Passbook.Proofs.Pass.Effect
/-!
A merge as a partition of the remote view. Taken one transaction at a time it reads the view that
it is changing; since no identity comes twice this is as good as reading the view that was known,
and every identity of the remote view ends up new, revised or unchanged, each batch in the order
of its identities.
-/

namespace Passbook

namespace Pass

/-- What a merge has come to after some transactions of the remote view. -/
structure Tally where
  view : TransactionMap
  tracker : Tracker
  fresh : List Transaction := []
  revised : List Transaction := []

namespace Tally

/-- The next transaction is looked up in the view as it has become. -/
def next (ledger : Ledger) (tally : Tally) (entry : Identity × Transaction) : Tally :=
  match tally.view.get? entry.1 with
  | none =>
      { tally with
        view := tally.view.insert entry.1 entry.2
        tracker := tally.tracker.record (.stored entry.1)
        fresh := tally.fresh ++ [entry.2] }
  | some copy =>
      match ledger.compare copy entry.2 with
      | .unchanged => { tally with tracker := tally.tracker.record .unchanged }
      | .changed | .extended =>
          let tx := (ledger.mergeEvents copy entry.2).withAnnotations copy.annotations
          { tally with
            view := tally.view.insert entry.1 tx
            tracker := tally.tracker.record (.replaced entry.1)
            revised := tally.revised ++ [tx] }

def settle (tally : Tally) (verdicts : List (Identity × Verdict)) : Tally where
  view := (verdicts.filterMap fun entry => entry.2.written?.map (entry.1, ·)).foldl
    (fun view entry => view.insert entry.1 entry.2) tally.view
  tracker := (verdicts.map recordOf).foldl Tracker.record tally.tracker
  fresh := tally.fresh ++ verdicts.filterMap fun entry => entry.2.fresh?
  revised := tally.revised ++ verdicts.filterMap fun entry => entry.2.revised?

variable {ledger : Ledger} {tally : Tally}

theorem settle_append (first second : List (Identity × Verdict)) :
    tally.settle (first ++ second) = (tally.settle first).settle second := by
  simp [settle]

theorem next_eq (entry : Identity × Transaction) :
    tally.next ledger entry =
      tally.settle [(entry.1, ledger.judge tally.view entry.1 entry.2)] := by
  cases held : tally.view.get? entry.1 with
  | none =>
      rw [Ledger.judge_of_unknown held]
      simp [next, held, settle, recordOf, Verdict.written?, Verdict.fresh?, Verdict.revised?]
  | some copy =>
      rw [Ledger.judge_of_known held]
      cases verdict : ledger.compare copy entry.2 <;>
        simp [next, held, verdict, settle, recordOf, Ledger.revision, Verdict.written?,
          Verdict.fresh?, Verdict.revised?]

theorem get?_view_settle {verdicts : List (Identity × Verdict)} {identity : Identity}
    (foreign : identity ∉ verdicts.map Prod.fst) :
    (tally.settle verdicts).view.get? identity = tally.view.get? identity := by
  have absent : Entries.find? identity (verdicts.filterMap fun entry =>
      entry.2.written?.map (entry.1, ·)).reverse = none := by
    rw [← Option.isNone_iff_eq_none, ← Option.isSome_eq_false_iff, ← Bool.not_eq_true,
      Entries.find?_isSome_iff, List.map_reverse, List.mem_reverse, List.map_filterMap]
    simp only [List.mem_filterMap, Option.map_map, Option.map_eq_some_iff, Function.comp]
    rintro ⟨entry, member, _, _, rfl⟩
    exact foreign (List.mem_map_of_mem member)
  rw [settle, SortedMap.get?_foldl_insert, absent, Option.none_or]

/-- No identity comes twice, so that every transaction meets the copy that was known. -/
theorem foldl_next {entries : List (Identity × Transaction)}
    (distinct : (entries.map Prod.fst).Nodup) :
    entries.foldl (next ledger) tally =
      tally.settle (entries.map fun entry =>
        (entry.1, ledger.judge tally.view entry.1 entry.2)) := by
  -- One more entry at the end meets a view in which its identity stands as it did at first.
  induction entries using List.reverseRecOn with
  | nil => simp [settle]
  | append_singleton before entry ih =>
      rw [List.map_append, List.nodup_append] at distinct
      obtain ⟨earlier, _, apart⟩ := distinct
      have foreign : entry.1 ∉ (before.map fun entry =>
          (entry.1, ledger.judge tally.view entry.1 entry.2)).map Prod.fst := by
        rw [List.map_map]
        exact fun member => apart entry.1 member entry.1 (List.mem_singleton_self _) rfl
      rw [List.foldl_concat, ih earlier, next_eq, Ledger.judge, get?_view_settle foreign,
        ← Ledger.judge, ← settle_append, List.map_append]
      rfl

end Tally

/-- The merge of two views, one transaction of the remote view after another. -/
def mergeInTurn (pass : Pass) (known remote : TransactionMap) : Pass :=
  let tally := remote.entries.foldl (Tally.next pass.request.ledger)
    { view := known, tracker := pass.tracker.record (.remoteLoaded remote.size) }
  { pass with
    phase := .adding tally.fresh tally.revised
    tracker := (tally.tracker.advance .merged).advance .persisting
    updates := pass.updates ++ [.merged tally.view] }

theorem mergeInTurn_eq (pass : Pass) (known remote : TransactionMap) :
    pass.mergeInTurn known remote = pass.mergeViews known remote := by
  simp only [mergeInTurn, Tally.foldl_next remote.keys_nodup]
  simp only [mergeViews, Tally.settle, Ledger.merge, Merge.fresh, Merge.revised,
    List.foldl_cons, List.nil_append]

end Pass

namespace Verdict

theorem one_kind (verdict : Verdict) : verdict.fresh?.isSome.toNat +
    verdict.revised?.isSome.toNat + (decide (verdict = .unchanged)).toNat = 1 := by
  cases verdict <;> rfl

theorem countP_kinds (verdicts : List Verdict) :
    (verdicts.countP fun verdict => verdict.fresh?.isSome) +
      (verdicts.countP fun verdict => verdict.revised?.isSome) +
      (verdicts.countP fun verdict => verdict = .unchanged) = verdicts.length := by
  induction verdicts with
  | nil => rfl
  | cons verdict rest ih =>
      rw [List.length_cons, ← ih]
      cases verdict <;> simp [fresh?, revised?] <;> omega

end Verdict

namespace Ledger

/-- What takes the place of a local copy: the remote transaction with the events that only the
copy has and with the annotations of the copy. -/
def Revises (copy tx revised : Transaction) : Prop :=
  ∃ log : EventLog, (∀ key, log.get? key = (tx.events.get? key).or (copy.events.get? key)) ∧
    revised = (tx.withEvents log).withAnnotations copy.annotations

/-- The parts of a remote view: what is not known, what takes the place of its local copy, and
what does not differ from it. -/
structure Parts where
  fresh : TransactionMap
  revised : TransactionMap
  same : TransactionMap

/-- The parts are those of these views, and every identity is in one of them. -/
structure Parts.Split (parts : Parts) (ledger : Ledger) (known remote : TransactionMap) :
    Prop where
  isFresh : ∀ identity tx, parts.fresh.get? identity = some tx ↔
    known.get? identity = none ∧ remote.get? identity = some tx
  isRevised : ∀ identity tx, parts.revised.get? identity = some tx ↔
    ∃ copy sighting, known.get? identity = some copy ∧ remote.get? identity = some sighting ∧
      (ledger.compare copy sighting = .changed ∨ ledger.compare copy sighting = .extended) ∧
      Revises copy sighting tx
  isSame : ∀ identity tx, parts.same.get? identity = some tx ↔
    remote.get? identity = some tx ∧
      ∃ copy, known.get? identity = some copy ∧ ledger.compare copy tx = .unchanged
  once : ∀ identity, (parts.fresh.contains identity).toNat +
    (parts.revised.contains identity).toNat + (parts.same.contains identity).toNat =
      (remote.contains identity).toNat
  size : parts.fresh.size + parts.revised.size + parts.same.size = remote.size

def parts (ledger : Ledger) (known remote : TransactionMap) : Parts where
  fresh := remote.pick fun identity tx => (ledger.judge known identity tx).fresh?
  revised := remote.pick fun identity tx => (ledger.judge known identity tx).revised?
  same := remote.pick fun identity tx =>
    if ledger.judge known identity tx = .unchanged then some tx else none

variable {ledger : Ledger} {known remote : TransactionMap} {copy tx : Transaction}

theorem revises_iff (own : tx.kind = ledger.kind) {revised : Transaction} :
    Revises copy tx revised ↔ revised = ledger.revision copy tx := by
  rw [revision, mergeEvents_eq_withEvents own]
  constructor
  · rintro ⟨log, joined, rfl⟩
    have same : log = EventLog.carry copy.events tx.events := by
      ext key : 1
      rw [joined, EventLog.get?_carry]
    rw [same]
  · rintro rfl
    exact ⟨_, EventLog.get?_carry copy.events tx.events, rfl⟩

theorem differs_iff {comparison : Comparison} :
    (comparison = .changed ∨ comparison = .extended) ↔ comparison ≠ .unchanged := by
  cases comparison <;> simp

theorem split_parts (own : ∀ identity tx, remote.get? identity = some tx →
      tx.kind = ledger.kind) : (parts ledger known remote).Split ledger known remote where
  isFresh identity tx := by
    rw [parts, SortedMap.get?_pick]
    cases found : remote.get? identity with
    | none => simp
    | some sighting =>
        rcases @judge_cases ledger known identity sighting with
          ⟨held, judged⟩ | ⟨copy, held, _, judged⟩ | ⟨copy, held, _, judged⟩ <;>
          simp [held, judged, Verdict.fresh?]
  isRevised identity tx := by
    rw [parts, SortedMap.get?_pick]
    cases found : remote.get? identity with
    | none => simp
    | some sighting =>
        simp only [differs_iff, Option.some.injEq, exists_and_left, exists_eq_left',
          revises_iff (own identity sighting found), Option.bind_some]
        rcases @judge_cases ledger known identity sighting with
          ⟨held, judged⟩ | ⟨copy, held, same, judged⟩ | ⟨copy, held, differs, judged⟩
        · simp [held, judged, Verdict.revised?]
        · simp [held, judged, same, Verdict.revised?]
        · simpa [held, judged, Verdict.revised?, eq_comm] using fun _ => differs
  isSame identity tx := by
    rw [parts, SortedMap.get?_pick]
    cases found : remote.get? identity with
    | none => simp
    | some sighting =>
        rcases @judge_cases ledger known identity sighting with
          ⟨held, judged⟩ | ⟨copy, held, same, judged⟩ | ⟨copy, held, differs, judged⟩
        · simp [held, judged]
        · simpa [held, judged] using fun own => own ▸ same
        · simpa [held, judged] using fun own => own ▸ differs
  once identity := by
    simp only [parts, SortedMap.contains, SortedMap.get?_pick]
    cases remote.get? identity with
    | none => rfl
    | some tx =>
        have one := (ledger.judge known identity tx).one_kind
        by_cases same : ledger.judge known identity tx = .unchanged <;> simpa [same] using one
  size := by
    -- The verdict on an entry counts it in one of the parts.
    have each := Verdict.countP_kinds
      (remote.entries.map fun entry => ledger.judge known entry.1 entry.2)
    simp only [List.countP_map, List.length_map] at each
    rw [parts, SortedMap.size_pick, SortedMap.size_pick, SortedMap.size_pick, SortedMap.size,
      ← each]
    congr 1
    refine List.countP_congr fun entry _ => ?_
    simp

end Ledger

namespace TransactionMap

theorem identities_of_keyed {view : TransactionMap} (keyed : view.Keyed) :
    view.values.map Transaction.identity = view.keys := by
  rw [SortedMap.values, List.map_map]
  refine List.map_congr_left fun entry member => ?_
  exact keyed entry.1 entry.2 (SortedMap.get?_eq_some_iff.mpr member)

end TransactionMap

namespace Ledger.Parts.Split
variable {parts : Parts} {ledger : Ledger} {known remote : TransactionMap}

theorem keyed_fresh (split : parts.Split ledger known remote)
    (keyed : TransactionMap.Keyed remote) : TransactionMap.Keyed parts.fresh :=
  fun identity tx found => keyed identity tx ((split.isFresh identity tx).mp found).2

theorem keyed_revised (split : parts.Split ledger known remote)
    (keyed : TransactionMap.Keyed remote) (own : ∀ identity tx,
      remote.get? identity = some tx → tx.kind = ledger.kind) :
    TransactionMap.Keyed parts.revised := by
  intro identity tx found
  obtain ⟨copy, sighting, _, seen, _, revises⟩ := (split.isRevised identity tx).mp found
  rw [(revises_iff (own identity sighting seen)).mp revises, identity_revision]
  exact keyed identity sighting seen

end Ledger.Parts.Split

namespace Pass
variable {request : Request} {known remote : TransactionMap}

theorem unchanged_merging : (merging request known remote).tracker.stats.unchanged =
    (request.ledger.parts known remote).same.size := by
  have before : (opened request known).tracker.stats.unchanged = 0 := by
    rw [opened, Tracker.stats_advance, Tracker.stats_advance]
    rfl
  rw [stats_merging, Stats.unchanged_foldl_add, before, Ledger.parts, SortedMap.size_pick,
    Ledger.merge, List.map_map, List.countP_cons_of_neg (by simp), List.countP_map, Nat.zero_add]
  refine List.countP_congr fun entry _ => ?_
  cases judged : request.ledger.judge known entry.1 entry.2 <;> simp [judged, recordOf]

theorem remoteCount_merging :
    (merging request known remote).tracker.stats.remoteCount = remote.size := by
  rw [stats_merging, List.foldl_cons, Stats.remoteCount_foldl_add]
  · rfl
  · intro count member
    obtain ⟨⟨identity, verdict⟩, _, same⟩ := List.mem_map.mp member
    cases verdict <;> cases same

theorem stored_merging_eq_keys : (merging request known remote).tracker.stats.stored =
    (request.ledger.parts known remote).fresh.keys := by
  rw [stored_merging, Ledger.parts, SortedMap.keys_pick, Ledger.merge, List.filterMap_map]
  refine List.filterMap_congr fun entry _ => ?_
  cases judged : request.ledger.judge known entry.1 entry.2 <;>
    simp [judged, recordOf, Record.stored?, Verdict.fresh?]

theorem replaced_merging_eq_keys : (merging request known remote).tracker.stats.replaced =
    (request.ledger.parts known remote).revised.keys := by
  rw [replaced_merging, Ledger.parts, SortedMap.keys_pick, Ledger.merge, List.filterMap_map]
  refine List.filterMap_congr fun entry _ => ?_
  cases judged : request.ledger.judge known entry.1 entry.2 <;>
    simp [judged, recordOf, Record.replaced?, Verdict.revised?]

theorem phase_merging : (merging request known remote).phase =
    .adding (request.ledger.parts known remote).fresh.values
      (request.ledger.parts known remote).revised.values := by
  rw [Ledger.parts, SortedMap.values_pick, SortedMap.values_pick, ← Ledger.fresh_eq,
    ← Ledger.revised_eq]
  rfl

theorem get?_view_of_parts (identity : Identity) :
    (request.ledger.merge known remote).view.get? identity =
      (((request.ledger.parts known remote).fresh.get? identity).or
        ((request.ledger.parts known remote).revised.get? identity)).or
          (known.get? identity) := by
  simp only [Ledger.get?_view, Ledger.parts, SortedMap.get?_pick]
  cases remote.get? identity with
  | none => rfl
  | some tx =>
      simp only [Option.bind_some]
      cases request.ledger.judge known identity tx <;> rfl

/-- What a pass that has merged two views shows of the parts, and has yet to write of them. -/
structure Reports (pass : Pass) (known remote : TransactionMap) (parts : Ledger.Parts) :
    Prop where
  batches : pass.phase = .adding parts.fresh.values parts.revised.values
  stored : pass.tracker.stats.stored = parts.fresh.values.map Transaction.identity
  replaced : pass.tracker.stats.replaced = parts.revised.values.map Transaction.identity
  ascending : ∀ batch ∈ [pass.tracker.stats.stored, pass.tracker.stats.replaced],
    batch.Pairwise fun first second => compare first second = .lt
  unchanged : pass.tracker.stats.unchanged = parts.same.size
  shown : ∃ view, pass.updates = [.known known, .merged view] ∧ ∀ identity,
    view.get? identity = ((parts.fresh.get? identity).or (parts.revised.get? identity)).or
      (known.get? identity)
  counted : pass.tracker.stats.remoteCount = remote.size ∧
    pass.tracker.stats.stored.length + pass.tracker.stats.replaced.length +
      pass.tracker.stats.unchanged = remote.size

/-- A merge is an exact partition of the remote view, and as good as the merge of one transaction
after another. -/
theorem merging_splits (keyed : TransactionMap.Keyed remote)
    (own : ∀ identity tx, remote.get? identity = some tx → tx.kind = request.ledger.kind) :
    (opened request known).mergeInTurn known remote = merging request known remote ∧
      ∃ parts : Ledger.Parts, parts.Split request.ledger known remote ∧
        (merging request known remote).Reports known remote parts := by
  have split := @Ledger.split_parts request.ledger known remote own
  have fresh := TransactionMap.identities_of_keyed (split.keyed_fresh keyed)
  have revised := TransactionMap.identities_of_keyed (split.keyed_revised keyed own)
  refine ⟨mergeInTurn_eq (opened request known) known remote, _, split, ?_⟩
  constructor
  case batches => exact phase_merging
  case stored => rw [fresh, stored_merging_eq_keys]
  case replaced => rw [revised, replaced_merging_eq_keys]
  case ascending =>
    simp only [List.forall_mem_cons, stored_merging_eq_keys, replaced_merging_eq_keys]
    exact ⟨SortedMap.pairwise_keys _, SortedMap.pairwise_keys _, by simp⟩
  case unchanged => exact unchanged_merging
  case shown => exact ⟨_, rfl, get?_view_of_parts⟩
  case counted =>
    refine ⟨remoteCount_merging, ?_⟩
    rw [stored_merging_eq_keys, replaced_merging_eq_keys, unchanged_merging, ← split.size]
    simp only [SortedMap.keys, SortedMap.size, List.length_map]

/-- One transaction is new, one has an event that its copy lacks, one is known as it is, and one
is known only locally. -/
theorem merging_splits_sample :
    let known := TransactionMap.ofTransactions
      [Sample.shared [Sample.transfer Sample.first 0],
        Sample.shared [Sample.transfer Sample.first 0] 11,
        Sample.shared [Sample.transfer Sample.first 0] 13]
    let remote := TransactionMap.ofTransactions
      [Sample.shared [Sample.transfer Sample.first 1],
        Sample.shared [Sample.transfer Sample.first 0] 11,
        Sample.shared [Sample.transfer Sample.first 0] 12]
    let pass := merging (Sample.request Sample.first) known remote
    (pass.tracker.stats.stored.map Identity.version,
        pass.tracker.stats.replaced.map Identity.version, pass.tracker.stats.unchanged) =
      ([12], [10], 1) ∧
    (opened (Sample.request Sample.first) known).mergeInTurn known remote = pass ∧
      ∃ parts : Ledger.Parts, parts.Split Sample.ledger known remote ∧
        pass.Reports known remote parts := by
  refine ⟨by decide +kernel, merging_splits ?_ ?_⟩
  · exact fun identity tx found => (TransactionMap.mem_of_get?_ofTransactions found).2
  · intro identity tx found
    have member := (TransactionMap.mem_of_get?_ofTransactions found).1
    simp only [List.mem_cons, List.not_mem_nil, or_false] at member
    rcases member with rfl | rfl | rfl <;> rfl

end Pass

end Passbook
