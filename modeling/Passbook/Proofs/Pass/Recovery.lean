import Mathlib.Data.List.Perm.Subperm
import Passbook.Proofs.Ledger.Agreement
import Passbook.Proofs.Pass.History
/-!
Passes that fail. A failed pass has stored nothing, or all that is new and nothing of what is
revised; and whichever it was, the next pass with the same answers leaves the store as a single
pass would have left it.
-/

namespace Passbook

namespace Ledger
variable {ledger : Ledger} {known other remote : TransactionMap}

/-- Both views have the same copy of an identity, whatever is noted on it. -/
def SameCopy (known other : TransactionMap) (identity : Identity) : Prop :=
  (other.get? identity).map (Transaction.withAnnotations {}) =
    (known.get? identity).map (Transaction.withAnnotations {})

theorem judge_of_sameCopy {identity : Identity} (same : SameCopy known other identity)
    (tx : Transaction) :
    (ledger.judge other identity tx).fresh? = (ledger.judge known identity tx).fresh? ∧
      (ledger.judge other identity tx).revised?.map (Transaction.withAnnotations {}) =
        (ledger.judge known identity tx).revised?.map (Transaction.withAnnotations {}) := by
  unfold SameCopy at same
  cases held : known.get? identity with
  | none =>
      rw [held, Option.map_none, Option.map_eq_none_iff] at same
      rw [judge_of_unknown held, judge_of_unknown same]
      exact ⟨rfl, rfl⟩
  | some copy =>
      rw [held, Option.map_some, Option.map_eq_some_iff] at same
      obtain ⟨twin, held', bare⟩ := same
      have compared : ledger.compare twin tx = ledger.compare copy tx := by
        rw [← compare_withAnnotations twin tx {}, bare, compare_withAnnotations]
      have merged : ledger.mergeEvents twin tx = ledger.mergeEvents copy tx := by
        rw [← mergeEvents_withAnnotations twin tx {}, bare, mergeEvents_withAnnotations]
      rw [judge_of_known held, judge_of_known held', compared]
      by_cases unchanged : ledger.compare copy tx = .unchanged
      · simp [unchanged]
      · simp [unchanged, Verdict.fresh?, Verdict.revised?, revision, merged]

theorem fresh_congr (same : ∀ identity, SameCopy known other identity) :
    (ledger.merge other remote).fresh = (ledger.merge known remote).fresh := by
  rw [fresh_eq, fresh_eq]
  exact List.filterMap_congr fun entry _ => (judge_of_sameCopy (same entry.1) entry.2).1

/-- Batches that revise the same transactions, whatever is noted on them. -/
theorem revised_congr (same : ∀ entry ∈ remote.entries,
      (ledger.judge other entry.1 entry.2).revised?.map (Transaction.withAnnotations {}) =
        (ledger.judge known entry.1 entry.2).revised?.map (Transaction.withAnnotations {})) :
    (ledger.merge other remote).revised.map (Transaction.withAnnotations {}) =
      (ledger.merge known remote).revised.map (Transaction.withAnnotations {}) := by
  rw [revised_eq, revised_eq, List.map_filterMap, List.map_filterMap]
  exact List.filterMap_congr same

/-- What a store keeps of a transaction is never found to differ from it. -/
theorem compare_kept {tx : Transaction} (tidy : tx.Tidy) (own : tx.kind = ledger.kind)
    (instant : Instant) (annotations : Annotations) :
    ledger.compare (tx.kept instant annotations) tx = .unchanged := by
  rw [compare_eq_unchanged_iff own]
  cases tx with
  | sequential tx => exact ⟨rfl, fun _ _ held => held⟩
  | block tx =>
      have log : EventLog.kept tx.events = tx.events :=
        EventLog.kept_of_keyed tidy.keyed tidy.settled
      refine ⟨rfl, fun _ key held => ?_⟩
      change (EventLog.kept tx.events).contains key = true
      rw [log]
      exact held

end Ledger

namespace Store
variable {store added : Store} {ledger : Ledger} {known other remote : TransactionMap}
  {chain : ChainId} {addresses : List String} {start : UInt64} {viewer viewer' : Option Int64}

theorem replace_congr (store : Store) {first second : List Transaction}
    (same : first.map (Transaction.withAnnotations {}) =
      second.map (Transaction.withAnnotations {})) :
    store.replace first = store.replace second := by
  rw [← replace_withAnnotations store first {}, same, replace_withAnnotations]

/-- A row is shown alike to all viewers, and alike by all stores that have it. -/
theorem sameCopy_of_row (taken : store.snapshot chain addresses start viewer = .ok known)
    (taken' : added.snapshot chain addresses start viewer' = .ok other) (identity : Identity)
    (row : added.rows.get? identity = store.rows.get? identity) :
    Ledger.SameCopy known other identity := by
  unfold Ledger.SameCopy
  cases found : store.rows.get? identity with
  | none =>
      rw [absent_of_snapshot taken (by simp [found]),
        absent_of_snapshot taken' (by simp [row, found])]
  | some kept =>
      by_cases chosen : selects chain addresses start identity kept = true
      · obtain ⟨tx, read, held⟩ := exists_of_snapshot taken found chosen
        obtain ⟨tx', read', held'⟩ := exists_of_snapshot taken' (row.trans found) chosen
        have both := (Row.transaction_eq_ok read).2.2 (added.annotations viewer' identity)
        rw [read'] at both
        cases both
        rw [held, held']
        simp
      · rw [absent_of_snapshot taken (by simp [found, chosen]),
          absent_of_snapshot taken' (by simp [row, found, chosen])]

section Added
variable (taken : store.snapshot chain addresses start viewer = .ok known)
  (stored : store.addNew (ledger.merge known remote).fresh = .ok added)
  (taken' : added.snapshot chain addresses start viewer' = .ok other)
include taken stored taken'

/-- What was known stays as it is when the new transactions are stored. -/
theorem sameCopy_of_known {identity : Identity} {copy : Transaction}
    (held : known.get? identity = some copy) : Ledger.SameCopy known other identity := by
  obtain ⟨row, found, _, _⟩ := (get?_of_snapshot taken).mp held
  refine sameCopy_of_row taken taken' identity ?_
  rw [get?_addNew stored, found]
  rfl

variable (keyed : TransactionMap.Keyed remote)
include keyed

/-- What was new and is shown by now is as the queries found it. -/
theorem unchanged_of_added (tidy : ∀ identity tx, remote.get? identity = some tx → tx.Tidy)
    (plain : ∀ identity tx, remote.get? identity = some tx → ¬ tx.timestamp.IsLeap)
    (own : ∀ identity tx, remote.get? identity = some tx → tx.kind = ledger.kind)
    {identity : Identity} {copy tx : Transaction} (found : remote.get? identity = some tx)
    (unknown : known.get? identity = none) (held : other.get? identity = some copy) :
    ledger.compare copy tx = .unchanged := by
  have row := get?_addNew stored identity
  rw [Ledger.find?_fresh keyed, unknown] at row
  cases before : store.rows.get? identity with
  | some old =>
      -- A stored copy that was hidden from the first snapshot stays hidden.
      have same := sameCopy_of_row taken taken' identity (by simpa [before] using row)
      rw [Ledger.SameCopy, unknown, held] at same
      cases same
  | none =>
      -- The copy is read from the row of the sighting itself.
      rw [before, found] at row
      have fits := fits_of_addNew stored tx (Ledger.mem_fresh.mpr ⟨identity, unknown, found⟩)
      obtain ⟨instant, kept⟩ := Instant.exists_kept (plain identity tx found)
      obtain ⟨row', there, _, read⟩ := (get?_of_snapshot taken').mp held
      cases row.symm.trans there
      rw [← keyed identity tx found, Row.transaction_keeping fits kept] at read
      cases read
      exact Ledger.compare_kept (tidy identity tx found) (own identity tx found) _ _

theorem stored_of_fresh {tx : Transaction} (member : tx ∈ (ledger.merge other remote).fresh) :
    tx.Fits ∧ added.rows.contains tx.identity = true := by
  obtain ⟨identity, hidden, found⟩ := Ledger.mem_fresh.mp member
  have unknown : known.get? identity = none := by
    cases held : known.get? identity with
    | none => rfl
    | some copy =>
        have same := sameCopy_of_known taken stored taken' held
        rw [Ledger.SameCopy, hidden, held] at same
        cases same
  refine ⟨fits_of_addNew stored tx (Ledger.mem_fresh.mpr ⟨identity, unknown, found⟩), ?_⟩
  rw [keyed identity tx found, SortedMap.contains, get?_addNew stored,
    Ledger.find?_fresh keyed, unknown, found]
  simp

/-- What a second merge revises is what the first was to revise. -/
theorem revised_of_added (tidy : ∀ identity tx, remote.get? identity = some tx → tx.Tidy)
    (plain : ∀ identity tx, remote.get? identity = some tx → ¬ tx.timestamp.IsLeap)
    (own : ∀ identity tx, remote.get? identity = some tx → tx.kind = ledger.kind) :
    (ledger.merge other remote).revised.map (Transaction.withAnnotations {}) =
      (ledger.merge known remote).revised.map (Transaction.withAnnotations {}) := by
  refine Ledger.revised_congr ?_
  rintro ⟨identity, tx⟩ member
  have found : remote.get? identity = some tx := SortedMap.get?_eq_some_iff.mpr member
  cases held : known.get? identity with
  | some copy =>
      exact (Ledger.judge_of_sameCopy
        (sameCopy_of_known taken stored taken' held) tx).2
  | none =>
      rw [Ledger.judge_of_unknown held]
      cases held' : other.get? identity with
      | none => rw [Ledger.judge_of_unknown held']
      | some copy =>
          have same := unchanged_of_added taken stored taken' keyed tidy plain own found held held'
          rw [Ledger.judge_of_known held', if_pos same]
          rfl

end Added

end Store

namespace Pass
variable {outage : Outage} {store : Store} {request : Request}
  {arrivals first answers : List Arrival}

theorem written_congr {fresh revised revised' : List Transaction}
    (same : revised.map (Transaction.withAnnotations {}) =
      revised'.map (Transaction.withAnnotations {})) :
    written outage store fresh revised = written outage store fresh revised' := by
  unfold written
  cases outage.guard .addNew (store.addNew fresh) with
  | error problem => rfl
  | ok added =>
      have both := Store.replace_congr added same
      simp only [both]

/-- A failed pass has stored nothing, or just what is new; the latter only if the revised
transactions could not be stored after it. -/
theorem store_of_failure
    (failed : (run outage store request arrivals).2.tracker.published.stage = .done .failed) :
    (run outage store request arrivals).1 = store ∨
      ∃ known remote problem, Loads outage store request known ∧
        Gathers request arrivals remote ∧ outage .addNew = none ∧
        store.addNew (request.ledger.merge known remote).fresh =
          .ok (run outage store request arrivals).1 ∧
        outage.guard .replace ((run outage store request arrivals).1.replace
          (request.ledger.merge known remote).revised) = .error problem ∧
        (run outage store request arrivals).2.problems = [.persistence problem] := by
  rcases run_cases outage store request arrivals with ⟨known, remote, loads, gathers⟩ | ⟨same, _⟩
  · rw [run_of_gathers loads gathers] at failed ⊢
    rcases written_cases outage store (request.ledger.merge known remote).fresh
        (request.ledger.merge known remote).revised with
      ⟨problem, _, built⟩ | ⟨added, problem, free, stored, stopped, built⟩ |
      ⟨added, after, _, _, built⟩
    · left
      rw [built]
    · right
      rw [built]
      exact ⟨known, remote, problem, loads, gathers, free, stored, stopped, rfl⟩
    · rw [built, published_closed_none] at failed
      cases failed
  · left
    exact same

theorem run_of_not_gathers (lost : ¬ ∃ remote, Gathers request arrivals remote) :
    (run outage store request arrivals).1 = store := by
  rcases run_cases outage store request arrivals with ⟨_, remote, _, gathers⟩ | ⟨same, _⟩
  · exact absurd ⟨remote, gathers⟩ lost
  · exact same

theorem run_of_not_loads (lost : ¬ ∃ known, Loads outage store request known) :
    (run outage store request arrivals).1 = store := by
  rcases run_cases outage store request arrivals with ⟨known, _, loads, _⟩ | ⟨same, _⟩
  · exact absurd ⟨known, loads⟩ lost
  · exact same

/-- What the queries of a pass answer, each once, if they are asked again: no instant is in a leap
second, logs are in order, and no two sightings of a transaction differ. -/
structure Steady (answers : List Arrival) : Prop where
  plain : ∀ view, Arrival.found view ∈ answers → ∀ tx ∈ view.values, ¬ tx.timestamp.IsLeap
  keyed : ∀ view, Arrival.found view ∈ answers → ∀ tx ∈ view.values, EventLog.Keyed tx.events
  alike : ∀ view, Arrival.found view ∈ answers → ∀ other, Arrival.found other ∈ answers →
    ∀ tx ∈ view.values, ∀ sighting ∈ other.values,
      tx.identity = sighting.identity → tx = sighting

theorem mem_sightings_of_perm {views : List TransactionMap}
    (turned : answers.Perm (views.map .found)) {tx : Transaction} :
    tx ∈ Ledger.sightings views ↔ ∃ view, Arrival.found view ∈ answers ∧ tx ∈ view.values := by
  rw [Ledger.mem_sightings]
  refine exists_congr fun view => and_congr_left' ?_
  rw [turned.mem_iff, List.mem_map]
  constructor
  · exact fun member => ⟨view, member, rfl⟩
  · rintro ⟨other, member, same⟩
    cases same
    exact member

/-- Steady answers come to one remote view in whatever order they arrive. -/
theorem gathers_of_perm (steady : Steady answers) {views : List TransactionMap}
    {remote : TransactionMap} (turned : answers.Perm (views.map .found))
    (length : views.length = request.addresses.length)
    (done : request.ledger.remote views = .ok remote) (came : arrivals.Perm answers) :
    Gathers request arrivals remote := by
  obtain ⟨others, rfl, perm⟩ := found_of_perm (came.trans turned)
  have size : others.length = request.addresses.length := perm.length_eq.trans length
  refine ⟨others, List.take_of_length_le (by simp [size]), size, ?_⟩
  refine Ledger.remote_congr ?_ done ?_
  · intro tx
    rw [mem_sightings_of_perm turned, mem_sightings_of_perm came.symm]
  · intro first member₁ second member₂ own
    obtain ⟨view₁, among₁, found₁⟩ := (mem_sightings_of_perm turned).mp member₁
    obtain ⟨view₂, among₂, found₂⟩ := (mem_sightings_of_perm turned).mp member₂
    exact steady.alike view₁ among₁ view₂ among₂ first found₁ second found₂ own

/-- A pass that sees its queries through has heard every answer. -/
theorem perm_of_gathers (each : answers.length = request.addresses.length)
    (came : (first.filter (· ≠ .cancelled)).Subperm answers) {views : List TransactionMap}
    (taken : first.take request.addresses.length = views.map .found)
    (length : views.length = request.addresses.length) :
    answers.Perm (views.map .found) := by
  -- The answers that are heard are among those given, and as many.
  have heard : views.map Arrival.found = (views.map Arrival.found).filter (· ≠ .cancelled) := by
    symm
    rw [List.filter_eq_self]
    intro arrival member
    obtain ⟨view, _, rfl⟩ := List.mem_map.mp member
    rfl
  have part : (views.map Arrival.found).Subperm answers := by
    rw [heard, ← taken]
    exact ((List.take_sublist _ first).filter _).subperm.trans came
  exact (part.perm_of_length_le (by simp [each, length])).symm

theorem gathers_again (each : answers.length = request.addresses.length)
    (steady : Steady answers) (came : (first.filter (· ≠ .cancelled)).Subperm answers)
    {remote : TransactionMap} (gathers : Gathers request first remote)
    (heard : arrivals.Perm answers) : Gathers request arrivals remote := by
  obtain ⟨views, taken, length, done⟩ := gathers
  exact gathers_of_perm steady (perm_of_gathers each came taken length) length done heard

theorem gathers_unique {remote other : TransactionMap} (one : Gathers request arrivals remote)
    (two : Gathers request arrivals other) : remote = other := by
  obtain ⟨views, taken, _, done⟩ := one
  obtain ⟨views', taken', _, done'⟩ := two
  have same : views = views' :=
    List.map_injective_iff.mpr (fun _ _ same => Arrival.found.inj same) (taken.symm.trans taken')
  rw [same, done'] at done
  exact (Except.ok.inj done).symm

section Repair
variable {addresses : List String} {views : List TransactionMap}
  {known remote : TransactionMap}

theorem facts_of_remote (steady : Steady answers) (turned : answers.Perm (views.map .found))
    (done : request.ledger.remote views = .ok remote) :
    (∀ identity tx, remote.get? identity = some tx → tx.Tidy) ∧
      (∀ identity tx, remote.get? identity = some tx → ¬ tx.timestamp.IsLeap) ∧
      ∀ identity tx, remote.get? identity = some tx → tx.kind = request.ledger.kind := by
  refine ⟨fun identity tx found => Ledger.tidy_of_remote done ?_ found,
    fun identity tx found => Ledger.good_of_remote Transaction.heritable_plain done ?_ found,
    fun identity tx found =>
      (Ledger.belongs_of_misfit? (Ledger.belongs_of_remote done found).2).2⟩
  · intro tx member
    obtain ⟨view, among, held⟩ := (mem_sightings_of_perm turned).mp member
    exact steady.keyed view among tx held
  · intro tx member
    obtain ⟨view, among, held⟩ := (mem_sightings_of_perm turned).mp member
    exact steady.plain view among tx held

/-- What is loaded for one viewer is loaded for another. -/
theorem Loads.for_viewer (sound : store.Sound) {viewer : Option Int64}
    (loads : Loads outage store { request with viewer } known) (viewer' : Option Int64) :
    ∃ other, Loads .none store { request with viewer := viewer' } other := by
  obtain ⟨addresses, read, taken⟩ := loads.unhindered
  have allowed := Store.allowed_of_snapshot taken
  obtain ⟨other, taken'⟩ := Store.exists_snapshot_of_sound sound request.ledger.chain allowed
    request.start viewer'
  exact ⟨other, addresses, read, taken'⟩

theorem run_of_viewer (sound : store.Sound) (loads : Loads .none store request known)
    (gathers : Gathers request arrivals remote) {later : List Arrival} (viewer : Option Int64)
    (gathers' : Gathers request later remote) :
    (run .none store { request with viewer } later).1 =
      (run .none store request arrivals).1 := by
  obtain ⟨other, loads'⟩ := Loads.for_viewer sound loads viewer
  have same : ∀ identity, Ledger.SameCopy known other identity := fun identity => by
    obtain ⟨addresses, read, taken⟩ := loads
    obtain ⟨_, read', taken'⟩ := loads'
    cases read.symm.trans read'
    exact Store.sameCopy_of_row taken taken' identity rfl
  rw [run_of_gathers loads gathers, run_of_gathers loads' gathers']
  simp only
  rw [Ledger.fresh_congr same]
  exact congrArg Prod.fst (written_congr (Ledger.revised_congr fun entry _ =>
    (Ledger.judge_of_sameCopy (same entry.1) entry.2).2))

/-- A pass that finds what is new stored by another takes up where that one stopped. -/
theorem run_of_half {added : Store} (sound : store.Sound)
    (loads : Loads .none store request known) (gathers : Gathers request arrivals remote)
    (keyed : TransactionMap.Keyed remote)
    (tidy : ∀ identity tx, remote.get? identity = some tx → tx.Tidy)
    (plain : ∀ identity tx, remote.get? identity = some tx → ¬ tx.timestamp.IsLeap)
    (own : ∀ identity tx, remote.get? identity = some tx → tx.kind = request.ledger.kind)
    (stored : store.addNew (request.ledger.merge known remote).fresh = .ok added)
    {later : List Arrival} (viewer : Option Int64) (gathers' : Gathers request later remote) :
    (run .none added { request with viewer } later).1 =
      (run .none store request arrivals).1 := by
  obtain ⟨addresses, read, taken⟩ := loads
  have settled := Store.sound_addNew sound (Ledger.plain_of_merge _ _ plain).1 stored
  obtain ⟨other, taken'⟩ := Store.exists_snapshot_of_sound settled request.ledger.chain
    (Store.allowed_of_snapshot taken) request.start viewer
  have loads' : Loads .none added { request with viewer } other := ⟨addresses, read, taken'⟩
  -- What is new is stored already, and what is revised is revised now.
  rw [run_of_gathers ⟨addresses, read, taken⟩ gathers, run_of_gathers loads' gathers']
  have again : added.addNew (request.ledger.merge other remote).fresh = .ok added :=
    Store.addNew_of_stored fun tx member =>
      Store.stored_of_fresh taken stored taken' keyed member
  have revised := Store.replace_congr added
    (Store.revised_of_added taken stored taken' keyed tidy plain own)
  simp only [written, Outage.guard, Outage.none, stored, again, revised]

end Repair

/-- A failed pass leaves the store as it was or with just the new transactions added, and once a
pass with the same answers meets no failure of the store, the store is what a single such pass
would have made of it. -/
theorem repaired_of_failure {deeds : List Deed} (plain : ∀ deed ∈ deeds, deed.Plain)
    (each : answers.length = request.addresses.length) (steady : Steady answers)
    (came : (first.filter (· ≠ .cancelled)).Subperm answers)
    (failed : (run outage (Store.after deeds) request first).2.tracker.published.stage =
      .done .failed) :
    let before := Store.after deeds
    let half := run outage before request first
    (half.1 = before ∨
      ∃ known remote problem, Loads outage before request known ∧
        Gathers request first remote ∧ outage .addNew = none ∧
        before.addNew (request.ledger.merge known remote).fresh = .ok half.1 ∧
        outage.guard .replace (half.1.replace (request.ledger.merge known remote).revised) =
          .error problem ∧
        half.2.problems = [.persistence problem]) ∧
      ∀ viewer later alone, later.Perm answers → alone.Perm answers →
        (run .none half.1 { request with viewer } later).1 =
          (run .none before request alone).1 := by
  have sound := Store.sound_after plain
  refine ⟨store_of_failure failed, fun viewer later alone heard heard' => ?_⟩
  generalize Store.after deeds = store at *
  have among : ∀ {some : List Arrival}, some.Perm answers →
      (some.filter (· ≠ .cancelled)).Subperm answers := fun heard =>
    List.filter_sublist.subperm.trans heard.subperm
  by_cases loadable : ∃ known, Loads .none store request known
  · obtain ⟨known, loads⟩ := loadable
    by_cases gathered : ∃ remote, Gathers request alone remote
    · obtain ⟨remote, gathers⟩ := gathered
      have gathers' := gathers_again each steady (among heard') gathers heard
      rcases store_of_failure failed with
        same | ⟨known', remote', _, loads', begun, _, stored, _⟩
      · rw [same]
        exact run_of_viewer sound loads gathers viewer gathers'
      · have one : remote' = remote :=
          gathers_unique (gathers_again each steady came begun heard') gathers
        have two : known' = known := loads_unique loads'.unhindered loads
        subst one two
        obtain ⟨views, taken, length, done⟩ := begun
        obtain ⟨tidy, still, own⟩ :=
          facts_of_remote steady (perm_of_gathers each came taken length) done
        exact run_of_half sound loads gathers (Ledger.keyed_remote done) tidy still own stored
          viewer gathers'
    · -- No pass with these answers comes to write anything.
      have lost : ¬ ∃ remote, Gathers request later remote := fun ⟨remote, gathers⟩ =>
        gathered ⟨remote, gathers_again each steady (among heard) gathers heard'⟩
      rcases store_of_failure failed with same | ⟨_, remote, _, _, begun, _⟩
      · rw [same, run_of_not_gathers gathered]
        exact run_of_not_gathers lost
      · exact absurd ⟨remote, gathers_again each steady came begun heard'⟩ gathered
  · -- No pass over these addresses comes to load anything.
    have lost : ∀ outage viewer, ¬ ∃ known, Loads outage store { request with viewer } known := by
      rintro outage viewer ⟨known, loads⟩
      exact loadable (loads.for_viewer sound request.viewer)
    have same : (run outage store request first).1 = store :=
      run_of_not_loads (lost outage request.viewer)
    rw [same, run_of_not_loads (lost .none viewer)]
    exact (run_of_not_loads (lost .none request.viewer)).symm

end Pass

namespace Sample

def stocked : List Deed := [.add [shared [transfer first 2]]]

/-- Another event of the stored transaction, and a transaction that is new. -/
def news : TransactionMap :=
  .ofTransactions [shared [transfer first 0], shared [transfer first 1] 11]

end Sample

namespace Pass

theorem repaired_of_failure_sample :
    let before := Store.after Sample.stocked
    let half := run (Sample.failing .replace) before (Sample.request Sample.first)
      [.found Sample.news]
    (half.1 = before ∨
      ∃ known remote problem,
        Loads (Sample.failing .replace) before (Sample.request Sample.first) known ∧
        Gathers (Sample.request Sample.first) [.found Sample.news] remote ∧
        Sample.failing .replace .addNew = none ∧
        before.addNew (Sample.ledger.merge known remote).fresh = .ok half.1 ∧
        (Sample.failing .replace).guard .replace
          (half.1.replace (Sample.ledger.merge known remote).revised) = .error problem ∧
        half.2.problems = [.persistence problem]) ∧
      ∀ viewer later alone, later.Perm [.found Sample.news] → alone.Perm [.found Sample.news] →
        (run .none half.1 { Sample.request Sample.first with viewer } later).1 =
          (run .none before (Sample.request Sample.first) alone).1 := by
  have both : Sample.news.values = [Sample.shared [Sample.transfer Sample.first 0],
      Sample.shared [Sample.transfer Sample.first 1] 11] := by decide +kernel
  have steady : Steady [.found Sample.news] := by
    refine ⟨?_, ?_, ?_⟩
    · intro view member tx among
      cases List.mem_singleton.mp member
      rw [both] at among
      rcases List.mem_pair.mp among with rfl | rfl <;> decide
    · intro view member tx among
      cases List.mem_singleton.mp member
      rw [both] at among
      rcases List.mem_pair.mp among with rfl | rfl <;> exact EventLog.keyed_ofEvents _
    · intro view member other member' tx among sighting among' own
      cases List.mem_singleton.mp member
      cases List.mem_singleton.mp member'
      rw [both] at among among'
      rcases List.mem_pair.mp among with rfl | rfl <;>
        rcases List.mem_pair.mp among' with rfl | rfl
      · rfl
      · exact absurd own (by decide)
      · exact absurd own (by decide)
      · rfl
  have plain : ∀ deed ∈ Sample.stocked, deed.Plain := by
    intro deed member
    cases List.mem_singleton.mp member
    intro tx among
    cases List.mem_singleton.mp among
    decide
  have failed : (run (Sample.failing .replace) (Store.after Sample.stocked)
      (Sample.request Sample.first) [.found Sample.news]).2.tracker.published.stage =
        .done .failed := by decide +kernel
  exact repaired_of_failure plain rfl steady List.filter_sublist.subperm failed

end Pass

end Passbook
