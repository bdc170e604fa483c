import Passbook.Proofs.Pass.History
import Passbook.Proofs.Store.Selection
/-!
Passes converge. When every transaction that the queries find is one that the store keeps as it is
and shows to the addresses of the pass, the merged view is what the store shows afterwards, and
another pass with the same answers has nothing left to do.
-/

namespace Passbook

namespace Transaction

/-- A sighting that a store keeps as it is and shows to the addresses that ask for it. -/
structure Reportable (ledger : Ledger) (addresses : List String) (start : UInt64)
    (tx : Transaction) : Prop where
  belongs : ledger.misfit? tx = none
  onward : start ≤ tx.identity.version
  fits : tx.Fits
  whole : tx.timestamp.IsWhole
  plain : ¬ tx.timestamp.IsLeap
  bare : tx.annotations = {}
  tidy : tx.Tidy
  named : tx.Names addresses

theorem mem_parties_block {tx : BlockTransaction} {party : String} :
    party ∈ (block tx).parties ↔ ∃ key event, tx.events.get? key = some event ∧
      (party = event.sender ∨ party = event.receiver) := by
  simp only [parties, List.mem_flatMap, SortedMap.mem_values_iff, List.mem_cons,
    List.not_mem_nil, or_false]
  constructor
  · rintro ⟨event, ⟨key, found⟩, takes⟩
    exact ⟨key, event, found, takes⟩
  · rintro ⟨key, event, found, takes⟩
    exact ⟨event, ⟨key, found⟩, takes⟩

theorem names_withAnnotations {tx : Transaction} {addresses : List String}
    (named : tx.Names addresses) (annotations : Annotations) :
    (tx.withAnnotations annotations).Names addresses := by
  cases tx <;> exact named

end Transaction

namespace Ledger
variable {ledger : Ledger} {views others : List TransactionMap}
  {known remote : TransactionMap} {addresses : List String} {start : UInt64}

theorem names_mergeEvents {base incoming : Transaction} (named : incoming.Names addresses) :
    (ledger.mergeEvents base incoming).Names addresses := by
  rcases mergeEvents_cases ledger base incoming with same | ⟨seen, tx, rfl, rfl, same⟩
  · rw [same]
    exact named
  · obtain ⟨party, member, address, wanted, alike⟩ := named
    obtain ⟨key, event, found, takes⟩ := Transaction.mem_parties_block.mp member
    refine ⟨party, ?_, address, wanted, alike⟩
    rw [same, Transaction.mem_parties_block]
    refine ⟨key, event, ?_, takes⟩
    rw [EventLog.get?_carry, Option.or_eq_some_iff]
    exact Or.inl found

theorem names_revision {copy tx : Transaction} (named : tx.Names addresses) :
    (ledger.revision copy tx).Names addresses :=
  Transaction.names_withAnnotations (names_mergeEvents named) _

/-- What stands for reportable sightings is reportable. -/
theorem reportable_of_remote (done : ledger.remote views = .ok remote)
    (reportable : ∀ tx ∈ sightings views, tx.Reportable ledger addresses start)
    {identity : Identity} {tx : Transaction} (found : remote.get? identity = some tx) :
    tx.Reportable ledger addresses start := by
  refine remote_induction done (fun tx => tx.Reportable ledger addresses start)
    ?_ ?_ found
  · intro tx sighted
    have good := reportable tx (mem_sightingsOf.mp sighted).1
    rw [Transaction.normalized_of_settled good.tidy.settled]
    exact good
  -- Only the events come from the copy seen before, and they are kept in order.
  · intro seen known tx sighted
    have good := reportable tx (mem_sightingsOf.mp sighted).1
    rw [Transaction.normalized_of_settled good.tidy.settled]
    constructor
    · have same : ledger.misfit? (ledger.mergeEvents seen tx) = ledger.misfit? tx := by
        simp [misfit?]
      rw [same]
      exact good.belongs
    · simpa using good.onward
    · simpa [Transaction.Fits] using good.fits
    · simpa using good.whole
    · simpa using good.plain
    · simpa using good.bare
    · exact tidy_mergeEvents known.tidy good.tidy
    · exact names_mergeEvents good.named

theorem hash_of_remote (done : ledger.remote views = .ok remote) {identity : Identity}
    {hash : String} (agreed : ∀ tx ∈ sightingsOf views identity, tx.hash = hash)
    {tx : Transaction} (found : remote.get? identity = some tx) : tx.hash = hash := by
  obtain ⟨sighting, seen, same⟩ :=
    exists_sighting_of_remote done Transaction.hash (fun _ _ => rfl) found
  exact same.trans (agreed sighting seen)

/-- In whatever order the same sightings are folded, no comparison tells the outcome apart. -/
theorem alike_of_remote {remote' : TransactionMap} (done : ledger.remote views = .ok remote)
    (done' : ledger.remote others = .ok remote')
    (same : ∀ tx, tx ∈ sightings others ↔ tx ∈ sightings views)
    (agreed : ∀ first ∈ sightings views, ∀ second ∈ sightings views,
      first.identity = second.identity → first.hash = second.hash)
    {identity : Identity} {tx : Transaction} (found : remote'.get? identity = some tx) :
    ∃ other, remote.get? identity = some other ∧ Alike other tx := by
  have sighted : ∀ tx, tx ∈ sightingsOf others identity ↔ tx ∈ sightingsOf views identity :=
    fun tx => by rw [mem_sightingsOf, mem_sightingsOf, same]
  obtain ⟨sighting, seen⟩ :=
    (contains_remote done').mp (SortedMap.contains_iff_exists.mpr ⟨tx, found⟩)
  have seen := (sighted sighting).mp seen
  obtain ⟨other, held⟩ := SortedMap.contains_iff_exists.mp
    ((contains_remote done).mpr ⟨sighting, seen⟩)
  have one : ∀ tx ∈ sightingsOf views identity, tx.hash = sighting.hash := fun tx member =>
    agreed tx (mem_sightingsOf.mp member).1 sighting (mem_sightingsOf.mp seen).1
      ((mem_sightingsOf.mp member).2.trans (mem_sightingsOf.mp seen).2.symm)
  refine ⟨other, held, ?_, ?_, ?_⟩
  · rw [(belongs_of_misfit? (belongs_of_remote done held).2).2,
      (belongs_of_misfit? (belongs_of_remote done' found).2).2]
  · rw [hash_of_remote done one held,
      hash_of_remote done' (fun tx member => one tx ((sighted tx).mp member)) found]
  · intro key
    rw [Bool.eq_iff_iff, contains_event_remote done held, contains_event_remote done' found]
    exact exists_congr fun tx => and_congr_left' (sighted tx).symm

end Ledger

namespace Store
variable {store added after : Store} {ledger : Ledger} {known remote : TransactionMap}
  {addresses : List String} {start : UInt64} {viewer : Option Int64}

theorem exists_writes (taken : store.snapshot ledger.chain addresses start viewer = .ok known)
    (reportable : ∀ identity tx, remote.get? identity = some tx →
      tx.Reportable ledger addresses start) :
    ∃ added after, store.addNew (ledger.merge known remote).fresh = .ok added ∧
      added.replace (ledger.merge known remote).revised = .ok after := by
  obtain ⟨added, stored⟩ := exists_addNew store (ledger.merge known remote).fresh <| by
    intro tx member
    obtain ⟨identity, _, found⟩ := Ledger.mem_fresh.mp member
    have good := reportable identity tx found
    exact ⟨good.fits, Transaction.logsOnce_of_keyed good.tidy.keyed⟩
  obtain ⟨after, replaced⟩ := exists_replace added (ledger.merge known remote).revised <| by
    intro tx member
    obtain ⟨identity, copy, sighting, held, found, _, rfl⟩ := Ledger.mem_revised.mp member
    have good := reportable identity sighting found
    obtain ⟨_, _, _, read⟩ := (get?_of_snapshot taken).mp held
    have tidy := Ledger.tidy_revision ledger (Row.tidy_of_transaction read) good.tidy
    refine ⟨?_, Transaction.logsOnce_of_keyed tidy.keyed⟩
    simpa [Transaction.Fits] using good.fits
  exact ⟨added, after, stored, replaced⟩

/-- What was written of a reportable transaction is shown again. -/
theorem shown_of_keeping {tx : Transaction} (home : tx.identity.chain = ledger.chain)
    (onward : start ≤ tx.identity.version) (fits : tx.Fits) (tidy : tx.Tidy)
    (whole : tx.timestamp.kept? = some tx.timestamp) (named : tx.Names addresses)
    (shown : Transaction) :
    (∃ row, some (Row.keeping tx) = some row ∧
        selects ledger.chain addresses start tx.identity row = true ∧
        row.transaction tx.identity tx.annotations = .ok shown) ↔ tx = shown := by
  have selected := selects_keeping home onward tidy.keyed named
  have read := Row.transaction_keeping_self fits tidy whole
  constructor
  · rintro ⟨row, same, _, other⟩
    cases same
    exact Except.ok.inj (read.symm.trans other)
  · rintro rfl
    exact ⟨_, rfl, selected, read⟩

/-- The merged view is what the store shows after the writes. -/
theorem snapshot_of_writes (sound : after.Sound)
    (taken : store.snapshot ledger.chain addresses start viewer = .ok known)
    (keyed : TransactionMap.Keyed remote)
    (reportable : ∀ identity tx, remote.get? identity = some tx →
      tx.Reportable ledger addresses start)
    (shown : ∀ identity, remote.contains identity = true →
      store.rows.contains identity = true → known.contains identity = true)
    (bare : ∀ identity, store.rows.get? identity = none →
      store.annotations viewer identity = {})
    (stored : store.addNew (ledger.merge known remote).fresh = .ok added)
    (replaced : added.replace (ledger.merge known remote).revised = .ok after) :
    after.snapshot ledger.chain addresses start viewer =
      .ok (ledger.merge known remote).view := by
  obtain ⟨view, taken'⟩ := exists_snapshot_of_sound sound ledger.chain
    (allowed_of_snapshot taken) start viewer
  rw [taken']
  congr 1
  ext identity : 1
  apply Option.ext
  intro tx
  rw [get?_of_snapshot taken', annotations_of_writes stored replaced,
    get?_of_writes keyed stored replaced, Ledger.get?_view]
  -- The rows that a merge leaves alone are shown as before.
  have asBefore : known.get? identity = some tx ↔ _ := get?_of_snapshot taken
  cases found : remote.get? identity with
  | none =>
      rw [Option.bind_none, Option.none_or]
      exact asBefore.symm
  | some sighting =>
      have own := keyed identity sighting found
      have good := reportable identity sighting found
      have whole := Instant.kept?_of_whole good.plain good.whole
      have home := (Ledger.belongs_of_misfit? good.belongs).1
      rw [Option.bind_some]
      subst own
      cases held : known.get? sighting.identity with
      | none =>
          -- An identity that is stored would be known.
          have free : store.rows.get? sighting.identity = none := by
            rw [← SortedMap.contains_eq_false_iff, ← Bool.not_eq_true]
            intro there
            have listed := shown _ (SortedMap.contains_iff_exists.mpr ⟨_, found⟩) there
            rw [SortedMap.contains_eq_false_iff.mpr held] at listed
            cases listed
          have noted : store.annotations viewer sighting.identity = sighting.annotations := by
            rw [bare _ free, good.bare]
          rw [Ledger.judge_of_unknown held, free, noted]
          simpa [Verdict.written?] using
            shown_of_keeping home good.onward good.fits good.tidy whole good.named tx
      | some copy =>
          rw [Ledger.judge_of_known held]
          obtain ⟨_, _, _, read⟩ := (get?_of_snapshot taken).mp held
          by_cases same : ledger.compare copy sighting = .unchanged
          · rw [held] at asBefore
            simpa [same, Verdict.written?] using asBefore.symm
          -- The revision has the annotations of the copy, which are those of the store.
          · have noted : store.annotations viewer sighting.identity = copy.annotations :=
              (Row.transaction_eq_ok read).2.1.symm
            have back := shown_of_keeping (by simpa using home) (by simpa using good.onward)
              (by simpa [Transaction.Fits] using good.fits)
              (Ledger.tidy_revision ledger (Row.tidy_of_transaction read) good.tidy)
              (by simpa using whole) (Ledger.names_revision good.named) tx
            rw [noted]
            simpa [same, Verdict.written?] using back

end Store

namespace Pass
variable {request : Request} {addresses : List String} {answer : String → TransactionMap}
  {arrivals others : List Arrival}

/-- Every query finds the answer for its address, and they end in any order. -/
def Answered (answer : String → TransactionMap) (addresses : List String)
    (arrivals : List Arrival) : Prop :=
  arrivals.Perm (addresses.map fun address => .found (answer address))

theorem mem_sightings_answers {tx : Transaction} :
    tx ∈ Ledger.sightings (addresses.map answer) ↔
      ∃ address ∈ addresses, tx ∈ (answer address).values := by
  simp [Ledger.mem_sightings]

/-- Answers in any order come to a remote view of the same sightings. -/
theorem gathers_of_answered (length : addresses.length = request.addresses.length)
    (belong : ∀ tx ∈ Ledger.sightings (addresses.map answer),
      request.ledger.misfit? tx = none) (came : Answered answer addresses arrivals) :
    ∃ views remote, (∀ tx, tx ∈ Ledger.sightings views ↔
        tx ∈ Ledger.sightings (addresses.map answer)) ∧
      request.ledger.remote views = .ok remote ∧ Gathers request arrivals remote := by
  have turned : arrivals.Perm ((addresses.map answer).map .found) := by
    rw [List.map_map]
    exact came
  obtain ⟨views, rfl, perm⟩ := found_of_perm turned
  have same : ∀ tx, tx ∈ Ledger.sightings views ↔
      tx ∈ Ledger.sightings (addresses.map answer) := by
    intro tx
    rw [Ledger.mem_sightings, Ledger.mem_sightings]
    exact exists_congr fun view => and_congr_left' perm.mem_iff
  obtain ⟨remote, done⟩ := Ledger.exists_remote request.ledger views
    fun tx member => belong tx ((same tx).mp member)
  have size : views.length = request.addresses.length := by
    rw [perm.length_eq, List.length_map, length]
  refine ⟨views, remote, same, done, views, ?_, size, done⟩
  exact List.take_of_length_le (by simp [size])

/-- The answers of some queries, as far as a store is concerned. -/
structure Report (request : Request) (addresses : List String)
    (answer : String → TransactionMap) : Prop where
  reportable : ∀ address ∈ addresses, ∀ tx ∈ (answer address).values,
    tx.Reportable request.ledger addresses request.start
  agreed : ∀ first ∈ addresses, ∀ second ∈ addresses, ∀ tx ∈ (answer first).values,
    ∀ other ∈ (answer second).values, tx.identity = other.identity → tx.hash = other.hash

theorem Report.reportable_sighting (report : Report request addresses answer) {tx : Transaction}
    (member : tx ∈ Ledger.sightings (addresses.map answer)) :
    tx.Reportable request.ledger addresses request.start := by
  obtain ⟨address, wanted, found⟩ := mem_sightings_answers.mp member
  exact report.reportable address wanted tx found

theorem Report.agreed_sightings (report : Report request addresses answer)
    {first second : Transaction} (member₁ : first ∈ Ledger.sightings (addresses.map answer))
    (member₂ : second ∈ Ledger.sightings (addresses.map answer))
    (own : first.identity = second.identity) : first.hash = second.hash := by
  obtain ⟨address₁, wanted₁, found₁⟩ := mem_sightings_answers.mp member₁
  obtain ⟨address₂, wanted₂, found₂⟩ := mem_sightings_answers.mp member₂
  exact report.agreed address₁ wanted₁ address₂ wanted₂ first found₁ second found₂ own

/-- Every stored transaction that the queries report is in the local view of the pass. -/
def Shown (store : Store) (request : Request) (addresses : List String)
    (answer : String → TransactionMap) : Prop :=
  ∀ address ∈ addresses, ∀ tx ∈ (answer address).values,
    store.rows.contains tx.identity = true →
      ∃ known, store.snapshot request.ledger.chain addresses request.start request.viewer =
        .ok known ∧ known.contains tx.identity = true

/-- A pass over reportable answers ends well, and what it shows is what the store shows. -/
theorem run_of_report {store : Store} (sound : store.Sound)
    (allowed : Statement.isAllowed request.addresses.length)
    (read : canonicalAddresses request.ledger.kind request.addresses = .ok addresses)
    (report : Report request addresses answer) (shown : Shown store request addresses answer)
    (bare : ∀ identity, store.rows.get? identity = none →
      store.annotations request.viewer identity = {})
    (came : Answered answer addresses arrivals) :
    ∃ views known remote after, (∀ tx, tx ∈ Ledger.sightings views ↔
        tx ∈ Ledger.sightings (addresses.map answer)) ∧
      request.ledger.remote views = .ok remote ∧
      run .none store request arrivals = (after, (merging request known remote).closed none) ∧
      after.snapshot request.ledger.chain addresses request.start request.viewer =
        .ok (request.ledger.merge known remote).view := by
  obtain ⟨views, remote, same, done, gathers⟩ := gathers_of_answered
    (length_canonicalAddresses read)
    (fun tx member => (report.reportable_sighting member).belongs) came
  have clean : ∀ identity tx, remote.get? identity = some tx →
      tx.Reportable request.ledger addresses request.start := fun identity tx found =>
    Ledger.reportable_of_remote done
      (fun tx member => report.reportable_sighting ((same tx).mp member)) found
  obtain ⟨known, taken⟩ := Store.exists_snapshot_of_sound sound request.ledger.chain
    (length_canonicalAddresses read ▸ allowed) request.start request.viewer
  obtain ⟨added, after, stored, replaced⟩ := Store.exists_writes taken clean
  refine ⟨views, known, remote, after, same, done,
    run_of_writes ⟨addresses, read, taken⟩ gathers stored replaced, ?_⟩
  -- The rows that are written can be read, so that the store has something to show.
  obtain ⟨fresh, revised⟩ := Ledger.plain_of_merge request.ledger known
    fun identity tx found => (clean identity tx found).plain
  have settled := Store.sound_replace (Store.sound_addNew sound fresh stored) revised replaced
  refine Store.snapshot_of_writes settled taken (Ledger.keyed_remote done) clean ?_ bare stored
    replaced
  intro identity listed there
  obtain ⟨sighting, seen⟩ := (Ledger.contains_remote done).mp listed
  obtain ⟨member, rfl⟩ := Ledger.mem_sightingsOf.mp seen
  obtain ⟨address, wanted, found⟩ := mem_sightings_answers.mp ((same sighting).mp member)
  obtain ⟨known', taken', held⟩ := shown address wanted sighting found there
  cases taken.symm.trans taken'
  exact held

/-- A pass over answers that are merged into what the store shows has nothing to write. -/
theorem run_of_merged {store : Store} {views : List TransactionMap}
    {known remote : TransactionMap}
    (read : canonicalAddresses request.ledger.kind request.addresses = .ok addresses)
    (report : Report request addresses answer)
    (same : ∀ tx, tx ∈ Ledger.sightings views ↔ tx ∈ Ledger.sightings (addresses.map answer))
    (done : request.ledger.remote views = .ok remote)
    (merged : store.snapshot request.ledger.chain addresses request.start request.viewer =
      .ok (request.ledger.merge known remote).view)
    (came : Answered answer addresses arrivals) :
    ∃ again, run .none store request arrivals =
        (store, (merging request (request.ledger.merge known remote).view again).closed none) ∧
      (request.ledger.merge (request.ledger.merge known remote).view again).view =
        (request.ledger.merge known remote).view ∧
      ∀ entry ∈ (request.ledger.merge (request.ledger.merge known remote).view again).verdicts,
        entry.2 = .unchanged := by
  obtain ⟨others, again, same', done', gathers⟩ := gathers_of_answered
    (length_canonicalAddresses read)
    (fun tx member => (report.reportable_sighting member).belongs) came
  obtain ⟨noneNew, noneRevised, still, verdicts⟩ := Ledger.merge_of_unchanged
    request.ledger (request.ledger.merge known remote).view again <| by
      intro identity tx found
      obtain ⟨other, held, alike⟩ := Ledger.alike_of_remote done done'
        (fun tx => (same' tx).trans (same tx).symm)
        (fun first member₁ second member₂ own =>
          report.agreed_sightings ((same first).mp member₁) ((same second).mp member₂) own)
        found
      have own := (Ledger.belongs_of_misfit? (Ledger.belongs_of_remote done held).2).2
      obtain ⟨copy, there, unchanged⟩ := Ledger.unchanged_in_view known held own
      exact ⟨copy, there, Ledger.compare_of_alike alike own unchanged⟩
  have stored : store.addNew (request.ledger.merge
      (request.ledger.merge known remote).view again).fresh = .ok store := by
    rw [noneNew]
    exact Store.addNew_of_stored (by simp)
  have replaced : store.replace (request.ledger.merge
      (request.ledger.merge known remote).view again).revised = .ok store := by
    rw [noneRevised]
    exact Store.replace_nil store
  exact ⟨again, run_of_writes ⟨addresses, read, merged⟩ gathers stored replaced, still, verdicts⟩

/-- One pass is enough, as long as one statement can ask for all its addresses: it ends well, shows
what the store shows from then on, and another pass with the same answers in any order finds nothing
to write. -/
theorem converges {deeds : List Deed} (plain : ∀ deed ∈ deeds, deed.Plain)
    (few : request.addresses.length ≤ Statement.capacity)
    (read : canonicalAddresses request.ledger.kind request.addresses = .ok addresses)
    (report : Report request addresses answer)
    (shown : Shown (Store.after deeds) request addresses answer)
    (bare : ∀ identity, (Store.after deeds).rows.contains identity = false →
      (Store.after deeds).senderRemarks.contains identity = false ∧
        ∀ account, ((Store.after deeds).remarksOf account).contains identity = false)
    (came : Answered answer addresses arrivals) (again : Answered answer addresses others) :
    let once := run .none (Store.after deeds) request arrivals
    let twice := run .none once.1 request others
    (once.2.tracker.published.stage = .done .success ∧ once.2.problems = []) ∧
      (twice.2.tracker.published.stage = .done .success ∧ twice.2.problems = []) ∧
      (∃ known view, once.2.updates = [.known known, .merged view] ∧
        once.1.snapshot request.ledger.chain addresses request.start request.viewer = .ok view ∧
        twice.2.updates = [.known view, .merged view]) ∧
      twice.2.tracker.published.stats.stored = [] ∧
      twice.2.tracker.published.stats.replaced = [] ∧
      twice.2.tracker.published.stats.unchanged = twice.2.tracker.published.stats.remoteCount ∧
      twice.1 = once.1 := by
  have unnoted : ∀ identity, (Store.after deeds).rows.get? identity = none →
      (Store.after deeds).annotations request.viewer identity = {} := by
    intro identity free
    obtain ⟨unsaid, silent⟩ := bare identity (SortedMap.contains_eq_false_iff.mpr free)
    have sender := SortedMap.contains_eq_false_iff.mp unsaid
    cases request.viewer with
    | none => simp [Store.annotations, sender]
    | some account =>
        have note := SortedMap.contains_eq_false_iff.mp (silent account)
        simp [Store.annotations, sender, note]
  obtain ⟨views, known, remote, after, same, done, once, merged⟩ :=
    run_of_report (Store.sound_after plain) (Statement.isAllowed_iff.mpr few) read report shown
      unnoted came
  obtain ⟨remote', twice, still, verdicts⟩ := run_of_merged read report same done merged again
  rw [once]
  simp only
  rw [twice, published_closed_none, published_closed_none, stats_merging_of_unchanged verdicts]
  refine ⟨⟨rfl, rfl⟩, ⟨rfl, rfl⟩, ⟨known, _, rfl, merged, ?_⟩, rfl, rfl, rfl, rfl⟩
  change [Update.known _, Update.merged (request.ledger.merge _ remote').view] = _
  rw [still]
  rfl

/-- A stored transaction of which the query tells another event: the first pass extends the copy. -/
theorem converges_sample :
    let store := Store.after [.add [Sample.shared [Sample.transfer Sample.first 2]]]
    let once := run .none store (Sample.request Sample.first)
      [.found (Sample.answer Sample.first)]
    let twice := run .none once.1 (Sample.request Sample.first)
      [.found (Sample.answer Sample.first)]
    (once.2.tracker.published.stage = .done .success ∧ once.2.problems = []) ∧
      (twice.2.tracker.published.stage = .done .success ∧ twice.2.problems = []) ∧
      (∃ known view, once.2.updates = [.known known, .merged view] ∧
        once.1.snapshot Sample.ledger.chain [Sample.first] 0 none = .ok view ∧
        twice.2.updates = [.known view, .merged view]) ∧
      twice.2.tracker.published.stats.stored = [] ∧
      twice.2.tracker.published.stats.replaced = [] ∧
      twice.2.tracker.published.stats.unchanged = twice.2.tracker.published.stats.remoteCount ∧
      twice.1 = once.1 := by
  have one : (Sample.answer Sample.first).values =
      [Sample.shared [Sample.transfer Sample.first 0]] := by decide +kernel
  have plain : ∀ deed ∈ [Deed.add [Sample.shared [Sample.transfer Sample.first 2]]],
      deed.Plain := by
    intro deed member
    cases List.mem_singleton.mp member
    intro tx among
    cases List.mem_singleton.mp among
    decide
  have report : Report (Sample.request Sample.first) [Sample.first] Sample.answer := by
    constructor
    · intro address wanted tx among
      cases List.mem_singleton.mp wanted
      rw [one] at among
      cases List.mem_singleton.mp among
      exact {
        belongs := by decide +kernel
        onward := by decide
        fits := by decide
        whole := rfl
        plain := by decide
        bare := rfl
        tidy := ⟨EventLog.keyed_ofEvents _, EventLog.settled_ofEvents _⟩
        named := by decide +kernel }
    · intro first wanted₁ second wanted₂ tx among₁ other among₂ _
      cases List.mem_singleton.mp wanted₁
      cases List.mem_singleton.mp wanted₂
      rw [one] at among₁ among₂
      cases List.mem_singleton.mp among₁
      cases List.mem_singleton.mp among₂
      rfl
  refine converges plain (by decide) (by decide +kernel) report ?_ ?_ (List.Perm.refl _)
    (List.Perm.refl _)
  · intro address wanted tx among _
    cases List.mem_singleton.mp wanted
    rw [one] at among
    cases List.mem_singleton.mp among
    exact ⟨.ofTransactions [Sample.shared [Sample.transfer Sample.first 2]],
      by decide +kernel, by decide +kernel⟩
  · intro identity _
    exact ⟨rfl, fun account => rfl⟩

/-- Beyond what one statement can ask for the first pass fails already, though there is nothing to
find and nothing stored. -/
theorem converges_not_beyond_capacity :
    let request := { Sample.request Sample.first with
      addresses := List.replicate 16382 Sample.first }
    let silent : String → TransactionMap := fun _ => .empty
    let arrivals := List.replicate 16382 (Arrival.found .empty)
    let once := run .none (Store.after []) request arrivals
    canonicalAddresses request.ledger.kind request.addresses = .ok request.addresses ∧
      Report request request.addresses silent ∧
      Shown (Store.after []) request request.addresses silent ∧
      Answered silent request.addresses arrivals ∧
      once.2.tracker.published.stage = .done .failed ∧ once.2.updates = [] ∧
      once.2.problems = [.snapshot (.tooManyMarks 16382)] := by
  intro request silent arrivals once
  have read : Address.canonical? (Sample.request Sample.first).ledger.kind Sample.first =
      .ok Sample.first := by decide +kernel
  have many : Statement.capacity < 16382 := by decide
  obtain ⟨repeated, failed⟩ := @run_of_repeated .none (Store.after [])
    (Sample.request Sample.first) arrivals _ _ _ rfl read many
  have same : once = (Store.after [], abort { request } (.snapshot (.tooManyMarks 16382))) := failed
  have nothing : ∀ address tx, tx ∉ (silent address).values := fun _ _ => List.not_mem_nil
  refine ⟨repeated, ⟨?_, ?_⟩, ?_, ?_, ?_⟩
  · intro address _ tx among
    exact absurd among (nothing address tx)
  · intro first _ second _ tx among
    exact absurd among (nothing first tx)
  · intro address _ tx among
    exact absurd among (nothing address tx)
  · rw [Answered, List.map_replicate]
  · rw [same]
    exact ⟨stage_abort_start request _, rfl, rfl⟩

end Pass

end Passbook
