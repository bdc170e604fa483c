import Passbook.Proofs.Store.Writes
import Passbook.Store.Draft
/-!
When a store refuses a batch, which problem it names, and what is left behind. A batch is refused
at the first of its transactions that cannot be written after all before it. Whatever the draft had
come to by then, the store stays the same.
-/

namespace Passbook

namespace Transaction

/-- The problem a store names if it refuses a transaction, where `taken` says that the identity is
there already. Numbers come first, and events count only where they would be written. -/
inductive Refused (tx : Transaction) (taken : Prop) : StoreProblem → Prop
  | version (large : Word.limit ≤ tx.identity.version.toNat) :
      Refused tx taken (.tooLarge .version tx.identity.version)
  | gasUsed (version : tx.identity.version.toNat < Word.limit)
      (large : Word.limit ≤ tx.gas.used.toNat) :
      Refused tx taken (.tooLarge .gasUsed tx.gas.used)
  | gasMax (version : tx.identity.version.toNat < Word.limit)
      (used : tx.gas.used.toNat < Word.limit) (large : Word.limit ≤ tx.gas.max.toNat) :
      Refused tx taken (.tooLarge .gasMax tx.gas.max)
  | eventTwice (fits : tx.Fits) (free : ¬ taken) (twice : ¬ tx.LogsOnce) :
      Refused tx taken .eventTwice

theorem exists_refused_iff {tx : Transaction} {taken : Prop} :
    (∃ problem, tx.Refused taken problem) ↔ ¬ tx.Fits ∨ ¬ taken ∧ ¬ tx.LogsOnce := by
  constructor
  · rintro ⟨problem, refused⟩
    cases refused with
    | version large => exact .inl fun fits => absurd fits.1 (Nat.not_lt.mpr large)
    | gasUsed _ large => exact .inl fun fits => absurd fits.2.1 (Nat.not_lt.mpr large)
    | gasMax _ _ large => exact .inl fun fits => absurd fits.2.2 (Nat.not_lt.mpr large)
    | eventTwice _ free twice => exact .inr ⟨free, twice⟩
  · intro reason
    by_cases version : tx.identity.version.toNat < Word.limit
    · by_cases used : tx.gas.used.toNat < Word.limit
      · by_cases most : tx.gas.max.toNat < Word.limit
        · have fits : tx.Fits := ⟨version, used, most⟩
          rcases reason with large | ⟨free, twice⟩
          · exact absurd fits large
          · exact ⟨_, .eventTwice fits free twice⟩
        · exact ⟨_, .gasMax version used (Nat.not_lt.mp most)⟩
      · exact ⟨_, .gasUsed version (Nat.not_lt.mp used)⟩
    · exact ⟨_, .version (Nat.not_lt.mp version)⟩

end Transaction

namespace Column

theorem write_of_le {column : Column} {value : UInt64} (large : Word.limit ≤ value.toNat) :
    column.write value = .error (.tooLarge column value) :=
  if_neg (Nat.not_lt.mpr large)

end Column

namespace Rows

theorem addNew_eq_error_iff {rows : Rows} {tx : Transaction} {problem : StoreProblem} :
    rows.addNew tx = .error problem ↔
      tx.Refused (rows.contains tx.identity = true) problem := by
  constructor
  · intro failed
    rcases Nat.lt_or_ge tx.identity.version.toNat Word.limit with version | large
    · rcases Nat.lt_or_ge tx.gas.used.toNat Word.limit with used | large
      · rcases Nat.lt_or_ge tx.gas.max.toNat Word.limit with most | large
        · have fits : tx.Fits := ⟨version, used, most⟩
          rw [addNew_of_fits rows fits] at failed
          split at failed
          · cases failed
          · split at failed
            · cases failed
            · cases failed
              exact .eventTwice fits ‹_› ‹_›
        · rw [addNew, Column.write_of_lt version, Column.write_of_lt used,
            Column.write_of_le large] at failed
          cases failed
          exact .gasMax version used large
      · rw [addNew, Column.write_of_lt version, Column.write_of_le large] at failed
        cases failed
        exact .gasUsed version large
    · rw [addNew, Column.write_of_le large] at failed
      cases failed
      exact .version large
  · intro refused
    cases refused with
    | version large => rw [addNew, Column.write_of_le large]; rfl
    | gasUsed version large =>
        rw [addNew, Column.write_of_lt version, Column.write_of_le large]
        rfl
    | gasMax version used large =>
        rw [addNew, Column.write_of_lt version, Column.write_of_lt used,
          Column.write_of_le large]
        rfl
    | eventTwice fits free twice => rw [addNew_of_fits rows fits, if_neg free, if_neg twice]

/-- After a batch is added, its identities are there beside those that were. -/
theorem contains_foldlM_addNew {rows result : Rows} {batch : List Transaction}
    (done : batch.foldlM addNew rows = .ok result) (identity : Identity) :
    result.contains identity = true ↔
      rows.contains identity = true ∨ identity ∈ batch.map Transaction.identity := by
  obtain ⟨_, rfl⟩ := foldlM_addNew done
  have names : (batch.map fun tx => (tx.identity, Row.keeping tx)).map Prod.fst =
      batch.map Transaction.identity := by
    simp
  rw [SortedMap.contains, SortedMap.get?_foldl_insertIfNew, Option.isSome_or, Bool.or_eq_true,
    Entries.find?_isSome_iff, names]
  rfl

end Rows

namespace Batch

/-- A transaction of the batch is refused where the identities that are stored, and those of the
transactions before it, count as taken. -/
def RefusedAt (stored : Identity → Prop) (before : List Transaction) (tx : Transaction)
    (problem : StoreProblem) : Prop :=
  tx.Refused (stored tx.identity ∨ tx.identity ∈ before.map Transaction.identity) problem

/-- The problem of the first transaction of the batch that is refused. -/
def Refused (stored : Identity → Prop) (batch : List Transaction) (problem : StoreProblem) :
    Prop :=
  ∃ before tx rest, batch = before ++ tx :: rest ∧ RefusedAt stored before tx problem ∧
    ∀ sooner other between, before = sooner ++ other :: between →
      ∀ reason, ¬ RefusedAt stored sooner other reason

/-- A number of some transaction of the batch fits no signed word, or its identity is neither stored
nor that of one before it and two of its events have one log index. -/
def Unwritable (stored : Identity → Prop) (batch : List Transaction) : Prop :=
  ∃ before tx rest, batch = before ++ tx :: rest ∧
    (¬ tx.Fits ∨ ¬ stored tx.identity ∧ tx.identity ∉ before.map Transaction.identity ∧
      ¬ tx.LogsOnce)

/-- The problem of the first transaction of the batch whose version fits no signed word. -/
def Overlarge (batch : List Transaction) (problem : StoreProblem) : Prop :=
  ∃ before tx rest, batch = before ++ tx :: rest ∧ Word.limit ≤ tx.identity.version.toNat ∧
    (∀ other ∈ before, other.identity.version.toNat < Word.limit) ∧
    problem = .tooLarge .version tx.identity.version

theorem exists_refused_iff {stored : Identity → Prop} {batch : List Transaction} :
    (∃ problem, Refused stored batch problem) ↔ Unwritable stored batch := by
  have reasons : ∀ before (tx : Transaction),
      (∃ problem, RefusedAt stored before tx problem) ↔ (¬ tx.Fits ∨ ¬ stored tx.identity ∧
        tx.identity ∉ before.map Transaction.identity ∧ ¬ tx.LogsOnce) := by
    intro before tx
    simp only [RefusedAt, Transaction.exists_refused_iff, not_or, and_assoc]
  simp only [Unwritable, ← reasons]
  rw [exists_first]
  constructor
  · rintro ⟨problem, before, tx, rest, split, refused, first⟩
    refine ⟨before, tx, rest, split, ⟨problem, refused⟩, ?_⟩
    rintro sooner other between parts ⟨reason, earlier⟩
    exact first sooner other between parts reason earlier
  · rintro ⟨before, tx, rest, split, ⟨problem, refused⟩, first⟩
    refine ⟨problem, before, tx, rest, split, refused, ?_⟩
    exact fun sooner other between parts reason earlier =>
      first sooner other between parts ⟨reason, earlier⟩

theorem exists_overlarge_iff {batch : List Transaction} :
    (∃ problem, Overlarge batch problem) ↔
      ∃ tx ∈ batch, Word.limit ≤ tx.identity.version.toNat := by
  constructor
  · rintro ⟨_, before, tx, rest, rfl, large, _⟩
    exact ⟨tx, by simp, large⟩
  · rintro ⟨tx, member, large⟩
    obtain ⟨before, rest, rfl⟩ := List.append_of_mem member
    obtain ⟨before, tx, rest, split, large, first⟩ :=
      (@exists_first _ (fun _ tx => Word.limit ≤ tx.identity.version.toNat) _).mp
        ⟨before, tx, rest, rfl, large⟩
    refine ⟨_, before, tx, rest, split, large, fun other earlier => ?_, rfl⟩
    obtain ⟨sooner, between, parts⟩ := List.append_of_mem earlier
    exact Nat.not_le.mp (first sooner other between parts)

end Batch

namespace Rows

theorem foldlM_addNew_eq_error_iff {rows : Rows} {batch : List Transaction}
    {problem : StoreProblem} :
    batch.foldlM addNew rows = .error problem ↔
      Batch.Refused (fun identity => rows.contains identity = true) batch problem := by
  -- As far as a batch goes through, what is refused next is told by the batch alone.
  have refused : ∀ {before : List Transaction} {middle : Rows},
      before.foldlM addNew rows = .ok middle → ∀ {tx : Transaction} {problem : StoreProblem},
        middle.addNew tx = .error problem ↔
          Batch.RefusedAt (fun identity => rows.contains identity = true) before tx problem := by
    intro before middle reached tx problem
    rw [addNew_eq_error_iff, Batch.RefusedAt, contains_foldlM_addNew reached]
  rw [foldlM_eq_error_iff]
  constructor
  · rintro ⟨before, tx, rest, middle, split, reached, met⟩
    refine ⟨before, tx, rest, split, (refused reached).mp met, ?_⟩
    rintro sooner other between rfl reason earlier
    rw [List.foldlM_append, bind_eq_ok_iff] at reached
    obtain ⟨start, there, onward⟩ := reached
    rw [List.foldlM_cons, (refused there).mpr earlier] at onward
    cases onward
  · rintro ⟨before, tx, rest, split, here, first⟩
    cases reached : before.foldlM addNew rows with
    | ok middle => exact ⟨before, tx, rest, middle, split, reached, (refused reached).mpr here⟩
    | error other =>
        obtain ⟨sooner, other, between, start, parts, there, met⟩ :=
          foldlM_eq_error_iff.mp reached
        exact absurd ((refused there).mp met) (first sooner other between parts _)

theorem contains_drop {rows left : Rows} {batch : List Transaction}
    (dropped : rows.drop batch = .ok left) (identity : Identity) :
    left.contains identity = true ↔
      rows.contains identity = true ∧ identity ∉ batch.map Transaction.identity := by
  rw [SortedMap.contains, get?_drop dropped]
  by_cases own : identity ∈ batch.map Transaction.identity
  · simp [own]
  · simp [own, SortedMap.contains]

/-- One by one, as far as all versions fit. -/
theorem drop_eq_foldlM (rows : Rows) (batch : List Transaction) :
    rows.drop batch = batch.foldlM (fun rows tx =>
      Column.version.write tx.identity.version >>= fun _ => .ok (rows.erase tx.identity)) rows := by
  induction batch generalizing rows with
  | nil => exact congrArg Except.ok rows.filter_true
  | cons tx rest ih =>
      have together : (rows.erase tx.identity).filter (fun identity _ =>
          !(rest.map Transaction.identity).contains identity) =
            rows.filter fun identity _ =>
              !((tx :: rest).map Transaction.identity).contains identity := by
        ext identity : 1
        simp only [SortedMap.get?_filter, SortedMap.get?_erase]
        by_cases own : identity = tx.identity
        · cases rows.get? identity <;> simp [own, Option.filter]
        · cases rows.get? identity <;> simp [own, Option.filter]
      rw [List.foldlM_cons]
      simp only [← ih]
      cases written : Column.version.write tx.identity.version with
      | error problem =>
          simp [drop, written, discard, Functor.discard, Functor.mapConst, Except.map, bind,
            Except.bind]
      | ok _ =>
          have onward : ((tx :: rest).forM fun tx =>
              discard (Column.version.write tx.identity.version)) =
                (rest.forM fun tx => discard (Column.version.write tx.identity.version) :
                  Except StoreProblem Unit) := by
            change (discard (Column.version.write tx.identity.version) >>= fun _ => _) = _
            rw [written]
            rfl
          rw [drop, onward, ← together]
          rfl

theorem drop_eq_error_iff {rows : Rows} {batch : List Transaction} {problem : StoreProblem} :
    rows.drop batch = .error problem ↔ Batch.Overlarge batch problem := by
  have large : ∀ (middle : Rows) (tx : Transaction),
      (Column.version.write tx.identity.version >>= fun _ => .ok (middle.erase tx.identity)) =
          (.error problem : Except StoreProblem Rows) ↔
        Word.limit ≤ tx.identity.version.toNat ∧
          problem = .tooLarge .version tx.identity.version := by
    intro middle tx
    rcases Nat.lt_or_ge tx.identity.version.toNat Word.limit with small | large
    · simp [Column.write_of_lt small, bind, Except.bind, Nat.not_le.mpr small]
    · simp [Column.write_of_le large, bind, Except.bind, large, eq_comm]
  rw [drop_eq_foldlM, foldlM_eq_error_iff]
  simp only [← drop_eq_foldlM, drop_eq_ok_iff, large]
  constructor
  · rintro ⟨before, tx, rest, _, split, ⟨small, _⟩, large, named⟩
    exact ⟨before, tx, rest, split, large, small, named⟩
  · rintro ⟨before, tx, rest, split, large, small, named⟩
    exact ⟨before, tx, rest, _, split, ⟨small, rfl⟩, large, named⟩

end Rows

namespace Draft

/-- The rows that a write comes to if all its statements go through. -/
def outcome (write : Draft Unit) (rows : Rows) : Except StoreProblem Rows :=
  match write.run.run rows with
  | (.ok (), after) => .ok after
  | (.error problem, _) => .error problem

theorem outcome_bind (first second : Draft Unit) (rows : Rows) :
    outcome (first >>= fun _ => second) rows = outcome first rows >>= outcome second := by
  simp only [outcome, ExceptT.run_bind, StateT.run_bind]
  rcases first.run.run rows with ⟨_ | _, after⟩
  · rfl
  · rfl

/-- The rows that a statement looks at are those of the draft. -/
theorem outcome_get (next : Rows → Draft Unit) (rows : Rows) :
    outcome (get >>= next) rows = outcome (next rows) rows := rfl

theorem outcome_forM {α : Type} (step : α → Draft Unit) (items : List α) (rows : Rows) :
    outcome (items.forM step) rows =
      items.foldlM (fun rows item => outcome (step item) rows) rows := by
  induction items generalizing rows with
  | nil => rfl
  | cons item rest ih =>
    rw [List.foldlM_cons]
    simp only [← ih]
    exact outcome_bind (step item) (rest.forM step) rows

theorem outcome_drop (tx : Transaction) (rows : Rows) :
    outcome (drop tx) rows = Column.version.write tx.identity.version >>= fun _ =>
      .ok (rows.erase tx.identity) := by
  unfold drop
  cases Column.version.write tx.identity.version <;> rfl

theorem outcome_log {rows : Rows} {identity : Identity} {row : Row}
    (found : rows.get? identity = some row) (event : TransferEvent) :
    outcome (log identity event) rows = row.body.log event >>= fun body =>
      .ok (rows.insert identity { row with body }) := by
  simp only [log, outcome_get, found]
  cases row.body.log event <;> rfl

/-- Events are written one after another into the row of their transaction. -/
theorem foldlM_log {rows : Rows} (identity : Identity) (row : Row) (events : List TransferEvent) :
    events.foldlM (fun rows event => outcome (log identity event) rows)
        (rows.insert identity row) =
      events.foldlM (fun body event => RowBody.log event body) row.body >>= fun body =>
        .ok (rows.insert identity { row with body }) := by
  have again : ∀ first second : Row,
      (rows.insert identity first).insert identity second = rows.insert identity second := by
    intro first second
    ext other : 1
    simp only [SortedMap.get?_insert]
    split <;> rfl
  induction events generalizing row with
  | nil => rfl
  | cons event rest ih =>
      rw [List.foldlM_cons, List.foldlM_cons,
        outcome_log (SortedMap.get?_insert_self rows identity row) event]
      cases logged : row.body.log event with
      | error problem => rfl
      | ok body =>
          simp only [bind, Except.bind, again]
          exact ih { row with body }

end Draft

namespace RowBody

theorem foldlM_log_block (row : BlockRow) (events : List TransferEvent) :
    events.foldlM (fun body event => log event body) (.block row) =
      EventRow.addEvents row.events events >>= fun events => .ok (.block { row with events }) := by
  induction events generalizing row with
  | nil => rfl
  | cons event rest ih =>
      rw [List.foldlM_cons, log, EventRow.addEvents]
      split
      · rfl
      · exact ih _

/-- A body with its events is the bare body into which each of them is written. -/
theorem ofTransaction_eq_foldlM (tx : Transaction) :
    ofTransaction tx = tx.events.values.foldlM (fun body event => log event body) (bare tx) := by
  cases tx with
  | sequential tx => rfl
  | block tx =>
      rw [bare, foldlM_log_block]
      rfl

end RowBody

namespace Draft

theorem outcome_put (tx : Transaction) (gasUsed gasMax : Int64) (rows : Rows) :
    outcome (put tx gasUsed gasMax) rows = RowBody.ofTransaction tx >>= fun body =>
      .ok (rows.insert tx.identity {
        gasPrice := toString tx.gas.price
        gasUsed, gasMax, body
        status := tx.status
        hash := tx.hash
        micros := Int64.ofInt tx.timestamp.micros }) := by
  rw [put, outcome_bind, RowBody.ofTransaction_eq_foldlM]
  exact (outcome_forM _ _ _).trans (foldlM_log _ _ _)

theorem outcome_insert (tx : Transaction) (rows : Rows) :
    outcome (insert tx) rows = rows.addNew tx := by
  unfold insert Rows.addNew
  cases Column.version.write tx.identity.version with
  | error problem => rfl
  | ok _ =>
      cases Column.gasUsed.write tx.gas.used with
      | error problem => rfl
      | ok gasUsed =>
          cases Column.gasMax.write tx.gas.max with
          | error problem => rfl
          | ok gasMax =>
              change outcome (get >>= fun rows =>
                unless rows.contains tx.identity do put tx gasUsed gasMax) rows = _
              rw [outcome_get]
              by_cases taken : rows.contains tx.identity = true
              · simp only [bind, Except.bind, taken, if_true]
                rfl
              · simp only [bind, Except.bind, taken]
                exact outcome_put tx gasUsed gasMax rows

theorem outcome_add (batch : List Transaction) (rows : Rows) :
    outcome (add batch) rows = batch.foldlM Rows.addNew rows := by
  rw [add, outcome_forM]
  simp only [outcome_insert]

theorem outcome_replace (batch : List Transaction) (rows : Rows) :
    outcome (replace batch) rows = rows.drop batch >>= fun left =>
      batch.foldlM Rows.addNew left := by
  have added : outcome (batch.forM insert) = fun left => batch.foldlM Rows.addNew left :=
    funext (outcome_add batch)
  rw [replace, outcome_bind, outcome_forM, added, Rows.drop_eq_foldlM]
  simp only [outcome_drop]

end Draft

namespace Store

/-- What a write leaves of the store: all that it comes to, or the store as it was. -/
def settled (store : Store) : Except StoreProblem Store → Store × Except StoreProblem Unit
  | .ok after => (after, .ok ())
  | .error problem => (store, .error problem)

theorem transact_eq (store : Store) (write : Draft Unit) :
    store.transact write =
      store.settled (Draft.outcome write store.rows >>= fun rows => .ok { store with rows }) := by
  unfold transact Draft.outcome
  rcases write.run.run store.rows with ⟨_ | _, rows⟩
  · rfl
  · rfl

theorem transact_add (store : Store) (batch : List Transaction) :
    store.transact (Draft.add batch) = store.settled (store.addNew batch) := by
  rw [transact_eq, Draft.outcome_add]
  rfl

theorem transact_replace (store : Store) (batch : List Transaction) :
    store.transact (Draft.replace batch) = store.settled (store.replace batch) := by
  rw [transact_eq, Draft.outcome_replace, replace]
  cases store.rows.drop batch <;> rfl

/-- The identity has a row. -/
def HasRow (store : Store) (identity : Identity) : Prop := store.rows.contains identity = true

/-- The identity has a row that replacing the batch does not drop. -/
def HasRowBeside (store : Store) (batch : List Transaction) (identity : Identity) : Prop :=
  store.HasRow identity ∧ identity ∉ batch.map Transaction.identity

variable {store : Store} {batch : List Transaction} {problem : StoreProblem}

theorem addNew_eq_error_iff :
    store.addNew batch = .error problem ↔ Batch.Refused store.HasRow batch problem := by
  have rows : store.addNew batch = .error problem ↔
      batch.foldlM Rows.addNew store.rows = .error problem := by
    unfold addNew
    cases batch.foldlM Rows.addNew store.rows <;> simp [bind, Except.bind, pure, Except.pure]
  rw [rows, Rows.foldlM_addNew_eq_error_iff]
  rfl

theorem replace_eq_error_iff :
    store.replace batch = .error problem ↔
      Batch.Overlarge batch problem ∨
        (∀ tx ∈ batch, tx.identity.version.toNat < Word.limit) ∧
          Batch.Refused (store.HasRowBeside batch) batch problem := by
  cases dropped : store.rows.drop batch with
  | error other =>
      have overlarge := Rows.drop_eq_error_iff.mp dropped
      have stops : store.replace batch = .error other := by
        rw [replace, dropped]
        rfl
      obtain ⟨tx, member, large⟩ := Batch.exists_overlarge_iff.mp ⟨other, overlarge⟩
      rw [stops, ← Rows.drop_eq_error_iff, dropped]
      constructor
      · exact fun same => .inl (congrArg Except.error (Except.error.inj same))
      · rintro (same | ⟨small, _⟩)
        · exact congrArg Except.error (Except.error.inj same)
        · exact absurd (small tx member) (Nat.not_lt.mpr large)
  | ok left =>
      have small := (Rows.drop_eq_ok_iff.mp dropped).1
      have rows : store.replace batch = .error problem ↔
          batch.foldlM Rows.addNew left = .error problem := by
        rw [replace, dropped]
        change (batch.foldlM Rows.addNew left >>= _) = _ ↔ _
        cases batch.foldlM Rows.addNew left <;> simp [bind, Except.bind, pure, Except.pure]
      have held : (fun identity => left.contains identity = true) = store.HasRowBeside batch :=
        funext fun identity => propext (Rows.contains_drop dropped identity)
      rw [rows, Rows.foldlM_addNew_eq_error_iff, held, ← Rows.drop_eq_error_iff, dropped]
      constructor
      · exact fun refused => .inr ⟨small, refused⟩
      · rintro (⟨⟨⟩⟩ | ⟨_, refused⟩)
        exact refused

variable (store batch)

/-- Adding fails exactly if a number of the batch fits no signed word, or if two events with one
log index would be written, and names the first transaction that is refused. Replacing looks at
all versions before that, and then adds as if nothing of the batch had been there. Carried out
statement by statement, either leaves all that it comes to, or the very store that it found, so that
whatever is read later is read as if a write that fails had not been tried. -/
theorem refused_whole :
    ((∃ problem, store.addNew batch = .error problem) ↔ Batch.Unwritable store.HasRow batch) ∧
    (∀ problem, store.addNew batch = .error problem ↔
      Batch.Refused store.HasRow batch problem) ∧
    ((∃ problem, store.replace batch = .error problem) ↔
      (∃ tx ∈ batch, Word.limit ≤ tx.identity.version.toNat) ∨
        Batch.Unwritable (store.HasRowBeside batch) batch) ∧
    (∀ problem, store.replace batch = .error problem ↔
      Batch.Overlarge batch problem ∨
        (∀ tx ∈ batch, tx.identity.version.toNat < Word.limit) ∧
          Batch.Refused (store.HasRowBeside batch) batch problem) ∧
    store.transact (Draft.add batch) = store.settled (store.addNew batch) ∧
    store.transact (Draft.replace batch) = store.settled (store.replace batch) := by
  refine ⟨?fails, fun _ => addNew_eq_error_iff, ?replaceFails, fun _ => replace_eq_error_iff,
    transact_add store batch, transact_replace store batch⟩
  case fails =>
    simp only [addNew_eq_error_iff]
    exact Batch.exists_refused_iff
  case replaceFails =>
    simp only [replace_eq_error_iff, exists_or, Batch.exists_overlarge_iff, exists_and_left,
      Batch.exists_refused_iff]
    constructor
    · rintro (large | ⟨_, refused⟩)
      · exact .inl large
      · exact .inr refused
    · rintro (large | refused)
      · exact .inl large
      · by_cases small : ∀ tx ∈ batch, tx.identity.version.toNat < Word.limit
        · exact .inr ⟨small, refused⟩
        · simp only [not_forall, exists_prop, Nat.not_lt] at small
          exact .inl small

end Store

end Passbook
