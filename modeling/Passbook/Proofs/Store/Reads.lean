import Passbook.Proofs.Store.Row
/-!
What a store shows of its rows. A read succeeds when every row it covers can be read, and then the
view holds the transaction of each of them, under its identity and with what is noted on it.
-/

namespace Passbook

/-- What a row is read as. Annotations are attached to it, and play no part in whether it can be
read. -/
theorem Row.transaction_cases {row : Row} {identity : Identity} {annotations : Annotations}
    {tx : Transaction} (read : row.transaction identity annotations = .ok tx) :
    (∃ part, tx = .sequential part ∧ part.identity = identity ∧ part.annotations = annotations ∧
      ∀ others, row.transaction identity others =
        .ok (.sequential { part with annotations := others })) ∨
    ∃ part events, tx = .block part ∧ part.identity = identity ∧
      part.annotations = annotations ∧ part.events = .ofEvents events ∧
      ∀ others, row.transaction identity others =
        .ok (.block { part with annotations := others }) := by
  rw [Row.transaction, bind_eq_ok_iff] at read
  obtain ⟨gas, weighed, read⟩ := read
  obtain ⟨timestamp, timed, read⟩ := bind_eq_ok_iff.mp read
  cases body : row.body with
  | sequential part =>
      simp only [body] at read
      obtain ⟨amount, counted, built⟩ := bind_eq_ok_iff.mp read
      cases built
      left
      refine ⟨_, rfl, rfl, rfl, fun others => ?_⟩
      rw [Row.transaction, weighed, timed, body]
      simp only [bind, Except.bind, counted]
      rfl
  | block part =>
      simp only [body] at read
      obtain ⟨fee, paid, read⟩ := bind_eq_ok_iff.mp read
      obtain ⟨events, logged, built⟩ := bind_eq_ok_iff.mp read
      cases built
      have gathered := logged
      rw [Row.readEvents, bind_eq_ok_iff] at gathered
      obtain ⟨listed, _, same⟩ := gathered
      cases same
      right
      refine ⟨_, listed, rfl, rfl, rfl, rfl, fun others => ?_⟩
      rw [Row.transaction, weighed, timed, body]
      simp only [bind, Except.bind, paid, logged]
      rfl

theorem Row.transaction_eq_ok {row : Row} {identity : Identity} {annotations : Annotations}
    {tx : Transaction} (read : row.transaction identity annotations = .ok tx) :
    tx.identity = identity ∧ tx.annotations = annotations ∧
      ∀ others, row.transaction identity others = .ok (tx.withAnnotations others) := by
  rcases Row.transaction_cases read with
    ⟨part, rfl, own, noted, again⟩ | ⟨part, _, rfl, own, noted, _, again⟩
  · exact ⟨own, noted, again⟩
  · exact ⟨own, noted, again⟩

theorem Row.tidy_of_transaction {row : Row} {identity : Identity} {annotations : Annotations}
    {tx : Transaction} (read : row.transaction identity annotations = .ok tx) : tx.Tidy := by
  rcases Row.transaction_cases read with ⟨part, rfl, _⟩ | ⟨part, events, rfl, _, _, log, _⟩
  · exact Transaction.tidy_sequential _
  · have built : (Transaction.block part).events = .ofEvents events := log
    constructor
    · rw [built]
      exact EventLog.keyed_ofEvents events
    · rw [built]
      exact EventLog.settled_ofEvents events

namespace TransactionMap

theorem get?_ofTransactions {transactions : List Transaction}
    (distinct : (transactions.map Transaction.identity).Nodup) {identity : Identity}
    {tx : Transaction} :
    (ofTransactions transactions).get? identity = some tx ↔
      tx ∈ transactions ∧ tx.identity = identity := by
  have keys : ((transactions.map fun tx => (tx.identity, tx)).map Prod.fst).Nodup := by
    rw [List.map_map]
    exact distinct
  rw [ofTransactions, SortedMap.get?_ofList_of_nodup keys, List.mem_map]
  constructor
  · rintro ⟨found, member, pair⟩
    cases pair
    exact ⟨member, rfl⟩
  · rintro ⟨member, rfl⟩
    exact ⟨tx, member, rfl⟩

/-- Whatever the transactions are, each stands under its own identity. -/
theorem mem_of_get?_ofTransactions {transactions : List Transaction} {identity : Identity}
    {tx : Transaction} (found : (ofTransactions transactions).get? identity = some tx) :
    tx ∈ transactions ∧ tx.identity = identity := by
  rw [ofTransactions, SortedMap.get?_ofList] at found
  have present := List.mem_reverse.mp (Entries.mem_of_find?_eq_some found)
  obtain ⟨_, member, pair⟩ := List.mem_map.mp present
  cases pair
  exact ⟨member, rfl⟩

theorem contains_ofTransactions {transactions : List Transaction} {identity : Identity} :
    (ofTransactions transactions).contains identity = true ↔
      ∃ tx ∈ transactions, tx.identity = identity := by
  rw [SortedMap.contains, ofTransactions, SortedMap.get?_ofList, Entries.find?_isSome_iff]
  simp

end TransactionMap

namespace Store
variable {store : Store} {viewer : Option Int64} {rows : Rows}

/-- The rows in the order in which they are read. -/
def inTurn (rows : Rows) : List (Identity × Row) :=
  rows.entries.filter (fun entry => entry.2.body.kind == .sequential) ++
    rows.entries.filter (fun entry => entry.2.body.kind == .block)

theorem mem_inTurn {identity : Identity} {row : Row} :
    (identity, row) ∈ inTurn rows ↔ rows.get? identity = some row := by
  rw [SortedMap.get?_eq_some_iff, inTurn, List.mem_append, List.mem_filter, List.mem_filter,
    ← and_or_left]
  cases row.body.kind <;> simp

theorem nodup_inTurn : ((inTurn rows).map Prod.fst).Nodup := by
  have keys := rows.keys_nodup
  rw [inTurn, List.map_append, List.nodup_append]
  refine ⟨keys.sublist (List.filter_sublist.map _), keys.sublist (List.filter_sublist.map _), ?_⟩
  -- A row of both kinds would be two rows of one identity.
  rintro first member₁ second member₂ rfl
  obtain ⟨⟨_, row₁⟩, held₁, rfl⟩ := List.mem_map.mp member₁
  obtain ⟨⟨_, row₂⟩, held₂, rfl⟩ := List.mem_map.mp member₂
  obtain ⟨entry₁, kind₁⟩ := List.mem_filter.mp held₁
  obtain ⟨entry₂, kind₂⟩ := List.mem_filter.mp held₂
  have one : some row₁ = some row₂ :=
    (SortedMap.get?_eq_some_iff.mpr entry₁).symm.trans (SortedMap.get?_eq_some_iff.mpr entry₂)
  cases one
  have both : LedgerKind.sequential = LedgerKind.block :=
    (eq_of_beq kind₁).symm.trans (eq_of_beq kind₂)
  cases both

theorem read_eq_ok_iff {view : TransactionMap} :
    store.read viewer rows = .ok view ↔
      ∃ found, (inTurn rows).mapM (fun entry =>
          entry.2.transaction entry.1 (store.annotations viewer entry.1)) = .ok found ∧
        view = .ofTransactions found := by
  rw [read, bind_eq_ok_iff]
  constructor
  · rintro ⟨found, done, built⟩
    cases built
    exact ⟨found, done, rfl⟩
  · rintro ⟨found, done, rfl⟩
    exact ⟨found, done, rfl⟩

theorem exists_read (readable : ∀ identity row, rows.get? identity = some row →
      ∃ tx, row.transaction identity (store.annotations viewer identity) = .ok tx) :
    ∃ view, store.read viewer rows = .ok view := by
  obtain ⟨found, done⟩ := exists_mapM_eq_ok
    (fun entry => entry.2.transaction entry.1 (store.annotations viewer entry.1)) (inTurn rows)
    fun entry member => readable entry.1 entry.2 (mem_inTurn.mp member)
  exact ⟨_, read_eq_ok_iff.mpr ⟨found, done, rfl⟩⟩

/-- The transactions of the rows stand in the order of the rows, each under its identity. -/
theorem identities_of_read {found : List Transaction}
    (done : (inTurn rows).mapM (fun entry =>
      entry.2.transaction entry.1 (store.annotations viewer entry.1)) = .ok found) :
    found.map Transaction.identity = (inTurn rows).map Prod.fst := by
  have named : List.Forall₂ (· = ·) ((inTurn rows).map Prod.fst)
      (found.map Transaction.identity) := by
    rw [List.forall₂_map_left_iff, List.forall₂_map_right_iff]
    exact (mapM_eq_ok_iff.mp done).imp fun _ _ shown => (Row.transaction_eq_ok shown).1.symm
  rw [List.forall₂_eq_eq_eq] at named
  exact named.symm

theorem get?_of_read {view : TransactionMap} (done : store.read viewer rows = .ok view)
    {identity : Identity} {tx : Transaction} :
    view.get? identity = some tx ↔
      ∃ row, rows.get? identity = some row ∧
        row.transaction identity (store.annotations viewer identity) = .ok tx := by
  obtain ⟨found, read, rfl⟩ := read_eq_ok_iff.mp done
  have distinct : (found.map Transaction.identity).Nodup :=
    identities_of_read read ▸ nodup_inTurn
  rw [TransactionMap.get?_ofTransactions distinct, mem_of_mapM_eq_ok read]
  constructor
  · rintro ⟨⟨⟨own, row⟩, entry, shown⟩, same⟩
    have named := (Row.transaction_eq_ok shown).1
    obtain rfl : own = identity := named.symm.trans same
    exact ⟨row, mem_inTurn.mp entry, shown⟩
  · rintro ⟨row, entry, shown⟩
    exact ⟨⟨(identity, row), mem_inTurn.mpr entry, shown⟩, (Row.transaction_eq_ok shown).1⟩

theorem exists_of_read {view : TransactionMap} (done : store.read viewer rows = .ok view)
    {identity : Identity} {row : Row} (found : rows.get? identity = some row) :
    ∃ tx, row.transaction identity (store.annotations viewer identity) = .ok tx ∧
      view.get? identity = some tx := by
  obtain ⟨all, read, _⟩ := read_eq_ok_iff.mp done
  obtain ⟨tx, shown⟩ := exists_of_mapM_eq_ok read (mem_inTurn.mpr found)
  exact ⟨tx, shown, (get?_of_read done).mpr ⟨row, found, shown⟩⟩

/-- The rows that a snapshot covers. -/
def selects (chain : ChainId) (addresses : List String) (start : UInt64) (identity : Identity)
    (row : Row) : Bool :=
  identity.chain == chain && clamped start ≤ identity.version && involves row addresses

variable {chain : ChainId} {addresses : List String} {start : UInt64}

theorem snapshot_of_allowed (allowed : Statement.isAllowed addresses.length) :
    store.snapshot chain addresses start viewer =
      store.read viewer (store.rows.filter (selects chain addresses start)) :=
  if_pos allowed

theorem snapshot_of_long (long : ¬ Statement.isAllowed addresses.length) :
    store.snapshot chain addresses start viewer = .error (.tooManyMarks addresses.length) :=
  if_neg long

theorem allowed_of_snapshot {view : TransactionMap}
    (done : store.snapshot chain addresses start viewer = .ok view) :
    Statement.isAllowed addresses.length := by
  cases allowed : Statement.isAllowed addresses.length with
  | true => rfl
  | false => cases (snapshot_of_long (by simp [allowed])).symm.trans done

theorem read_of_snapshot {view : TransactionMap}
    (done : store.snapshot chain addresses start viewer = .ok view) :
    store.read viewer (store.rows.filter (selects chain addresses start)) = .ok view :=
  (snapshot_of_allowed (allowed_of_snapshot done)).symm.trans done

theorem get?_selected {identity : Identity} {row : Row} :
    (store.rows.filter (selects chain addresses start)).get? identity = some row ↔
      store.rows.get? identity = some row ∧
        selects chain addresses start identity row = true := by
  rw [SortedMap.get?_filter, Option.filter_eq_some_iff]

theorem get?_of_snapshot {view : TransactionMap}
    (done : store.snapshot chain addresses start viewer = .ok view) {identity : Identity}
    {tx : Transaction} :
    view.get? identity = some tx ↔
      ∃ row, store.rows.get? identity = some row ∧
        selects chain addresses start identity row = true ∧
        row.transaction identity (store.annotations viewer identity) = .ok tx := by
  rw [get?_of_read (read_of_snapshot done)]
  simp only [get?_selected, and_assoc]

theorem exists_of_snapshot {view : TransactionMap}
    (done : store.snapshot chain addresses start viewer = .ok view) {identity : Identity}
    {row : Row} (found : store.rows.get? identity = some row)
    (chosen : selects chain addresses start identity row = true) :
    ∃ tx, row.transaction identity (store.annotations viewer identity) = .ok tx ∧
      view.get? identity = some tx :=
  exists_of_read (read_of_snapshot done) (get?_selected.mpr ⟨found, chosen⟩)

theorem contains_of_snapshot {view : TransactionMap}
    (done : store.snapshot chain addresses start viewer = .ok view) {identity : Identity} :
    view.contains identity = true ↔
      ∃ row, store.rows.get? identity = some row ∧
        selects chain addresses start identity row = true := by
  rw [SortedMap.contains_iff_exists]
  constructor
  · rintro ⟨tx, found⟩
    obtain ⟨row, stored, chosen, _⟩ := (get?_of_snapshot done).mp found
    exact ⟨row, stored, chosen⟩
  · rintro ⟨row, stored, chosen⟩
    obtain ⟨tx, _, found⟩ := exists_of_snapshot done stored chosen
    exact ⟨tx, found⟩

theorem absent_of_snapshot {view : TransactionMap}
    (done : store.snapshot chain addresses start viewer = .ok view) {identity : Identity}
    (hidden : ∀ row, store.rows.get? identity = some row →
      selects chain addresses start identity row ≠ true) : view.get? identity = none := by
  rw [← SortedMap.contains_eq_false_iff, ← Bool.not_eq_true, contains_of_snapshot done]
  rintro ⟨row, found, chosen⟩
  exact hidden row found chosen

theorem exists_snapshot (allowed : Statement.isAllowed addresses.length)
    (readable : ∀ identity row, store.rows.get? identity = some row →
      ∃ tx, row.transaction identity (store.annotations viewer identity) = .ok tx) :
    ∃ view, store.snapshot chain addresses start viewer = .ok view := by
  rw [snapshot_of_allowed allowed]
  exact exists_read fun identity row found => readable identity row (get?_selected.mp found).1

theorem transaction?_eq {identity : Identity} (small : identity.version.toNat < Word.limit) :
    store.transaction? identity viewer =
      match store.rows.get? identity with
      | none => .ok none
      | some row => (row.transaction identity (store.annotations viewer identity)).map some := by
  rw [transaction?, Column.write_of_lt small]
  cases store.rows.get? identity with
  | none => rfl
  | some row =>
      simp only [bind, Except.bind]
      cases row.transaction identity (store.annotations viewer identity) <;> rfl

theorem transaction?_eq_some_iff {identity : Identity}
    (small : identity.version.toNat < Word.limit) {tx : Transaction} :
    store.transaction? identity viewer = .ok (some tx) ↔
      ∃ row, store.rows.get? identity = some row ∧
        row.transaction identity (store.annotations viewer identity) = .ok tx := by
  rw [transaction?_eq small]
  cases store.rows.get? identity with
  | none => simp
  | some row =>
      cases read : row.transaction identity (store.annotations viewer identity) <;>
        simp [Except.map, read]

end Store

end Passbook
