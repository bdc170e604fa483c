import Passbook.Proofs.Store.Logs
import Passbook.Proofs.Store.Refinement
import Passbook.Proofs.Store.Selection
/-!
What a snapshot selects. It holds what the store shows of every identity of a ledger from a position
on in which one of the addresses takes part, and nothing else. Addresses are compared without regard
to the case of ASCII letters, and after a null character only by their lengths.
-/

namespace Passbook

namespace EventLog

variable {log : EventLog}

theorem placed_normalized (placed : log.Placed) : log.normalized.Placed := by
  unfold normalized
  split
  case isTrue negative => exact placed_of_settled (keyed_ofEvents _) (settled_ofEvents _)
  case isFalse first => exact placed

theorem placed_carry {base incoming : EventLog} (placed₁ : base.Placed)
    (placed₂ : incoming.Placed) : (carry base incoming).Placed := by
  intro event member
  obtain ⟨key, found⟩ := SortedMap.mem_values_iff.mp member
  rw [get?_carry, Option.or_eq_some_iff] at found
  rcases found with own | ⟨_, carried⟩
  · exact placed₂ event (SortedMap.mem_values_iff.mpr ⟨key, own⟩)
  · exact placed₁ event (SortedMap.mem_values_iff.mpr ⟨key, carried⟩)

end EventLog

namespace Transaction

/-- No event of the transaction has a negative log index. -/
def Placed (tx : Transaction) : Prop := EventLog.Placed tx.events

instance (tx : Transaction) : Decidable tx.Placed :=
  inferInstanceAs (Decidable (∀ event ∈ tx.events.values, 0 ≤ event.logIndex))

theorem placed_of_tidy {tx : Transaction} (tidy : tx.Tidy) : tx.Placed :=
  EventLog.placed_of_settled tidy.keyed tidy.settled

theorem heritable_placed : Heritable Placed where
  read _ _ _ _ read := placed_of_tidy (Row.tidy_of_transaction read)
  normalized tx placed := by
    unfold Placed
    rw [events_normalized]
    exact EventLog.placed_normalized placed
  merged ledger base incoming placed₁ placed₂ := by
    rcases Ledger.mergeEvents_cases ledger base incoming with
      same | ⟨seen, tx, rfl, rfl, same⟩
    · rw [same]
      exact placed₂
    · rw [same]
      exact EventLog.placed_carry placed₁ placed₂
  noted tx annotations placed := by
    unfold Placed
    rwa [events_withAnnotations]

end Transaction

namespace Row
variable {row : Row} {identity : Identity} {annotations : Annotations} {tx : Transaction}

theorem settled_keeping_of_placed (placed : tx.Placed) : (keeping tx).Settled := by
  cases tx with
  | sequential part => exact fun _ member => absurd member List.not_mem_nil
  | block part =>
      intro index member
      have there : (EventLog.byIndex part.events.values).rows.contains index = true :=
        SortedMap.contains_iff_mem_keys.mpr member
      rw [EventLog.contains_rows] at there
      obtain ⟨event, found⟩ := SortedMap.contains_iff_exists.mp there
      obtain ⟨origin, rfl⟩ := EventLog.of_get?_byIndex found
      exact placed event origin

/-- Where no index is negative every stored event is shown. -/
theorem mem_values_of_readEvents {rows : SortedMap Int64 EventRow} {log : EventLog}
    (settled : ∀ index ∈ rows.keys, 0 ≤ index) (read : readEvents rows = .ok log)
    {event : TransferEvent} :
    event ∈ log.values ↔ ∃ entry ∈ rows.entries, entry.2.event entry.1 = .ok event := by
  rw [readEvents, bind_eq_ok_iff] at read
  obtain ⟨events, done, built⟩ := read
  cases built
  have indexes : events.map TransferEvent.logIndex = rows.keys := by
    have own : List.Forall₂ (· = ·) rows.keys (events.map TransferEvent.logIndex) := by
      rw [SortedMap.keys, List.forall₂_map_left_iff, List.forall₂_map_right_iff]
      exact (mapM_eq_ok_iff.mp done).imp fun _ _ shown => (logIndex_of_event shown).symm
    rw [List.forall₂_eq_eq_eq] at own
    exact own.symm
  have placed : ∀ event ∈ events, 0 ≤ event.logIndex := fun event member =>
    settled _ (indexes ▸ List.mem_map_of_mem member)
  have once : (events.map TransferEvent.logIndex).Nodup := indexes ▸ rows.keys_nodup
  rw [EventLog.ofEvents_eq_byIndex placed, EventLog.mem_values_byIndex once,
    mem_of_mapM_eq_ok done]

theorem parties_of_event {row : EventRow} {index : Int64} {event : TransferEvent}
    (read : row.event index = .ok event) :
    event.sender = row.sender ∧ event.receiver = row.receiver := by
  rw [EventRow.event, bind_eq_ok_iff] at read
  obtain ⟨_, _, built⟩ := read
  cases built
  exact ⟨rfl, rfl⟩

/-- What is read from a row names everybody whom the row names, and nobody else. -/
theorem mem_parties_of_transaction (settled : row.Settled)
    (read : row.transaction identity annotations = .ok tx) {party : String} :
    party ∈ tx.parties ↔ party ∈ row.body.parties := by
  rw [transaction, bind_eq_ok_iff] at read
  obtain ⟨_, _, read⟩ := read
  obtain ⟨_, _, read⟩ := bind_eq_ok_iff.mp read
  unfold Settled logIndexes at settled
  cases body : row.body with
  | sequential part =>
      simp only [body] at read
      obtain ⟨_, _, built⟩ := bind_eq_ok_iff.mp read
      cases built
      rfl
  | block part =>
      simp only [body] at read settled
      obtain ⟨_, _, read⟩ := bind_eq_ok_iff.mp read
      obtain ⟨log, logged, built⟩ := bind_eq_ok_iff.mp read
      cases built
      simp only [Transaction.parties, RowBody.parties, List.mem_flatMap,
        mem_values_of_readEvents settled logged]
      constructor
      · rintro ⟨event, ⟨entry, among, shown⟩, named⟩
        obtain ⟨sender, receiver⟩ := parties_of_event shown
        rw [sender, receiver] at named
        exact ⟨entry.2, List.mem_map_of_mem among, named⟩
      · rintro ⟨stored, member, named⟩
        obtain ⟨entry, among, rfl⟩ := List.mem_map.mp member
        rw [readEvents, bind_eq_ok_iff] at logged
        obtain ⟨_, done, _⟩ := logged
        obtain ⟨event, shown⟩ := exists_of_mapM_eq_ok done among
        obtain ⟨sender, receiver⟩ := parties_of_event shown
        refine ⟨event, ⟨entry, among, shown⟩, ?_⟩
        rwa [sender, receiver]

end Row

namespace Transaction

/-- One of the addresses takes part in the transaction, as a store compares addresses. -/
def Touches (tx : Transaction) (addresses : List String) : Prop :=
  ∃ party ∈ tx.parties, ∃ address ∈ addresses, Text.Matches party address

instance (tx : Transaction) (addresses : List String) : Decidable (tx.Touches addresses) :=
  inferInstanceAs (Decidable (∃ party ∈ tx.parties, ∃ address ∈ addresses,
    Text.Matches party address))

theorem touches_iff_names {addresses : List String}
    (plain : ∀ address ∈ addresses, '\x00' ∉ address.toList) (tx : Transaction) :
    tx.Touches addresses ↔ tx.Names addresses := by
  unfold Touches Names
  constructor
  · rintro ⟨party, member, address, wanted, same⟩
    exact ⟨party, member, address, wanted, (Text.matches_iff_of_plain (plain address wanted)).mp same⟩
  · rintro ⟨party, member, address, wanted, same⟩
    exact ⟨party, member, address, wanted, .inl same⟩

theorem touches_append {tx : Transaction} {addresses others : List String} :
    tx.Touches (addresses ++ others) ↔ tx.Touches addresses ∨ tx.Touches others := by
  simp only [Touches, List.mem_append, or_and_right, exists_or, and_or_left]

end Transaction

namespace Store
variable {store : Store} {viewer : Option Int64} {chain : ChainId} {addresses : List String}
  {start : UInt64} {view : TransactionMap}

theorem involves_iff {row : Row} :
    involves row addresses = true ↔
      ∃ party ∈ row.body.parties, ∃ address ∈ addresses, Text.Matches party address := by
  rw [involves, List.any_eq_true]
  refine exists_congr fun party => and_congr_right fun _ => ?_
  rw [List.contains_iff_mem, List.mem_map]
  refine exists_congr fun address => and_congr_right fun _ => ?_
  rw [eq_comm, Text.folded_eq_iff_matches]

theorem clamped_of_lt (small : start.toNat < Word.limit) : clamped start = start := by
  have highest : (UInt64.ofNat (Word.limit - 1)).toNat = Word.limit - 1 := by decide
  have below : start ≤ UInt64.ofNat (Word.limit - 1) := by
    rw [UInt64.le_iff_toNat_le, highest]
    omega
  exact if_pos below

theorem selects_iff (small : start.toNat < Word.limit) {identity : Identity} {row : Row} :
    selects chain addresses start identity row = true ↔
      identity.chain = chain ∧ start ≤ identity.version ∧
        ∃ party ∈ row.body.parties, ∃ address ∈ addresses, Text.Matches party address := by
  simp [selects, clamped_of_lt small, involves_iff, and_assoc]

theorem transaction?_eq_some {identity : Identity} {tx : Transaction} :
    store.transaction? identity viewer = .ok (some tx) ↔
      identity.version.toNat < Word.limit ∧ ∃ row, store.rows.get? identity = some row ∧
        row.transaction identity (store.annotations viewer identity) = .ok tx := by
  by_cases small : identity.version.toNat < Word.limit
  · simp [transaction?_eq_some_iff small, small]
  · simp [transaction?, Column.write, small, bind, Except.bind]

theorem settled_of_after {deeds : List Deed}
    (placed : ∀ deed ∈ deeds, deed.Tells Transaction.Placed) :
    (after deeds).Every fun _ row => row.Settled :=
  every_after Transaction.heritable_placed (fun _ _ placed => Row.settled_keeping_of_placed placed)
    placed

/-- What a snapshot holds is what is shown of those identities that it covers. -/
theorem get?_snapshot_iff (settled : store.Every fun _ row => row.Settled)
    (reach : store.Every fun identity _ => identity.version.toNat < Word.limit)
    (small : start.toNat < Word.limit)
    (done : store.snapshot chain addresses start viewer = .ok view) {identity : Identity}
    {tx : Transaction} :
    view.get? identity = some tx ↔
      identity.chain = chain ∧ start ≤ identity.version ∧ tx.Touches addresses ∧
        store.transaction? identity viewer = .ok (some tx) := by
  have touches : ∀ row, store.rows.get? identity = some row →
      row.transaction identity (store.annotations viewer identity) = .ok tx →
        (tx.Touches addresses ↔
          ∃ party ∈ row.body.parties, ∃ address ∈ addresses, Text.Matches party address) := by
    intro row found read
    simp only [Transaction.Touches, Row.mem_parties_of_transaction (settled identity row found) read]
  rw [get?_of_snapshot done, transaction?_eq_some]
  constructor
  · rintro ⟨row, found, chosen, read⟩
    obtain ⟨home, onward, named⟩ := (selects_iff small).mp chosen
    exact ⟨home, onward, (touches row found read).mpr named, reach identity row found, row, found,
      read⟩
  · rintro ⟨home, onward, named, _, row, found, read⟩
    exact ⟨row, found, (selects_iff small).mpr ⟨home, onward, (touches row found read).mp named⟩,
      read⟩

/-- Addresses select one by one, so a longer list selects what its parts select. -/
theorem get?_snapshot_append (settled : store.Every fun _ row => row.Settled)
    (reach : store.Every fun identity _ => identity.version.toNat < Word.limit)
    (small : start.toNat < Word.limit) {others : List String} {other joined : TransactionMap}
    (done : store.snapshot chain addresses start viewer = .ok view)
    (done' : store.snapshot chain others start viewer = .ok other)
    (both : store.snapshot chain (addresses ++ others) start viewer = .ok joined)
    (identity : Identity) :
    joined.get? identity = (view.get? identity).or (other.get? identity) := by
  apply Option.ext
  intro tx
  rw [get?_snapshot_iff settled reach small both, Transaction.touches_append,
    Option.or_eq_some_iff, get?_snapshot_iff settled reach small done,
    get?_snapshot_iff settled reach small done']
  constructor
  · rintro ⟨home, onward, mine | theirs, shown⟩
    · exact .inl ⟨home, onward, mine, shown⟩
    · -- It may be in both, and then it is the same in both.
      cases found : view.get? identity with
      | none => exact .inr ⟨rfl, home, onward, theirs, shown⟩
      | some same =>
          obtain ⟨_, _, mine, shown'⟩ := (get?_snapshot_iff settled reach small done).mp found
          cases shown.symm.trans shown'
          exact .inl ⟨home, onward, mine, shown⟩
  · rintro (⟨home, onward, mine, shown⟩ | ⟨_, home, onward, theirs, shown⟩)
    · exact ⟨home, onward, .inl mine, shown⟩
    · exact ⟨home, onward, .inr theirs, shown⟩

/-- A stored copy is shown, and nobody whom it names is left out. -/
theorem exists_shown (sound : store.Sound) (settled : store.Every fun _ row => row.Settled)
    (reach : store.Every fun identity _ => identity.version.toNat < Word.limit)
    (viewer : Option Int64) {identity : Identity} {row : Row}
    (found : store.rows.get? identity = some row) :
    ∃ tx, store.transaction? identity viewer = .ok (some tx) ∧
      ∀ party, party ∈ tx.parties ↔ party ∈ row.body.parties := by
  obtain ⟨tx, read⟩ := exists_of_sound sound found (store.annotations viewer identity)
  exact ⟨tx, transaction?_eq_some.mpr ⟨reach identity row found, row, found, read⟩,
    fun _ => Row.mem_parties_of_transaction (settled identity row found) read⟩

/-- Selection is exact, and agrees with the lookup of single identities, for as many addresses as one
statement can ask for; for more nothing is selected. -/
theorem snapshot_exact {deeds : List Deed} (plain : ∀ deed ∈ deeds, deed.Plain)
    (placed : ∀ deed ∈ deeds, deed.Tells Transaction.Placed) (chain : ChainId)
    (addresses : List String) (small : start.toNat < Word.limit) (viewer : Option Int64) :
    (addresses.length ≤ Statement.capacity →
      ∃ view, (after deeds).snapshot chain addresses start viewer = .ok view ∧
        (∀ identity tx, view.get? identity = some tx ↔
          identity.chain = chain ∧ start ≤ identity.version ∧ tx.Touches addresses ∧
            (after deeds).transaction? identity viewer = .ok (some tx)) ∧
        (addresses = [] → view = .empty) ∧
        ∀ others, addresses.length + others.length ≤ Statement.capacity →
          ∃ other joined, (after deeds).snapshot chain others start viewer = .ok other ∧
            (after deeds).snapshot chain (addresses ++ others) start viewer = .ok joined ∧
            ∀ identity, joined.get? identity = (view.get? identity).or (other.get? identity)) ∧
    (Statement.capacity < addresses.length → (after deeds).snapshot chain addresses start viewer =
      .error (.tooManyMarks addresses.length)) ∧
    (∀ identity row, (after deeds).rows.get? identity = some row →
      ∃ tx, (after deeds).transaction? identity viewer = .ok (some tx) ∧
        ∀ party, party ∈ tx.parties ↔ party ∈ row.body.parties) ∧
    ((∀ address ∈ addresses, '\x00' ∉ address.toList) →
      ∀ tx : Transaction, tx.Touches addresses ↔ tx.Names addresses) := by
  have sound := sound_after plain
  have settled := settled_of_after placed
  have reach := version_lt_of_after deeds
  refine ⟨fun few => ?_, fun many => snapshot_of_long ?_,
    fun identity row found => exists_shown sound settled reach viewer found,
    Transaction.touches_iff_names⟩
  · have taken : ∀ addresses : List String, addresses.length ≤ Statement.capacity →
        ∃ view, (after deeds).snapshot chain addresses start viewer = .ok view :=
      fun addresses few =>
        exists_snapshot_of_sound sound chain (Statement.isAllowed_iff.mpr few) start viewer
    obtain ⟨view, done⟩ := taken addresses few
    refine ⟨view, done, fun identity tx => get?_snapshot_iff settled reach small done, ?_,
      fun others both => ?_⟩
    · rintro rfl
      ext identity tx
      simp [get?_snapshot_iff settled reach small done, Transaction.Touches]
    · obtain ⟨other, done'⟩ := taken others (by omega)
      obtain ⟨joined, both⟩ := taken (addresses ++ others) (by rw [List.length_append]; exact both)
      exact ⟨other, joined, done', both,
        get?_snapshot_append settled reach small done done' both⟩
  · rw [Statement.isAllowed_iff]
    omega

/-- An address in another case selects a transaction with all of its events, also with that of
another sender, and with what is remarked on it. -/
theorem snapshot_exact_sample :
    let tx := Sample.shared [Sample.transfer Sample.first 0, Sample.transfer Sample.second 1]
    let deeds : List Deed := [.add [tx], .remark tx.identity ⟨"lunch", false⟩]
    let addresses := ["0X1111111111111111111111111111111111111111"]
    ∃ view, (after deeds).snapshot Sample.ledger.chain addresses 10 none = .ok view ∧
      view.get? tx.identity =
        some (tx.withAnnotations { sender := some ⟨"lunch", false⟩ }) := by
  intro tx deeds addresses
  have plain : ∀ deed ∈ deeds, deed.Plain := by
    simp only [deeds, List.forall_mem_cons, List.not_mem_nil, false_implies, implies_true,
      Deed.Plain, and_true]
    decide +kernel
  have placed : ∀ deed ∈ deeds, deed.Tells Transaction.Placed := by
    simp only [deeds, List.forall_mem_cons, List.not_mem_nil, false_implies, implies_true,
      Deed.Tells, and_true]
    decide +kernel
  obtain ⟨reads, _⟩ := snapshot_exact plain placed Sample.ledger.chain addresses
    (by decide : (10 : UInt64).toNat < Word.limit) none
  obtain ⟨view, done, exact, _⟩ := reads (by decide)
  have shown : (after deeds).transaction? tx.identity none =
      .ok (some (tx.withAnnotations { sender := some ⟨"lunch", false⟩ })) := by
    decide +kernel
  have touches : (tx.withAnnotations { sender := some ⟨"lunch", false⟩ }).Touches addresses := by
    decide +kernel
  exact ⟨view, done, (exact _ _).mpr ⟨rfl, by decide, touches, shown⟩⟩

/-- A sender that differs from the address after a null character is selected with it, though they
are not the same but for the case of letters. -/
theorem selected_after_null :
    let tx := Sample.shared [Sample.transfer "a\x00b" 0]
    let deeds : List Deed := [.add [tx]]
    (∀ deed ∈ deeds, deed.Plain ∧ deed.Tells Transaction.Placed) ∧
      (after deeds).snapshot Sample.ledger.chain ["A\x00c"] 0 none =
        .ok (.ofTransactions [tx]) ∧
      ¬ tx.Names ["A\x00c"] := by
  intro tx deeds
  refine ⟨?_, by decide +kernel, by decide +kernel⟩
  simp only [deeds, List.forall_mem_cons, List.not_mem_nil, false_implies, implies_true,
    Deed.Plain, Deed.Tells, and_true]
  decide +kernel

end Store

end Passbook
