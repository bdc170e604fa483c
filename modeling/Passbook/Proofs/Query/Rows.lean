import Mathlib.Data.List.Induction
import Passbook.Proofs.Instant
import Passbook.Proofs.Ledger.Events
import Passbook.Query.Block
/-!
How the rows of a transfer index become transactions. The rows of one place in one block make one
transaction: the first of them tells all but its events, and at each log index the last of them
stands.
-/

namespace Passbook

namespace TransferEvent

theorem settled_eq (event : TransferEvent) :
    event.settled = { event with logIndex := max event.logIndex 0 } := by
  unfold settled
  split
  case isTrue negative =>
    have below : event.logIndex ≤ 0 := Int64.le_of_lt negative
    rw [show max event.logIndex 0 = 0 from if_pos below]
  case isFalse place =>
    by_cases below : event.logIndex ≤ 0
    · have zero : event.logIndex = 0 := Int64.le_antisymm below (Int64.not_lt.mp place)
      rw [show max event.logIndex 0 = 0 from if_pos below, ← zero]
    · rw [show max event.logIndex 0 = event.logIndex from if_neg below]

end TransferEvent

namespace EventLog

theorem ofEvents_concat (events : List TransferEvent) (event : TransferEvent) :
    ofEvents (events ++ [event]) = (ofEvents events).add event :=
  List.foldl_concat add .empty event events

/-- At each index stands the last of the events that belong there. -/
theorem get?_ofEvents (events : List TransferEvent) (key : Int64) :
    (ofEvents events).get? key =
      (events.reverse.find? fun event => max event.logIndex 0 = key).map fun last =>
        { last with logIndex := key } := by
  rw [ofEvents_eq, SortedMap.get?_ofList, ← List.map_reverse, Entries.find?_map]
  simp only [TransferEvent.settled_eq]
  cases found : events.reverse.find? fun event => max event.logIndex 0 = key with
  | none => rfl
  | some last =>
      have own : max last.logIndex 0 = key := by simpa using List.find?_some found
      rw [Option.map_some, Option.map_some, TransferEvent.settled_eq, own]

end EventLog

namespace BlockTransaction

/-- The transaction with one more event in its log. -/
def logging (tx : BlockTransaction) (event : TransferEvent) : BlockTransaction :=
  { tx with events := tx.events.add event }

/-- All but its events is what a row tells, and what is known about the hash of that row. -/
structure HeadedBy (tx : BlockTransaction) (chain : ChainId) (first : TransferRow)
    (info : TransactionInfo) : Prop where
  identity : tx.identity = ⟨chain, first.block, first.index⟩
  hash : tx.hash = first.hash
  gas : tx.gas = ⟨first.gasPrice, first.gasUsed, first.gas⟩
  timestamp : tx.timestamp.Shows (first.second.toInt * 1000000)
  status : tx.status = info.status
  gatewayFee : tx.gatewayFee = info.gatewayFee
  gatewayRecipient : tx.gatewayRecipient = info.gatewayRecipient
  gatewayCurrency : tx.gatewayCurrency = info.feeCurrency
  annotations : tx.annotations = {}

/-- At each index of its log stands what the last row of the transaction tells of those that belong
there: a row belongs at its own log index, or at zero if that is negative. -/
def LogsLast (tx : BlockTransaction) (chain : ChainId) (rows : List TransferRow) : Prop :=
  ∀ key, tx.events.get? key =
    (rows.reverse.find? fun row => row.identity chain = tx.identity ∧ max row.logIndex 0 = key).map
      fun last => ⟨key, last.contract, last.sender, last.receiver, last.value⟩

end BlockTransaction

namespace BlockQuery
variable {chain : ChainId} {infos : SortedMap String TransactionInfo} {rows : List TransferRow}
  {found : SortedMap Identity BlockTransaction}

theorem addRow_eq_ok_iff {before after : SortedMap Identity BlockTransaction} {row : TransferRow} :
    addRow chain infos before row = .ok after ↔
      ∃ info, infos.get? row.hash = some info ∧
        after = before.insert (row.identity chain)
          (((before.get? (row.identity chain)).getD (row.transaction chain info)).logging
            row.event) := by
  unfold addRow
  cases infos.get? row.hash with
  | none => simp
  | some info => simp [BlockTransaction.logging, eq_comm]

/-- A row is refused only if nothing is known of its hash. -/
theorem addRow_eq_error_iff {before : SortedMap Identity BlockTransaction} {row : TransferRow}
    {fault : Fault} :
    addRow chain infos before row = .error fault ↔
      infos.get? row.hash = none ∧ fault = .noData := by
  unfold addRow
  cases infos.get? row.hash with
  | none => simp [eq_comm]
  | some info => simp

/-- Rows are gathered if it is known what each of their transactions is. -/
theorem exists_foldlM_addRow (chain : ChainId)
    (known : ∀ row ∈ rows, ∃ info, infos.get? row.hash = some info)
    (start : SortedMap Identity BlockTransaction) :
    ∃ found, rows.foldlM (addRow chain infos) start = .ok found := by
  induction rows generalizing start with
  | nil => exact ⟨start, rfl⟩
  | cons row rest ih =>
      obtain ⟨⟨info, told⟩, others⟩ := List.forall_mem_cons.mp known
      obtain ⟨after, added⟩ : ∃ after, addRow chain infos start row = .ok after :=
        ⟨_, addRow_eq_ok_iff.mpr ⟨info, told, rfl⟩⟩
      obtain ⟨found, done⟩ := ih others after
      refine ⟨found, ?_⟩
      rw [List.foldlM_cons, bind_eq_ok_iff]
      exact ⟨after, added, done⟩

theorem known_of_foldlM_addRow {start : SortedMap Identity BlockTransaction}
    (done : rows.foldlM (addRow chain infos) start = .ok found) {row : TransferRow}
    (member : row ∈ rows) : ∃ info, infos.get? row.hash = some info := by
  induction rows generalizing start with
  | nil => cases member
  | cons first rest ih =>
      rw [List.foldlM_cons, bind_eq_ok_iff] at done
      obtain ⟨middle, added, later⟩ := done
      rcases List.mem_cons.mp member with rfl | behind
      · obtain ⟨info, told, _⟩ := addRow_eq_ok_iff.mp added
        exact ⟨info, told⟩
      · exact ih later behind

/-- The rows of one transaction, in the order in which they are read. -/
def rowsOf (chain : ChainId) (identity : Identity) (rows : List TransferRow) : List TransferRow :=
  rows.filter fun row => row.identity chain = identity

theorem rowsOf_concat_own (rows : List TransferRow) (row : TransferRow) :
    rowsOf chain (row.identity chain) (rows ++ [row]) =
      rowsOf chain (row.identity chain) rows ++ [row] := by
  simp [rowsOf]

theorem rowsOf_concat_other {identity : Identity} {row : TransferRow}
    (other : identity ≠ row.identity chain) (rows : List TransferRow) :
    rowsOf chain identity (rows ++ [row]) = rowsOf chain identity rows := by
  simp [rowsOf, other.symm]

/-- What the rows of one transaction tell about it. -/
def gathered (chain : ChainId) (infos : SortedMap String TransactionInfo)
    (rows : List TransferRow) : Option BlockTransaction :=
  match rows with
  | [] => none
  | first :: _ => (infos.get? first.hash).map fun info =>
      { first.transaction chain info with events := .ofEvents (rows.map TransferRow.event) }

/-- One more row of a transaction adds its event. -/
theorem gathered_concat {row : TransferRow} {info : TransactionInfo}
    (known : ∀ first ∈ rows, ∃ info, infos.get? first.hash = some info)
    (told : infos.get? row.hash = some info) :
    gathered chain infos (rows ++ [row]) =
      some (((gathered chain infos rows).getD (row.transaction chain info)).logging row.event) := by
  cases rows with
  | nil =>
      simp only [gathered, List.nil_append, told, Option.map_some]
      rfl
  | cons first rest =>
      obtain ⟨own, knows⟩ := known first List.mem_cons_self
      simp only [gathered, List.cons_append, knows, Option.map_some, Option.getD_some]
      rw [← List.cons_append, List.map_append, List.map_singleton, EventLog.ofEvents_concat]
      rfl

/-- Each transaction is what its own rows tell. -/
theorem get?_foldlM_addRow (done : rows.foldlM (addRow chain infos) .empty = .ok found)
    (identity : Identity) :
    found.get? identity = gathered chain infos (rowsOf chain identity rows) := by
  -- The last row is the one that is added last.
  induction rows using List.reverseRecOn generalizing found with
  | nil =>
      cases done
      rfl
  | append_singleton rows row ih =>
      rw [List.foldlM_append, bind_eq_ok_iff] at done
      obtain ⟨middle, before, last⟩ := done
      rw [List.foldlM_cons, bind_eq_ok_iff] at last
      obtain ⟨after, added, ended⟩ := last
      cases ended
      obtain ⟨info, told, rfl⟩ := addRow_eq_ok_iff.mp added
      rw [SortedMap.get?_insert]
      by_cases here : identity = row.identity chain
      · subst here
        rw [if_pos rfl, ih before, rowsOf_concat_own]
        refine (gathered_concat (fun first among => ?_) told).symm
        exact known_of_foldlM_addRow before (List.mem_of_mem_filter among)
      · rw [if_neg here, ih before, rowsOf_concat_other here]

theorem get?_ofEvents_rowsOf (chain : ChainId) (identity : Identity) (rows : List TransferRow)
    (key : Int64) :
    (EventLog.ofEvents ((rowsOf chain identity rows).map TransferRow.event)).get? key =
      (rows.reverse.find? fun row => row.identity chain = identity ∧ max row.logIndex 0 = key).map
        fun last => ⟨key, last.contract, last.sender, last.receiver, last.value⟩ := by
  rw [EventLog.get?_ofEvents, ← List.map_reverse, List.find?_map, Option.map_map, rowsOf,
    ← List.filter_reverse, List.find?_filter]
  simp only [Function.comp_apply, decide_eq_true_eq]
  rfl

theorem headedBy_transaction (first : TransferRow) (info : TransactionInfo) (log : EventLog) :
    BlockTransaction.HeadedBy { first.transaction chain info with events := log } chain first
      info where
  identity := rfl
  hash := rfl
  gas := rfl
  timestamp := Instant.shows_of_second _
  status := rfl
  gatewayFee := rfl
  gatewayRecipient := rfl
  gatewayCurrency := rfl
  annotations := rfl

/-- A transaction is found if some row is of it. Its first row tells all but its events, and of the
rows that belong at one log index the last stands. -/
theorem standing_of_foldlM_addRow (done : rows.foldlM (addRow chain infos) .empty = .ok found)
    (identity : Identity) :
    match rows.find? fun row => row.identity chain = identity with
    | none => found.get? identity = none
    | some first => ∃ info tx, infos.get? first.hash = some info ∧
        found.get? identity = some tx ∧ tx.HeadedBy chain first info ∧ tx.LogsLast chain rows := by
  have standing := get?_foldlM_addRow done identity
  have head : (rowsOf chain identity rows).head? =
      rows.find? fun row => row.identity chain = identity := List.head?_filter
  cases own : rowsOf chain identity rows with
  | nil =>
      rw [own] at head standing
      rw [← head]
      exact standing
  | cons first rest =>
      have among : first ∈ rowsOf chain identity rows := own ▸ List.mem_cons_self
      obtain ⟨member, same⟩ := List.mem_filter.mp among
      obtain ⟨info, told⟩ := known_of_foldlM_addRow done member
      rw [own] at head
      rw [← head]
      rw [own, gathered, told] at standing
      refine ⟨info, _, told, standing, headedBy_transaction first info _, fun key => ?_⟩
      have here : first.identity chain = identity := by simpa using same
      change (EventLog.ofEvents ((first :: rest).map TransferRow.event)).get? key = _
      rw [← own, get?_ofEvents_rowsOf, ← here]
      rfl

/-- Whatever is found is told by its own rows. -/
theorem logsLast_of_foldlM_addRow (done : rows.foldlM (addRow chain infos) .empty = .ok found)
    {identity : Identity} {tx : BlockTransaction} (held : found.get? identity = some tx) :
    tx.identity = identity ∧ tx.LogsLast chain rows := by
  have standing := standing_of_foldlM_addRow done identity
  cases head : rows.find? fun row => row.identity chain = identity with
  | none =>
      rw [head] at standing
      rw [standing] at held
      cases held
  | some first =>
      rw [head] at standing
      obtain ⟨info, other, _, there, headed, logs⟩ := standing
      rw [there, Option.some.injEq] at held
      subst held
      have own : first.identity chain = identity := by simpa using List.find?_some head
      exact ⟨headed.identity.trans own, logs⟩

/-- Every row has a transaction. -/
theorem exists_of_foldlM_addRow (done : rows.foldlM (addRow chain infos) .empty = .ok found)
    {row : TransferRow} (member : row ∈ rows) :
    ∃ tx, found.get? (row.identity chain) = some tx := by
  have standing := standing_of_foldlM_addRow done (row.identity chain)
  cases head : rows.find? fun other => other.identity chain = row.identity chain with
  | none =>
      have other := List.find?_eq_none.mp head row member
      simp at other
  | some first =>
      rw [head] at standing
      obtain ⟨info, tx, _, held, _⟩ := standing
      exact ⟨tx, held⟩

end BlockQuery

end Passbook
