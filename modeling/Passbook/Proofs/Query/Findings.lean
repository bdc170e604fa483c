import Passbook.Proofs.Query.Block
import Passbook.Proofs.Query.Sequential
/-!
What a query can find at all, whatever its client answers and when. Every transaction that it finds
stands under its own identity, is at or after the start, and has the form in which a store gives
transactions back.
-/

namespace Passbook

open Retry (Question Answers)

variable {σ : Type}

namespace Transaction

/-- The form in which a store gives a transaction back: its instant in whole microseconds and
outside leap seconds, every event at its own log index, and nothing noted on it. -/
structure Canonical (tx : Transaction) : Prop where
  tidy : tx.Tidy
  whole : tx.timestamp.IsWhole
  plain : ¬ tx.timestamp.IsLeap
  unnoted : tx.annotations = {}

end Transaction

namespace SequentialQuery
variable {query : SequentialQuery (StateM σ)} {spelling : String} {start : UInt64}
  {view : TransactionMap}

theorem answers_of_detail {version : UInt64} {detail : VersionDetail}
    (answered : Answers (query.detail version) detail) :
    Answers (query.client.transaction version) (some detail) := by
  obtain ⟨told, client, later⟩ := Retry.exists_of_answers_bind answered
  cases told with
  | none => cases Retry.eq_of_answers_mk later
  | some own =>
      cases Retry.eq_of_answers_pure later
      exact client

theorem canonical_detail (chain : ChainId) (detail : VersionDetail) :
    (Transaction.sequential (detail.transaction chain)).Canonical where
  tidy := Transaction.tidy_sequential _
  whole := (detail.toldBy_transaction chain).timestamp.isWhole
  plain := (detail.toldBy_transaction chain).timestamp.not_isLeap
  unnoted := rfl

/-- What is found is made of the details of the versions that were read. -/
theorem exists_of_answers_fetchSince (answered : Answers (query.fetchSince spelling start) view) :
    ∃ address account, Address.canonical? .sequential spelling = .ok address ∧
      Answers (query.client.account address) account ∧
      match account with
      | none => view = .empty
      | some streams => ∃ sent received details,
          Answers (query.versionsFrom streams.sentKey 0) sent ∧
          Answers (query.versionsFrom streams.receivedKey 0) received ∧
          Answers (query.lookups "get_transactions" query.client.latency query.detail
            (distinct ((sent ++ received).filter (start ≤ ·)))) details ∧
          view = .ofTransactions (details.map fun detail =>
            .sequential (detail.transaction query.chain)) := by
  obtain ⟨address, valid, answered⟩ := Retry.exists_of_answers_bind answered
  obtain ⟨account, asked, answered⟩ := Retry.exists_of_answers_bind answered
  refine ⟨address, account, Retry.eq_of_answers_mk valid, QueryContext.answers_of_ask asked, ?_⟩
  cases account with
  | none =>
      obtain ⟨_, _, built⟩ := Retry.exists_of_answers_bind answered
      exact (Retry.eq_of_answers_pure built).symm
  | some streams =>
      obtain ⟨sent, fromSent, answered⟩ := Retry.exists_of_answers_bind answered
      obtain ⟨received, fromReceived, answered⟩ := Retry.exists_of_answers_bind answered
      obtain ⟨_, _, answered⟩ := Retry.exists_of_answers_bind answered
      obtain ⟨details, looked, built⟩ := Retry.exists_of_answers_bind answered
      exact ⟨sent, received, details, fromSent, fromReceived, looked,
        (Retry.eq_of_answers_pure built).symm⟩

/-- Whatever is found was told about some version from the start on. -/
theorem exists_of_found (answered : Answers (query.fetchSince spelling start) view)
    {identity : Identity} {tx : Transaction} (found : view.get? identity = some tx) :
    tx.identity = identity ∧ ∃ version detail, start ≤ version ∧
      Answers (query.client.transaction version) (some detail) ∧
      tx = .sequential (detail.transaction query.chain) := by
  obtain ⟨_, account, _, _, made⟩ := exists_of_answers_fetchSince answered
  cases account with
  | none =>
      rw [show view = .empty from made] at found
      cases found
  | some streams =>
      obtain ⟨_, _, details, _, _, looked, rfl⟩ := made
      obtain ⟨member, own⟩ := TransactionMap.mem_of_get?_ofTransactions found
      obtain ⟨detail, among, rfl⟩ := List.mem_map.mp member
      obtain ⟨version, wanted, told⟩ := QueryContext.exists_of_answers_lookups looked among
      rw [mem_distinct, List.mem_filter] at wanted
      exact ⟨own, version, detail, by simpa using wanted.2, answers_of_detail told, rfl⟩

end SequentialQuery

namespace EventLog

theorem keyed_add {log : EventLog} (keyed : log.Keyed) (event : TransferEvent) :
    (log.add event).Keyed := by
  intro key other found
  rw [add, SortedMap.get?_insert] at found
  by_cases own : key = event.settled.logIndex
  · rw [if_pos own] at found
    cases found
    exact own.symm
  · rw [if_neg own] at found
    exact keyed key other found

theorem settled_add {log : EventLog} (settled : log.Settled) (event : TransferEvent) :
    (log.add event).Settled := by
  intro key held
  rw [SortedMap.contains, add, SortedMap.get?_insert] at held
  by_cases own : key = event.settled.logIndex
  · rw [own]
    exact logIndex_settled event
  · rw [if_neg own] at held
    exact settled key held

end EventLog

namespace BlockQuery
variable {query : BlockQuery (StateM σ)} {spelling address : String} {start : UInt64}

/-- No row before the start is kept, whatever page it is on. -/
theorem start_le_of_rowsFrom {page : Nat} {rows : List TransferRow}
    (answered : Answers (query.rowsFrom address start page) rows) {row : TransferRow}
    (member : row ∈ rows) : start ≤ row.block := by
  induction left : UInt32.size - page using Nat.strongRecOn generalizing page rows with
  | _ left ih =>
    subst left
    rw [rowsFrom] at answered
    obtain ⟨batch, _, answered⟩ := Retry.exists_of_answers_bind answered
    have kept : row ∈ batch.filter (start ≤ ·.block) → start ≤ row.block := fun among => by
      simpa using (List.mem_filter.mp among).2
    by_cases more : query.settings.pageLimit ≤ batch.length ∧ page + 1 < UInt32.size
    · rw [dif_pos more] at answered
      obtain ⟨later, told, built⟩ := Retry.exists_of_answers_bind answered
      cases Retry.eq_of_answers_pure built
      rcases List.mem_append.mp member with here | there
      · exact kept here
      · exact ih _ (by omega) told there rfl
    · rw [dif_neg more] at answered
      cases Retry.eq_of_answers_pure answered
      exact kept member

/-- What stands under an identity, as far as rows are gathered. -/
structure Stands (chain : ChainId) (start : UInt64) (identity : Identity)
    (tx : BlockTransaction) : Prop where
  own : tx.identity = identity
  home : identity.chain = chain
  onward : start ≤ identity.version
  canonical : (Transaction.block tx).Canonical

theorem nano_timestamp (chain : ChainId) (row : TransferRow) (info : TransactionInfo) :
    (Transaction.block (row.transaction chain info)).timestamp.nano = 0 := by
  change ((Instant.of? row.second.toInt 0).getD .epoch).nano = 0
  cases found : Instant.of? row.second.toInt 0 with
  | none => rfl
  | some instant => exact (Instant.of?_eq_some_iff.mp found).2

theorem canonical_row (chain : ChainId) (row : TransferRow) (info : TransactionInfo) :
    (Transaction.block (row.transaction chain info)).Canonical where
  tidy := ⟨EventLog.keyed_ofEvents [], EventLog.settled_ofEvents []⟩
  whole := by
    unfold Instant.IsWhole
    exact congrArg (· % 1000) (nano_timestamp chain row info)
  plain := by
    unfold Instant.IsLeap
    rw [nano_timestamp chain row info]
    decide
  unnoted := rfl

theorem canonical_add {tx : BlockTransaction} (canonical : (Transaction.block tx).Canonical)
    (event : TransferEvent) :
    (Transaction.block { tx with events := tx.events.add event }).Canonical where
  tidy := ⟨EventLog.keyed_add canonical.tidy.keyed event,
    EventLog.settled_add canonical.tidy.settled event⟩
  whole := canonical.whole
  plain := canonical.plain
  unnoted := canonical.unnoted

/-- A row adds its event to what stands for its place, and leaves all else as it is. -/
theorem stands_addRow {chain : ChainId} {infos : SortedMap String TransactionInfo}
    {before after : SortedMap Identity BlockTransaction} {row : TransferRow}
    (onward : start ≤ row.block)
    (stand : ∀ identity tx, before.get? identity = some tx → Stands chain start identity tx)
    (added : addRow chain infos before row = .ok after) (identity : Identity)
    (tx : BlockTransaction) (found : after.get? identity = some tx) :
    Stands chain start identity tx := by
  unfold addRow at added
  cases told : infos.get? row.hash with
  | none => simp [told] at added
  | some info =>
      simp only [told, Except.ok.injEq] at added
      subst added
      have base : Stands chain start (row.identity chain)
          ((before.get? (row.identity chain)).getD (row.transaction chain info)) := by
        cases held : before.get? (row.identity chain) with
        | none => exact ⟨rfl, rfl, onward, canonical_row chain row info⟩
        | some seen => exact stand _ seen held
      rw [SortedMap.get?_insert] at found
      by_cases here : identity = row.identity chain
      · rw [if_pos here, Option.some.injEq] at found
        subst found here
        exact ⟨base.own, base.home, base.onward, canonical_add base.canonical row.event⟩
      · rw [if_neg here] at found
        exact stand identity tx found

theorem stands_of_found {view : TransactionMap}
    (answered : Answers (query.fetchSince spelling start) view) {identity : Identity}
    {tx : Transaction} (found : view.get? identity = some tx) :
    ∃ part, tx = .block part ∧ Stands query.chain start identity part := by
  obtain ⟨_, _, _, _, _, read, folded, rfl⟩ := exists_of_answers_fetchSince answered
  have stand := foldlM_induction
    (fun found => ∀ identity tx, found.get? identity = some tx →
      Stands query.chain start identity tx)
    folded (fun _ _ found => by cases found)
    fun row member _ _ before added =>
      stands_addRow (start_le_of_rowsFrom read member) before added
  obtain ⟨part, held, rfl⟩ := get?_viewOf.mp found
  exact ⟨part, rfl, stand identity part held⟩

end BlockQuery

namespace Transaction

/-- Some query finds it of some client, in whatever state the client is. -/
inductive Found (tx : Transaction) : Prop where
  | sequential {σ : Type} {query : SequentialQuery (StateM σ)} {spelling : String}
      {start : UInt64} {view : TransactionMap} {identity : Identity}
      (answered : Answers (query.fetchSince spelling start) view)
      (found : view.get? identity = some tx)
  | block {σ : Type} {query : BlockQuery (StateM σ)} {spelling : String} {start : UInt64}
      {view : TransactionMap} {identity : Identity}
      (answered : Answers (query.fetchSince spelling start) view)
      (found : view.get? identity = some tx)

theorem Found.canonical {tx : Transaction} (found : tx.Found) : tx.Canonical := by
  cases found with
  | sequential answered found =>
      obtain ⟨_, _, detail, _, _, rfl⟩ := SequentialQuery.exists_of_found answered found
      exact SequentialQuery.canonical_detail _ detail
  | block answered found =>
      obtain ⟨_, rfl, stands⟩ := BlockQuery.stands_of_found answered found
      exact stands.canonical

end Transaction

end Passbook
