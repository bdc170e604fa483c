import Mathlib.Algebra.GroupWithZero.Nat
import Mathlib.Data.List.Dedup
import Passbook.Proofs.Query.Block
/-!
How many of the transfers that a block ledger tells are in what a query finds. Every row that it
reads has a place, in the log of its transaction at its own log index; those at or below zero share
place zero, where only the last of them stands. All other rows are kept.
-/

namespace Passbook

open Retry (Answers)

variable {σ : Type}

namespace TransactionMap

/-- Where all events of all transactions stand. -/
def places (view : TransactionMap) : List (Identity × Int64) :=
  view.entries.flatMap fun entry => entry.2.events.keys.map fun key => (entry.1, key)

/-- How many events all transactions have together. -/
def eventCount (view : TransactionMap) : Nat := (view.values.map fun tx => tx.events.size).sum

variable {view : TransactionMap}

theorem length_places (view : TransactionMap) : view.places.length = view.eventCount := by
  rw [places, List.length_flatMap, eventCount, SortedMap.values, List.map_map]
  refine congrArg List.sum (List.map_congr_left fun entry _ => ?_)
  rw [List.length_map, SortedMap.keys, List.length_map]
  rfl

theorem mem_places {identity : Identity} {key : Int64} :
    (identity, key) ∈ view.places ↔
      ∃ tx, view.get? identity = some tx ∧ tx.events.contains key = true := by
  simp only [places, List.mem_flatMap, List.mem_map, Prod.mk.injEq, Prod.exists,
    SortedMap.get?_eq_some_iff, SortedMap.contains_iff_mem_keys]
  constructor
  · rintro ⟨_, tx, member, _, own, rfl, rfl⟩
    exact ⟨tx, member, own⟩
  · rintro ⟨tx, member, own⟩
    exact ⟨identity, tx, member, key, own, rfl, rfl⟩

theorem nodup_places (view : TransactionMap) : view.places.Nodup := by
  refine List.nodup_flatMap.mpr ⟨fun entry _ => ?_, ?_⟩
  · refine (SortedMap.keys_nodup entry.2.events).map fun first second same => ?_
    exact congrArg Prod.snd same
  · refine (List.pairwise_map.mp view.keys_nodup).imp fun differ place here there => ?_
    obtain ⟨_, _, rfl⟩ := List.mem_map.mp here
    obtain ⟨_, _, same⟩ := List.mem_map.mp there
    exact differ (congrArg Prod.fst same).symm

end TransactionMap

namespace TransferRow

/-- Where the event of a row belongs. -/
def place (chain : ChainId) (row : TransferRow) : Identity × Int64 :=
  (row.identity chain, max row.logIndex 0)

theorem place_of_pos {chain : ChainId} {row : TransferRow} (positive : 0 < row.logIndex) :
    row.place chain = (row.identity chain, row.logIndex) := by
  rw [place, show max row.logIndex 0 = row.logIndex from if_neg (Int64.not_le.mpr positive)]

theorem place_of_le {chain : ChainId} {row : TransferRow} (below : row.logIndex ≤ 0) :
    row.place chain = (row.identity chain, 0) := by
  rw [place, show max row.logIndex 0 = 0 from if_pos below]

end TransferRow

namespace BlockQuery
variable {chain : ChainId} {infos : SortedMap String TransactionInfo} {rows : List TransferRow}
  {gathered : SortedMap Identity BlockTransaction}

/-- Every row has an event at its place, and no other place has one. -/
theorem mem_places_iff (done : rows.foldlM (addRow chain infos) .empty = .ok gathered)
    {place : Identity × Int64} :
    place ∈ (viewOf gathered).places ↔ ∃ row ∈ rows, row.place chain = place := by
  obtain ⟨identity, key⟩ := place
  have logged : ∀ tx, gathered.get? identity = some tx →
      (tx.events.contains key = true ↔ ∃ row ∈ rows, row.place chain = (identity, key)) := by
    intro tx held
    obtain ⟨own, logs⟩ := logsLast_of_foldlM_addRow done held
    rw [SortedMap.contains, logs key, own, Option.isSome_map, List.find?_isSome]
    simp only [List.mem_reverse, TransferRow.place, Prod.mk.injEq, decide_eq_true_eq]
  rw [TransactionMap.mem_places]
  constructor
  · rintro ⟨_, shown, there⟩
    obtain ⟨tx, held, rfl⟩ := get?_viewOf.mp shown
    exact (logged tx held).mp there
  · rintro ⟨row, member, here⟩
    have own : row.identity chain = identity := congrArg Prod.fst here
    obtain ⟨tx, held⟩ := exists_of_foldlM_addRow done member
    rw [own] at held
    exact ⟨.block tx, get?_viewOf.mpr ⟨tx, held, rfl⟩, (logged tx held).mpr ⟨row, member, here⟩⟩

/-- The last row of a place is what stands there. -/
theorem get?_event_of_last (done : rows.foldlM (addRow chain infos) .empty = .ok gathered)
    {before after : List TransferRow} {row : TransferRow} (split : rows = before ++ row :: after)
    (last : ∀ later ∈ after, later.place chain ≠ row.place chain) :
    ∃ tx, gathered.get? (row.identity chain) = some tx ∧
      tx.events.get? (max row.logIndex 0) =
        some ⟨max row.logIndex 0, row.contract, row.sender, row.receiver, row.value⟩ := by
  have member : row ∈ rows := split ▸ List.mem_append_right before List.mem_cons_self
  obtain ⟨tx, held⟩ := exists_of_foldlM_addRow done member
  obtain ⟨own, logs⟩ := logsLast_of_foldlM_addRow done held
  refine ⟨tx, held, ?_⟩
  have found : (rows.reverse.find? fun other => other.identity chain = row.identity chain ∧
      max other.logIndex 0 = max row.logIndex 0) = some row := by
    rw [List.find?_eq_some_iff_append]
    refine ⟨by simp, after.reverse, before.reverse, by simp [split], fun later among => ?_⟩
    have differs := last later (List.mem_reverse.mp among)
    rw [Bool.not_eq_true', decide_eq_false_iff_not]
    exact fun both => differs (Prod.ext both.1 both.2)
  rw [logs, own, found]
  rfl

/-- The transactions that have a row at or below zero, each once. -/
def groundedOf (chain : ChainId) (rows : List TransferRow) : List Identity :=
  ((rows.filter (·.logIndex ≤ 0)).map (TransferRow.identity chain)).dedup

theorem mem_groundedOf {identity : Identity} :
    identity ∈ groundedOf chain rows ↔
      ∃ row ∈ rows, row.logIndex ≤ 0 ∧ row.identity chain = identity := by
  simp only [groundedOf, List.mem_dedup, List.mem_map, List.mem_filter, decide_eq_true_eq,
    and_assoc]

/-- The places of rows: one for each row above zero, and place zero of each transaction that has
rows at or below it. -/
def placesOf (chain : ChainId) (rows : List TransferRow) : List (Identity × Int64) :=
  (rows.filter (0 < ·.logIndex)).map (TransferRow.place chain) ++
    (groundedOf chain rows).map fun identity => (identity, 0)

theorem mem_placesOf {place : Identity × Int64} :
    place ∈ placesOf chain rows ↔ ∃ row ∈ rows, row.place chain = place := by
  rw [placesOf, List.mem_append, List.mem_map, List.mem_map]
  constructor
  · rintro (⟨row, among, here⟩ | ⟨identity, among, here⟩)
    · exact ⟨row, List.mem_of_mem_filter among, here⟩
    · obtain ⟨row, member, below, rfl⟩ := mem_groundedOf.mp among
      exact ⟨row, member, (TransferRow.place_of_le below).trans here⟩
  · rintro ⟨row, member, here⟩
    by_cases positive : 0 < row.logIndex
    · exact .inl ⟨row, List.mem_filter.mpr ⟨member, by simpa using positive⟩, here⟩
    · have below := Int64.not_lt.mp positive
      exact .inr ⟨row.identity chain, mem_groundedOf.mpr ⟨row, member, below, rfl⟩,
        (TransferRow.place_of_le below).symm.trans here⟩

/-- No row behind it has the place of a row that is above zero, or the last at or below it. -/
theorem place_ne_of_apart
    (apart : (rows.map fun row => (row.identity chain, row.logIndex)).Nodup)
    {before after : List TransferRow} {row : TransferRow} (split : rows = before ++ row :: after)
    (last : row.logIndex ≤ 0 → ∀ later ∈ after,
      later.identity chain = row.identity chain → 0 < later.logIndex) :
    ∀ later ∈ after, later.place chain ≠ row.place chain := by
  intro later member same
  have own : later.identity chain = row.identity chain := congrArg Prod.fst same
  by_cases positive : 0 < row.logIndex
  · rw [TransferRow.place_of_pos positive] at same
    by_cases above : 0 < later.logIndex
    · rw [TransferRow.place_of_pos above] at same
      rw [split, List.map_append, List.map_cons] at apart
      have fresh := (List.nodup_cons.mp (List.nodup_append.mp apart).2.1).1
      exact fresh (List.mem_map.mpr ⟨later, member, same⟩)
    · rw [TransferRow.place_of_le (Int64.not_lt.mp above)] at same
      rw [← show (0 : Int64) = row.logIndex from congrArg Prod.snd same] at positive
      exact absurd positive Int64.lt_irrefl
  · have above := last (Int64.not_lt.mp positive) later member own
    rw [TransferRow.place_of_le (Int64.not_lt.mp positive), TransferRow.place_of_pos above] at same
    rw [show later.logIndex = 0 from congrArg Prod.snd same] at above
    exact absurd above Int64.lt_irrefl

/-- If no two rows of a transaction have one log index, no place is named twice. -/
theorem nodup_placesOf
    (apart : (rows.map fun row => (row.identity chain, row.logIndex)).Nodup) :
    (placesOf chain rows).Nodup := by
  refine List.nodup_append.mpr ⟨?_, (List.nodup_dedup _).map fun first second same => ?_, ?_⟩
  · have own : (rows.filter (0 < ·.logIndex)).map (TransferRow.place chain) =
        (rows.filter (0 < ·.logIndex)).map fun row => (row.identity chain, row.logIndex) :=
      List.map_congr_left fun row among => TransferRow.place_of_pos (by
        simpa using (List.mem_filter.mp among).2)
    rw [own]
    exact apart.sublist (List.filter_sublist.map _)
  · exact congrArg Prod.fst same
  · intro place there other grounded same
    obtain ⟨row, among, rfl⟩ := List.mem_map.mp there
    obtain ⟨identity, _, rfl⟩ := List.mem_map.mp grounded
    have positive : 0 < row.logIndex := by simpa using (List.mem_filter.mp among).2
    rw [TransferRow.place_of_pos positive] at same
    have zero : row.logIndex = 0 := congrArg Prod.snd same
    rw [zero] at positive
    exact absurd positive Int64.lt_irrefl

theorem eventCount_viewOf (done : rows.foldlM (addRow chain infos) .empty = .ok gathered)
    (apart : (rows.map fun row => (row.identity chain, row.logIndex)).Nodup) :
    (viewOf gathered).eventCount =
      (rows.filter (0 < ·.logIndex)).length + (groundedOf chain rows).length := by
  have same : (viewOf gathered).places.Perm (placesOf chain rows) :=
    (List.perm_ext_iff_of_nodup (TransactionMap.nodup_places _) (nodup_placesOf apart)).mpr
      fun place => (mem_places_iff done).trans mem_placesOf.symm
  rw [← TransactionMap.length_places, same.length_eq, placesOf, List.length_append,
    List.length_map, List.length_map]

/-- No row is without an event of its own just if no transaction has two rows at or below zero. -/
theorem length_eq_iff :
    (rows.filter (0 < ·.logIndex)).length + (groundedOf chain rows).length = rows.length ↔
      ((rows.filter (·.logIndex ≤ 0)).map (TransferRow.identity chain)).Nodup := by
  have parts : rows.length =
      (rows.filter (0 < ·.logIndex)).length + (rows.filter (·.logIndex ≤ 0)).length := by
    have others : rows.filter (fun row => !decide (0 < row.logIndex)) =
        rows.filter (·.logIndex ≤ 0) :=
      List.filter_congr fun row _ => by simp [← Int64.not_lt]
    rw [← others]
    exact List.length_eq_length_filter_add fun row : TransferRow => decide (0 < row.logIndex)
  have placed : (rows.filter (·.logIndex ≤ 0)).length =
      ((rows.filter (·.logIndex ≤ 0)).map (TransferRow.identity chain)).length :=
    (List.length_map _).symm
  rw [parts, Nat.add_left_cancel_iff, groundedOf, placed]
  constructor
  · intro same
    exact List.dedup_eq_self.mp ((List.dedup_sublist _).eq_of_length same)
  · intro distinct
    rw [List.dedup_eq_self.mpr distinct]

variable {query : BlockQuery (StateM σ)} {spelling address : String} {start : UInt64}
  {view : TransactionMap}

/-- Every page that the client answers is its part of these rows. -/
def Paged (client : BlockClient (StateM σ)) (address : String) (start : UInt64)
    (rows : List TransferRow) : Prop :=
  ∀ page size batch, 1 ≤ page → Answers (client.transfers address start page size) batch →
    batch = TransferIndex.slice rows size.toNat (page.toNat - 1)

theorem paged_of_serves {index : TransferIndex} {note : σ → TransferIndex.Asked → σ}
    {client : BlockClient (StateM σ)} (serves : index.Serves note client) (address : String)
    (start : UInt64) : Paged client address start (index.rows address start) := by
  rintro page size batch first ⟨state, after, told⟩
  rw [serves.transfers address start page size first state] at told
  cases told
  rfl

/-- Of rows that are paged none that counts is left unread. -/
theorem eq_of_answers_rowsFrom (paged : Paged query.client address start rows) (read : Nat)
    (within : read * query.settings.pageLimit ≤ rows.length)
    (short : rows.length / query.settings.pageLimit + 1 < UInt32.size)
    {counted : List TransferRow}
    (answered : Answers (query.rowsFrom address start (read + 1)) counted) :
    counted = (rows.drop (read * query.settings.pageLimit)).filter (start ≤ ·.block) := by
  have positive := query.settings.pageLimit_pos
  induction left : rows.length - read * query.settings.pageLimit
    using Nat.strongRecOn generalizing read counted with
  | _ left ih =>
    subst left
    have numbered : read + 1 < UInt32.size := by
      have pages : read ≤ rows.length / query.settings.pageLimit :=
        (Nat.le_div_iff_mul_le positive).mpr within
      omega
    rw [rowsFrom] at answered
    obtain ⟨batch, told, answered⟩ := Retry.exists_of_answers_bind answered
    have page := paged _ _ _ (TransferIndex.one_le_ofNat numbered)
      (QueryContext.answers_of_ask told)
    rw [UInt32.toNat_ofNat_of_lt' numbered,
      UInt32.toNat_ofNat_of_lt' query.settings.pageLimit_lt, Nat.add_sub_cancel] at page
    subst page
    have full := TransferIndex.size_le_length_slice_iff rows read positive
    by_cases more : (read + 1) * query.settings.pageLimit ≤ rows.length
    · have pages : read + 1 ≤ rows.length / query.settings.pageLimit :=
        (Nat.le_div_iff_mul_le positive).mpr more
      have further : (read + 1) * query.settings.pageLimit =
          read * query.settings.pageLimit + query.settings.pageLimit := Nat.succ_mul _ _
      rw [dif_pos ⟨full.mpr more, by omega⟩] at answered
      obtain ⟨later, rest, built⟩ := Retry.exists_of_answers_bind answered
      cases Retry.eq_of_answers_pure built
      rw [ih _ (by omega) _ more rest rfl, TransferIndex.drop_eq_slice_append rows _ read,
        List.filter_append]
    · rw [dif_neg fun again => more (full.mp again.1)] at answered
      cases Retry.eq_of_answers_pure answered
      rw [TransferIndex.slice_of_rest (Nat.lt_of_not_le more)]

/-- If no two rows of a transaction have one log index, there is an event for each row above zero
and one for each transaction with rows at or below zero: of those the last is kept, and of all
others every one. So none is lost just if no transaction has two rows at or below zero. -/
theorem transfers_kept (answered : Answers (query.fetchSince spelling start) view) :
    ∃ address rows, Address.canonical? .block spelling = .ok address ∧
      Answers (query.rowsFrom address start 1) rows ∧
      (∀ all, Paged query.client address start all →
        all.length / query.settings.pageLimit + 1 < UInt32.size →
          rows = all.filter (start ≤ ·.block)) ∧
      ((rows.map fun row => (row.identity query.chain, row.logIndex)).Nodup →
        view.eventCount =
          (rows.filter (0 < ·.logIndex)).length + (groundedOf query.chain rows).length ∧
        (view.eventCount = rows.length ↔
          ((rows.filter (·.logIndex ≤ 0)).map (TransferRow.identity query.chain)).Nodup) ∧
        ∀ before row after, rows = before ++ row :: after →
          (row.logIndex ≤ 0 → ∀ later ∈ after,
            later.identity query.chain = row.identity query.chain → 0 < later.logIndex) →
          ∃ tx, view.get? (row.identity query.chain) = some (.block tx) ∧
            tx.events.get? (max row.logIndex 0) =
              some ⟨max row.logIndex 0, row.contract, row.sender, row.receiver, row.value⟩) := by
  obtain ⟨address, rows, infos, gathered, valid, read, folded, rfl⟩ :=
    exists_of_answers_fetchSince answered
  refine ⟨address, rows, valid, read, fun all paged short => ?_, fun apart => ?_⟩
  · have counted := eq_of_answers_rowsFrom paged 0 (by omega) short read
    rw [Nat.zero_mul, List.drop_zero] at counted
    exact counted
  · have total := eventCount_viewOf folded apart
    refine ⟨total, by rw [total]; exact length_eq_iff, fun before row after split last => ?_⟩
    obtain ⟨tx, held, stands⟩ := get?_event_of_last folded split
      (place_ne_of_apart apart split last)
    exact ⟨tx, get?_viewOf.mpr ⟨tx, held, rfl⟩, stands⟩

/-- A negative index and zero share a place, and one row is above zero. -/
theorem transfers_kept_sample :
    ∃ view, (Retry.answer (Sample.blockQuery.fetchSince Sample.wallet 10) []).1 = .ok view ∧
      view.eventCount = 3 ∧ ∃ tx, view.get? ⟨⟨"celo"⟩, 10, 0⟩ = some (.block tx) ∧
        (tx.events.get? 2).map TransferEvent.amount = some 20 := by
  have valid : Address.canonical? .block Sample.wallet = .ok Sample.wallet := by decide +kernel
  have serves : Sample.transferIndex.Serves (fun asked next => asked ++ [next])
      Sample.blockQuery.client := TransferIndex.serves_client Sample.transferIndex _
  have known : ∀ row ∈ Sample.transferIndex.counted Sample.wallet 10,
      ∃ info, Sample.transferIndex.info row.hash = .ok info := fun _ _ => ⟨_, rfl⟩
  obtain ⟨_, view, looked, made, _⟩ := exists_fold_of_known ⟨"celo"⟩ known
  obtain ⟨_, told⟩ := tells_fetchSince_of_known serves
    (show Sample.blockQuery.Quiet from fun _ _ => rfl) valid 10 (by decide) looked made
  have answered : Retry.answer (Sample.blockQuery.fetchSince Sample.wallet 10) [] = (.ok view, _) :=
    told []
  obtain ⟨address, rows, same, _, counted, kept⟩ := transfers_kept ⟨[], _, answered⟩
  rw [valid, Except.ok.injEq] at same
  subst same
  have own := counted _ (paged_of_serves serves Sample.wallet 10) (by decide)
  subst own
  obtain ⟨total, _, stands⟩ := kept (by decide)
  refine ⟨view, congrArg Prod.fst answered, total, ?_⟩
  obtain ⟨tx, held, logged⟩ := stands [Sample.row 10 0 0 "0xaa" 10, Sample.row 11 1 (-1) "0xbb" 30]
    (Sample.row 10 0 2 "0xaa" 20) [Sample.row 11 1 0 "0xbb" 40] rfl (by decide)
  have second : max (Sample.row 10 0 2 "0xaa" 20).logIndex 0 = 2 := rfl
  rw [second] at logged
  exact ⟨tx, held, congrArg (Option.map TransferEvent.amount) logged⟩

end BlockQuery

namespace Sample

/-- Both rows of one transaction have a negative log index. -/
def shadowedIndex : TransferIndex where
  rows _ _ := [row 11 1 (-1) "0xbb" 30, row 11 1 (-2) "0xbb" 40]
  info _ := .ok { status := "success" }
  prompt _ := Retry.prompt_ok _

def shadowedQuery : BlockQuery (StateM (List TransferIndex.Asked)) :=
  { blockQuery with client := shadowedIndex.client }

end Sample

namespace BlockQuery

/-- Of two rows with different negative log indexes only the later is found. -/
theorem transfer_lost :
    ((Sample.shadowedIndex.rows Sample.wallet 10).map fun row =>
      (row.block, row.index, row.logIndex)).Nodup ∧
    (Sample.shadowedIndex.counted Sample.wallet 10).length = 2 ∧
    ∃ view, (Retry.answer (Sample.shadowedQuery.fetchSince Sample.wallet 10) []).1 = .ok view ∧
      view.eventCount = 1 ∧
      ∀ tx ∈ view.values, ∀ event ∈ tx.events.values, event.amount ≠ 30 := by
  have valid : Address.canonical? .block Sample.wallet = .ok Sample.wallet := by decide +kernel
  have serves : Sample.shadowedIndex.Serves (fun asked next => asked ++ [next])
      Sample.shadowedQuery.client := TransferIndex.serves_client Sample.shadowedIndex _
  have known : (hashes (Sample.shadowedIndex.counted Sample.wallet 10)).mapM
      (reply Sample.shadowedIndex) = .ok [("0xbb", { status := "success" })] := rfl
  obtain ⟨_, told⟩ := tells_fetchSince_of_known serves
    (show Sample.shadowedQuery.Quiet from fun _ _ => rfl) valid 10 (by decide) known rfl
  refine ⟨by decide, by decide, _, congrArg Prod.fst (told []), ?_, ?_⟩
  · decide +kernel
  · decide +kernel

end BlockQuery

end Passbook
