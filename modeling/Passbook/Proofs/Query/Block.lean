import Passbook.Proofs.Query.Landings
import Passbook.Proofs.Query.Rows
/-!
What the query of a block ledger finds. Of a client that answers at once it reads the rows of an
address page by page, asks once about every hash from the start on, and finds one transaction for
each place in a block that a row names, however much it reads at a time and however much is under
way at once.
-/

namespace Passbook

open Retry (Question Tells Answers)

variable {σ : Type}

/-- What there is to know of a block ledger: the rows of an address from a block on, and what a
hash comes to. -/
structure TransferIndex where
  rows : String → UInt64 → List TransferRow
  info : String → Except Fault TransactionInfo
  prompt : ∀ hash, Retry.Prompt (info hash)

namespace TransferIndex

/-- What a client is asked. -/
inductive Asked where
  | page (address : String) (start : UInt64) (page size : UInt32)
  | info (hash : String)
  deriving DecidableEq, Repr

/-- The page that follows when so many full pages are read. -/
def slice (rows : List TransferRow) (size read : Nat) : List TransferRow :=
  (rows.drop (read * size)).take size

/-- The client tells what the index has, page by page, and keeps a note of what it is asked. -/
structure Serves (index : TransferIndex) (note : σ → Asked → σ) (client : BlockClient (StateM σ)) :
    Prop where
  transfers : ∀ address start page size, 1 ≤ page →
    Tells note (client.transfers address start page size)
      (.ok (slice (index.rows address start) size.toNat (page.toNat - 1)))
      [.page address start page size]
  info : ∀ hash, Tells note (client.info hash) (index.info hash) [.info hash]

/-- The rows of an address that count: those at or after the start. -/
def counted (index : TransferIndex) (address : String) (start : UInt64) : List TransferRow :=
  (index.rows address start).filter (start ≤ ·.block)

/-- The pages that are left of the rows of an address when some are read; the last is not full. -/
def pagesAfter (index : TransferIndex) (address : String) (start : UInt64) (size read : Nat) :
    List Asked :=
  (List.range (((index.rows address start).length - read * size) / size + 1)).map fun more =>
    .page address start (UInt32.ofNat (read + more + 1)) (UInt32.ofNat size)

/-- The pages of the rows of an address, from the first to the one that is not full. -/
def pages (index : TransferIndex) (address : String) (start : UInt64) (size : Nat) : List Asked :=
  (List.range ((index.rows address start).length / size + 1)).map fun page =>
    .page address start (UInt32.ofNat (page + 1)) (UInt32.ofNat size)

variable {index : TransferIndex} {address : String} {start : UInt64} {size read : Nat}

section Slice
variable {rows : List TransferRow} {size read : Nat}

theorem length_slice (rows : List TransferRow) (size read : Nat) :
    (slice rows size read).length = min size (rows.length - read * size) := by
  rw [slice, List.length_take, List.length_drop]

theorem drop_eq_slice_append (rows : List TransferRow) (size read : Nat) :
    rows.drop (read * size) = slice rows size read ++ rows.drop ((read + 1) * size) := by
  rw [slice, Nat.succ_mul, ← List.drop_drop, List.take_append_drop]

theorem slice_of_rest (last : rows.length < (read + 1) * size) :
    slice rows size read = rows.drop (read * size) := by
  rw [Nat.succ_mul] at last
  exact List.take_of_length_le (by rw [List.length_drop]; omega)

theorem one_le_ofNat (numbered : read + 1 < UInt32.size) : 1 ≤ UInt32.ofNat (read + 1) := by
  rw [UInt32.le_iff_toNat_le, UInt32.toNat_ofNat_of_lt' numbered]
  exact Nat.le_add_left 1 read

/-- A page is full as long as all its rows are there. -/
theorem size_le_length_slice_iff (rows : List TransferRow) (read : Nat) (positive : 1 ≤ size) :
    size ≤ (slice rows size read).length ↔ (read + 1) * size ≤ rows.length := by
  rw [length_slice, Nat.succ_mul]
  omega

end Slice

theorem pagesAfter_zero :
    index.pagesAfter address start size 0 = index.pages address start size := by
  simp only [pagesAfter, pages, Nat.zero_mul, Nat.sub_zero, Nat.zero_add]

theorem pagesAfter_of_full (positive : 1 ≤ size)
    (more : (read + 1) * size ≤ (index.rows address start).length) :
    index.pagesAfter address start size read =
      [.page address start (UInt32.ofNat (read + 1)) (UInt32.ofNat size)] ++
        index.pagesAfter address start size (read + 1) := by
  rw [Nat.succ_mul] at more
  unfold pagesAfter
  rw [range_pages_of_full positive (by omega), List.map_cons, List.map_map, List.singleton_append,
    Nat.sub_sub, Nat.succ_mul]
  refine congrArg _ (List.map_congr_left fun page _ => ?_)
  rw [Function.comp_apply, Nat.succ_eq_add_one, show read + (page + 1) = read + 1 + page by omega]

theorem pagesAfter_of_rest (last : (index.rows address start).length - read * size < size) :
    index.pagesAfter address start size read =
      [.page address start (UInt32.ofNat (read + 1)) (UInt32.ofNat size)] := by
  rw [pagesAfter, Nat.div_eq_of_lt last]
  simp

end TransferIndex

namespace BlockQuery
variable {query : BlockQuery (StateM σ)} {index : TransferIndex}
  {note : σ → TransferIndex.Asked → σ} {address : String} {start : UInt64}

theorem tells_page (serves : index.Serves note query.client) {read : Nat}
    (numbered : read + 1 < UInt32.size) :
    Tells note (query.ask "tokentx" (query.client.transfers address start
        (UInt32.ofNat (read + 1)) (UInt32.ofNat query.settings.pageLimit)))
      (.ok (TransferIndex.slice (index.rows address start) query.settings.pageLimit read))
      [.page address start (UInt32.ofNat (read + 1)) (UInt32.ofNat query.settings.pageLimit)] := by
  have told := serves.transfers address start _ (UInt32.ofNat query.settings.pageLimit)
    (TransferIndex.one_le_ofNat numbered)
  rw [UInt32.toNat_ofNat_of_lt' numbered,
    UInt32.toNat_ofNat_of_lt' query.settings.pageLimit_lt, Nat.add_sub_cancel] at told
  exact QueryContext.tells_ask (Retry.prompt_ok _) told

/-- The rows are read to their end: as long as a page is full the next one is read, whatever of it
counts. -/
theorem tells_rowsFrom (serves : index.Serves note query.client) (read : Nat)
    (within : read * query.settings.pageLimit ≤ (index.rows address start).length)
    (short : (index.rows address start).length / query.settings.pageLimit + 1 < UInt32.size) :
    Tells note (query.rowsFrom address start (read + 1))
      (.ok (((index.rows address start).drop (read * query.settings.pageLimit)).filter
        (start ≤ ·.block)))
      (index.pagesAfter address start query.settings.pageLimit read) := by
  have positive := query.settings.pageLimit_pos
  -- How many rows are left carries the induction.
  induction left : (index.rows address start).length - read * query.settings.pageLimit
    using Nat.strongRecOn generalizing read with
  | _ left ih =>
    subst left
    have numbered : read + 1 < UInt32.size := by
      have pages : read ≤ (index.rows address start).length / query.settings.pageLimit :=
        (Nat.le_div_iff_mul_le positive).mpr within
      omega
    rw [rowsFrom]
    have full := TransferIndex.size_le_length_slice_iff (index.rows address start) read positive
    by_cases more : (read + 1) * query.settings.pageLimit ≤ (index.rows address start).length
    · have pages : read + 1 ≤ (index.rows address start).length / query.settings.pageLimit :=
        (Nat.le_div_iff_mul_le positive).mpr more
      have further : (read + 1) * query.settings.pageLimit =
          read * query.settings.pageLimit + query.settings.pageLimit := Nat.succ_mul _ _
      rw [TransferIndex.pagesAfter_of_full positive more, TransferIndex.drop_eq_slice_append,
        List.filter_append]
      refine (tells_page serves numbered).bind ?_
      rw [dif_pos ⟨full.mpr more, by omega⟩]
      exact (ih _ (by omega) (read + 1) more rfl).finish _
    · have rest : (index.rows address start).length - read * query.settings.pageLimit <
          query.settings.pageLimit := by
        rw [Nat.succ_mul] at more
        omega
      rw [TransferIndex.pagesAfter_of_rest rest,
        ← TransferIndex.slice_of_rest (Nat.lt_of_not_le more), ← List.append_nil [_]]
      refine (tells_page serves numbered).bind ?_
      rw [dif_neg fun again => more (full.mp again.1)]
      exact Retry.tells_pure note _

/-- What the lookup of a hash comes to. -/
def reply (index : TransferIndex) (hash : String) : Except Fault (String × TransactionInfo) :=
  (index.info hash).map fun info => (hash, info)

theorem reply_eq_ok_iff {hash : String} {entry : String × TransactionInfo} :
    reply index hash = .ok entry ↔ entry.1 = hash ∧ index.info hash = .ok entry.2 := by
  obtain ⟨key, told⟩ := entry
  unfold reply
  cases index.info hash with
  | error fault => simp [Except.map]
  | ok info => simp [Except.map, eq_comm]

theorem reply_eq_error_iff {hash : String} {fault : Fault} :
    reply index hash = .error fault ↔ index.info hash = .error fault := by
  unfold reply
  cases index.info hash <;> simp [Except.map]

theorem prompt_reply (index : TransferIndex) (hash : String) :
    Retry.Prompt (reply index hash) := by
  intro seen latest stale
  exact index.prompt hash seen latest (reply_eq_error_iff.mp stale)

theorem tells_info (serves : index.Serves note query.client) (hash : String) :
    Tells note (query.info hash) (reply index hash) [.info hash] := by
  have told := serves.info hash
  unfold reply
  cases outcome : index.info hash with
  | error fault =>
      rw [outcome] at told
      exact told.bind_error _
  | ok info =>
      rw [outcome] at told
      exact told.finish fun info => (hash, info)

theorem nodup_eraseDups {α : Type} [DecidableEq α] (items : List α) : items.eraseDups.Nodup := by
  induction length : items.length using Nat.strongRecOn generalizing items with
  | _ _ ih =>
    cases items with
    | nil => simp
    | cons item rest =>
        rw [List.eraseDups_cons, List.nodup_cons]
        constructor
        · intro again
          simpa using List.mem_eraseDups.mp again
        · have fewer := List.length_filter_le (fun other => !other == item) rest
          rw [List.length_cons] at length
          exact ih _ (by omega) _ rfl

theorem mem_hashes {rows : List TransferRow} {hash : String} :
    hash ∈ hashes rows ↔ ∃ row ∈ rows, row.hash = hash := by
  rw [hashes, List.mem_eraseDups, List.mem_map]

/-- What rows come to as transactions of any kind. -/
def viewOf (gathered : SortedMap Identity BlockTransaction) : TransactionMap :=
  gathered.mapValues fun _ tx => .block tx

theorem get?_viewOf {gathered : SortedMap Identity BlockTransaction} {identity : Identity}
    {tx : Transaction} :
    (viewOf gathered).get? identity = some tx ↔
      ∃ part, gathered.get? identity = some part ∧ tx = .block part := by
  rw [viewOf, SortedMap.get?_mapValues, Option.map_eq_some_iff]
  simp only [eq_comm]

/-- What the query makes of rows and of what it has looked up. -/
def fold (chain : ChainId) (rows : List TransferRow) (infos : List (String × TransactionInfo)) :
    Except Fault TransactionMap :=
  (rows.foldlM (addRow chain (.ofList infos)) .empty).map viewOf

theorem fold_finished (chain : ChainId) (rows : List TransferRow)
    (infos : List (String × TransactionInfo)) :
    (do
      let found ← ExceptT.mk (pure (rows.foldlM (addRow chain (.ofList infos)) .empty))
      return found.mapValues fun _ tx => .block tx : Question (StateM σ) TransactionMap) =
        ExceptT.mk (pure (fold chain rows infos)) := by
  unfold fold
  cases rows.foldlM (addRow chain (.ofList infos)) .empty <;> rfl

/-- In whatever order infos land the same is made of them. -/
theorem fold_eq_of_perm (chain : ChainId) {rows : List TransferRow}
    {infos landed : List (String × TransactionInfo)} (keys : landed.map Prod.fst = hashes rows)
    (perm : infos.Perm landed) : fold chain rows infos = fold chain rows landed := by
  have same : (.ofList infos : SortedMap String TransactionInfo) = .ofList landed :=
    SortedMap.ofList_eq_of_perm perm (keys ▸ nodup_eraseDups _)
  rw [fold, fold, same]

theorem fst_of_reply {hash : String} {entry : String × TransactionInfo}
    (told : reply index hash = .ok entry) : entry.1 = hash := (reply_eq_ok_iff.mp told).1

/-- All that the lookups tell is kept under the hashes. -/
theorem get?_infos {rows : List TransferRow} {infos : List (String × TransactionInfo)}
    (looked : (hashes rows).mapM (reply index) = .ok infos) {row : TransferRow}
    (member : row ∈ rows) {info : TransactionInfo} :
    (SortedMap.ofList infos).get? row.hash = some info ↔ index.info row.hash = .ok info := by
  have keys : infos.map Prod.fst = hashes rows := map_eq_of_mapM (fun _ _ => fst_of_reply) looked
  have distinct : (infos.map Prod.fst).Nodup := keys ▸ nodup_eraseDups _
  rw [SortedMap.get?_ofList_of_nodup distinct, mem_of_mapM_eq_ok looked]
  constructor
  · rintro ⟨hash, _, told⟩
    obtain ⟨rfl, known⟩ := reply_eq_ok_iff.mp told
    exact known
  · intro known
    exact ⟨row.hash, mem_hashes.mpr ⟨row, member, rfl⟩, reply_eq_ok_iff.mpr ⟨rfl, known⟩⟩

/-- If every hash is known the rows are gathered, and each transaction is what its rows tell. -/
theorem exists_fold_of_known (chain : ChainId) {rows : List TransferRow}
    (known : ∀ row ∈ rows, ∃ info, index.info row.hash = .ok info) :
    ∃ infos result, (hashes rows).mapM (reply index) = .ok infos ∧
      fold chain rows infos = .ok result ∧
      ∀ identity, match rows.find? fun row => row.identity chain = identity with
        | none => result.get? identity = none
        | some first => ∃ info tx, index.info first.hash = .ok info ∧
            result.get? identity = some (.block tx) ∧ tx.HeadedBy chain first info ∧
            tx.LogsLast chain rows := by
  obtain ⟨infos, looked⟩ := exists_mapM_eq_ok (reply index) (hashes rows) fun hash member => by
    obtain ⟨row, among, rfl⟩ := mem_hashes.mp member
    obtain ⟨info, told⟩ := known row among
    exact ⟨(row.hash, info), reply_eq_ok_iff.mpr ⟨rfl, told⟩⟩
  obtain ⟨gathered, done⟩ := exists_foldlM_addRow chain
    (fun row member => (known row member).imp fun info => (get?_infos looked member).mpr) .empty
  refine ⟨infos, viewOf gathered, looked, ?_, fun identity => ?_⟩
  · rw [fold, done]
    rfl
  · have standing := standing_of_foldlM_addRow done identity
    rw [viewOf, SortedMap.get?_mapValues]
    cases head : rows.find? fun row => row.identity chain = identity with
    | none =>
        rw [head] at standing
        simp [standing]
    | some first =>
        rw [head] at standing
        obtain ⟨info, tx, told, held, headed, logs⟩ := standing
        refine ⟨info, tx, ?_, by rw [held]; rfl, headed, logs⟩
        exact (get?_infos looked (List.mem_of_find?_eq_some head)).mp told

section Alike
variable {chain : ChainId} {rows : List TransferRow}
  {looked other : Except Fault (List (String × TransactionInfo))}

/-- The order in which lookups land does not show in what is found. -/
theorem fold_eq_ok_iff_of_alike (chain : ChainId)
    (alike : Lookup.Alike (reply index) (hashes rows) looked other) (view : TransactionMap) :
    looked >>= fold chain rows = .ok view ↔ other >>= fold chain rows = .ok view := by
  cases alike with
  | @answers infos others landed told perm perm' =>
      have keys : landed.map Prod.fst = hashes rows :=
        map_eq_of_mapM (fun _ _ => fst_of_reply) told
      change fold chain rows infos = _ ↔ fold chain rows others = _
      rw [fold_eq_of_perm chain keys perm, fold_eq_of_perm chain keys perm']
  | faults => constructor <;> rintro ⟨⟩

/-- If some hash is not known, what comes of the lookups is what one of them failed with. -/
theorem exists_error_of_alike (alike : Lookup.Alike (reply index) (hashes rows) looked other)
    {row : TransferRow} (member : row ∈ rows) {fault : Fault}
    (unknown : index.info row.hash = .error fault) :
    ∃ first ∈ rows, ∃ fault, index.info first.hash = .error fault ∧ looked = .error fault := by
  cases alike with
  | answers told _ _ =>
      obtain ⟨entry, known⟩ := exists_of_mapM_eq_ok told (mem_hashes.mpr ⟨row, member, rfl⟩)
      rw [reply_eq_ok_iff, unknown] at known
      cases known.2
  | faults one _ failed _ =>
      obtain ⟨first, there, rfl⟩ := mem_hashes.mp one
      exact ⟨first, there, _, reply_eq_error_iff.mp failed, rfl⟩

end Alike

/-- What is found is gathered from the rows that were read. -/
theorem exists_of_answers_fetchSince {spelling : String} {view : TransactionMap}
    (answered : Answers (query.fetchSince spelling start) view) :
    ∃ address rows infos gathered, Address.canonical? .block spelling = .ok address ∧
      Answers (query.rowsFrom address start 1) rows ∧
      rows.foldlM (addRow query.chain infos) .empty = .ok gathered ∧ view = viewOf gathered := by
  obtain ⟨address, valid, answered⟩ := Retry.exists_of_answers_bind answered
  obtain ⟨rows, read, answered⟩ := Retry.exists_of_answers_bind answered
  obtain ⟨_, _, answered⟩ := Retry.exists_of_answers_bind answered
  obtain ⟨infos, _, answered⟩ := Retry.exists_of_answers_bind answered
  obtain ⟨gathered, folded, built⟩ := Retry.exists_of_answers_bind answered
  cases Retry.eq_of_answers_pure built
  exact ⟨address, rows, _, gathered, Retry.eq_of_answers_mk valid, read,
    Retry.eq_of_answers_mk folded, rfl⟩

/-- What is told to people is not told to the client. -/
def Quiet (query : BlockQuery (StateM σ)) : Prop :=
  ∀ text state, (StateT.run (query.tell text) state).2 = state

/-- A start of the hashes is looked up, all of them if each lookup is answered. -/
theorem tells_fetchSince (serves : index.Serves note query.client) (quiet : query.Quiet)
    {spelling : String} (valid : Address.canonical? .block spelling = .ok address)
    (start : UInt64)
    (short : (index.rows address start).length / query.settings.pageLimit + 1 < UInt32.size) :
    ∃ reached looked, reached <+: hashes (index.counted address start) ∧
      (∀ infos, looked = .ok infos → reached = hashes (index.counted address start)) ∧
      Lookup.Alike (reply index) (hashes (index.counted address start)) looked
        ((hashes (index.counted address start)).mapM (reply index)) ∧
      Tells note (query.fetchSince spelling start)
        (looked >>= fold query.chain (index.counted address start))
        (index.pages address start query.settings.pageLimit ++ reached.map .info) := by
  have read : Tells note (query.rowsFrom address start 1) (.ok (index.counted address start))
      (index.pages address start query.settings.pageLimit) := by
    have told := tells_rowsFrom serves 0 (by omega) short
    rw [Nat.zero_mul, List.drop_zero, TransferIndex.pagesAfter_zero] at told
    exact told
  obtain ⟨reached, looked, before, whole, lands, told⟩ := query.toQueryContext.unfolds_lookups
    "gettxinfo" (prompt_reply index) (tells_info serves) query.client.latency
    (hashes (index.counted address start))
  refine ⟨reached, looked, before, whole, Lookup.alike_of_lands lands, ?_⟩
  unfold fetchSince
  rw [valid]
  refine (Retry.tells_mk note (.ok address)).bind (read.bind ?_)
  refine (Retry.tells_lift note (quiet _)).bind ?_
  cases looked with
  | error fault => exact told.bind_error _
  | ok infos =>
      rw [← List.append_nil (reached.map _)]
      refine told.bind ?_
      rw [fold_finished]
      exact Retry.tells_mk note _

/-- If every lookup is answered the query finds what is made of the answers in key order. -/
theorem tells_fetchSince_of_known (serves : index.Serves note query.client) (quiet : query.Quiet)
    {spelling : String} (valid : Address.canonical? .block spelling = .ok address)
    (start : UInt64)
    (short : (index.rows address start).length / query.settings.pageLimit + 1 < UInt32.size)
    {infos : List (String × TransactionInfo)} {view : TransactionMap}
    (known : (hashes (index.counted address start)).mapM (reply index) = .ok infos)
    (made : fold query.chain (index.counted address start) infos = .ok view) :
    ∃ asked, Tells note (query.fetchSince spelling start) (.ok view) asked := by
  obtain ⟨_, _, _, _, alike, told⟩ := tells_fetchSince serves quiet valid start short
  rw [known] at alike
  rw [(fold_eq_ok_iff_of_alike query.chain alike view).mpr made] at told
  exact ⟨_, told⟩

/-- The query finds exactly the transactions that the rows from the start on name, each as its own
rows tell it, and asks for no page and no hash twice: however much it reads at a time, however many
hashes it looks up at once, and however long each lookup takes. If some fail, it fails as one of
them does. -/
theorem gathers_rows (serves : index.Serves note query.client) (quiet : query.Quiet)
    {spelling : String} (valid : Address.canonical? .block spelling = .ok address)
    (start : UInt64)
    (short : (index.rows address start).length / query.settings.pageLimit + 1 < UInt32.size) :
    (∃ (outcome : Except Fault TransactionMap) (asked : List String),
      Tells note (query.fetchSince spelling start) outcome
        (index.pages address start query.settings.pageLimit ++ asked.map .info) ∧
      asked.Nodup ∧
      (∀ hash ∈ asked, ∃ row ∈ index.counted address start, row.hash = hash) ∧
      ((∀ row ∈ index.counted address start, ∃ info, index.info row.hash = .ok info) →
        (∀ row ∈ index.counted address start, row.hash ∈ asked) ∧
        ∃ result, outcome = .ok result ∧ ∀ identity,
          match (index.counted address start).find? fun row =>
              row.identity query.chain = identity with
          | none => result.get? identity = none
          | some first => ∃ info tx, index.info first.hash = .ok info ∧
              result.get? identity = some (.block tx) ∧ tx.HeadedBy query.chain first info ∧
              tx.LogsLast query.chain (index.counted address start)) ∧
      ((∃ row ∈ index.counted address start, ∃ fault, index.info row.hash = .error fault) →
        ∃ row ∈ index.counted address start, ∃ fault, index.info row.hash = .error fault ∧
          outcome = .error fault)) ∧
    ∀ (τ : Type) (note' : τ → TransferIndex.Asked → τ) (other : BlockQuery (StateM τ)),
      index.Serves note' other.client → other.Quiet → other.chain = query.chain →
        (index.rows address start).length / other.settings.pageLimit + 1 < UInt32.size →
          ∀ state state' view, (Retry.answer (query.fetchSince spelling start) state).1 = .ok view ↔
            (Retry.answer (other.fetchSince spelling start) state').1 = .ok view := by
  obtain ⟨reached, looked, before, whole, alike, told⟩ :=
    tells_fetchSince serves quiet valid start short
  constructor
  · refine ⟨_, reached, told, (nodup_eraseDups _).sublist before.sublist,
      fun hash member => mem_hashes.mp (before.subset member), fun known => ?_, ?_⟩
    · obtain ⟨settled, result, done, built, stands⟩ := exists_fold_of_known query.chain known
      rw [done] at alike
      have found := (fold_eq_ok_iff_of_alike query.chain alike result).mpr built
      obtain ⟨infos, landed, _⟩ := bind_eq_ok_iff.mp found
      refine ⟨fun row member => ?_, result, found, stands⟩
      rw [whole infos landed]
      exact mem_hashes.mpr ⟨row, member, rfl⟩
    · rintro ⟨row, member, fault, unknown⟩
      obtain ⟨first, there, fault, failed, rfl⟩ := exists_error_of_alike alike member unknown
      exact ⟨first, there, fault, failed, rfl⟩
  · intro τ note' other serves' quiet' chain short' state state' view
    obtain ⟨_, looked', _, _, alike', told'⟩ := tells_fetchSince serves' quiet' valid start short'
    rw [told state, told' state', chain]
    exact fold_eq_ok_iff_of_alike query.chain (alike.trans alike'.symm) view

end BlockQuery

namespace TransferIndex

/-- The client that tells what an index has, and remembers what it is asked. -/
def client (index : TransferIndex) (latency : String → Nat := fun _ => 0) :
    BlockClient (StateM (List Asked)) where
  transfers address start page size := do
    ExceptT.lift (modify (· ++ [.page address start page size]))
    return slice (index.rows address start) size.toNat (page.toNat - 1)
  info hash := do
    ExceptT.lift (modify (· ++ [.info hash]))
    ExceptT.mk (pure (index.info hash))
  latency := latency

theorem serves_client (index : TransferIndex) (latency : String → Nat) :
    index.Serves (fun asked next => asked ++ [next]) (index.client latency) where
  transfers _ _ _ _ _ _ := rfl
  info _ _ := rfl

end TransferIndex

namespace Sample

def wallet : String := "0x1111111111111111111111111111111111111111"

def row (block : UInt64) (index logIndex : Int64) (hash : String) (value : Nat) : TransferRow :=
  { block, index, logIndex, hash, value
    second := 1600000000
    sender := wallet
    receiver := "0x2222222222222222222222222222222222222222"
    contract := "0x765de816845861e75a25fca122bb6898b8b1282a"
    gas := 210000
    gasPrice := 500000000
    gasUsed := 51000 }

/-- One row is before block 10, and of two rows at one place the later stands. -/
def transferIndex : TransferIndex where
  rows _ _ := [row 9 0 0 "0xold" 1, row 10 0 0 "0xaa" 10, row 11 1 (-1) "0xbb" 30,
    row 10 0 2 "0xaa" 20, row 11 1 0 "0xbb" 40]
  info _ := .ok { status := "success", gatewayFee := some 3 }
  prompt _ := Retry.prompt_ok _

/-- Two lookups are under way at once, and that of the second hash lands first. -/
def blockQuery : BlockQuery (StateM (List TransferIndex.Asked)) where
  chain := ⟨"celo"⟩
  settings := { concurrency := 2, pageSize := 2 }
  notice _ _ _ := pure ()
  tell _ := pure ()
  client := transferIndex.client fun hash => if hash = "0xaa" then 7 else 0

/-- All rows are one page, and one lookup is under way at a time. -/
def singleQuery : BlockQuery (StateM (List TransferIndex.Asked)) :=
  { blockQuery with
    settings := { concurrency := 0, pageSize := 9 }
    client := transferIndex.client }

end Sample

namespace BlockQuery

/-- Two pages of two rows and one of one: the later row of block 11 stands at index zero. Read as
one page, and looked up one after another, the rows come to the same. -/
theorem gathers_rows_sample :
    ∃ result, (Retry.answer (Sample.blockQuery.fetchSince Sample.wallet 10) []).1 = .ok result ∧
      (Retry.answer (Sample.singleQuery.fetchSince Sample.wallet 10) []).1 = .ok result ∧
      result.get? ⟨⟨"celo"⟩, 9, 0⟩ = none ∧
      ∃ tx, result.get? ⟨⟨"celo"⟩, 11, 1⟩ = some (.block tx) ∧ tx.hash = "0xbb" ∧
        (tx.events.get? 0).map TransferEvent.amount = some 40 := by
  have valid : Address.canonical? .block Sample.wallet = .ok Sample.wallet := by decide +kernel
  obtain ⟨⟨_, _, told, _, _, finds, _⟩, same⟩ := gathers_rows
    (TransferIndex.serves_client Sample.transferIndex _)
    (show Sample.blockQuery.Quiet from fun _ _ => rfl) valid 10 (by decide)
  obtain ⟨_, result, rfl, stands⟩ := finds fun _ _ => ⟨_, rfl⟩
  have answered := congrArg Prod.fst (told [])
  have single := same _ _ Sample.singleQuery (TransferIndex.serves_client Sample.transferIndex _)
    (fun _ _ => rfl) rfl (by decide) [] []
  refine ⟨result, answered, (single result).mp answered, stands ⟨⟨"celo"⟩, 9, 0⟩, ?_⟩
  obtain ⟨_, tx, _, held, headed, logs⟩ := stands ⟨⟨"celo"⟩, 11, 1⟩
  refine ⟨tx, held, headed.hash, ?_⟩
  rw [logs 0, headed.identity]
  rfl

end BlockQuery

end Passbook
