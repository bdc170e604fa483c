import Passbook.Proofs.Instant
import Passbook.Proofs.Query.Landings
import Passbook.Proofs.Store.Reads
import Passbook.Query.Sequential
/-!
What the query of a sequential ledger finds. Of a client that answers at once it reads both streams
of an account page by page, asks once about every version that they name from the start on, and
finds these versions, however much it reads at a time and however much is under way at once.
-/

namespace Passbook

open Retry (Question Tells Answers)

variable {σ : Type}

/-- What there is to know of a sequential ledger. -/
structure Chronicle where
  account : String → Option AccountStreams
  stream : String → List StreamEvent
  detail : UInt64 → Option VersionDetail
  /-- Every event has an offset. -/
  short : ∀ key, (stream key).length < UInt64.size
  own : ∀ version found, detail version = some found → found.version = version

namespace Chronicle

/-- What a client is asked. -/
inductive Asked where
  | account (address : String)
  | page (key : String) (offset limit : UInt64)
  | detail (version : UInt64)
  deriving DecidableEq, Repr

/-- The client tells what the chronicle has, in full pages, and keeps a note of what it is asked. -/
structure Serves (chronicle : Chronicle) (note : σ → Asked → σ)
    (client : SequentialClient (StateM σ)) : Prop where
  account : ∀ address,
    Tells note (client.account address) (.ok (chronicle.account address)) [.account address]
  events : ∀ key offset limit, Tells note (client.events key offset limit)
    (.ok (((chronicle.stream key).drop offset.toNat).take limit.toNat)) [.page key offset limit]
  transaction : ∀ version,
    Tells note (client.transaction version) (.ok (chronicle.detail version)) [.detail version]

/-- One of the two streams names the version, and it is not before the start. -/
def Wants (chronicle : Chronicle) (streams : AccountStreams) (start version : UInt64) : Prop :=
  start ≤ version ∧ ∃ event ∈ chronicle.stream streams.sentKey ++
    chronicle.stream streams.receivedKey, event.version = version

/-- The pages that a stream has from an offset on; the last is not full. -/
def pagesFrom (chronicle : Chronicle) (key : String) (limit next : Nat) : List Asked :=
  (List.range (((chronicle.stream key).length - next) / limit + 1)).map fun page =>
    .page key (UInt64.ofNat (next + page * limit)) (UInt64.ofNat limit)

variable {chronicle : Chronicle} {key : String} {limit next : Nat}

theorem pagesFrom_of_full (positive : 1 ≤ limit)
    (more : next + limit ≤ (chronicle.stream key).length) :
    chronicle.pagesFrom key limit next =
      [.page key (UInt64.ofNat next) (UInt64.ofNat limit)] ++
        chronicle.pagesFrom key limit (next + limit) := by
  unfold pagesFrom
  rw [range_pages_of_full positive (by omega), List.map_cons, List.map_map, Nat.sub_sub,
    Nat.zero_mul, Nat.add_zero, List.singleton_append]
  refine congrArg _ (List.map_congr_left fun page _ => ?_)
  have shifted : next + (page + 1) * limit = next + limit + page * limit := by
    rw [Nat.succ_mul]
    omega
  rw [Function.comp_apply, Nat.succ_eq_add_one, shifted]

theorem pagesFrom_of_rest (last : (chronicle.stream key).length - next < limit) :
    chronicle.pagesFrom key limit next =
      [.page key (UInt64.ofNat next) (UInt64.ofNat limit)] := by
  rw [pagesFrom, Nat.div_eq_of_lt last]
  simp

end Chronicle

/-- All that a transaction has is what the detail of its version tells. -/
structure SequentialTransaction.ToldBy (tx : SequentialTransaction) (chain : ChainId)
    (detail : VersionDetail) : Prop where
  identity : tx.identity = ⟨chain, detail.version, 0⟩
  gas : tx.gas = ⟨detail.signed.gasPrice.toNat, detail.gasUsed, detail.signed.maxGas⟩
  gasCurrency : tx.gasCurrency = detail.signed.gasCurrency
  status : tx.status = detail.status
  hash : tx.hash = detail.hash
  timestamp : tx.timestamp.Shows detail.signed.micros.toNat
  publicKey : tx.publicKey = detail.signed.publicKey
  transfer : tx.transfer = ⟨detail.signed.script.currency, detail.signed.sender,
    detail.signed.script.receiver, detail.signed.script.amount.toNat⟩
  annotations : tx.annotations = {}

theorem VersionDetail.toldBy_transaction (chain : ChainId) (detail : VersionDetail) :
    (detail.transaction chain).ToldBy chain detail where
  identity := rfl
  gas := rfl
  gasCurrency := rfl
  status := rfl
  hash := rfl
  timestamp := Instant.shows_getD _
  publicKey := rfl
  transfer := rfl
  annotations := rfl

/-- A detail tells of one transaction alone. -/
theorem SequentialTransaction.ToldBy.unique {first second : SequentialTransaction}
    {chain : ChainId} {detail : VersionDetail} (told : first.ToldBy chain detail)
    (told' : second.ToldBy chain detail) : first = second :=
  SequentialTransaction.ext (told.identity.trans told'.identity.symm)
    (told.gas.trans told'.gas.symm) (told.gasCurrency.trans told'.gasCurrency.symm)
    (told.status.trans told'.status.symm) (told.hash.trans told'.hash.symm)
    (told.timestamp.unique told'.timestamp) (told.publicKey.trans told'.publicKey.symm)
    (told.transfer.trans told'.transfer.symm) (told.annotations.trans told'.annotations.symm)

namespace SequentialQuery
variable {query : SequentialQuery (StateM σ)} {chronicle : Chronicle}
  {note : σ → Chronicle.Asked → σ}

theorem pageLimit_lt (settings : FetchSettings) : settings.pageLimit < UInt64.size :=
  Nat.lt_trans settings.pageLimit_lt (by decide)

theorem tells_page (serves : chronicle.Serves note query.client) {key : String} {next : Nat}
    (within : next ≤ (chronicle.stream key).length) :
    Tells note (query.ask "get_events" (query.client.events key (UInt64.ofNat next)
        (UInt64.ofNat query.settings.pageLimit)))
      (.ok (((chronicle.stream key).drop next).take query.settings.pageLimit))
      [.page key (UInt64.ofNat next) (UInt64.ofNat query.settings.pageLimit)] := by
  have told := serves.events key (UInt64.ofNat next) (UInt64.ofNat query.settings.pageLimit)
  rw [UInt64.toNat_ofNat_of_lt' (Nat.lt_of_le_of_lt within (chronicle.short key)),
    UInt64.toNat_ofNat_of_lt' (pageLimit_lt _)] at told
  exact QueryContext.tells_ask (Retry.prompt_ok _) told

/-- A stream is read to its end: as long as a page is full the next one is read. -/
theorem tells_versionsFrom (serves : chronicle.Serves note query.client) (key : String)
    (next : Nat) (within : next ≤ (chronicle.stream key).length) :
    Tells note (query.versionsFrom key next)
      (.ok (((chronicle.stream key).drop next).map StreamEvent.version))
      (chronicle.pagesFrom key query.settings.pageLimit next) := by
  have positive := query.settings.pageLimit_pos
  have short := chronicle.short key
  -- How much of the stream is left carries the induction.
  induction left : (chronicle.stream key).length - next using Nat.strongRecOn generalizing next with
  | _ left ih =>
    subst left
    have length : (((chronicle.stream key).drop next).take query.settings.pageLimit).length =
        min query.settings.pageLimit ((chronicle.stream key).length - next) := by simp
    rw [versionsFrom]
    by_cases more : next + query.settings.pageLimit ≤ (chronicle.stream key).length
    · have full : (((chronicle.stream key).drop next).take query.settings.pageLimit).length =
          query.settings.pageLimit := by omega
      have joined : ((chronicle.stream key).drop next).map StreamEvent.version =
          (((chronicle.stream key).drop next).take query.settings.pageLimit).map
            StreamEvent.version ++ ((chronicle.stream key).drop
              (next + query.settings.pageLimit)).map StreamEvent.version := by
        rw [← List.map_append, ← List.drop_drop, List.take_append_drop]
      rw [Chronicle.pagesFrom_of_full positive more]
      refine (tells_page serves within).bind ?_
      rw [dif_pos ⟨by omega, by omega⟩, full, joined]
      exact (ih _ (by omega) (next + query.settings.pageLimit) more rfl).finish _
    · have whole : ((chronicle.stream key).drop next).take query.settings.pageLimit =
          (chronicle.stream key).drop next :=
        List.take_of_length_le (by rw [List.length_drop]; omega)
      rw [Chronicle.pagesFrom_of_rest (by omega), ← List.append_nil [_]]
      refine (tells_page serves within).bind ?_
      rw [dif_neg (by omega), whole]
      exact Retry.tells_pure note _

/-- What the lookup of a version comes to. -/
def reply (chronicle : Chronicle) (version : UInt64) : Except Fault VersionDetail :=
  match chronicle.detail version with
  | some detail => .ok detail
  | none => .error .noData

theorem reply_eq_ok_iff {version : UInt64} {detail : VersionDetail} :
    reply chronicle version = .ok detail ↔ chronicle.detail version = some detail := by
  unfold reply
  cases chronicle.detail version <;> simp

theorem prompt_reply (chronicle : Chronicle) (version : UInt64) :
    Retry.Prompt (reply chronicle version) := by
  unfold reply
  cases chronicle.detail version <;> rintro _ _ ⟨⟩

theorem tells_detail (serves : chronicle.Serves note query.client) (version : UInt64) :
    Tells note (query.detail version) (reply chronicle version) [.detail version] := by
  rw [← List.append_nil [_]]
  refine (serves.transaction version).bind ?_
  unfold reply
  cases chronicle.detail version with
  | none => exact Retry.tells_mk note (.error .noData)
  | some detail => exact Retry.tells_pure note detail

theorem mem_distinct {versions : List UInt64} {version : UInt64} :
    version ∈ distinct versions ↔ version ∈ versions := by
  rw [distinct, ← SortedMap.contains_iff_mem_keys, SortedMap.contains, SortedMap.get?_ofList,
    Entries.find?_isSome_iff]
  simp

theorem nodup_distinct (versions : List UInt64) : (distinct versions).Nodup :=
  SortedMap.keys_nodup _

/-- The versions that are looked up. -/
def wanted (chronicle : Chronicle) (streams : AccountStreams) (start : UInt64) : List UInt64 :=
  distinct (((chronicle.stream streams.sentKey).map StreamEvent.version ++
    (chronicle.stream streams.receivedKey).map StreamEvent.version).filter (start ≤ ·))

theorem mem_wanted {streams : AccountStreams} {start version : UInt64} :
    version ∈ wanted chronicle streams start ↔ chronicle.Wants streams start version := by
  rw [wanted, mem_distinct, ← List.map_append, List.mem_filter, List.mem_map, and_comm,
    decide_eq_true_eq]
  rfl

theorem version_of_reply {version : UInt64} {detail : VersionDetail}
    (told : reply chronicle version = .ok detail) : detail.version = version :=
  chronicle.own version detail (reply_eq_ok_iff.mp told)

/-- What the query makes of the details it has looked up. -/
def gather (chain : ChainId) (details : List VersionDetail) : TransactionMap :=
  .ofTransactions (details.map fun detail => .sequential (detail.transaction chain))

theorem nodup_identities (chain : ChainId) {details : List VersionDetail}
    (distinct : (details.map VersionDetail.version).Nodup) :
    ((details.map fun detail =>
      Transaction.sequential (detail.transaction chain)).map Transaction.identity).Nodup := by
  have identities : (details.map fun detail =>
      Transaction.sequential (detail.transaction chain)).map Transaction.identity =
        (details.map VersionDetail.version).map (Identity.sequential chain) := by
    rw [List.map_map, List.map_map]
    rfl
  rw [identities]
  refine distinct.map fun first second same => ?_
  cases same
  rfl

/-- In whatever order details of different versions land the same is made of them. -/
theorem gather_eq_of_perm (chain : ChainId) {details landed : List VersionDetail}
    (distinct : (landed.map VersionDetail.version).Nodup) (perm : details.Perm landed) :
    gather chain details = gather chain landed := by
  have distinct' := (perm.map VersionDetail.version).nodup_iff.mpr distinct
  refine SortedMap.ext fun identity => Option.ext fun tx => ?_
  rw [gather, gather, TransactionMap.get?_ofTransactions (nodup_identities chain distinct'),
    TransactionMap.get?_ofTransactions (nodup_identities chain distinct), (perm.map _).mem_iff]

/-- What the query comes to for an account. -/
def found (chronicle : Chronicle) (chain : ChainId) (streams : AccountStreams) (start : UInt64) :
    Except Fault TransactionMap :=
  ((wanted chronicle streams start).mapM (reply chronicle)).map (gather chain)

theorem nodup_versions {streams : AccountStreams} {start : UInt64} {details : List VersionDetail}
    (done : (wanted chronicle streams start).mapM (reply chronicle) = .ok details) :
    (details.map VersionDetail.version).Nodup := by
  rw [map_eq_of_mapM (fun _ _ => version_of_reply) done]
  exact nodup_distinct _

/-- A lookup can fail in one way only. -/
theorem eq_of_reply_error {version : UInt64} {fault : Fault}
    (failed : reply chronicle version = .error fault) : fault = .noData := by
  unfold reply at failed
  cases told : chronicle.detail version with
  | some detail => simp [told] at failed
  | none =>
      rw [told] at failed
      exact (Except.error.inj failed).symm

/-- The order in which lookups land does not show. -/
theorem found_of_alike (chain : ChainId) {streams : AccountStreams} {start : UInt64}
    {looked : Except Fault (List VersionDetail)}
    (alike : Lookup.Alike (reply chronicle) (wanted chronicle streams start) looked
      ((wanted chronicle streams start).mapM (reply chronicle))) :
    looked.map (gather chain) = found chronicle chain streams start := by
  unfold found
  generalize settled : (wanted chronicle streams start).mapM (reply chronicle) = others at alike ⊢
  cases alike with
  | answers told perm perm' =>
      have same := gather_eq_of_perm chain (nodup_versions told) perm
      have same' := gather_eq_of_perm chain (nodup_versions told) perm'
      exact congrArg Except.ok (same.trans same'.symm)
  | faults _ _ failed failed' =>
      rw [eq_of_reply_error failed, eq_of_reply_error failed']

/-- If all versions have details they are found, each with all that its own detail tells. -/
theorem found_of_known {chain : ChainId} {streams : AccountStreams} {start : UInt64}
    (known : ∀ version, chronicle.Wants streams start version →
      ∃ detail, chronicle.detail version = some detail) :
    ∃ details result, (wanted chronicle streams start).mapM (reply chronicle) = .ok details ∧
      found chronicle chain streams start = .ok result ∧
      ∀ identity tx, result.get? identity = some tx ↔
        ∃ version detail part, chronicle.Wants streams start version ∧
          chronicle.detail version = some detail ∧ identity = ⟨chain, version, 0⟩ ∧
          tx = .sequential part ∧ part.ToldBy chain detail := by
  obtain ⟨details, done⟩ := exists_mapM_eq_ok (reply chronicle) (wanted chronicle streams start)
    fun version member => (known version (mem_wanted.mp member)).imp fun _ => reply_eq_ok_iff.mpr
  refine ⟨details, gather chain details, done, by rw [found, done]; rfl, fun identity tx => ?_⟩
  rw [gather, TransactionMap.get?_ofTransactions (nodup_identities chain (nodup_versions done)),
    List.mem_map]
  simp only [mem_of_mapM_eq_ok done, mem_wanted, reply_eq_ok_iff]
  constructor
  · rintro ⟨⟨detail, ⟨version, wants, told⟩, rfl⟩, rfl⟩
    refine ⟨version, detail, _, wants, told, ?_, rfl, detail.toldBy_transaction chain⟩
    rw [← chronicle.own version detail told]
    rfl
  · rintro ⟨version, detail, part, wants, told, rfl, rfl, own⟩
    refine ⟨⟨detail, ⟨version, wants, told⟩, ?_⟩, ?_⟩
    · rw [own.unique (detail.toldBy_transaction chain)]
    · rw [← chronicle.own version detail told]
      exact own.identity

theorem found_of_unknown {chain : ChainId} {streams : AccountStreams} {start version : UInt64}
    (wants : chronicle.Wants streams start version) (unknown : chronicle.detail version = none) :
    found chronicle chain streams start = .error .noData := by
  cases done : (wanted chronicle streams start).mapM (reply chronicle) with
  | ok details =>
      obtain ⟨detail, told⟩ := exists_of_mapM_eq_ok done (mem_wanted.mpr wants)
      rw [reply_eq_ok_iff, unknown] at told
      cases told
  | error fault =>
      obtain ⟨other, _, failed⟩ := exists_of_mapM_eq_error done
      rw [found, done, eq_of_reply_error failed]
      rfl

/-- What is told to people is not told to the client. -/
def Quiet (query : SequentialQuery (StateM σ)) : Prop :=
  ∀ text state, (StateT.run (query.tell text) state).2 = state

theorem tells_fetchSince (serves : chronicle.Serves note query.client) (quiet : query.Quiet)
    {spelling address : String}
    (valid : Address.canonical? .sequential spelling = .ok address) (start : UInt64) :
    match chronicle.account address with
    | none => Tells note (query.fetchSince spelling start) (.ok .empty) [.account address]
    | some streams =>
        ∃ reached, reached <+: wanted chronicle streams start ∧
          (∀ details, (wanted chronicle streams start).mapM (reply chronicle) = .ok details →
            reached = wanted chronicle streams start) ∧
          Tells note (query.fetchSince spelling start)
            (found chronicle query.chain streams start)
            ([.account address] ++ (chronicle.pagesFrom streams.sentKey query.settings.pageLimit 0 ++
              (chronicle.pagesFrom streams.receivedKey query.settings.pageLimit 0 ++
                reached.map .detail))) := by
  have opened : Tells note (query.ask "get_account" (query.client.account address))
      (.ok (chronicle.account address)) [.account address] :=
    QueryContext.tells_ask (Retry.prompt_ok _) (serves.account address)
  unfold fetchSince
  rw [valid]
  cases account : chronicle.account address with
  | none =>
      rw [account] at opened
      refine (Retry.tells_mk note (.ok address)).bind ?_
      rw [← List.append_nil [_]]
      refine opened.bind ?_
      exact (Retry.tells_lift note (quiet _)).finish _
  | some streams =>
      rw [account] at opened
      have sent := tells_versionsFrom serves streams.sentKey 0 (Nat.zero_le _)
      have received := tells_versionsFrom serves streams.receivedKey 0 (Nat.zero_le _)
      obtain ⟨reached, looked, before, whole, lands, told⟩ := query.toQueryContext.unfolds_lookups
        "get_transactions" (prompt_reply chronicle) (tells_detail serves) query.client.latency
        (wanted chronicle streams start)
      have alike := Lookup.alike_of_lands lands
      refine ⟨reached, before, fun details done => ?_, ?_⟩
      · rw [done] at alike
        cases alike
        exact whole _ rfl
      · refine (Retry.tells_mk note (.ok address)).bind (opened.bind ?_)
        refine sent.bind (received.bind ?_)
        refine (Retry.tells_lift note (quiet _)).bind ?_
        rw [← found_of_alike query.chain alike]
        cases looked with
        | error fault => exact told.bind_error _
        | ok details => exact told.finish (gather query.chain)

/-- The query finds exactly the versions that the streams of an account name from the start on, each
with all that its own detail tells, and asks for nothing twice: however much it reads at a time,
however many details it looks up at once, and however long each lookup takes. -/
theorem fetchSince_exact (serves : chronicle.Serves note query.client) (quiet : query.Quiet)
    {spelling address : String}
    (valid : Address.canonical? .sequential spelling = .ok address) (start : UInt64) :
    (chronicle.account address = none →
      Tells note (query.fetchSince spelling start) (.ok .empty) [.account address]) ∧
    (∀ streams, chronicle.account address = some streams →
      ∃ (outcome : Except Fault TransactionMap) (asked : List UInt64),
        Tells note (query.fetchSince spelling start) outcome
          ([.account address] ++ (chronicle.pagesFrom streams.sentKey query.settings.pageLimit 0 ++
            (chronicle.pagesFrom streams.receivedKey query.settings.pageLimit 0 ++
              asked.map .detail))) ∧
        asked.Nodup ∧ (∀ version ∈ asked, chronicle.Wants streams start version) ∧
        ((∀ version, chronicle.Wants streams start version →
            ∃ detail, chronicle.detail version = some detail) →
          (∀ version, chronicle.Wants streams start version → version ∈ asked) ∧
          ∃ result, outcome = .ok result ∧ ∀ identity tx, result.get? identity = some tx ↔
            ∃ version detail part, chronicle.Wants streams start version ∧
              chronicle.detail version = some detail ∧
              identity = ⟨query.chain, version, 0⟩ ∧ tx = .sequential part ∧
              part.ToldBy query.chain detail) ∧
        ((∃ version, chronicle.Wants streams start version ∧ chronicle.detail version = none) →
          outcome = .error .noData)) ∧
    ∀ (τ : Type) (note' : τ → Chronicle.Asked → τ) (other : SequentialQuery (StateM τ)),
      chronicle.Serves note' other.client → other.Quiet → other.chain = query.chain →
        ∀ state state', (Retry.answer (query.fetchSince spelling start) state).1 =
          (Retry.answer (other.fetchSince spelling start) state').1 := by
  have told := tells_fetchSince serves quiet valid start
  refine ⟨fun absent => ?_, fun streams there => ?_, fun τ note' other serves' quiet' chain => ?_⟩
  · rw [absent] at told
    exact told
  · rw [there] at told
    obtain ⟨reached, before, whole, told⟩ := told
    refine ⟨_, reached, told, (nodup_distinct _).sublist before.sublist,
      fun version member => mem_wanted.mp (before.subset member), fun known => ?_, ?_⟩
    · obtain ⟨details, result, done, built, holds⟩ := found_of_known known
      refine ⟨fun version wants => ?_, result, built, holds⟩
      rw [whole details done]
      exact mem_wanted.mpr wants
    · rintro ⟨version, wants, unknown⟩
      exact found_of_unknown wants unknown
  · have told' := tells_fetchSince serves' quiet' valid start
    intro state state'
    cases account : chronicle.account address with
    | none =>
        rw [account] at told told'
        rw [told state, told' state']
    | some streams =>
        rw [account] at told told'
        obtain ⟨_, _, _, told⟩ := told
        obtain ⟨_, _, _, told'⟩ := told'
        rw [told state, told' state', chain]

end SequentialQuery

namespace Chronicle

/-- The client that tells what a chronicle has, and remembers what it is asked. -/
def client (chronicle : Chronicle) (latency : UInt64 → Nat := fun _ => 0) :
    SequentialClient (StateM (List Asked)) where
  account address := do
    ExceptT.lift (modify (· ++ [.account address]))
    return chronicle.account address
  events key offset limit := do
    ExceptT.lift (modify (· ++ [.page key offset limit]))
    return ((chronicle.stream key).drop offset.toNat).take limit.toNat
  transaction version := do
    ExceptT.lift (modify (· ++ [.detail version]))
    return chronicle.detail version
  latency := latency

theorem serves_client (chronicle : Chronicle) (latency : UInt64 → Nat) :
    chronicle.Serves (fun asked next => asked ++ [next]) (chronicle.client latency) where
  account _ _ := rfl
  events _ _ _ _ := rfl
  transaction _ _ := rfl

end Chronicle

namespace Sample

def holder : String := "11111111111111111111111111111111"

def detail : VersionDetail :=
  { version := 7
    hash := "0x07"
    gasUsed := 1
    status := "executed"
    signed := {
      sender := holder
      publicKey := "0xkey"
      maxGas := 100
      gasPrice := 2
      gasCurrency := "XUS"
      micros := 1600000000000000
      script :=
        { receiver := "22222222222222222222222222222222", amount := 30, currency := "XDX" } } }

/-- Both streams name version 7, and one of them an earlier and a later version. -/
def chronicle : Chronicle where
  account address := if address = holder then some ⟨holder, "sent", "received"⟩ else none
  stream key :=
    if key = "sent" then [⟨key, 0, 5⟩, ⟨key, 1, 7⟩, ⟨key, 2, 8⟩]
    else if key = "received" then [⟨key, 0, 7⟩] else []
  detail version := if version = 7 ∨ version = 8 then some { detail with version } else none
  short key := by
    split
    · simp [UInt64.size]
    · split <;> simp [UInt64.size]
  own version found told := by
    split at told
    case isTrue => cases told; rfl
    case isFalse => cases told

/-- A page holds one event, two lookups are under way at once, and that of version 8 lands first. -/
def sequentialQuery : SequentialQuery (StateM (List Chronicle.Asked)) where
  chain := ⟨"diem"⟩
  settings := { concurrency := 2, pageSize := 0 }
  notice _ _ _ := pure ()
  tell _ := pure ()
  client := chronicle.client fun version => if version = 7 then 9 else 1

theorem wants_chronicle (version : UInt64) :
    chronicle.Wants ⟨holder, "sent", "received"⟩ 6 version ↔ version = 7 ∨ version = 8 := by
  simp only [Chronicle.Wants, chronicle]
  constructor
  · rintro ⟨onward, event, member, rfl⟩
    have among : event ∈ [⟨"sent", 0, 5⟩, ⟨"sent", 1, 7⟩, ⟨"sent", 2, 8⟩, ⟨"received", 0, 7⟩] :=
      member
    simp only [List.mem_cons, List.not_mem_nil, or_false] at among
    rcases among with rfl | rfl | rfl | rfl
    · exact absurd onward (by decide)
    · exact .inl rfl
    · exact .inr rfl
    · exact .inl rfl
  · rintro (rfl | rfl)
    · exact ⟨by decide, ⟨"sent", 1, 7⟩, by decide, rfl⟩
    · exact ⟨by decide, ⟨"sent", 2, 8⟩, by decide, rfl⟩

end Sample

namespace SequentialQuery

/-- Version 7 is found with all that its detail tells, though the later one lands first; the version
before the start is not. -/
theorem fetchSince_exact_sample :
    ∃ result, (Retry.answer (Sample.sequentialQuery.fetchSince Sample.holder 6) []).1 = .ok result ∧
      (∃ instant : Instant, instant.micros = 1600000000000000 ∧
        result.get? ⟨⟨"diem"⟩, 7, 0⟩ = some (.sequential {
          identity := ⟨⟨"diem"⟩, 7, 0⟩
          gas := ⟨2, 1, 100⟩
          gasCurrency := "XUS"
          status := "executed"
          hash := "0x07"
          timestamp := instant
          publicKey := "0xkey"
          transfer := ⟨"XDX", Sample.holder, "22222222222222222222222222222222", 30⟩ })) ∧
      (result.get? ⟨⟨"diem"⟩, 8, 0⟩).isSome = true ∧
      result.get? ⟨⟨"diem"⟩, 5, 0⟩ = none := by
  have serves : Sample.chronicle.Serves (fun asked next => asked ++ [next])
      Sample.sequentialQuery.client := Chronicle.serves_client Sample.chronicle _
  have valid : Address.canonical? .sequential Sample.holder = .ok Sample.holder := by
    decide +kernel
  have known : ∀ version, Sample.chronicle.Wants ⟨Sample.holder, "sent", "received"⟩ 6 version →
      Sample.chronicle.detail version = some { Sample.detail with version } :=
    fun version wanted => if_pos ((Sample.wants_chronicle version).mp wanted)
  obtain ⟨_, reads, _⟩ := fetchSince_exact serves (fun _ _ => rfl) valid 6
  obtain ⟨outcome, asked, told, _, _, finds, _⟩ := reads ⟨Sample.holder, "sent", "received"⟩ rfl
  obtain ⟨_, result, rfl, holds⟩ := finds fun version wanted => ⟨_, known version wanted⟩
  have there : ∀ version, Sample.chronicle.Wants ⟨Sample.holder, "sent", "received"⟩ 6 version →
      result.get? ⟨⟨"diem"⟩, version, 0⟩ = some (.sequential
        (({ Sample.detail with version } : VersionDetail).transaction ⟨"diem"⟩)) :=
    fun version wanted => (holds _ _).mpr ⟨version, _, _, wanted, known version wanted, rfl, rfl,
      VersionDetail.toldBy_transaction _ _⟩
  refine ⟨result, congrArg Prod.fst (told []), ⟨_, ?_, there 7 ?_⟩, ?_, ?_⟩
  · decide +kernel
  · exact (Sample.wants_chronicle 7).mpr (.inl rfl)
  · rw [there 8 ((Sample.wants_chronicle 8).mpr (.inr rfl))]
    rfl
  · apply Option.eq_none_iff_forall_ne_some.mpr
    intro tx found
    obtain ⟨version, _, _, wanted, _, own, _⟩ := (holds _ _).mp found
    rcases (Sample.wants_chronicle version).mp wanted with rfl | rfl
    · revert own
      decide
    · revert own
      decide

end SequentialQuery

end Passbook
