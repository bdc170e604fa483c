import Passbook.Proofs.Query.Findings
/-!
What is read of a stream whose pages may be shorter than asked for. The first page that is not full
is taken for the last: all up to its end is found, and nothing after it.
-/

namespace Passbook

open Retry (Question Answers)

variable {σ : Type}

namespace SequentialClient

/-- The client keeps to what is agreed about its answers. A page continues the stream at its offset,
is no longer than the limit, and is empty only if nothing is left; a detail is that of the version
asked for. -/
structure Honours (client : SequentialClient (StateM σ)) (stream : String → List StreamEvent) :
    Prop where
  /-- Every event has an offset. -/
  short : ∀ key, (stream key).length < UInt64.size
  onward : ∀ {key offset limit page}, Answers (client.events key offset limit) page →
    page <+: (stream key).drop offset.toNat
  bounded : ∀ {key offset limit page}, Answers (client.events key offset limit) page →
    page.length ≤ limit.toNat
  advances : ∀ {key offset limit}, 0 < limit → Answers (client.events key offset limit) [] →
    (stream key).drop offset.toNat = []
  own : ∀ {version detail}, Answers (client.transaction version) (some detail) →
    detail.version = version

/-- What is read of a stream from an offset on, page after page up to the first that is not full. -/
inductive Reads (client : SequentialClient (StateM σ)) (key : String) (limit : Nat) :
    Nat → List StreamEvent → Prop
  | last {next : Nat} {page : List StreamEvent}
      (told : Answers (client.events key (UInt64.ofNat next) (UInt64.ofNat limit)) page)
      (part : page.length < limit) : Reads client key limit next page
  | more {next : Nat} {page later : List StreamEvent}
      (told : Answers (client.events key (UInt64.ofNat next) (UInt64.ofNat limit)) page)
      (full : limit ≤ page.length) (rest : Reads client key limit (next + page.length) later) :
      Reads client key limit next (page ++ later)

/-- A page of the stream that is not full reaches its end. -/
def Uncut (client : SequentialClient (StateM σ)) (stream : String → List StreamEvent)
    (key : String) (limit : Nat) : Prop :=
  ∀ {offset page}, Answers (client.events key offset (UInt64.ofNat limit)) page →
    page.length < limit → (stream key).length ≤ offset.toNat + page.length

/-- What is read of a whole stream: all up to the first page that is not full. That is all of it if
no page is cut short before its end, and nothing only if it is empty. -/
structure ReadOf (client : SequentialClient (StateM σ)) (stream : String → List StreamEvent)
    (key : String) (limit : Nat) (read : List StreamEvent) : Prop where
  pages : client.Reads key limit 0 read
  isPrefix : read <+: stream key
  whole : client.Uncut stream key limit → read = stream key
  started : read = [] → stream key = []

section Reads
variable {client : SequentialClient (StateM σ)} {stream : String → List StreamEvent}
  {key : String} {limit next : Nat} {read page : List StreamEvent}

/-- The page at an offset and what comes after it. -/
theorem Honours.split (honours : client.Honours stream) (within : next < UInt64.size)
    (told : Answers (client.events key (UInt64.ofNat next) (UInt64.ofNat limit)) page) :
    (stream key).drop next = page ++ (stream key).drop (next + page.length) := by
  have onward := honours.onward told
  rw [UInt64.toNat_ofNat_of_lt' within] at onward
  obtain ⟨after, split⟩ := onward
  rw [← List.drop_drop, ← split, List.drop_left]

theorem Honours.next_lt (honours : client.Honours stream) (within : next < UInt64.size)
    (told : Answers (client.events key (UInt64.ofNat next) (UInt64.ofNat limit)) page) :
    next + page.length < UInt64.size := by
  have short := honours.short key
  have length := congrArg List.length (honours.split within told)
  simp only [List.length_drop, List.length_append] at length
  omega

theorem Reads.isPrefix (honours : client.Honours stream) (within : next < UInt64.size)
    (reads : client.Reads key limit next read) : read <+: (stream key).drop next := by
  induction reads with
  | last told _ =>
      rw [honours.split within told]
      exact List.prefix_append _ _
  | more told _ _ ih =>
      rw [honours.split within told, List.prefix_append_right_inj]
      exact ih (honours.next_lt within told)

theorem Reads.eq_drop (honours : client.Honours stream) (within : next < UInt64.size)
    (uncut : client.Uncut stream key limit) (reads : client.Reads key limit next read) :
    read = (stream key).drop next := by
  induction reads with
  | last told part =>
      have reached := uncut told part
      rw [UInt64.toNat_ofNat_of_lt' within] at reached
      rw [honours.split within told, List.drop_of_length_le reached, List.append_nil]
  | more told _ _ ih =>
      rw [honours.split within told, ih (honours.next_lt within told)]

/-- A page has at least one event unless none is left. -/
theorem Reads.eq_nil (honours : client.Honours stream) (within : next < UInt64.size)
    (positive : 1 ≤ limit) (small : limit < UInt64.size)
    (reads : client.Reads key limit next read) (nothing : read = []) :
    (stream key).drop next = [] := by
  cases reads with
  | last told _ =>
      have some : 0 < UInt64.ofNat limit := by
        rw [UInt64.lt_iff_toNat_lt, UInt64.toNat_ofNat_of_lt' small]
        exact positive
      have none := honours.advances some (nothing ▸ told)
      rwa [UInt64.toNat_ofNat_of_lt' within] at none
  | more _ full _ =>
      rw [(List.append_eq_nil_iff.mp nothing).1] at full
      exact absurd positive (Nat.not_le_of_lt (Nat.lt_succ_of_le full))

theorem Reads.readOf (honours : client.Honours stream) (positive : 1 ≤ limit)
    (small : limit < UInt64.size) (reads : client.Reads key limit 0 read) :
    client.ReadOf stream key limit read where
  pages := reads
  isPrefix := reads.isPrefix honours (by decide)
  whole uncut := reads.eq_drop honours (by decide) uncut
  started := reads.eq_nil honours (by decide) positive small

end Reads

end SequentialClient

namespace SequentialQuery
variable {query : SequentialQuery (StateM σ)} {stream : String → List StreamEvent}
  {spelling : String} {start : UInt64} {view : TransactionMap}

theorem reads_of_answers (honours : query.client.Honours stream) {key : String} {next : Nat}
    (within : next < UInt64.size) {versions : List UInt64}
    (answered : Answers (query.versionsFrom key next) versions) :
    ∃ read, query.client.Reads key query.settings.pageLimit next read ∧
      versions = read.map StreamEvent.version := by
  have positive := query.settings.pageLimit_pos
  -- How far offsets can still go carries the induction.
  induction left : UInt64.size - next using Nat.strongRecOn generalizing next versions with
  | _ left ih =>
    subst left
    rw [versionsFrom] at answered
    obtain ⟨page, asked, answered⟩ := Retry.exists_of_answers_bind answered
    have told := QueryContext.answers_of_ask asked
    have further := honours.next_lt within told
    by_cases more : query.settings.pageLimit ≤ page.length ∧ next + page.length < UInt64.size
    · rw [dif_pos more] at answered
      obtain ⟨later, rest, built⟩ := Retry.exists_of_answers_bind answered
      cases Retry.eq_of_answers_pure built
      obtain ⟨read, reads, rfl⟩ := ih _ (by omega) further rest rfl
      exact ⟨page ++ read, .more told more.1 reads, List.map_append.symm⟩
    · rw [dif_neg more] at answered
      cases Retry.eq_of_answers_pure answered
      exact ⟨page, .last told (by omega), rfl⟩

/-- If all versions are looked up with success these are what is found. -/
theorem contains_of_answers_lookups (honours : query.client.Honours stream)
    {versions : List UInt64} {details : List VersionDetail}
    (looked : Answers (query.lookups "get_transactions" query.client.latency query.detail versions)
      details)
    (identity : Identity) :
    (TransactionMap.ofTransactions (details.map fun detail =>
      .sequential (detail.transaction query.chain))).contains identity = true ↔
        ∃ version ∈ versions, identity = .sequential query.chain version := by
  obtain ⟨landed, perm, told⟩ := QueryContext.forall₂_of_answers_lookups looked
  rw [TransactionMap.contains_ofTransactions]
  constructor
  · rintro ⟨_, member, rfl⟩
    obtain ⟨detail, among, rfl⟩ := List.mem_map.mp member
    obtain ⟨version, wanted, answered⟩ := exists_of_forall₂ told.flip (perm.mem_iff.mp among)
    refine ⟨version, wanted, ?_⟩
    rw [← honours.own (answers_of_detail answered)]
    rfl
  · rintro ⟨version, wanted, rfl⟩
    obtain ⟨detail, among, answered⟩ := exists_of_forall₂ told wanted
    refine ⟨_, List.mem_map_of_mem (perm.mem_iff.mpr among), ?_⟩
    rw [← honours.own (answers_of_detail answered)]
    rfl

/-- What is found is what is read: of each stream all up to the first page that is not full. -/
theorem finds_what_is_read (honours : query.client.Honours stream)
    (answered : Answers (query.fetchSince spelling start) view) :
    ∃ address account, Address.canonical? .sequential spelling = .ok address ∧
      Answers (query.client.account address) account ∧
      match account with
      | none => view = .empty
      | some streams => ∃ sent received,
          query.client.ReadOf stream streams.sentKey query.settings.pageLimit sent ∧
          query.client.ReadOf stream streams.receivedKey query.settings.pageLimit received ∧
          ∀ identity, view.contains identity = true ↔ ∃ event ∈ sent ++ received,
            start ≤ event.version ∧ identity = .sequential query.chain event.version := by
  obtain ⟨address, account, valid, asked, made⟩ := exists_of_answers_fetchSince answered
  refine ⟨address, account, valid, asked, ?_⟩
  cases account with
  | none => exact made
  | some streams =>
      obtain ⟨_, _, details, fromSent, fromReceived, looked, rfl⟩ := made
      obtain ⟨sent, readsSent, rfl⟩ := reads_of_answers honours (by decide) fromSent
      obtain ⟨received, readsReceived, rfl⟩ := reads_of_answers honours (by decide) fromReceived
      refine ⟨sent, received,
        readsSent.readOf honours query.settings.pageLimit_pos (pageLimit_lt _),
        readsReceived.readOf honours query.settings.pageLimit_pos (pageLimit_lt _),
        fun identity => ?_⟩
      rw [contains_of_answers_lookups honours looked]
      simp only [mem_distinct, List.mem_filter, ← List.map_append, List.mem_map, decide_eq_true_eq]
      constructor
      · rintro ⟨_, ⟨⟨event, member, rfl⟩, onward⟩, rfl⟩
        exact ⟨event, member, onward, rfl⟩
      · rintro ⟨event, member, onward, rfl⟩
        exact ⟨event.version, ⟨⟨event, member, rfl⟩, onward⟩, rfl⟩

end SequentialQuery

namespace Chronicle

/-- A client of a node that puts no more than so many events on a page, whatever is asked for. -/
def capped (chronicle : Chronicle) (cap : Nat) : SequentialClient (StateM Unit) where
  account address := pure (chronicle.account address)
  events key offset limit :=
    pure (((chronicle.stream key).drop offset.toNat).take (min cap limit.toNat))
  transaction version := pure (chronicle.detail version)

variable {chronicle : Chronicle} {cap : Nat}

theorem honours_capped (chronicle : Chronicle) (positive : 0 < cap) :
    (chronicle.capped cap).Honours chronicle.stream where
  short := chronicle.short
  onward told := by
    rw [← Retry.eq_of_answers_pure told]
    exact List.take_prefix _ _
  bounded told := by
    rw [← Retry.eq_of_answers_pure told, List.length_take]
    omega
  advances {key offset limit} some told := by
    have none := Retry.eq_of_answers_pure told
    rw [List.take_eq_nil_iff] at none
    refine none.resolve_left fun nothing => ?_
    have : 0 < limit.toNat := UInt64.lt_iff_toNat_lt.mp some
    omega
  own told := chronicle.own _ _ (Retry.eq_of_answers_pure told)

/-- A node that can put as many events on a page as are asked for cuts no page short. -/
theorem uncut_capped {key : String} {limit : Nat} (wide : limit ≤ cap)
    (small : limit < UInt64.size) :
    (chronicle.capped cap).Uncut chronicle.stream key limit := by
  intro offset page told part
  rw [← Retry.eq_of_answers_pure told, List.length_take, List.length_drop,
    UInt64.toNat_ofNat_of_lt' small] at part ⊢
  omega

end Chronicle

namespace Sample

/-- An account has sent two payments, and received none. -/
def spendthrift : Chronicle where
  account address := if address = holder then some ⟨holder, "sent", "received"⟩ else none
  stream key := if key = "sent" then [⟨key, 0, 7⟩, ⟨key, 1, 8⟩] else []
  detail version := some { detail with version }
  short key := by split <;> simp [UInt64.size]
  own _ _ told := by
    cases told
    rfl

/-- Asks for so many events at a time, where the node gives one. -/
def cappedQuery (pageSize : UInt32) : SequentialQuery (StateM Unit) where
  chain := ⟨"diem"⟩
  settings := { pageSize }
  notice _ _ _ := pure ()
  tell _ := pure ()
  client := spendthrift.capped 1

end Sample

namespace SequentialQuery

/-- Who asks for one event at a time finds both versions of the stream. -/
theorem finds_what_is_read_sample :
    ∃ view, (Retry.answer ((Sample.cappedQuery 1).fetchSince Sample.holder 7) ()).1 = .ok view ∧
      view.contains ⟨⟨"diem"⟩, 7, 0⟩ = true ∧ view.contains ⟨⟨"diem"⟩, 8, 0⟩ = true := by
  have done : (Retry.answer ((Sample.cappedQuery 1).fetchSince Sample.holder 7)
      ()).1.toOption.map (fun _ => ()) = some () := by
    decide +kernel
  obtain ⟨view, own, _⟩ := exists_of_toOption_map done
  obtain ⟨address, account, valid, asked, finds⟩ := finds_what_is_read
    (show (Sample.cappedQuery 1).client.Honours Sample.spendthrift.stream from
      Chronicle.honours_capped _ Nat.one_pos) ⟨(), (), Prod.ext own rfl⟩
  have canonical : Address.canonical? .sequential Sample.holder = .ok Sample.holder := by
    decide +kernel
  rw [canonical, Except.ok.injEq] at valid
  subst valid
  cases Retry.eq_of_answers_pure asked
  obtain ⟨sent, received, readSent, _, contains⟩ := finds
  have small : (Sample.cappedQuery 1).settings.pageLimit < UInt64.size := pageLimit_lt _
  rw [readSent.whole (Chronicle.uncut_capped (by decide) small)] at contains
  refine ⟨view, own, (contains _).mpr ⟨⟨"sent", 0, 7⟩, ?_, by decide, rfl⟩,
    (contains _).mpr ⟨⟨"sent", 1, 8⟩, ?_, by decide, rfl⟩⟩
  · exact List.mem_append_left _ (by decide)
  · exact List.mem_append_left _ (by decide)

/-- Who asks for two at a time takes the first page for the last. -/
theorem lost_after_short_page :
    (Sample.spendthrift.capped 1).Honours Sample.spendthrift.stream ∧
    ⟨"sent", 1, 8⟩ ∈ Sample.spendthrift.stream "sent" ∧
    ∃ view, (Retry.answer ((Sample.cappedQuery 2).fetchSince Sample.holder 7) ()).1 = .ok view ∧
      view.contains ⟨⟨"diem"⟩, 8, 0⟩ = false := by
  refine ⟨Chronicle.honours_capped _ Nat.one_pos, by decide, ?_⟩
  have done : (Retry.answer ((Sample.cappedQuery 2).fetchSince Sample.holder 7) ()).1.toOption.map
      (fun view => view.contains ⟨⟨"diem"⟩, 8, 0⟩) = some false := by
    decide +kernel
  exact exists_of_toOption_map done

end SequentialQuery

end Passbook
