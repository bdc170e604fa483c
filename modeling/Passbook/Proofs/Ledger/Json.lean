import Passbook.Ledger.Json
import Passbook.Proofs.Instant.Text
import Passbook.Proofs.Json.Record
import Passbook.Proofs.Maps
/-!
Transactions are read back from their texts. A record of known kind gives back the transaction it
was written from; one whose kind is a member of it does so only without events, because the keys
of its log are read as texts and none of them becomes an integer again.
-/

namespace Passbook

namespace Amount

theorem ofDigits_toDigits (amount : Nat) : ofDigits (toDigits amount) = amount := by
  fun_induction toDigits amount with
  | case1 => rfl
  | case2 amount _ ih => rw [ofDigits, ih, Nat.mod_add_div]

theorem lt_of_mem_toDigits {amount digit : Nat} (member : digit ∈ toDigits amount) :
    digit < UInt32.size := by
  fun_induction toDigits amount with
  | case1 => cases member
  | case2 amount _ ih =>
      rcases List.mem_cons.mp member with rfl | later
      · exact Nat.mod_lt amount (by decide)
      · exact ih later

@[simp] theorem ofJson?_toJson (amount : Nat) : ofJson? (toJson amount) = some amount := by
  have digits : ((toDigits amount).map Json.nat).mapM
      (fun digit => digit.uint32?.map UInt32.toNat) = some (toDigits amount) := by
    refine Json.mapM_of_reads fun digit member => ?_
    have small := lt_of_mem_toDigits member
    rw [Json.uint32?_nat small, Option.map_some, UInt32.toNat_ofNat_of_lt' small]
  rw [ofJson?, toJson, Json.list?, Json.items?, Option.bind_some, digits, Option.map_some,
    ofDigits_toDigits]

theorem plain_toJson (amount : Nat) : Json.Plain 1 (toJson amount) := by
  refine .array fun item member => ?_
  obtain ⟨digit, held, rfl⟩ := List.mem_map.mp member
  exact .nat (Nat.lt_trans (lt_of_mem_toDigits held) (by decide))

end Amount

namespace Json

@[simp] theorem uint64?_ofUInt64 (value : UInt64) : (ofUInt64 value).uint64? = some value := by
  rw [ofUInt64, uint64?, int?_nat, Option.bind_some, Word.uint64?_toNat]

@[simp] theorem int64?_ofInt64 (value : Int64) : (ofInt64 value).int64? = some value := by
  rw [ofInt64, int64?, int?_int, Option.bind_some, Word.int64?_toInt]

theorem plain_ofUInt64 {depth : Nat} (value : UInt64) : Plain depth (ofUInt64 value) :=
  .nat value.toNat_lt_size

theorem plain_ofInt64 {depth : Nat} (value : Int64) : Plain depth (ofInt64 value) := by
  refine .int (.inl ?_)
  rw [Word.int64?_toInt]
  rfl

theorem plain_ofOption {α : Type} {depth : Nat} {write : α → Json}
    (plain : ∀ value, Plain depth (write value)) (value : Option α) :
    Plain depth (ofOption write value) := by
  cases value with
  | none => exact .null
  | some value => exact plain value

theorem Record.optional_of_slot {α : Type} {record : Record} {name : String} {write : α → Json}
    {read : Json → Option α} {value : Option α}
    (held : record.slot name = .given (ofOption write value))
    (reads : ∀ value, read (write value) = some value) (solid : ∀ value, write value ≠ .null) :
    record.optional name read = some value := by
  unfold Record.optional
  rw [held]
  cases value with
  | none => rfl
  | some value =>
      have known := reads value
      have present := solid value
      rw [ofOption]
      generalize write value = json at known present
      cases json with
      | null => exact absurd rfl present
      | _ => exact congrArg (Option.map some) known

end Json

namespace Instant

@[simp] theorem ofJson?_toJson (instant : Instant) : ofJson? instant.toJson = some instant := by
  rw [ofJson?, toJson, Json.string?_text, Option.bind_some, ofText?_text]

theorem plain_toJson {depth : Nat} (instant : Instant) : Json.Plain depth instant.toJson :=
  .text instant.text

end Instant

namespace Identity

@[simp] theorem ofJson?_toJson (identity : Identity) :
    ofJson? identity.toJson = some identity := by
  rw [ofJson?, toJson, Json.record?_record names rfl (by decide)]
  simp [Json.slots, Json.Record.required]

theorem plain_toJson (identity : Identity) : Json.Plain 1 identity.toJson := by
  refine .record ?_
  simp [Json.plain_ofUInt64, Json.plain_ofInt64, Json.Plain.text]

end Identity

namespace Gas

@[simp] theorem ofJson?_toJson (gas : Gas) : ofJson? gas.toJson = some gas := by
  rw [ofJson?, toJson, Json.record?_record names rfl (by decide)]
  simp [Json.slots, Json.Record.required]

theorem plain_toJson (gas : Gas) : Json.Plain 2 gas.toJson := by
  refine .record ?_
  simp [Amount.plain_toJson, Json.plain_ofUInt64]

end Gas

namespace Transfer

@[simp] theorem ofJson?_toJson (transfer : Transfer) :
    ofJson? transfer.toJson = some transfer := by
  rw [ofJson?, toJson, Json.record?_record names rfl (by decide)]
  simp [Json.slots, Json.Record.required]

theorem plain_toJson (transfer : Transfer) : Json.Plain 2 transfer.toJson := by
  refine .record ?_
  simp [Amount.plain_toJson, Json.Plain.text]

end Transfer

namespace TransferEvent

@[simp] theorem ofJson?_toJson (event : TransferEvent) : ofJson? event.toJson = some event := by
  rw [ofJson?, toJson, Json.record?_record names rfl (by decide)]
  simp [Json.slots, Json.Record.required]

theorem plain_toJson (event : TransferEvent) : Json.Plain 2 event.toJson := by
  refine .record ?_
  simp [Amount.plain_toJson, Json.plain_ofInt64, Json.Plain.text]

end TransferEvent

namespace SenderRemark

@[simp] theorem ofJson?_toJson (remark : SenderRemark) : ofJson? remark.toJson = some remark := by
  rw [ofJson?, toJson, Json.record?_record names rfl (by decide)]
  simp [Json.slots, Json.Record.required]

theorem plain_toJson (remark : SenderRemark) : Json.Plain 1 remark.toJson := by
  refine .record ?_
  simp [Json.Plain.text, Json.Plain.bool]

end SenderRemark

namespace AccountRemark

@[simp] theorem ofJson?_toJson (remark : AccountRemark) :
    ofJson? remark.toJson = some remark := by
  rw [ofJson?, toJson, Json.record?_record names rfl (by decide)]
  simp [Json.slots, Json.Record.required]

theorem plain_toJson (remark : AccountRemark) : Json.Plain 1 remark.toJson := by
  refine .record ?_
  simp [Json.Plain.text, Json.plain_ofInt64]

end AccountRemark

namespace Annotations

@[simp] theorem ofJson?_toJson (annotations : Annotations) :
    ofJson? annotations.toJson = some annotations := by
  rw [ofJson?, toJson, Json.record?_record names rfl (by decide), Json.slots]
  simp only [List.map_cons, List.map_nil, bind, Option.bind_some]
  have sender := Json.Record.slot_cons_self "sender"
    (.given (.ofOption SenderRemark.toJson annotations.sender))
    [("account", .given (.ofOption AccountRemark.toJson annotations.account))]
  have account := Json.Record.slot_cons_of_ne (by decide : "account" ≠ "sender")
    (.given (.ofOption SenderRemark.toJson annotations.sender))
    [("account", .given (.ofOption AccountRemark.toJson annotations.account))]
  rw [Json.Record.slot_cons_self] at account
  rw [Json.Record.optional_of_slot sender SenderRemark.ofJson?_toJson
      (by simp [SenderRemark.toJson, Json.record]),
    Json.Record.optional_of_slot account AccountRemark.ofJson?_toJson
      (by simp [AccountRemark.toJson, Json.record])]
  rfl

theorem plain_toJson (annotations : Annotations) : Json.Plain 2 annotations.toJson := by
  refine .record ?_
  simp [Json.plain_ofOption SenderRemark.plain_toJson,
    Json.plain_ofOption AccountRemark.plain_toJson]

end Annotations

namespace EventLog

/-- A key is spelled without escapes. -/
theorem ofChar_of_mem {value : Int} {char : Char} (member : char ∈ (toString value).toList) :
    Literal.ofChar char = .plain char := by
  rw [← Numeral.print_ofInt] at member
  have sort : (value < 0 ∧ char = '-') ∨ char ∈ Nat.toDigits 10 value.natAbs := by
    simpa [Numeral.print, Numeral.ofInt, Numeral.printFraction, Numeral.printExponent] using member
  rcases sort with ⟨_, rfl⟩ | digit
  · rfl
  · exact Literal.ofChar_of_isDigit (Decimal.isDigit_of_mem digit)

theorem keyOf?_ofString (key : Int64) :
    keyOf? (Literal.ofString (toString key.toInt)) = some key := by
  have ends : Json.Ends [] := fun char first => by cases first
  have read := Json.numeral?_print (Numeral.spelled_ofInt key.toInt) ends
  rw [List.append_nil, Numeral.print_ofInt] at read
  have text : (Literal.ofString (toString key.toInt)).verbatim? =
      some (toString key.toInt).toList :=
    Literal.verbatim?_ofChars fun char => ofChar_of_mem
  rw [keyOf?, text, Option.bind_some, read]
  exact Json.int64?_ofInt64 key

@[simp] theorem ofJson?_toJson (log : EventLog) : ofJson? log.toJson = some log := by
  have entries : ((log.entries.map fun entry =>
      (toString entry.1.toInt, TransferEvent.toJson entry.2)).map fun member =>
        (Literal.ofString member.1, member.2)).mapM entryOf? = some log.entries := by
    rw [List.map_map]
    refine Json.mapM_of_reads fun entry _ => ?_
    simp only [Function.comp_apply, entryOf?, keyOf?_ofString, TransferEvent.ofJson?_toJson]
    rfl
  rw [toJson, Json.record, ofJson?, entries, Option.map_some, SortedMap.ofList_entries]

theorem plain_toJson (log : EventLog) : Json.Plain 3 log.toJson := by
  refine .record fun member held => ?_
  obtain ⟨entry, _, rfl⟩ := List.mem_map.mp held
  exact entry.2.plain_toJson

/-- In content that was read whole only a log without events is read. -/
theorem emptyOfJson?_toJson (log : EventLog) :
    emptyOfJson? log.toJson = if log.isEmpty then some log else none := by
  obtain ⟨entries, ascending⟩ := log
  cases entries with
  | nil => rfl
  | cons entry rest => rfl

end EventLog

namespace SequentialTransaction

@[simp] theorem ofJson?_members (tx : SequentialTransaction) :
    ofJson? (.record tx.members) = some tx := by
  rw [ofJson?, Json.record?_record names rfl (by decide)]
  simp [Json.slots, members, Json.Record.required, Json.Record.defaulted]

theorem plain_members (tx : SequentialTransaction) :
    ∀ member ∈ tx.members, Json.Plain 3 member.2 := by
  simp [members, tx.identity.plain_toJson.mono, tx.gas.plain_toJson.mono, Json.Plain.text,
    tx.timestamp.plain_toJson, tx.transfer.plain_toJson.mono, tx.annotations.plain_toJson.mono]

end SequentialTransaction

namespace BlockTransaction

theorem read?_members (tx : BlockTransaction) (events? : Json → Option EventLog) :
    read? events? (.record tx.members) =
      (events? tx.events.toJson).map fun events => { tx with events } := by
  rw [read?, Json.record?_record names rfl (by decide)]
  have fee : (Json.slots tx.members).optional "gateway_fee" Amount.ofJson? = some tx.gatewayFee :=
    Json.Record.optional_of_slot (by simp [Json.slots, members]) Amount.ofJson?_toJson
      (by simp [Amount.toJson])
  simp only [bind, Option.bind_some, fee]
  cases read : events? tx.events.toJson <;>
    simp [Json.slots, members, Json.Record.required, Json.Record.defaulted, read]

@[simp] theorem ofJson?_members (tx : BlockTransaction) :
    ofJson? (.record tx.members) = some tx := by
  rw [ofJson?, read?_members, EventLog.ofJson?_toJson, Option.map_some]

theorem plain_members (tx : BlockTransaction) :
    ∀ member ∈ tx.members, Json.Plain 3 member.2 := by
  simp [members, tx.identity.plain_toJson.mono, tx.gas.plain_toJson.mono, Json.Plain.text,
    tx.timestamp.plain_toJson, tx.events.plain_toJson, tx.annotations.plain_toJson.mono,
    Json.plain_ofOption fun amount => (Amount.plain_toJson amount).mono (by decide : 1 ≤ 3)]

end BlockTransaction

namespace Transaction

/-- The kind is one more member of the record. -/
theorem tagged?_record {kind : LedgerKind} {members : List (String × Json)}
    (fresh : "kind" ∉ members.map Prod.fst) :
    tagged? (.record (("kind", kind.toJson) :: members)) = some (kind, .record members) := by
  have others : ∀ member ∈ members, member.1 ≠ "kind" := fun member held same =>
    fresh (same ▸ List.mem_map_of_mem held)
  have named := Json.named?_record (("kind", kind.toJson) :: members)
  have tags : (("kind", kind.toJson) :: members).filter (fun member => member.1 == "kind") =
      [("kind", .string (Literal.ofString kind.name))] := by
    have none : members.filter (fun member => member.1 == "kind") = [] := by
      rw [List.filter_eq_nil_iff]
      intro member held same
      exact others member held (beq_iff_eq.mp same)
    rw [List.filter_cons_of_pos (by simp), none]
    rfl
  have name : (Literal.ofString kind.name).text?.bind LedgerKind.ofName? = some kind := by
    rw [Literal.text?_ofString]
    cases kind <;> rfl
  have content : ((("kind", kind.toJson) :: members).map fun member =>
      (Literal.ofString member.1, member.2)).filter
        (fun member => member.1.text? != some "kind") =
      members.map fun member => (Literal.ofString member.1, member.2) := by
    rw [List.map_cons, List.filter_cons_of_neg (by simp), List.filter_eq_self]
    intro member held
    obtain ⟨origin, present, rfl⟩ := List.mem_map.mp held
    simpa using others origin present
  simp only [tagged?, Json.record, bind, named, Option.bind_some, tags, name, content]

theorem plain_toJson (tx : Transaction) : Json.Plain 4 tx.toJson := by
  cases tx with
  | sequential tx => exact .record (List.forall_mem_cons.mpr ⟨.text _, tx.plain_members⟩)
  | block tx => exact .record (List.forall_mem_cons.mpr ⟨.text _, tx.plain_members⟩)

/-- Only a transaction without events is read back. -/
theorem ofJson?_toJson (tx : Transaction) :
    ofJson? tx.toJson = if tx.events.isEmpty then some tx else none := by
  obtain ⟨value, known⟩ := tx.plain_toJson.exists_value (by decide)
  cases tx with
  | sequential tx =>
      have tagged : tagged? (sequential tx).toJson = some (.sequential, .record tx.members) :=
        tagged?_record (by simp [SequentialTransaction.members])
      simp only [ofJson?, bind, known, Option.bind_some, tagged,
        SequentialTransaction.ofJson?_members]
      rfl
  | block tx =>
      have tagged : tagged? (block tx).toJson = some (.block, .record tx.members) :=
        tagged?_record (by simp [BlockTransaction.members])
      change ofJson? (block tx).toJson = if tx.events.isEmpty then some (block tx) else none
      simp only [ofJson?, bind, known, Option.bind_some, tagged,
        BlockTransaction.read?_members, EventLog.emptyOfJson?_toJson]
      by_cases bare : tx.events.isEmpty = true
      · rw [if_pos bare, if_pos bare]
        rfl
      · rw [if_neg bare, if_neg bare]
        rfl

/-- A transaction whose kind is a member of its record is read back from its text if it has no
events. With events the text is refused. -/
theorem tagged_read_back (tx : Transaction) :
    Json.decode? ofJson? tx.toJson.render = if tx.events.isEmpty then some tx else none := by
  rw [Json.decode?_render tx.plain_toJson.spelled, ofJson?_toJson]

namespace Sample

/-- A payment with one transfer event. -/
def paid : Transaction := .block {
  identity := ⟨⟨"celo"⟩, 10, 0⟩
  gas := ⟨1, 21000, 21000⟩
  status := "ok"
  hash := "0x10"
  timestamp := .epoch
  gatewayFee := none
  gatewayRecipient := ""
  gatewayCurrency := ""
  events := .ofList [(0, ⟨0, "CELO", "0x11", "0x22", 5⟩)] }

end Sample

theorem paid_not_read_back :
    Json.decode? ofJson? Sample.paid.toJson.render ≠ some Sample.paid := by
  rw [Json.decode?_render Sample.paid.plain_toJson.spelled, ofJson?_toJson, if_neg (by decide)]
  simp

end Transaction

namespace SequentialTransaction

theorem decode?_toJson (tx : SequentialTransaction) :
    Json.decode? ofJson? tx.toJson.render = some tx := by
  have spelled : tx.toJson.Spelled := (Json.Plain.record tx.plain_members).spelled
  rw [Json.decode?_render spelled, toJson, ofJson?_members]

end SequentialTransaction

namespace BlockTransaction

theorem decode?_toJson (tx : BlockTransaction) :
    Json.decode? ofJson? tx.toJson.render = some tx := by
  have spelled : tx.toJson.Spelled := (Json.Plain.record tx.plain_members).spelled
  rw [Json.decode?_render spelled, toJson, ofJson?_members]

end BlockTransaction

/-- A transaction of known kind is read back from its text, and a text that was read as one stays
as it is from the first time that it is written anew. -/
theorem untagged_read_back :
    (∀ tx : BlockTransaction,
      Json.decode? BlockTransaction.ofJson? tx.toJson.render = some tx) ∧
    (∀ tx : SequentialTransaction,
      Json.decode? SequentialTransaction.ofJson? tx.toJson.render = some tx) ∧
    (∀ text : String,
      (Json.rewrite? BlockTransaction.ofJson? BlockTransaction.toJson text).bind
          (Json.rewrite? BlockTransaction.ofJson? BlockTransaction.toJson) =
        Json.rewrite? BlockTransaction.ofJson? BlockTransaction.toJson text) ∧
    ∀ text : String,
      (Json.rewrite? SequentialTransaction.ofJson? SequentialTransaction.toJson text).bind
          (Json.rewrite? SequentialTransaction.ofJson? SequentialTransaction.toJson) =
        Json.rewrite? SequentialTransaction.ofJson? SequentialTransaction.toJson text :=
  ⟨BlockTransaction.decode?_toJson, SequentialTransaction.decode?_toJson,
    Json.rewrite?_bind BlockTransaction.decode?_toJson,
    Json.rewrite?_bind SequentialTransaction.decode?_toJson⟩

end Passbook
