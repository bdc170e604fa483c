import Passbook.Proofs.Json.Record
import Passbook.Proofs.Maps
import Passbook.Proofs.Text.Decimal
import Passbook.Remote.Explorer
/-!
Pages of transfer rows. A page is read as a whole or not at all: every number of every row is what
its text spells, and none is bent to fit a word. What is reported instead of a page is the first
column that cannot be read of the first row that has one.
-/

namespace Passbook

namespace Explorer

/-- The digits of a number. Only those of an amount may be grouped. -/
def Digits : Numbering → List Char → Nat → Prop
  | .amount, digits, value =>
      Decimal.Grouped digits ∧ Decimal.ofDigits (digits.filter Char.isDigit) = value
  | _, digits, value => Decimal.Numeral digits ∧ Decimal.ofDigits digits = value

/-- Which number a text spells, be it in range or not. -/
inductive Spells (numbering : Numbering) : List Char → Int → Prop where
  | nothing : Spells numbering [] 0
  | bare {digits : List Char} {value : Nat} (told : Digits numbering digits value) :
      Spells numbering digits value
  | plus {digits : List Char} {value : Nat} (told : Digits numbering digits value) :
      Spells numbering ('+' :: digits) value
  | minus {digits : List Char} {value : Nat} (signed : numbering = .signed)
      (told : Digits numbering digits value) : Spells numbering ('-' :: digits) (-value)

def InRange : Numbering → Int → Prop
  | .unsigned, value => 0 ≤ value ∧ value < 18446744073709551616
  | .signed, value => -9223372036854775808 ≤ value ∧ value < 9223372036854775808
  | .amount, value => 0 ≤ value

/-- The text spells a number that the column can hold. -/
def Readable (numbering : Numbering) (text : String) : Prop :=
  ∃ value, Spells numbering text.toList value ∧ InRange numbering value

theorem spells_nil_iff {numbering : Numbering} {value : Int} :
    Spells numbering [] value ↔ value = 0 := by
  constructor
  · intro spells
    cases spells with
    | nothing => rfl
    | bare told =>
        cases numbering with
        | amount => exact absurd told.1.1 (by simp)
        | _ => exact absurd rfl told.1.1
  · rintro rfl
    exact .nothing

theorem spells_iff_of_ne_nil {numbering : Numbering} {text : List Char} (written : text ≠ [])
    {value : Int} : Spells numbering text value ↔
      (numbering = .signed ∧ ∃ digits size, text = '-' :: digits ∧ Digits numbering digits size ∧
        -(size : Int) = value) ∨
      ∃ digits, (text = digits ∨ text = '+' :: digits) ∧ ∃ size, Digits numbering digits size ∧
        (size : Int) = value := by
  constructor
  · intro spells
    cases spells with
    | nothing => exact absurd rfl written
    | bare told => exact .inr ⟨_, .inl rfl, _, told, rfl⟩
    | plus told => exact .inr ⟨_, .inr rfl, _, told, rfl⟩
    | minus signed told => exact .inl ⟨signed, _, _, rfl, told, rfl⟩
  · rintro (⟨signed, _, _, rfl, told, rfl⟩ | ⟨_, rfl | rfl, _, told, rfl⟩)
    · exact .minus signed told
    · exact .bare told
    · exact .plus told

/-- A reader whose values stand for the numbers in range, and which wraps none of the others. -/
structure Exact (numbering : Numbering) {α : Type} (read : String → Option α) (zero : α)
    (told : α → Int) : Prop where
  injective : Function.Injective told
  zero : told zero = 0
  range : ∀ value, InRange numbering value ↔ ∃ held, told held = value
  reads : ∀ text, text ≠ "" → ∀ held,
    read text = some held ↔ Spells numbering text.toList (told held)

theorem toList_ne_nil {text : String} (written : text ≠ "") : text.toList ≠ [] :=
  fun empty => written (String.toList_inj.mp empty)

theorem exact_unsigned : Exact .unsigned Decimal.uint64? 0 fun held => (held.toNat : Int) where
  injective first second same := UInt64.toNat_inj.mp (Int.ofNat_inj.mp same)
  zero := rfl
  range value := by
    constructor
    · rintro ⟨low, high⟩
      have small : value.toNat < UInt64.size := (Int.toNat_lt low).mpr high
      refine ⟨UInt64.ofNat value.toNat, ?_⟩
      rw [UInt64.toNat_ofNat_of_lt' small, Int.toNat_of_nonneg low]
    · rintro ⟨held, rfl⟩
      exact ⟨Int.natCast_nonneg _, Int.ofNat_lt.mpr held.toNat_lt_size⟩
  reads text written held := by
    rw [spells_iff_of_ne_nil (toList_ne_nil written)]
    simp only [Decimal.uint64?, Option.bind_eq_some_iff, Decimal.unsigned?_eq_some_iff,
      Word.uint64?_eq_some_iff, Digits, reduceCtorEq, false_and, false_or]
    constructor
    · rintro ⟨_, ⟨digits, form, numeral, rfl⟩, same⟩
      exact ⟨digits, form, _, ⟨numeral, rfl⟩, same⟩
    · rintro ⟨digits, form, _, ⟨numeral, rfl⟩, same⟩
      exact ⟨_, ⟨digits, form, numeral, rfl⟩, same⟩

theorem exact_signed : Exact .signed Decimal.int64? 0 Int64.toInt where
  injective first second same := Int64.toInt_inj.mp same
  zero := rfl
  range value := by
    constructor
    · rintro ⟨low, high⟩
      exact ⟨Int64.ofInt value, Int64.toInt_ofInt_of_le low high⟩
    · rintro ⟨held, rfl⟩
      exact ⟨Int64.le_toInt held, Int64.toInt_lt held⟩
  reads text written held := by
    rw [spells_iff_of_ne_nil (toList_ne_nil written)]
    simp only [Decimal.int64?, Option.bind_eq_some_iff, Decimal.signed?_eq_some_iff,
      Word.int64?_eq_some_iff, Digits, true_and]
    constructor
    · rintro ⟨_, ⟨digits, form, numeral, rfl⟩ | ⟨digits, form, numeral, rfl⟩, same⟩
      · exact .inl ⟨digits, _, form, ⟨numeral, rfl⟩, same⟩
      · exact .inr ⟨digits, form, _, ⟨numeral, rfl⟩, same⟩
    · rintro (⟨digits, _, form, ⟨numeral, rfl⟩, same⟩ | ⟨digits, form, _, ⟨numeral, rfl⟩, same⟩)
      · exact ⟨_, .inl ⟨digits, form, numeral, rfl⟩, same⟩
      · exact ⟨_, .inr ⟨digits, form, numeral, rfl⟩, same⟩

theorem exact_amount : Exact .amount Decimal.amount? 0 fun held => (held : Int) where
  injective first second same := Int.ofNat_inj.mp same
  zero := rfl
  range value := by
    constructor
    · exact fun low => ⟨value.toNat, Int.toNat_of_nonneg low⟩
    · rintro ⟨held, rfl⟩
      exact Int.natCast_nonneg held
  reads text written held := by
    rw [spells_iff_of_ne_nil (toList_ne_nil written)]
    simp only [Decimal.amount?_eq_some_iff, Digits, reduceCtorEq, false_and, false_or,
      Int.natCast_inj, exists_eq_right]

section Number
variable {numbering : Numbering} {α : Type} {read : String → Option α} {zero : α} {told : α → Int}

/-- What is reported of a text that cannot be read. -/
def unreadable (numbering : Numbering) (field text : String) : Fault :=
  .parse (field ++ " is not " ++ numbering.article ++ ": " ++ Text.quoted text)

theorem number_eq_ok_iff (exact : Exact numbering read zero told) {field text : String} {held : α} :
    number numbering read zero field text = .ok held ↔ Spells numbering text.toList (told held) := by
  unfold number
  split
  case isTrue empty =>
    subst empty
    rw [Except.ok.injEq, String.toList_empty, spells_nil_iff, ← exact.zero]
    exact ⟨congrArg told ∘ Eq.symm, fun same => (exact.injective same).symm⟩
  case isFalse written =>
    rw [← exact.reads text written]
    split <;> simp_all

theorem readable_iff (exact : Exact numbering read zero told) (field : String) {text : String} :
    Readable numbering text ↔ ∃ held, number numbering read zero field text = .ok held := by
  simp only [number_eq_ok_iff exact, Readable, exact.range]
  constructor
  · rintro ⟨_, spells, held, rfl⟩
    exact ⟨held, spells⟩
  · rintro ⟨held, spells⟩
    exact ⟨_, spells, held, rfl⟩

theorem number_eq_error_iff (exact : Exact numbering read zero told) {field text : String}
    {fault : Fault} : number numbering read zero field text = .error fault ↔
      ¬ Readable numbering text ∧ fault = unreadable numbering field text := by
  rw [readable_iff exact field]
  unfold number unreadable
  split
  case isTrue => simp
  case isFalse => split <;> simp [eq_comm]

end Number

/-- A column of numbers: how it is spelled, and what becomes of it in a row. -/
structure Column where
  name : String
  numbering : Numbering
  text : SpelledRow → String
  value : TransferRow → Int
  /-- The column may be left out. -/
  isOptional : Bool

/-- In the order in which they are read. -/
def columns : List Column := [
  ⟨"blockNumber", .unsigned, SpelledRow.block, fun row => row.block.toNat, false⟩,
  ⟨"timeStamp", .signed, SpelledRow.second, fun row => row.second.toInt, false⟩,
  ⟨"transactionIndex", .signed, SpelledRow.index, fun row => row.index.toInt, true⟩,
  ⟨"logIndex", .signed, SpelledRow.logIndex, fun row => row.logIndex.toInt, true⟩,
  ⟨"value", .amount, SpelledRow.value, fun row => row.value, false⟩,
  ⟨"gas", .unsigned, SpelledRow.gas, fun row => row.gas.toNat, true⟩,
  ⟨"gasPrice", .amount, SpelledRow.gasPrice, fun row => row.gasPrice, true⟩,
  ⟨"gasUsed", .unsigned, SpelledRow.gasUsed, fun row => row.gasUsed.toNat, true⟩]

namespace Column

def IsReadable (column : Column) (spelled : SpelledRow) : Prop :=
  Readable column.numbering (column.text spelled)

def fault (column : Column) (spelled : SpelledRow) : Fault :=
  unreadable column.numbering column.name (column.text spelled)

end Column

namespace SpelledRow

/-- The row is what the spelled row says: its numbers are those that are spelled, and its texts
are the same. -/
structure Denotes (spelled : SpelledRow) (row : TransferRow) : Prop where
  numbers : ∀ column ∈ columns,
    Spells column.numbering (column.text spelled).toList (column.value row)
  hash : row.hash = spelled.hash
  sender : row.sender = spelled.sender
  receiver : row.receiver = spelled.receiver
  contract : row.contract = spelled.contract

variable {spelled : SpelledRow}

theorem row_eq_ok_iff {row : TransferRow} : spelled.row = .ok row ↔ spelled.Denotes row := by
  simp only [SpelledRow.row, bind_eq_ok_iff, unsigned, signed, amount,
    number_eq_ok_iff exact_unsigned, number_eq_ok_iff exact_signed, number_eq_ok_iff exact_amount]
  constructor
  · rintro ⟨_, block, _, second, _, index, _, logIndex, _, value, _, gas, _, price, _, used, built⟩
    cases built
    constructor
    case numbers =>
      simp only [columns, List.forall_mem_cons]
      exact ⟨block, second, index, logIndex, value, gas, price, used, by simp⟩
    all_goals rfl
  · rintro ⟨numbers, hash, sender, receiver, contract⟩
    simp only [columns, List.forall_mem_cons] at numbers
    obtain ⟨block, second, index, logIndex, value, gas, price, used, -⟩ := numbers
    refine ⟨_, block, _, second, _, index, _, logIndex, _, value, _, gas, _, price, _, used, ?_⟩
    rw [← hash, ← sender, ← receiver, ← contract]
    rfl

/-- The first of the columns that cannot be read is told of. -/
inductive FirstBad (spelled : SpelledRow) : List Column → Fault → Prop where
  | here {column : Column} {rest : List Column} (bad : ¬ column.IsReadable spelled) :
      FirstBad spelled (column :: rest) (column.fault spelled)
  | later {column : Column} {rest : List Column} {fault : Fault}
      (good : column.IsReadable spelled) (told : FirstBad spelled rest fault) :
      FirstBad spelled (column :: rest) fault

theorem firstBad_cons_iff {column : Column} {rest : List Column} {fault : Fault} :
    FirstBad spelled (column :: rest) fault ↔
      (¬ column.IsReadable spelled ∧ fault = column.fault spelled) ∨
        column.IsReadable spelled ∧ FirstBad spelled rest fault := by
  constructor
  · intro told
    cases told with
    | here bad => exact .inl ⟨bad, rfl⟩
    | later good told => exact .inr ⟨good, told⟩
  · rintro (⟨bad, rfl⟩ | ⟨good, told⟩)
    · exact .here bad
    · exact .later good told

theorem exists_firstBad_iff {columns : List Column} :
    (∃ fault, FirstBad spelled columns fault) ↔
      ∃ column ∈ columns, ¬ column.IsReadable spelled := by
  induction columns with
  | nil => exact iff_of_false (by rintro ⟨_, ⟨⟩⟩) (by simp)
  | cons column rest ih =>
      simp only [firstBad_cons_iff, exists_or, exists_eq_right, exists_and_left, ih,
        List.exists_mem_cons_iff]
      by_cases good : column.IsReadable spelled <;> simp [good]

theorem bind_eq_error_iff_firstBad {α : Type} {numbering : Numbering} {field : String}
    {text : SpelledRow → String} {value : TransferRow → Int} {isOptional : Bool}
    {rest : List Column} {read : String → Option α} {zero : α} {told : α → Int}
    (exact : Exact numbering read zero told) {next : α → Except Fault TransferRow} {fault : Fault}
    (follows : ∀ held, next held = .error fault ↔ FirstBad spelled rest fault) :
    (number numbering read zero field (text spelled) >>= next) = .error fault ↔
      FirstBad spelled (⟨field, numbering, text, value, isOptional⟩ :: rest) fault := by
  rw [firstBad_cons_iff, Column.IsReadable, Column.fault]
  cases outcome : number numbering read zero field (text spelled) with
  | error problem =>
      obtain ⟨bad, rfl⟩ := (number_eq_error_iff exact).mp outcome
      simp only [bad, bind, Except.bind, Except.error.injEq, not_false_eq_true, true_and,
        false_and, or_false, eq_comm]
  | ok held =>
      have good := (readable_iff exact field).mpr ⟨held, outcome⟩
      simp only [good, not_true_eq_false, false_and, false_or, true_and]
      exact follows held

theorem row_eq_error_iff {fault : Fault} :
    spelled.row = .error fault ↔ FirstBad spelled columns fault := by
  refine bind_eq_error_iff_firstBad exact_unsigned fun _ => ?_
  refine bind_eq_error_iff_firstBad exact_signed fun _ => ?_
  refine bind_eq_error_iff_firstBad exact_signed fun _ => ?_
  refine bind_eq_error_iff_firstBad exact_signed fun _ => ?_
  refine bind_eq_error_iff_firstBad exact_amount fun _ => ?_
  refine bind_eq_error_iff_firstBad exact_unsigned fun _ => ?_
  refine bind_eq_error_iff_firstBad exact_amount fun _ => ?_
  refine bind_eq_error_iff_firstBad exact_unsigned fun _ => ?_
  exact iff_of_false (by rintro ⟨⟩) (by rintro ⟨⟩)

theorem exists_row_iff : (∃ row, spelled.row = .ok row) ↔
    ∀ column ∈ columns, column.IsReadable spelled := by
  have failing : (∃ fault, spelled.row = .error fault) ↔
      ∃ column ∈ columns, ¬ column.IsReadable spelled := by
    simp only [row_eq_error_iff, exists_firstBad_iff]
  cases outcome : spelled.row with
  | ok row =>
      rw [outcome] at failing
      refine iff_of_true ⟨row, rfl⟩ fun column member => ?_
      by_contra bad
      obtain ⟨_, ⟨⟩⟩ := failing.mpr ⟨column, member, bad⟩
  | error fault =>
      obtain ⟨column, member, bad⟩ := failing.mp ⟨fault, outcome⟩
      exact iff_of_false (by rintro ⟨_, ⟨⟩⟩) fun good => bad (good column member)

/-- The texts of the row are those that a record has. -/
structure Among (spelled : SpelledRow) (record : Json.Record) : Prop where
  block : record.required "blockNumber" Json.string? = some spelled.block
  second : record.required "timeStamp" Json.string? = some spelled.second
  hash : record.required "hash" Json.string? = some spelled.hash
  index : record.defaulted "transactionIndex" "" Json.string? = some spelled.index
  logIndex : record.defaulted "logIndex" "" Json.string? = some spelled.logIndex
  sender : record.required "from" Json.string? = some spelled.sender
  receiver : record.required "to" Json.string? = some spelled.receiver
  contract : record.required "contractAddress" Json.string? = some spelled.contract
  value : record.required "value" Json.string? = some spelled.value
  gas : record.defaulted "gas" "" Json.string? = some spelled.gas
  gasPrice : record.defaulted "gasPrice" "" Json.string? = some spelled.gasPrice
  gasUsed : record.defaulted "gasUsed" "" Json.string? = some spelled.gasUsed

theorem ofJson?_eq_some_iff {item : Json} : ofJson? item = some spelled ↔
    ∃ record, item.record? names = some record ∧ spelled.Among record := by
  constructor
  · intro decoded
    obtain ⟨record, read, decoded⟩ := Option.bind_eq_some_iff.mp decoded
    obtain ⟨_, block, decoded⟩ := Option.bind_eq_some_iff.mp decoded
    obtain ⟨_, second, decoded⟩ := Option.bind_eq_some_iff.mp decoded
    obtain ⟨_, hash, decoded⟩ := Option.bind_eq_some_iff.mp decoded
    obtain ⟨_, index, decoded⟩ := Option.bind_eq_some_iff.mp decoded
    obtain ⟨_, logIndex, decoded⟩ := Option.bind_eq_some_iff.mp decoded
    obtain ⟨_, sender, decoded⟩ := Option.bind_eq_some_iff.mp decoded
    obtain ⟨_, receiver, decoded⟩ := Option.bind_eq_some_iff.mp decoded
    obtain ⟨_, contract, decoded⟩ := Option.bind_eq_some_iff.mp decoded
    obtain ⟨_, value, decoded⟩ := Option.bind_eq_some_iff.mp decoded
    obtain ⟨_, gas, decoded⟩ := Option.bind_eq_some_iff.mp decoded
    obtain ⟨_, gasPrice, decoded⟩ := Option.bind_eq_some_iff.mp decoded
    obtain ⟨_, gasUsed, decoded⟩ := Option.bind_eq_some_iff.mp decoded
    cases decoded
    exact ⟨record, read, block, second, hash, index, logIndex, sender, receiver, contract, value,
      gas, gasPrice, gasUsed⟩
  · rintro ⟨record, read, block, second, hash, index, logIndex, sender, receiver, contract, value,
      gas, gasPrice, gasUsed⟩
    refine Option.bind_eq_some_iff.mpr ⟨record, read, ?_⟩
    refine Option.bind_eq_some_iff.mpr ⟨_, block, ?_⟩
    refine Option.bind_eq_some_iff.mpr ⟨_, second, ?_⟩
    refine Option.bind_eq_some_iff.mpr ⟨_, hash, ?_⟩
    refine Option.bind_eq_some_iff.mpr ⟨_, index, ?_⟩
    refine Option.bind_eq_some_iff.mpr ⟨_, logIndex, ?_⟩
    refine Option.bind_eq_some_iff.mpr ⟨_, sender, ?_⟩
    refine Option.bind_eq_some_iff.mpr ⟨_, receiver, ?_⟩
    refine Option.bind_eq_some_iff.mpr ⟨_, contract, ?_⟩
    refine Option.bind_eq_some_iff.mpr ⟨_, value, ?_⟩
    refine Option.bind_eq_some_iff.mpr ⟨_, gas, ?_⟩
    refine Option.bind_eq_some_iff.mpr ⟨_, gasPrice, ?_⟩
    refine Option.bind_eq_some_iff.mpr ⟨_, gasUsed, ?_⟩
    rfl

/-- What an item has nothing of is a column that may be left out, and its text is empty. -/
theorem text_of_lacks {item : Json} (decoded : SpelledRow.ofJson? item = some spelled) :
    ∀ column ∈ columns, item.Lacks names column.name →
      column.isOptional = true ∧ column.text spelled = "" := by
  obtain ⟨record, read, among⟩ := ofJson?_eq_some_iff.mp decoded
  have held : ∀ {name text : String}, record.required name Json.string? = some text →
      ¬ item.Lacks names name := by
    intro name text held lacks
    rw [Json.Record.required_of_vacant (Json.vacant_of_lacks read lacks)] at held
    cases held
  have left : ∀ {name text : String}, record.defaulted name "" Json.string? = some text →
      item.Lacks names name → text = "" := by
    intro name text held lacks
    rw [Json.Record.defaulted_of_vacant (Json.vacant_of_lacks read lacks)] at held
    exact (Option.some.inj held).symm
  simp only [columns, List.forall_mem_cons]
  exact ⟨fun lacks => absurd lacks (held among.block),
    fun lacks => absurd lacks (held among.second), fun lacks => ⟨trivial, left among.index lacks⟩,
    fun lacks => ⟨trivial, left among.logIndex lacks⟩, fun lacks => absurd lacks (held among.value),
    fun lacks => ⟨trivial, left among.gas lacks⟩, fun lacks => ⟨trivial, left among.gasPrice lacks⟩,
    fun lacks => ⟨trivial, left among.gasUsed lacks⟩, by simp⟩

end SpelledRow

/-- The item is a row, and what it says is this. -/
def Reads (item : Json) (row : TransferRow) : Prop :=
  ∃ spelled, SpelledRow.ofJson? item = some spelled ∧ spelled.Denotes row

/-- Why there is no page. Numbers are not looked at before every item is known to be a row. -/
inductive Refuses (items : List Json) : Fault → Prop where
  | undecoded {item : Json} (member : item ∈ items) (unread : SpelledRow.ofJson? item = none) :
      Refuses items misshapen
  | unreadable {before after : List SpelledRow} {spelled : SpelledRow} {fault : Fault}
      (decoded : List.Forall₂ (fun item spelled => SpelledRow.ofJson? item = some spelled) items
        (before ++ spelled :: after))
      (good : ∀ earlier ∈ before, ∀ column ∈ columns, column.IsReadable earlier)
      (bad : spelled.FirstBad columns fault) : Refuses items fault

variable {items : List Json}

theorem rows_of_decoded {spelled : List SpelledRow}
    (decoded : List.Forall₂ (fun item spelled => SpelledRow.ofJson? item = some spelled) items
      spelled) : rows (some (.array items)) = spelled.mapM SpelledRow.row := by
  have read : (Json.array items).list? SpelledRow.ofJson? = some spelled :=
    mapM_eq_some_iff.mpr decoded
  rw [rows, read]

theorem rows_of_undecoded {item : Json} (member : item ∈ items)
    (unread : SpelledRow.ofJson? item = none) :
    rows (some (.array items)) = .error misshapen := by
  have read : (Json.array items).list? SpelledRow.ofJson? = none :=
    mapM_eq_none_iff.mpr ⟨item, member, unread⟩
  rw [rows, read]

theorem decoded_or_undecoded (items : List Json) :
    (∃ spelled, List.Forall₂ (fun item spelled => SpelledRow.ofJson? item = some spelled) items
      spelled) ∨ ∃ item ∈ items, SpelledRow.ofJson? item = none := by
  cases read : items.mapM SpelledRow.ofJson? with
  | none => exact .inr (mapM_eq_none_iff.mp read)
  | some spelled => exact .inl ⟨spelled, mapM_eq_some_iff.mp read⟩

theorem rows_eq_error_iff {fault : Fault} :
    rows (some (.array items)) = .error fault ↔ Refuses items fault := by
  constructor
  · intro failed
    rcases decoded_or_undecoded items with ⟨spelled, decoded⟩ | ⟨item, member, unread⟩
    · rw [rows_of_decoded decoded] at failed
      obtain ⟨before, bad, after, rfl, passed, met⟩ := exists_split_of_mapM_eq_error failed
      exact .unreadable decoded
        (fun earlier member => SpelledRow.exists_row_iff.mp (passed earlier member))
        (SpelledRow.row_eq_error_iff.mp met)
    · rw [rows_of_undecoded member unread] at failed
      cases failed
      exact .undecoded member unread
  · intro refuses
    cases refuses with
    | undecoded member unread => exact rows_of_undecoded member unread
    | unreadable decoded good bad =>
        rw [rows_of_decoded decoded]
        exact mapM_eq_error_of_split
          (fun earlier member => SpelledRow.exists_row_iff.mpr (good earlier member))
          (SpelledRow.row_eq_error_iff.mpr bad)

theorem rows_eq_ok_iff {found : List TransferRow} :
    rows (some (.array items)) = .ok found ↔ List.Forall₂ Reads items found := by
  rcases decoded_or_undecoded items with ⟨spelled, decoded⟩ | ⟨item, member, unread⟩
  · rw [rows_of_decoded decoded, mapM_eq_ok_iff]
    simp only [SpelledRow.row_eq_ok_iff]
    exact forall₂_of_read decoded
  · rw [rows_of_undecoded member unread]
    refine iff_of_false (by rintro ⟨⟩) fun told => ?_
    obtain ⟨_, _, _, decoded, _⟩ := exists_of_forall₂ told member
    rw [unread] at decoded
    cases decoded

theorem exists_rows_iff : (∃ found, rows (some (.array items)) = .ok found) ↔
    ∀ item ∈ items, ∃ spelled, SpelledRow.ofJson? item = some spelled ∧
      ∀ column ∈ columns, column.IsReadable spelled := by
  cases outcome : rows (some (.array items)) with
  | ok found =>
      refine iff_of_true ⟨found, rfl⟩ fun item member => ?_
      obtain ⟨row, _, spelled, decoded, denotes⟩ :=
        exists_of_forall₂ (rows_eq_ok_iff.mp outcome) member
      exact ⟨spelled, decoded,
        SpelledRow.exists_row_iff.mp ⟨row, SpelledRow.row_eq_ok_iff.mpr denotes⟩⟩
  | error fault =>
      refine iff_of_false (by rintro ⟨_, ⟨⟩⟩) fun good => ?_
      cases rows_eq_error_iff.mp outcome with
      | undecoded member unread =>
          obtain ⟨spelled, decoded, -⟩ := good _ member
          rw [unread] at decoded
          cases decoded
      | @unreadable _ _ spelled _ decoded _ bad =>
          obtain ⟨item, member, own⟩ := exists_of_forall₂ decoded.flip
            (List.mem_append_right _ (List.mem_cons_self (a := spelled)))
          obtain ⟨other, same, readable⟩ := good item member
          cases own.symm.trans same
          obtain ⟨column, among, unreadable⟩ := SpelledRow.exists_firstBad_iff.mp ⟨_, bad⟩
          exact unreadable (readable column among)

theorem value_of_empty {spelled : SpelledRow} {row : TransferRow} (denotes : spelled.Denotes row)
    {column : Column} (among : column ∈ columns) (empty : column.text spelled = "") :
    column.value row = 0 := by
  have spells := denotes.numbers column among
  rwa [empty, String.toList_empty, spells_nil_iff] at spells

section Spelling

/-- The row in decimal numerals. -/
def spelledRow (row : TransferRow) : SpelledRow :=
  { block := toString row.block.toNat
    second := toString row.second.toInt
    hash := row.hash
    index := toString row.index.toInt
    logIndex := toString row.logIndex.toInt
    sender := row.sender
    receiver := row.receiver
    contract := row.contract
    value := toString row.value
    gas := toString row.gas.toNat
    gasPrice := toString row.gasPrice
    gasUsed := toString row.gasUsed.toNat }

namespace SpelledRow

def members (spelled : SpelledRow) : List (String × Json) := [
  ("blockNumber", .text spelled.block),
  ("timeStamp", .text spelled.second),
  ("hash", .text spelled.hash),
  ("transactionIndex", .text spelled.index),
  ("logIndex", .text spelled.logIndex),
  ("from", .text spelled.sender),
  ("to", .text spelled.receiver),
  ("contractAddress", .text spelled.contract),
  ("value", .text spelled.value),
  ("gas", .text spelled.gas),
  ("gasPrice", .text spelled.gasPrice),
  ("gasUsed", .text spelled.gasUsed)]

theorem map_fst_members (spelled : SpelledRow) : spelled.members.map Prod.fst = names := rfl

/-- A row is read from any record that has its members. -/
theorem ofJson?_of_subset (spelled : SpelledRow) {members : List (String × Json)}
    (distinct : (members.map Prod.fst).Nodup)
    (among : ∀ member ∈ spelled.members, member ∈ members) :
    ofJson? (.record members) = some spelled := by
  refine ofJson?_eq_some_iff.mpr
    ⟨_, Json.record?_of_subset spelled.map_fst_members distinct among, ?_⟩
  constructor <;>
    simp [Json.slots, SpelledRow.members, Json.Record.required, Json.Record.defaulted]

end SpelledRow

theorem spells_natural {numbering : Numbering} (value : Nat) :
    Spells numbering (toString value).toList value := by
  rw [Decimal.toList_toString]
  refine .bare ?_
  have numeral := Decimal.numeral_toDigits value
  obtain ⟨grouped, kept⟩ := Decimal.grouped_of_numeral numeral
  cases numbering with
  | amount => exact ⟨grouped, by rw [kept, Decimal.ofDigits_toDigits]⟩
  | _ => exact ⟨numeral, Decimal.ofDigits_toDigits value⟩

theorem spells_integer (value : Int) : Spells .signed (toString value).toList value := by
  cases value with
  | ofNat size => exact spells_natural size
  | negSucc size =>
      have text : (toString (Int.negSucc size)).toList = '-' :: Nat.toDigits 10 (size + 1) := by
        rw [show toString (Int.negSucc size) = "-" ++ toString (size + 1) from rfl,
          String.toList_append, Decimal.toList_toString]
        rfl
      rw [text]
      exact .minus rfl ⟨Decimal.numeral_toDigits _, Decimal.ofDigits_toDigits _⟩

theorem denotes_spelledRow (row : TransferRow) : (spelledRow row).Denotes row where
  numbers := by
    simp only [columns, List.forall_mem_cons]
    exact ⟨spells_natural _, spells_integer _, spells_integer _, spells_integer _,
      spells_natural _, spells_natural _, spells_natural _, spells_natural _, by simp⟩
  hash := rfl
  sender := rfl
  receiver := rfl
  contract := rfl

/-- What is kept of the members of a row is all of them, in the order of their names. -/
def kept (spelled : SpelledRow) : Json := .record (SortedMap.ofList spelled.members).entries

theorem normal?_members (spelled : SpelledRow) :
    (Json.record spelled.members).normal? = some (kept spelled) :=
  Json.normal?_record (by simp [SpelledRow.members, Json.normal?_text])

theorem ofJson?_kept (spelled : SpelledRow) : SpelledRow.ofJson? (kept spelled) = some spelled := by
  have distinct : (spelled.members.map Prod.fst).Nodup := by
    rw [spelled.map_fst_members]
    decide
  have among : ∀ member ∈ spelled.members, member ∈ (SortedMap.ofList spelled.members).entries :=
    fun member held =>
      SortedMap.get?_eq_some_iff.mp ((SortedMap.get?_ofList_of_nodup distinct).mpr held)
  exact spelled.ofJson?_of_subset (SortedMap.ofList spelled.members).keys_nodup among

/-- The answer of an explorer that has these rows. -/
def pageOf (rows : List SpelledRow) : Json := .record [
  ("status", .text "1"),
  ("message", .text "OK"),
  ("result", .array (rows.map fun spelled => .record spelled.members))]

section Page
variable (spelled : List SpelledRow)

theorem plain_result :
    Json.Plain 2 (.array (spelled.map fun spelled => .record spelled.members)) := by
  refine .array fun item member => ?_
  obtain ⟨row, _, rfl⟩ := List.mem_map.mp member
  exact .record (by simp [SpelledRow.members, Json.Plain.text])

theorem opened_pageOf : (Json.parse? (pageOf spelled).render).bind Envelope.ofJson? =
    some ⟨"1", "OK", .array (spelled.map kept)⟩ := by
  have plain : Json.Plain 3 (pageOf spelled) := by
    refine .record ?_
    simp only [List.forall_mem_cons]
    exact ⟨.text _, .text _, plain_result spelled, by simp⟩
  have result : Json.value? 1 (.array (spelled.map fun spelled => .record spelled.members)) =
      some (.array (spelled.map kept)) := by
    have shallow := (plain_result spelled).depth_le
    rw [Json.value?, if_pos (by unfold Json.depthLimit; omega), Json.normal?,
      Json.normalItems?_map fun row _ => normal?_members row]
    rfl
  rw [Json.parse?_render plain.spelled, Option.bind_some, Envelope.ofJson?, pageOf,
    Json.record?_record ["status", "message", "result"] rfl (by decide)]
  simp [Json.slots, Json.Record.required, Json.Record.defaulted, result]

theorem decode_pageOf : decode (pageOf spelled).render =
    .ok (some (.array (spelled.map kept))) := by
  rw [decode, opened_pageOf]
  rfl

end Page

/-- Rows that are spelled in decimal numerals are read back. -/
theorem rows_of_pageOf (found : List TransferRow) :
    (decode (pageOf (found.map spelledRow)).render >>= rows) = .ok found := by
  rw [decode_pageOf]
  change rows (some (.array _)) = .ok found
  rw [rows_eq_ok_iff, List.map_map, List.forall₂_map_left_iff, List.forall₂_same]
  exact fun row _ => ⟨spelledRow row, ofJson?_kept _, denotes_spelledRow row⟩

end Spelling

section Client
variable {m : Type → Type} [Monad m]

/-- What an explorer answers to a query, when it reports success. Sending the query may have any
effects, but the answer to it is this one. -/
structure Answer (contact : Contact m) (fields : List (String × String)) where
  url : Url
  response : NetResponse
  envelope : Envelope
  sent : m Unit
  located : Url.located contact.address = .ok url
  web : (url.withForm fields).isWeb = true
  answered : contact.transport ⟨.get, url.withForm fields⟩ = (fun _ => some response) <$> sent
  success : response.isSuccess = true
  opened : (Json.parse? response.content).bind Envelope.ofJson? = some envelope
  accepted : envelope.status = "1"

variable {contact : Contact m} {fields : List (String × String)} {α : Type}

theorem Answer.decode_eq (answer : Answer contact fields) :
    decode answer.response.content = .ok (some answer.envelope.result) := by
  rw [decode, answer.opened]
  exact if_pos answer.accepted

variable [LawfulMonad m]

theorem Answer.exchange_eq (answer : Answer contact fields) :
    exchange contact.transport ⟨.get, answer.url.withForm fields⟩ =
      (do ExceptT.lift answer.sent; pure answer.response.content : Retry.Question m String) := by
  have content : NetRequest.outcome ⟨.get, answer.url.withForm fields⟩ (some answer.response) =
      .ok answer.response.content := if_pos answer.success
  rw [exchange, if_pos answer.web, answer.answered]
  apply ExceptT.ext
  simp [content, Except.map]

/-- The query is told of and sent, and comes to what is made of the result. -/
theorem query_of_answer (answer : Answer contact fields) (read : Option Json → Except Fault α) :
    query contact fields read = (do
      ExceptT.lift (contact.tell fields)
      ExceptT.lift answer.sent
      ExceptT.mk (pure (read (some answer.envelope.result)))) := by
  have located : (ExceptT.mk (pure (Url.located contact.address)) : Retry.Question m Url) =
      pure answer.url := by
    rw [answer.located]
    rfl
  simp only [query, located, pure_bind, answer.exchange_eq, bind_assoc, answer.decode_eq]
  rfl

/-- A page is read as a whole or not at all, and exactly. If every item is a row with numbers that
can be held, the rows are found in their order, and what is left out or empty is zero. If not, an
item that is no row is told of before any number is, and of the numbers the first. -/
theorem transfers_exact {account : String} {start : UInt64} {page size : UInt32}
    (answer : Answer contact (transferFields account start page size)) {items : List Json}
    (listed : answer.envelope.result = .array items) :
    (∃ outcome : Except Fault (List TransferRow),
      (client contact).transfers account start page size = (do
        ExceptT.lift (contact.tell (transferFields account start page size))
        ExceptT.lift answer.sent
        ExceptT.mk (pure outcome)) ∧
      (∀ found, outcome = .ok found ↔ List.Forall₂ Reads items found) ∧
      ((∃ found, outcome = .ok found) ↔ ∀ item ∈ items, ∃ spelled,
        SpelledRow.ofJson? item = some spelled ∧
          ∀ column ∈ columns, column.IsReadable spelled) ∧
      ∀ fault, outcome = .error fault ↔ Refuses items fault) ∧
    (∀ item spelled row, SpelledRow.ofJson? item = some spelled → spelled.Denotes row →
      ∀ column ∈ columns,
        (item.Lacks SpelledRow.names column.name →
          column.isOptional = true ∧ column.text spelled = "") ∧
        (column.text spelled = "" → column.value row = 0)) ∧
    ∀ found, (decode (pageOf (found.map spelledRow)).render >>= rows) = .ok found := by
  refine ⟨⟨_, ?_, fun _ => rows_eq_ok_iff, exists_rows_iff, fun _ => rows_eq_error_iff⟩, ?_,
    rows_of_pageOf⟩
  · rw [← listed]
    exact query_of_answer answer rows
  · intro item spelled row decoded denotes column among
    exact ⟨SpelledRow.text_of_lacks decoded column among, value_of_empty denotes among⟩

end Client

namespace Sample

def row (block value : String) : SpelledRow :=
  { block, second := "-5", hash := "0x7", index := "", logIndex := "+2", sender := "0x1"
    receiver := "0x2", contract := "0x3", value, gas := "", gasPrice := "", gasUsed := "" }

/-- An explorer that always answers with these rows. -/
def contact (rows : List SpelledRow) : Contact Id where
  transport _ := some ⟨200, (pageOf rows).render⟩
  tell _ := ()
  address := "http://[::1]/api"

def url : Url where
  scheme := "http"
  authority := some ⟨[], none, some (.v6 [0, 0, 0, 0, 0, 0, 0, 1]), none⟩
  path := .rooted [['a', 'p', 'i']]
  query := none
  fragment := none

def answer (rows : List SpelledRow) : Answer (contact rows) (transferFields "0x1" 0 1 2) where
  url := url
  response := ⟨200, (pageOf rows).render⟩
  envelope := ⟨"1", "OK", .array (rows.map kept)⟩
  sent := ()
  located := by
    change Url.located "http://[::1]/api" = .ok url
    decide +kernel
  web := by decide +kernel
  answered := rfl
  success := rfl
  opened := opened_pageOf rows
  accepted := rfl

end Sample

open Explorer.Sample in
/-- The second row has a block number that is out of range, and a value that is no number either. -/
theorem transfers_exact_sample :
    (client (contact [row "7" "1_0"])).transfers "0x1" 0 1 2 = (.ok [{
        block := 7, second := -5, hash := "0x7", index := 0, logIndex := 2, sender := "0x1",
        receiver := "0x2", contract := "0x3", value := 10, gas := 0, gasPrice := 0, gasUsed := 0 }] :
      Except Fault (List TransferRow)) ∧
    (client (contact [row "7" "1_0", row "18446744073709551616" "_"])).transfers "0x1" 0 1 2 =
      (.error (unreadable .unsigned "blockNumber" "18446744073709551616") :
        Except Fault (List TransferRow)) := by
  have read : (row "7" "1_0").row = .ok {
      block := 7, second := -5, hash := "0x7", index := 0, logIndex := 2, sender := "0x1",
      receiver := "0x2", contract := "0x3", value := 10, gas := 0, gasPrice := 0, gasUsed := 0 } := by
    decide +kernel
  have large : ¬ Readable .unsigned "18446744073709551616" := by
    have unread : Decimal.uint64? "18446744073709551616" = none := by decide +kernel
    simp [readable_iff exact_unsigned "blockNumber", number, unread]
  constructor
  · obtain ⟨⟨outcome, told, good, -⟩, -⟩ := transfers_exact (answer [row "7" "1_0"]) rfl
    have reads := SpelledRow.row_eq_ok_iff.mp read
    rw [(good _).mpr (.cons ⟨_, ofJson?_kept _, reads⟩ .nil)] at told
    exact told
  · obtain ⟨⟨outcome, told, -, -, bad⟩, -⟩ :=
      transfers_exact (answer [row "7" "1_0", row "18446744073709551616" "_"]) rfl
    have decoded : List.Forall₂ (fun item spelled => SpelledRow.ofJson? item = some spelled)
        ([row "7" "1_0", row "18446744073709551616" "_"].map kept)
        ([row "7" "1_0"] ++ row "18446744073709551616" "_" :: []) :=
      .cons (ofJson?_kept _) (.cons (ofJson?_kept _) .nil)
    have good : ∀ earlier ∈ [row "7" "1_0"], ∀ column ∈ columns, column.IsReadable earlier := by
      rintro _ (_ | ⟨_, ⟨⟩⟩)
      exact SpelledRow.exists_row_iff.mp ⟨_, read⟩
    rw [(bad _).mpr (.unreadable decoded good (.here large))] at told
    exact told

end Explorer

end Passbook
