import Passbook.Json.Record
import Passbook.Proofs.Json.Plain
/-!
Records are read as they are written: every name holds what was written under it, whatever stands
under the others.
-/

namespace Passbook

namespace Word

@[simp] theorem int64?_toInt (value : Int64) : int64? value.toInt = some value := by
  have fits : -(limit : Int) ≤ value.toInt ∧ value.toInt < limit :=
    ⟨Int64.le_toInt value, Int64.toInt_lt value⟩
  rw [int64?, if_pos fits, Int64.ofInt_toInt]

@[simp] theorem uint64?_toNat (value : UInt64) : uint64? value.toNat = some value := by
  have fits : (0 : Int) ≤ value.toNat ∧ (value.toNat : Int) < UInt64.size :=
    ⟨Int.natCast_nonneg _, Int.ofNat_lt.mpr value.toNat_lt_size⟩
  rw [uint64?, if_pos fits, Int.toNat_natCast, UInt64.ofNat_toNat]

theorem uint64?_eq_some_iff {value : Int} {word : UInt64} :
    uint64? value = some word ↔ value = word.toNat := by
  constructor
  · intro read
    unfold uint64? at read
    split at read
    case isTrue fits =>
      cases read
      rw [UInt64.toNat_ofNat_of_lt' (by omega), Int.toNat_of_nonneg fits.1]
    case isFalse => cases read
  · rintro rfl
    exact uint64?_toNat word

theorem int64?_eq_some_iff {value : Int} {word : Int64} :
    int64? value = some word ↔ value = word.toInt := by
  constructor
  · intro read
    unfold int64? at read
    split at read
    case isTrue fits =>
      cases read
      rw [Int64.toInt_ofInt_of_le fits.1 fits.2]
    case isFalse => cases read
  · rintro rfl
    exact int64?_toInt word

theorem uint32?_of_lt {value : Nat} (small : value < UInt32.size) :
    uint32? value = some (UInt32.ofNat value) := by
  have fits : (0 : Int) ≤ value ∧ (value : Int) < UInt32.size :=
    ⟨Int.natCast_nonneg _, Int.ofNat_lt.mpr small⟩
  rw [uint32?, if_pos fits, Int.toNat_natCast]

end Word

namespace Json

@[simp] theorem string?_text (value : String) : (text value).string? = some value :=
  Literal.text?_ofString value

@[simp] theorem bool?_bool (value : Bool) : (bool value).bool? = some value := rfl

@[simp] theorem int?_int (value : Int) : (int value).int? = some value :=
  Numeral.int?_ofInt value

@[simp] theorem int?_nat (value : Nat) : (nat value).int? = some (value : Int) := by
  rw [nat_eq_int, int?_int]

theorem uint32?_nat {value : Nat} (small : value < UInt32.size) :
    (nat value).uint32? = some (UInt32.ofNat value) := by
  rw [uint32?, int?_nat, Option.bind_some, Word.uint32?_of_lt small]

theorem Plain.nat {depth value : Nat} (small : value < UInt64.size) : Plain depth (.nat value) := by
  rw [nat_eq_int]
  refine .int (.inr ?_)
  rw [← UInt64.toNat_ofNat_of_lt' small, Word.uint64?_toNat]
  rfl

theorem named?_record (members : List (String × Json)) :
    named? (members.map fun member => (Literal.ofString member.1, member.2)) = some members := by
  induction members with
  | nil => rfl
  | cons member rest ih => simp [named?, ih]

theorem slotOf?_of_mem {members : List (String × Json)}
    (distinct : (members.map Prod.fst).Nodup) {member : String × Json} (held : member ∈ members) :
    slotOf? members member.1 = some (.given member.2) := by
  have only : members.filter (fun other => other.1 == member.1) = [member] := by
    induction members with
    | nil => cases held
    | cons first rest ih =>
        obtain ⟨fresh, others⟩ := List.nodup_cons.mp distinct
        rcases List.mem_cons.mp held with rfl | later
        · have none : rest.filter (fun other => other.1 == member.1) = [] := by
            rw [List.filter_eq_nil_iff]
            intro other present same
            exact fresh (beq_iff_eq.mp same ▸ List.mem_map_of_mem present)
          simp [none]
        · have differs : first.1 ≠ member.1 := fun same =>
            fresh (same ▸ List.mem_map_of_mem later)
          rw [List.filter_cons_of_neg (by simpa using differs)]
          exact ih others later
  rw [slotOf?, only]

/-- What a record holds that has a value under every name. -/
def slots (members : List (String × Json)) : Record :=
  members.map fun member => (member.1, .given member.2)

/-- Members stand in any order, and among others. -/
theorem record?_of_subset {members written : List (String × Json)} {names : List String}
    (same : written.map Prod.fst = names) (distinct : (members.map Prod.fst).Nodup)
    (among : ∀ member ∈ written, member ∈ members) :
    (record members).record? names = some (slots written) := by
  subst same
  rw [record, record?, named?_record, Option.bind_some]
  induction written with
  | nil => rfl
  | cons member rest ih =>
      obtain ⟨here, others⟩ := List.forall_mem_cons.mp among
      simp [slotsByName?, slotOf?_of_mem distinct here, ih others, slots]

theorem record?_record {members : List (String × Json)} (names : List String)
    (same : members.map Prod.fst = names) (distinct : names.Nodup) :
    (record members).record? names = some (slots members) :=
  record?_of_subset same (same ▸ distinct) fun _ => id

/-- Nothing stands under the name: an object has no such member, or an array ends before it. -/
def Lacks (names : List String) (name : String) : Json → Prop
  | .object members => ∀ member ∈ members, member.1.text? ≠ some name
  | .array items => items.length ≤ names.idxOf name
  | _ => True

theorem exists_of_named? {members : List (Literal × Json)} {found : List (String × Json)}
    (read : named? members = some found) {member : String × Json} (held : member ∈ found) :
    ∃ origin ∈ members, origin.1.text? = some member.1 := by
  induction members generalizing found with
  | nil =>
      cases read
      cases held
  | cons first rest ih =>
      rw [named?] at read
      split at read
      case h_1 name others spelled follows =>
        cases read
        rcases List.mem_cons.mp held with rfl | later
        · exact ⟨first, List.mem_cons_self, spelled⟩
        · obtain ⟨origin, among, same⟩ := ih follows later
          exact ⟨origin, List.mem_cons_of_mem _ among, same⟩
      case h_2 => cases read

namespace Record

/-- The record has nothing under the name. -/
def Vacant (record : Record) (name : String) : Prop := ∀ json, record.slot name ≠ .given json

theorem vacant_of_lookup {record : Record} {name : String}
    (vacant : ∀ json, record.lookup name ≠ some (.given json)) : record.Vacant name := by
  intro json held
  unfold slot at held
  cases found : record.lookup name with
  | none =>
      rw [found] at held
      cases held
  | some slot =>
      rw [found] at held
      exact vacant json (found.trans (congrArg some held))

variable {α : Type} {record : Record} {name : String}

theorem required_of_vacant (vacant : record.Vacant name) (read : Json → Option α) :
    record.required name read = none := by
  unfold required
  split
  case h_1 json held => exact absurd held (vacant json)
  case h_2 => rfl

theorem defaulted_of_vacant (vacant : record.Vacant name) (default : α)
    (read : Json → Option α) : record.defaulted name default read = some default := by
  unfold defaulted
  split
  case h_1 json held => exact absurd held (vacant json)
  case h_2 => rfl

end Record

namespace Record

@[simp] theorem slot_cons_self (name : String) (held : Slot) (rest : Record) :
    slot ((name, held) :: rest) name = held := by
  simp [slot]

@[simp] theorem slot_cons_of_ne {name other : String} (differs : name ≠ other) (held : Slot)
    (rest : Record) : slot ((other, held) :: rest) name = slot rest name := by
  have apart : (name == other) = false := by simpa using differs
  rw [slot, List.lookup_cons, apart]
  rfl

end Record

/-! Records whose members may be missing or null. -/

theorem slotOf?_of_not_mem {members : List (String × Json)} {name : String}
    (lacks : name ∉ members.map Prod.fst) : slotOf? members name = some .unnamed := by
  have none : members.filter (fun member => member.1 == name) = [] := by
    rw [List.filter_eq_nil_iff]
    intro member present same
    exact lacks (beq_iff_eq.mp same ▸ List.mem_map_of_mem present)
  rw [slotOf?, none]

/-- What is read under a name that may be missing or have null in its place. -/
inductive Holds {α : Type} (members : List (String × Json)) (name : String)
    (read : Json → Option α) : Option α → Prop
  | missing (lacks : name ∉ members.map Prod.fst) : Holds members name read none
  | null (held : (name, Json.null) ∈ members) : Holds members name read none
  | given {json : Json} {value : α} (held : (name, json) ∈ members) (present : json ≠ .null)
      (told : read json = some value) : Holds members name read (some value)

theorem nullable_of_ne {α : Type} {json : Json} (present : json ≠ .null) (read : Json → Option α) :
    nullable read json = (read json).map some := by
  cases json with
  | null => exact absurd rfl present
  | _ => rfl

section Holds
variable {α : Type} {members : List (String × Json)} {name : String} {read : Json → Option α}
  {value : Option α}

/-- A name stands once. -/
theorem eq_of_distinct (distinct : (members.map Prod.fst).Nodup) {json other : Json}
    (held : (name, json) ∈ members) (held' : (name, other) ∈ members) : json = other := by
  have slot : slotOf? members name = some (.given json) := slotOf?_of_mem distinct held
  have slot' : slotOf? members name = some (.given other) := slotOf?_of_mem distinct held'
  exact Slot.given.inj (Option.some.inj (slot.symm.trans slot'))

theorem holds_of_not_mem_iff (lacks : name ∉ members.map Prod.fst) :
    Holds members name read value ↔ value = none := by
  constructor
  · intro holds
    cases holds with
    | missing _ => rfl
    | null held => rfl
    | given held _ _ => exact absurd (List.mem_map_of_mem held) lacks
  · rintro rfl
    exact .missing lacks

theorem holds_of_mem_iff (distinct : (members.map Prod.fst).Nodup) {json : Json}
    (held : (name, json) ∈ members) :
    Holds members name read value ↔ nullable read json = some value := by
  constructor
  · intro holds
    cases holds with
    | missing lacks => exact absurd (List.mem_map_of_mem held) lacks
    | null held' =>
        cases eq_of_distinct distinct held held'
        rfl
    | given held' present told =>
        cases eq_of_distinct distinct held held'
        rw [nullable_of_ne present, told]
        rfl
  · intro told
    by_cases absent : json = .null
    · subst absent
      cases told
      exact .null held
    · rw [nullable_of_ne absent] at told
      obtain ⟨found, own, rfl⟩ := Option.map_eq_some_iff.mp told
      exact .given held absent own

theorem defaulted_eq_some_iff {record : Record} (distinct : (members.map Prod.fst).Nodup)
    (slot : slotOf? members name = some (record.slot name)) :
    record.defaulted name none (nullable read) = some value ↔ Holds members name read value := by
  by_cases there : name ∈ members.map Prod.fst
  · obtain ⟨⟨_, json⟩, held, rfl⟩ := List.mem_map.mp there
    have own : record.slot _ = .given json :=
      Option.some.inj (slot.symm.trans (slotOf?_of_mem distinct held))
    rw [holds_of_mem_iff distinct held, Record.defaulted, own]
  · have own : record.slot name = .unnamed :=
      Option.some.inj (slot.symm.trans (slotOf?_of_not_mem there))
    rw [holds_of_not_mem_iff there, Record.defaulted, own, Option.some.injEq]
    exact eq_comm

/-- An object whose names are texts, no two the same, is a record under whatever names. -/
theorem exists_record {written : List (Literal × Json)} (named : named? written = some members)
    (distinct : (members.map Prod.fst).Nodup) (names : List String) :
    ∃ record : Record, (object written).record? names = some record ∧
      ∀ name ∈ names, slotOf? members name = some (record.slot name) := by
  rw [record?, named, Option.bind_some]
  induction names with
  | nil => exact ⟨[], rfl, nofun⟩
  | cons first rest ih =>
      obtain ⟨others, read, slots⟩ := ih
      obtain ⟨slot, here⟩ : ∃ slot, slotOf? members first = some slot := by
        by_cases there : first ∈ members.map Prod.fst
        · obtain ⟨_, held, rfl⟩ := List.mem_map.mp there
          exact ⟨_, slotOf?_of_mem distinct held⟩
        · exact ⟨_, slotOf?_of_not_mem there⟩
      refine ⟨(first, slot) :: others, by rw [slotsByName?, here, read], fun name member => ?_⟩
      by_cases same : name = first
      · rw [same, Record.slot_cons_self]
        exact here
      · rw [Record.slot_cons_of_ne same]
        exact slots name ((List.mem_cons.mp member).resolve_left same)

end Holds

theorem slotOf?_eq_given {members : List (String × Json)} {name : String} {json : Json}
    (held : slotOf? members name = some (.given json)) : (name, json) ∈ members := by
  unfold slotOf? at held
  split at held
  case h_1 => cases held
  case h_2 member only =>
    cases held
    have kept : member ∈ members.filter fun member => member.1 == name := by
      rw [only]
      exact List.mem_singleton_self member
    obtain ⟨among, own⟩ := List.mem_filter.mp kept
    rwa [← beq_iff_eq.mp own]
  case h_3 => cases held

theorem lookup_slotsByName? {members : List (String × Json)} {names : List String}
    {record : Record} (read : slotsByName? members names = some record) {name : String}
    {slot : Slot} (found : record.lookup name = some slot) : slotOf? members name = some slot := by
  induction names generalizing record with
  | nil =>
      cases read
      cases found
  | cons first rest ih =>
      rw [slotsByName?] at read
      split at read
      case h_1 here others held follows =>
        cases read
        rw [List.lookup_cons] at found
        split at found
        case h_1 same =>
          cases found
          rwa [beq_iff_eq.mp same]
        case h_2 => exact ih follows found
      case h_2 => cases read

theorem lookup_slotsByPlace? {items : List Json} {names : List String} {record : Record}
    (read : slotsByPlace? items names = some record) {name : String} {json : Json}
    (found : record.lookup name = some (.given json)) : names.idxOf name < items.length := by
  induction items generalizing names record with
  | nil =>
      -- Behind the end of the array no name has anything.
      rw [slotsByPlace?, Option.some.injEq] at read
      subst read
      induction names with
      | nil => cases found
      | cons first rest ih =>
          rw [List.map_cons, List.lookup_cons] at found
          split at found
          case h_1 => cases found
          case h_2 => exact absurd (ih found) (Nat.not_lt_zero _)
  | cons item items ih =>
      cases names with
      | nil => cases read
      | cons first rest =>
          obtain ⟨others, follows, rfl⟩ := Option.map_eq_some_iff.mp read
          rw [List.lookup_cons] at found
          split at found
          case h_1 same => simp [beq_iff_eq.mp same]
          case h_2 other =>
            have differs : first ≠ name := Ne.symm (by simpa using other)
            rw [List.idxOf_cons, beq_eq_false_iff_ne.mpr differs, List.length_cons]
            exact Nat.succ_lt_succ (ih follows found)

/-- What a record lacks, its reading has not. -/
theorem vacant_of_lacks {names : List String} {name : String} {json : Json} {record : Record}
    (read : json.record? names = some record) (lacks : Lacks names name json) :
    record.Vacant name := by
  refine Record.vacant_of_lookup fun held found => ?_
  unfold record? at read
  split at read
  case h_1 members =>
    obtain ⟨named, spelled, read⟩ := Option.bind_eq_some_iff.mp read
    have member := slotOf?_eq_given (lookup_slotsByName? read found)
    obtain ⟨origin, among, same⟩ := exists_of_named? spelled member
    exact lacks origin among same
  case h_2 items => exact absurd (lookup_slotsByPlace? read found) (Nat.not_lt.mpr lacks)
  case h_3 => cases read

section Normal

theorem normal?_text (value : String) : (text value).normal? = some (text value) := by
  rw [text, normal?, Literal.text?_ofString]
  rfl

theorem normalItems?_map {α : Type} {write made : α → Json} {items : List α}
    (known : ∀ item ∈ items, (write item).normal? = some (made item)) :
    normalItems? (items.map write) = some (items.map made) := by
  induction items with
  | nil => rfl
  | cons item rest ih =>
      obtain ⟨here, others⟩ := List.forall_mem_cons.mp known
      simp only [List.map_cons, normalItems?, here, ih others]

/-- A record of values that stand for themselves is put into the order of its names. -/
theorem normal?_record {members : List (String × Json)}
    (known : ∀ member ∈ members, member.2.normal? = some member.2) :
    (record members).normal? = some (record (SortedMap.ofList members).entries) := by
  have each : normalMembers? (members.map fun member => (Literal.ofString member.1, member.2)) =
      some members := by
    induction members with
    | nil => rfl
    | cons member rest ih =>
        obtain ⟨here, others⟩ := List.forall_mem_cons.mp known
        simp only [List.map_cons, normalMembers?, Literal.text?_ofString, here, ih others]
  rw [record, normal?, each]
  rfl

end Normal

theorem mapM_of_reads {α β : Type} {write : α → β} {read : β → Option α} {items : List α}
    (reads : ∀ item ∈ items, read (write item) = some item) :
    (items.map write).mapM read = some items := by
  induction items with
  | nil => rfl
  | cons item rest ih =>
      obtain ⟨here, others⟩ := List.forall_mem_cons.mp reads
      simp [here, ih others]

end Json

end Passbook
