/-!
Finite maps written as their entries in ascending key order. A map is its lookups: two maps that
answer every key alike are the same value, so an order in which entries arrived leaves no trace.
-/

namespace Passbook

variable {κ β γ : Type} [Ord κ]

namespace Entries

def find? (key : κ) : List (κ × β) → Option β
  | [] => none
  | entry :: rest => if compare key entry.1 = .eq then some entry.2 else find? key rest

/-- The entry takes its place in the order, or the place of the one with its key. -/
def insert (key : κ) (value : β) : List (κ × β) → List (κ × β)
  | [] => [(key, value)]
  | entry :: rest =>
      match compare key entry.1 with
      | .lt => (key, value) :: entry :: rest
      | .eq => (key, value) :: rest
      | .gt => entry :: insert key value rest

def Ascending (entries : List (κ × β)) : Prop :=
  entries.Pairwise fun first second => compare first.1 second.1 = .lt

theorem mem_insert {key : κ} {value : β} {entry : κ × β} {entries : List (κ × β)}
    (member : entry ∈ insert key value entries) : entry = (key, value) ∨ entry ∈ entries := by
  induction entries with
  | nil => simpa [insert] using member
  | cons head rest ih =>
      simp only [insert] at member
      split at member
      · simpa using member
      · rcases List.mem_cons.mp member with same | tail
        · exact .inl same
        · exact .inr (List.mem_cons_of_mem _ tail)
      · rcases List.mem_cons.mp member with same | tail
        · exact .inr (same ▸ List.mem_cons_self)
        · exact (ih tail).imp id (List.mem_cons_of_mem _)

theorem find?_eq_none_of_above {entries : List (κ × β)} {key : κ}
    (above : ∀ entry ∈ entries, compare key entry.1 = .lt) : find? key entries = none := by
  induction entries with
  | nil => rfl
  | cons head rest ih =>
      have less := above head List.mem_cons_self
      simp [find?, less, ih fun entry member => above entry (List.mem_cons_of_mem _ member)]

variable [Std.LawfulEqOrd κ]

theorem find?_insert [DecidableEq κ] (wanted key : κ) (value : β) (entries : List (κ × β)) :
    find? wanted (insert key value entries) =
      if wanted = key then some value else find? wanted entries := by
  induction entries with
  | nil => by_cases same : wanted = key <;> simp [insert, find?, same]
  | cons head rest ih =>
      simp only [insert]
      split
      case h_1 less => by_cases same : wanted = key <;> simp [find?, same]
      case h_2 same =>
        have eq : key = head.1 := Std.LawfulEqCmp.eq_of_compare same
        by_cases found : wanted = key <;> simp [find?, found, ← eq]
      case h_3 greater =>
        by_cases found : wanted = key
        · subst found; simp [find?, ih, greater]
        · simp only [find?, ih, if_neg found]

theorem find?_eq_some_iff {entries : List (κ × β)} (ordered : Ascending entries) {key : κ}
    {value : β} : find? key entries = some value ↔ (key, value) ∈ entries := by
  induction entries with
  | nil => simp [find?]
  | cons head rest ih =>
      obtain ⟨above, tail⟩ := List.pairwise_cons.mp ordered
      obtain ⟨first, held⟩ := head
      by_cases same : compare key first = .eq
      · have eq : key = first := Std.LawfulEqCmp.eq_of_compare same
        subst eq
        have absent : (key, value) ∉ rest := fun member => by simpa using above _ member
        simp [find?, absent, eq_comm]
      · have differs : key ≠ first := fun eq => same (eq ▸ Std.ReflCmp.compare_self)
        simp [find?, same, ih tail, differs]

variable [Std.TransOrd κ]

theorem ascending_insert {entries : List (κ × β)} (ordered : Ascending entries) (key : κ)
    (value : β) : Ascending (insert key value entries) := by
  induction entries with
  | nil => simp [insert, Ascending]
  | cons head rest ih =>
      obtain ⟨above, tail⟩ := List.pairwise_cons.mp ordered
      simp only [insert]
      split
      case h_1 less =>
        refine List.pairwise_cons.mpr ⟨fun entry member => ?_, ordered⟩
        rcases List.mem_cons.mp member with same | deeper
        · exact same ▸ less
        · exact Std.TransCmp.lt_trans less (above entry deeper)
      case h_2 same =>
        have eq : key = head.1 := Std.LawfulEqCmp.eq_of_compare same
        exact List.pairwise_cons.mpr ⟨fun entry member => eq ▸ above entry member, tail⟩
      case h_3 greater =>
        refine List.pairwise_cons.mpr ⟨fun entry member => ?_, ih tail⟩
        rcases mem_insert member with same | deeper
        · subst same; exact Std.OrientedCmp.lt_of_gt greater
        · exact above entry deeper

theorem eq_of_find?_eq {first second : List (κ × β)} (ordered₁ : Ascending first)
    (ordered₂ : Ascending second) (same : ∀ key, find? key first = find? key second) :
    first = second := by
  induction first generalizing second with
  | nil =>
      cases second with
      | nil => rfl
      | cons head rest => simpa [find?] using same head.1
  | cons head rest ih =>
      cases second with
      | nil => simpa [find?] using same head.1
      | cons other tail =>
          obtain ⟨above₁, tail₁⟩ := List.pairwise_cons.mp ordered₁
          obtain ⟨above₂, tail₂⟩ := List.pairwise_cons.mp ordered₂
          have member₁ : (head.1, head.2) ∈ other :: tail :=
            (find?_eq_some_iff ordered₂).mp (by rw [← same]; simp [find?])
          have member₂ : (other.1, other.2) ∈ head :: rest :=
            (find?_eq_some_iff ordered₁).mp (by rw [same]; simp [find?])
          have heads : head = other := by
            rcases List.mem_cons.mp member₁ with eq | deeper
            · exact eq
            · rcases List.mem_cons.mp member₂ with eq | deeper'
              · exact eq.symm
              · have less := above₁ _ deeper'
                have greater := above₂ _ deeper
                simp [Std.OrientedCmp.gt_of_lt greater] at less
          subst heads
          refine congrArg (head :: ·) (ih tail₁ tail₂ fun key => ?_)
          by_cases here : compare key head.1 = .eq
          · have eq : key = head.1 := Std.LawfulEqCmp.eq_of_compare here
            rw [eq, find?_eq_none_of_above above₁, find?_eq_none_of_above above₂]
          · simpa [find?, here] using same key

end Entries

structure SortedMap (κ β : Type) [Ord κ] where
  entries : List (κ × β)
  ascending : Entries.Ascending entries
  deriving DecidableEq

namespace SortedMap

def empty : SortedMap κ β := ⟨[], List.Pairwise.nil⟩

instance : EmptyCollection (SortedMap κ β) := ⟨empty⟩
instance : Inhabited (SortedMap κ β) := ⟨empty⟩

def get? (map : SortedMap κ β) (key : κ) : Option β := Entries.find? key map.entries

def contains (map : SortedMap κ β) (key : κ) : Bool := (map.get? key).isSome

def keys (map : SortedMap κ β) : List κ := map.entries.map Prod.fst

def values (map : SortedMap κ β) : List β := map.entries.map Prod.snd

def size (map : SortedMap κ β) : Nat := map.entries.length

def isEmpty (map : SortedMap κ β) : Bool := map.entries.isEmpty

def filter (map : SortedMap κ β) (keep : κ → β → Bool) : SortedMap κ β :=
  ⟨map.entries.filter fun entry => keep entry.1 entry.2, map.ascending.filter _⟩

def erase (map : SortedMap κ β) (key : κ) : SortedMap κ β :=
  map.filter fun other _ => compare key other != .eq

def mapValues (map : SortedMap κ β) (change : κ → β → γ) : SortedMap κ γ :=
  ⟨map.entries.map fun entry => (entry.1, change entry.1 entry.2),
    List.pairwise_map.mpr (map.ascending.imp id)⟩

@[simp] theorem get?_empty (key : κ) : (empty : SortedMap κ β).get? key = none := rfl

variable [Std.LawfulEqOrd κ]

theorem get?_eq_some_iff {map : SortedMap κ β} {key : κ} {value : β} :
    map.get? key = some value ↔ (key, value) ∈ map.entries :=
  Entries.find?_eq_some_iff map.ascending

theorem get?_filter (map : SortedMap κ β) (keep : κ → β → Bool) (key : κ) :
    (map.filter keep).get? key = (map.get? key).filter (keep key) := by
  apply Option.ext
  intro value
  rw [get?_eq_some_iff, Option.filter_eq_some_iff, get?_eq_some_iff]
  simp [filter, List.mem_filter]

theorem get?_erase [DecidableEq κ] (map : SortedMap κ β) (key wanted : κ) :
    (map.erase key).get? wanted = if wanted = key then none else map.get? wanted := by
  rw [erase, get?_filter]
  by_cases same : wanted = key
  · subst same; simp
  · have differs : compare key wanted ≠ .eq := fun eq =>
      same (Std.LawfulEqCmp.eq_of_compare eq).symm
    cases map.get? wanted <;> simp [same, differs]

theorem get?_mapValues (map : SortedMap κ β) (change : κ → β → γ) (key : κ) :
    (map.mapValues change).get? key = (map.get? key).map (change key) := by
  apply Option.ext
  intro value
  rw [get?_eq_some_iff, Option.map_eq_some_iff]
  simp only [mapValues, List.mem_map, Prod.mk.injEq, Prod.exists]
  constructor
  · rintro ⟨other, found, member, rfl, rfl⟩
    exact ⟨found, get?_eq_some_iff.mpr member, rfl⟩
  · rintro ⟨found, member, rfl⟩
    exact ⟨key, found, get?_eq_some_iff.mp member, rfl, rfl⟩

theorem contains_iff_mem_keys {map : SortedMap κ β} {key : κ} :
    map.contains key = true ↔ key ∈ map.keys := by
  rw [contains, Option.isSome_iff_exists, keys, List.mem_map]
  constructor
  · rintro ⟨value, found⟩
    exact ⟨(key, value), get?_eq_some_iff.mp found, rfl⟩
  · rintro ⟨entry, member, rfl⟩
    exact ⟨entry.2, get?_eq_some_iff.mpr member⟩

variable [Std.TransOrd κ]

def insert (map : SortedMap κ β) (key : κ) (value : β) : SortedMap κ β :=
  ⟨Entries.insert key value map.entries, Entries.ascending_insert map.ascending key value⟩

def insertIfNew (map : SortedMap κ β) (key : κ) (value : β) : SortedMap κ β :=
  if map.contains key then map else map.insert key value

/-- Of several entries with one key the last stands. -/
def ofList (entries : List (κ × β)) : SortedMap κ β :=
  entries.foldl (fun map entry => map.insert entry.1 entry.2) empty

@[ext] theorem ext {first second : SortedMap κ β}
    (same : ∀ key, first.get? key = second.get? key) : first = second := by
  obtain ⟨entries₁, ascending₁⟩ := first
  obtain ⟨entries₂, ascending₂⟩ := second
  congr 1
  exact Entries.eq_of_find?_eq ascending₁ ascending₂ same

theorem get?_insert [DecidableEq κ] (map : SortedMap κ β) (key wanted : κ) (value : β) :
    (map.insert key value).get? wanted = if wanted = key then some value else map.get? wanted :=
  Entries.find?_insert wanted key value map.entries

@[simp] theorem get?_insert_self (map : SortedMap κ β) (key : κ) (value : β) :
    (map.insert key value).get? key = some value :=
  haveI : DecidableEq κ := fun _ _ => Classical.propDecidable _
  by simp [get?_insert]

end SortedMap

end Passbook
