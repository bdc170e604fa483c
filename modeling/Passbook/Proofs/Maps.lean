import Mathlib.Data.List.Forall2
import Mathlib.Data.List.Nodup
import Passbook.SortedMap
/-!
Sorted maps after many insertions, and lists of steps of which each may fail.
-/

namespace Passbook

section Steps
variable {ε α β : Type}

theorem bind_eq_ok_iff {step : Except ε α} {next : α → Except ε β} {result : β} :
    (step >>= next) = .ok result ↔ ∃ value, step = .ok value ∧ next value = .ok result := by
  cases step with
  | error problem => simp [bind, Except.bind]
  | ok value => simp [bind, Except.bind]

/-- What can be told of a result by evaluation. -/
theorem exists_of_toOption_map {outcome : Except ε α} {told : α → β} {value : β}
    (done : outcome.toOption.map told = some value) :
    ∃ result, outcome = .ok result ∧ told result = value := by
  cases outcome with
  | error problem => cases done
  | ok result => exact ⟨result, rfl, Option.some.inj done⟩

theorem mapM_eq_ok_iff {step : α → Except ε β} {items : List α} {results : List β} :
    items.mapM step = .ok results ↔ List.Forall₂ (fun item result => step item = .ok result)
      items results := by
  induction items generalizing results with
  | nil => simp [pure, Except.pure, eq_comm]
  | cons item rest ih =>
      simp only [List.mapM_cons, bind_eq_ok_iff, ih, List.forall₂_cons_left_iff]
      constructor
      · rintro ⟨result, first, others, follows, built⟩
        cases built
        exact ⟨result, others, first, follows, rfl⟩
      · rintro ⟨result, others, first, follows, rfl⟩
        exact ⟨result, first, others, follows, rfl⟩

theorem exists_of_forall₂ {related : α → β → Prop} {items : List α} {results : List β}
    (told : List.Forall₂ related items results) {item : α} (member : item ∈ items) :
    ∃ result ∈ results, related item result := by
  induction told with
  | nil => cases member
  | cons first _ ih =>
      rcases List.mem_cons.mp member with rfl | later
      · exact ⟨_, List.mem_cons_self, first⟩
      · obtain ⟨result, among, holds⟩ := ih later
        exact ⟨result, List.mem_cons_of_mem _ among, holds⟩

theorem forall₂_of_read {γ : Type} {read : α → Option β} {related : β → γ → Prop} {items : List α}
    {middle : List β} {results : List γ}
    (known : List.Forall₂ (fun item value => read item = some value) items middle) :
    List.Forall₂ related middle results ↔
      List.Forall₂ (fun item result => ∃ value, read item = some value ∧ related value result)
        items results := by
  induction known generalizing results with
  | nil => simp
  | cons first _ ih => simp [List.forall₂_cons_left_iff, first, ih]

theorem mem_of_mapM_eq_ok {step : α → Except ε β} {items : List α} {results : List β}
    (done : items.mapM step = .ok results) {result : β} :
    result ∈ results ↔ ∃ item ∈ items, step item = .ok result := by
  rw [mapM_eq_ok_iff] at done
  induction done with
  | nil => simp
  | cons first _ ih => simp [ih, first, eq_comm]

theorem mapM_replicate {step : α → Except ε β} {item : α} {result : β}
    (done : step item = .ok result) (count : Nat) :
    (List.replicate count item).mapM step = .ok (List.replicate count result) := by
  rw [mapM_eq_ok_iff]
  induction count with
  | zero => exact .nil
  | succ count ih => exact .cons done ih

theorem exists_of_mapM_eq_ok {step : α → Except ε β} {items : List α} {results : List β}
    (done : items.mapM step = .ok results) {item : α} (member : item ∈ items) :
    ∃ result, step item = .ok result := by
  obtain ⟨result, _, told⟩ := exists_of_forall₂ (mapM_eq_ok_iff.mp done) member
  exact ⟨result, told⟩

/-- Results that tell what they were made of stand in its order. -/
theorem map_eq_of_mapM {step : α → Except ε β} {label : β → α} {items : List α} {results : List β}
    (own : ∀ item result, step item = .ok result → label result = item)
    (done : items.mapM step = .ok results) : results.map label = items := by
  have same : List.Forall₂ (· = ·) items (results.map label) := by
    rw [List.forall₂_map_right_iff]
    exact (mapM_eq_ok_iff.mp done).imp fun item result told => (own item result told).symm
  rw [List.forall₂_eq_eq_eq] at same
  exact same.symm

/-- The first step that fails is the one that is told of. -/
theorem exists_split_of_mapM_eq_error {step : α → Except ε β} {items : List α} {problem : ε}
    (failed : items.mapM step = .error problem) :
    ∃ before item rest, items = before ++ item :: rest ∧
      (∀ earlier ∈ before, ∃ result, step earlier = .ok result) ∧ step item = .error problem := by
  induction items with
  | nil => cases failed
  | cons item rest ih =>
      cases first : step item with
      | error other =>
          simp only [List.mapM_cons, first, bind, Except.bind, Except.error.injEq] at failed
          exact ⟨[], item, rest, rfl, by simp, failed ▸ first⟩
      | ok result =>
          cases follows : rest.mapM step with
          | error other =>
              simp only [List.mapM_cons, first, follows, bind, Except.bind,
                Except.error.injEq] at failed
              obtain ⟨before, later, after, rfl, passed, met⟩ := ih (failed ▸ follows)
              exact ⟨item :: before, later, after, rfl,
                List.forall_mem_cons.mpr ⟨⟨result, first⟩, passed⟩, met⟩
          | ok results =>
              simp [List.mapM_cons, first, follows, bind, Except.bind, pure, Except.pure] at failed

theorem mapM_eq_error_of_split {step : α → Except ε β} {before rest : List α} {item : α}
    {problem : ε} (passed : ∀ earlier ∈ before, ∃ result, step earlier = .ok result)
    (met : step item = .error problem) :
    (before ++ item :: rest).mapM step = .error problem := by
  induction before with
  | nil => simp [List.mapM_cons, met, bind, Except.bind]
  | cons first before ih =>
      obtain ⟨⟨result, here⟩, others⟩ := List.forall_mem_cons.mp passed
      simp [List.mapM_cons, here, ih others, bind, Except.bind]

theorem mapM_eq_some_iff {read : α → Option β} {items : List α} {results : List β} :
    items.mapM read = some results ↔
      List.Forall₂ (fun item result => read item = some result) items results := by
  induction items generalizing results with
  | nil => simp [eq_comm]
  | cons item rest ih =>
      simp only [List.mapM_cons, Option.bind_eq_bind, Option.bind_eq_some_iff, ih,
        List.forall₂_cons_left_iff]
      constructor
      · rintro ⟨result, first, others, follows, built⟩
        cases built
        exact ⟨result, others, first, follows, rfl⟩
      · rintro ⟨result, others, first, follows, rfl⟩
        exact ⟨result, first, others, follows, rfl⟩

theorem mapM_eq_none_iff {read : α → Option β} {items : List α} :
    items.mapM read = none ↔ ∃ item ∈ items, read item = none := by
  induction items with
  | nil => simp
  | cons item rest ih =>
      rw [List.mapM_cons, List.exists_mem_cons_iff, ← ih]
      cases read item <;> cases rest.mapM read <;> simp

theorem exists_of_mapM_eq_error {step : α → Except ε β} {items : List α} {problem : ε}
    (failed : items.mapM step = .error problem) : ∃ item ∈ items, step item = .error problem := by
  obtain ⟨before, item, rest, rfl, -, met⟩ := exists_split_of_mapM_eq_error failed
  exact ⟨item, by simp, met⟩

theorem exists_mapM_eq_ok (step : α → Except ε β) (items : List α)
    (succeed : ∀ item ∈ items, ∃ result, step item = .ok result) :
    ∃ results, items.mapM step = .ok results := by
  induction items with
  | nil => exact ⟨[], rfl⟩
  | cons item rest ih =>
      obtain ⟨result, first⟩ := succeed item List.mem_cons_self
      obtain ⟨results, follows⟩ := ih fun other member =>
        succeed other (List.mem_cons_of_mem item member)
      exact ⟨result :: results, by simp [first, follows, bind, Except.bind, pure, Except.pure]⟩

/-- What every step keeps holds in the end, if all of them succeed. -/
theorem foldlM_induction {step : β → α → Except ε β} {items : List α} {start result : β}
    (holds : β → Prop) (done : items.foldlM step start = .ok result) (first : holds start)
    (kept : ∀ item ∈ items, ∀ before after, holds before → step before item = .ok after →
      holds after) : holds result := by
  induction items generalizing start with
  | nil =>
      cases done
      exact first
  | cons item rest ih =>
      rw [List.foldlM_cons, bind_eq_ok_iff] at done
      obtain ⟨middle, stepped, later⟩ := done
      obtain ⟨here, others⟩ := List.forall_mem_cons.mp kept
      exact ih later (here start middle first stepped) others

/-- The first step that fails ends the fold. -/
theorem foldlM_eq_error_iff {step : β → α → Except ε β} {items : List α} {start : β}
    {problem : ε} :
    items.foldlM step start = .error problem ↔
      ∃ before item rest middle, items = before ++ item :: rest ∧
        before.foldlM step start = .ok middle ∧ step middle item = .error problem := by
  constructor
  · intro failed
    induction items generalizing start with
    | nil => cases failed
    | cons item rest ih =>
        cases first : step start item with
        | error other =>
            rw [List.foldlM_cons, first] at failed
            cases failed
            exact ⟨[], item, rest, start, rfl, rfl, first⟩
        | ok next =>
            rw [List.foldlM_cons, first] at failed
            obtain ⟨before, other, later, middle, rfl, reached, met⟩ := ih failed
            refine ⟨item :: before, other, later, middle, rfl, ?_, met⟩
            rw [List.foldlM_cons, first]
            exact reached
  · rintro ⟨before, item, rest, middle, rfl, reached, met⟩
    rw [List.foldlM_append, reached]
    change (item :: rest).foldlM step middle = _
    rw [List.foldlM_cons, met]
    rfl

end Steps

/-- Where anything is met at all, something is met first. -/
theorem exists_first {α : Type} {met : List α → α → Prop} {items : List α} :
    (∃ before item rest, items = before ++ item :: rest ∧ met before item) ↔
      ∃ before item rest, items = before ++ item :: rest ∧ met before item ∧
        ∀ sooner other between, before = sooner ++ other :: between → ¬ met sooner other := by
  constructor
  · rintro ⟨before, item, rest, split, here⟩
    induction length : before.length using Nat.strongRecOn generalizing before item rest with
    | _ _ ih =>
        subst length
        by_cases first : ∀ sooner other between,
            before = sooner ++ other :: between → ¬ met sooner other
        · exact ⟨before, item, rest, split, here, first⟩
        · push Not at first
          obtain ⟨sooner, other, between, rfl, there⟩ := first
          refine ih sooner.length (by simp) sooner other (between ++ item :: rest) ?_ there rfl
          simpa using split
  · rintro ⟨before, item, rest, split, here, _⟩
    exact ⟨before, item, rest, split, here⟩

/-- Leaving entries out leaves no key twice. -/
theorem Entries.nodup_filterMap {κ β γ : Type} {entries : List (κ × β)}
    (distinct : (entries.map Prod.fst).Nodup) (pick : κ → β → Option γ) :
    ((entries.filterMap fun entry =>
      (pick entry.1 entry.2).map (entry.1, ·)).map Prod.fst).Nodup := by
  refine distinct.sublist ?_
  clear distinct
  induction entries with
  | nil => exact List.Sublist.slnil
  | cons entry rest ih =>
      cases picked : pick entry.1 entry.2 with
      | none =>
          rw [List.filterMap_cons_none (by simp [picked])]
          exact ih.cons _
      | some value =>
          rw [List.filterMap_cons_some (by rw [picked]; rfl)]
          exact ih.cons_cons _

variable {κ β : Type} [Ord κ]

namespace Entries
variable [Std.LawfulEqOrd κ] [DecidableEq κ]

theorem find?_cons (key : κ) (entry : κ × β) (rest : List (κ × β)) :
    find? key (entry :: rest) = if key = entry.1 then some entry.2 else find? key rest := by
  simp only [find?, Std.compare_eq_iff_eq]

theorem find?_append (key : κ) (first second : List (κ × β)) :
    find? key (first ++ second) = (find? key first).or (find? key second) := by
  induction first with
  | nil => rfl
  | cons entry rest ih =>
      rw [List.cons_append, find?_cons, find?_cons, ih]
      split <;> rfl

theorem find?_map {α : Type} (key : κ) (items : List α) (place : α → κ) (value : α → β) :
    find? key (items.map fun item => (place item, value item)) =
      (items.find? fun item => place item = key).map value := by
  induction items with
  | nil => rfl
  | cons item rest ih =>
      rw [List.map_cons, find?_cons, ih, List.find?_cons]
      by_cases same : place item = key
      · simp [same]
      · simp [same, Ne.symm same]

theorem mem_of_find?_eq_some {entries : List (κ × β)} {key : κ} {value : β}
    (found : find? key entries = some value) : (key, value) ∈ entries := by
  induction entries with
  | nil => cases found
  | cons entry rest ih =>
      rw [find?_cons] at found
      by_cases same : key = entry.1
      · rw [if_pos same, Option.some.injEq] at found
        rw [same, ← found]
        exact List.mem_cons_self
      · rw [if_neg same] at found
        exact List.mem_cons_of_mem _ (ih found)

theorem find?_eq_some_iff_of_nodup {entries : List (κ × β)}
    (distinct : (entries.map Prod.fst).Nodup) {key : κ} {value : β} :
    find? key entries = some value ↔ (key, value) ∈ entries := by
  induction entries with
  | nil => simp [find?]
  | cons entry rest ih =>
      obtain ⟨first, held⟩ := entry
      obtain ⟨fresh, tail⟩ := List.nodup_cons.mp distinct
      by_cases same : key = first
      · subst same
        have absent : (key, value) ∉ rest := fun member =>
          fresh (List.mem_map.mpr ⟨_, member, rfl⟩)
        simp [find?_cons, absent, eq_comm]
      · simp [find?_cons, ih tail, same]

theorem find?_reverse_of_nodup {entries : List (κ × β)}
    (distinct : (entries.map Prod.fst).Nodup) (key : κ) :
    find? key entries.reverse = find? key entries := by
  have turned : (entries.reverse.map Prod.fst).Nodup := by
    rw [List.map_reverse]
    exact List.nodup_reverse.mpr distinct
  apply Option.ext
  intro value
  rw [find?_eq_some_iff_of_nodup turned, find?_eq_some_iff_of_nodup distinct, List.mem_reverse]

theorem find?_isSome_iff {entries : List (κ × β)} {key : κ} :
    (find? key entries).isSome = true ↔ key ∈ entries.map Prod.fst := by
  induction entries with
  | nil => simp [find?]
  | cons entry rest ih =>
      by_cases same : key = entry.1
      · simp [find?_cons, same]
      · simp only [find?_cons, same, if_false, ih, List.map_cons, List.mem_cons, false_or]

theorem find?_filterMap {γ : Type} {entries : List (κ × β)}
    (distinct : (entries.map Prod.fst).Nodup) (pick : κ → β → Option γ) (key : κ) :
    find? key (entries.filterMap fun entry => (pick entry.1 entry.2).map (entry.1, ·)) =
      (find? key entries).bind (pick key) := by
  induction entries with
  | nil => rfl
  | cons entry rest ih =>
      obtain ⟨fresh, tail⟩ := List.nodup_cons.mp distinct
      by_cases same : key = entry.1
      · subst same
        cases picked : pick entry.1 entry.2 with
        | some value => simp [find?_cons, picked]
        | none =>
            have absent : find? entry.1 rest = none := by
              rw [← Option.isNone_iff_eq_none, ← Option.isSome_eq_false_iff,
                ← Bool.not_eq_true, find?_isSome_iff]
              exact fresh
            simp [find?_cons, picked, ih tail, absent]
      · cases picked : pick entry.1 entry.2 <;> simp [find?_cons, same, picked, ih tail]

end Entries

namespace SortedMap

theorem contains_iff_exists {map : SortedMap κ β} {key : κ} :
    map.contains key = true ↔ ∃ value, map.get? key = some value :=
  Option.isSome_iff_exists

theorem contains_eq_false_iff {map : SortedMap κ β} {key : κ} :
    map.contains key = false ↔ map.get? key = none := by
  rw [contains, Option.isSome_eq_false_iff, Option.isNone_iff_eq_none]

theorem pairwise_keys (map : SortedMap κ β) :
    map.keys.Pairwise fun first second => compare first second = .lt :=
  List.pairwise_map.mpr map.ascending

theorem keys_mapValues {γ : Type} (map : SortedMap κ β) (change : κ → β → γ) :
    (map.mapValues change).keys = map.keys :=
  List.map_map

section Pick
variable {γ : Type}

/-- The entries that are picked, each with what it is picked as. -/
def pick (map : SortedMap κ β) (choose : κ → β → Option γ) : SortedMap κ γ where
  entries := map.entries.filterMap fun entry => (choose entry.1 entry.2).map (entry.1, ·)
  ascending := by
    refine List.pairwise_filterMap.mpr (map.ascending.imp ?_)
    rintro first second less entry picked other picked'
    obtain ⟨value, _, rfl⟩ := Option.map_eq_some_iff.mp picked
    obtain ⟨value', _, rfl⟩ := Option.map_eq_some_iff.mp picked'
    exact less

variable (map : SortedMap κ β) (choose : κ → β → Option γ)

theorem values_pick : (map.pick choose).values =
    map.entries.filterMap fun entry => choose entry.1 entry.2 := by
  simp only [pick, values, List.map_filterMap, Option.map_map]
  exact List.filterMap_congr fun entry _ => by cases choose entry.1 entry.2 <;> rfl

theorem keys_pick : (map.pick choose).keys =
    map.entries.filterMap fun entry => (choose entry.1 entry.2).map fun _ => entry.1 := by
  simp only [pick, keys, List.map_filterMap, Option.map_map]
  rfl

theorem size_pick : (map.pick choose).size =
    map.entries.countP fun entry => (choose entry.1 entry.2).isSome := by
  simp only [pick, size, List.length_filterMap_eq_countP, Option.isSome_map]

end Pick

variable [Std.LawfulEqOrd κ]

theorem keys_nodup (map : SortedMap κ β) : map.keys.Nodup := by
  apply List.pairwise_map.mpr
  refine map.ascending.imp fun {first second} less same => ?_
  have itself : compare second.1 second.1 = .eq := Std.ReflCmp.compare_self
  rw [same, itself] at less
  cases less

theorem get?_pick {γ : Type} [DecidableEq κ] (map : SortedMap κ β) (choose : κ → β → Option γ)
    (key : κ) :
    (map.pick choose).get? key = (map.get? key).bind (choose key) :=
  Entries.find?_filterMap map.keys_nodup choose key

theorem filter_true [Std.TransOrd κ] (map : SortedMap κ β) : map.filter (fun _ _ => true) = map := by
  ext key : 1
  rw [get?_filter]
  cases map.get? key <;> simp

theorem keys_eq_of_contains [Std.TransOrd κ] {first second : SortedMap κ β}
    (same : ∀ key, first.contains key = second.contains key) : first.keys = second.keys := by
  have blank : first.mapValues (fun _ _ => ()) = second.mapValues (fun _ _ => ()) := by
    ext key : 1
    have alike : (first.get? key).isSome = (second.get? key).isSome := same key
    rw [get?_mapValues, get?_mapValues]
    cases known : first.get? key <;> cases other : second.get? key <;> simp_all
  rw [← keys_mapValues first fun _ _ => (), blank, keys_mapValues]

theorem mem_values_iff {map : SortedMap κ β} {value : β} :
    value ∈ map.values ↔ ∃ key, map.get? key = some value := by
  simp only [values, List.mem_map, Prod.exists, exists_eq_right, get?_eq_some_iff]

variable [Std.TransOrd κ] [DecidableEq κ]

theorem get?_insertIfNew (map : SortedMap κ β) (key wanted : κ) (value : β) :
    (map.insertIfNew key value).get? wanted =
      (map.get? wanted).or (if wanted = key then some value else none) := by
  unfold insertIfNew
  by_cases held : map.contains key = true
  · rw [if_pos held]
    by_cases same : wanted = key
    · obtain ⟨old, found⟩ := contains_iff_exists.mp held
      simp [same, found]
    · simp [same]
  · have absent : map.get? key = none := contains_eq_false_iff.mp (by simpa using held)
    rw [if_neg held, get?_insert]
    by_cases same : wanted = key
    · simp [same, absent]
    · simp [same]

/-- Of the entries with one key the last stands, and none of them gives way to the map. -/
theorem get?_foldl_insert (entries : List (κ × β)) (map : SortedMap κ β) (key : κ) :
    (entries.foldl (fun map entry => map.insert entry.1 entry.2) map).get? key =
      (Entries.find? key entries.reverse).or (map.get? key) := by
  induction entries generalizing map with
  | nil => simp [Entries.find?]
  | cons entry rest ih =>
      simp only [List.foldl_cons, ih, get?_insert, List.reverse_cons, Entries.find?_append,
        Entries.find?_cons]
      by_cases same : key = entry.1
      · simp [same]
      · simp [same, Entries.find?]

theorem get?_ofList (entries : List (κ × β)) (key : κ) :
    (ofList entries).get? key = Entries.find? key entries.reverse := by
  simp [ofList, get?_foldl_insert]

theorem get?_ofList_of_nodup {entries : List (κ × β)} (distinct : (entries.map Prod.fst).Nodup)
    {key : κ} {value : β} : (ofList entries).get? key = some value ↔ (key, value) ∈ entries := by
  rw [get?_ofList, Entries.find?_reverse_of_nodup distinct,
    Entries.find?_eq_some_iff_of_nodup distinct]

/-- Entries with different keys make the same map in any order. -/
theorem ofList_eq_of_perm {first second : List (κ × β)} (perm : first.Perm second)
    (distinct : (second.map Prod.fst).Nodup) : ofList first = ofList second := by
  have distinct' : (first.map Prod.fst).Nodup := (perm.map Prod.fst).nodup_iff.mpr distinct
  refine ext fun key => Option.ext fun value => ?_
  rw [get?_ofList_of_nodup distinct, get?_ofList_of_nodup distinct', perm.mem_iff]

/-- Of the entries with one key the first stands, if the map has none. -/
theorem get?_foldl_insertIfNew (entries : List (κ × β)) (map : SortedMap κ β) (key : κ) :
    (entries.foldl (fun map entry => map.insertIfNew entry.1 entry.2) map).get? key =
      (map.get? key).or (Entries.find? key entries) := by
  induction entries generalizing map with
  | nil => simp [Entries.find?]
  | cons entry rest ih =>
      simp only [List.foldl_cons, ih, get?_insertIfNew, Entries.find?_cons]
      by_cases same : key = entry.1
      · simp [same]
      · simp [same]

theorem ofList_entries (map : SortedMap κ β) : ofList map.entries = map := by
  ext key : 1
  rw [get?_ofList, Entries.find?_reverse_of_nodup (keys_nodup map)]
  rfl

end SortedMap

end Passbook
