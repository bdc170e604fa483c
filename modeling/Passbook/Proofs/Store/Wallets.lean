import Passbook.Proofs.Pass.Remarks
import Passbook.Proofs.Store.Refinement
import Passbook.Proofs.Text.Bytes
/-!
The wallets of a holder are a set. An address is linked once, whatever the case of its letters and
however often it is linked, and the spelling in which it came first stands for it. Nothing else that
is done to a store touches the wallets.
-/

namespace Passbook

namespace Deed

/-- The address that is linked to the holder, if the deed does that. -/
def linkTo (holder : Holder) : Deed → Option String
  | .link own address => if own = holder then some address else none
  | _ => none

/-- The addresses that are linked to the holder, one after another. -/
def linked (deeds : List Deed) (holder : Holder) : List String := deeds.filterMap (linkTo holder)

theorem linked_concat (deeds : List Deed) (deed : Deed) (holder : Holder) :
    linked (deeds ++ [deed]) holder = linked deeds holder ++ (deed.linkTo holder).toList := by
  rw [linked, List.filterMap_append, linked]
  cases named : deed.linkTo holder <;> simp [named]

theorem wallets_settle {store : Store} {outcome : Except StoreProblem Store}
    (same : ∀ after, outcome = .ok after → after.wallets = store.wallets) :
    (settle store outcome).wallets = store.wallets := by
  cases outcome with
  | error problem => rfl
  | ok after => exact same after rfl

/-- Only links touch the wallets. -/
theorem wallets_apply (store : Store) (deed : Deed) :
    (∃ own address, deed = .link own address) ∨
      (∀ holder, deed.linkTo holder = none) ∧ (deed.apply store).wallets = store.wallets := by
  cases deed with
  | link own address => exact .inl ⟨own, address, rfl⟩
  | add batch =>
      refine .inr ⟨fun _ => rfl, wallets_settle fun after done => ?_⟩
      obtain ⟨rows, _, rfl⟩ := Store.addNew_eq_ok_iff.mp done
      rfl
  | replace batch =>
      refine .inr ⟨fun _ => rfl, wallets_settle fun after done => ?_⟩
      obtain ⟨_, rows, _, _, rfl⟩ := Store.replace_eq_ok_iff.mp done
      rfl
  | remark identity noted =>
      refine .inr ⟨fun _ => rfl, wallets_settle fun after done => ?_⟩
      obtain ⟨_, _, built⟩ := bind_eq_ok_iff.mp done
      cases built
      rfl
  | note identity noted =>
      refine .inr ⟨fun _ => rfl, wallets_settle fun after done => ?_⟩
      obtain ⟨_, _, built⟩ := bind_eq_ok_iff.mp done
      cases built
      rfl
  | pass outage request arrivals =>
      refine .inr ⟨fun _ => rfl, ?_⟩
      obtain ⟨rows, built⟩ :=
        Pass.remarks_of_runSteps outage store { request } (Pass.steps arrivals)
      rw [apply, Pass.run, built]

end Deed

namespace Store

/-- Addresses that are linked one after another, each in the spelling in which it came first. -/
def linking (addresses : List String) : SortedMap Text.Folded String :=
  addresses.foldl (fun wallets address => wallets.insertIfNew (Text.folded address) address) .empty

theorem get?_linking (addresses : List String) (key : Text.Folded) :
    (linking addresses).get? key = addresses.find? fun address => Text.folded address = key := by
  have found := SortedMap.get?_foldl_insertIfNew
    (addresses.map fun address => (Text.folded address, id address)) .empty key
  rw [List.foldl_map, Entries.find?_map, Option.map_id_fun] at found
  exact found

theorem folded_of_get?_linking {addresses : List String} {key : Text.Folded} {spelling : String}
    (found : (linking addresses).get? key = some spelling) : Text.folded spelling = key := by
  rw [get?_linking] at found
  simpa using List.find?_some found

theorem mem_values_linking_iff {addresses : List String} {spelling : String} :
    spelling ∈ (linking addresses).values ↔
      (linking addresses).get? (Text.folded spelling) = some spelling := by
  rw [SortedMap.mem_values_iff]
  refine ⟨fun ⟨key, found⟩ => ?_, fun found => ⟨_, found⟩⟩
  rwa [folded_of_get?_linking found]

/-- An address is told in the spelling that came first. -/
theorem mem_values_linking_iff_first {addresses : List String} {spelling : String} :
    spelling ∈ (linking addresses).values ↔ ∃ before rest, addresses = before ++ spelling :: rest ∧
      ∀ earlier ∈ before, Text.folded earlier ≠ Text.folded spelling := by
  simp [mem_values_linking_iff, get?_linking, List.find?_eq_some_iff_append]

theorem mem_of_mem_values_linking {addresses : List String} {spelling : String}
    (told : spelling ∈ (linking addresses).values) : spelling ∈ addresses := by
  obtain ⟨before, rest, rfl, -⟩ := mem_values_linking_iff_first.mp told
  exact List.mem_append_right _ List.mem_cons_self

/-- The keys of the wallets are their addresses, but for the case of letters. -/
theorem map_folded_values_linking (addresses : List String) :
    (linking addresses).values.map Text.folded = (linking addresses).keys := by
  rw [SortedMap.values, SortedMap.keys, List.map_map]
  exact List.map_congr_left fun entry member =>
    folded_of_get?_linking (SortedMap.get?_eq_some_iff.mpr member)

theorem contains_linking_iff {addresses : List String} {key : Text.Folded} :
    (linking addresses).contains key = true ↔ ∃ address ∈ addresses, Text.folded address = key := by
  rw [SortedMap.contains, get?_linking, List.find?_isSome]
  simp only [decide_eq_true_eq]

/-- Which spellings stand for the addresses depends on their order, and nothing else does. -/
theorem keys_linking_of_perm {first second : List String} (perm : first.Perm second) :
    (linking first).keys = (linking second).keys := by
  refine SortedMap.keys_eq_of_contains fun key => Bool.eq_iff_iff.mpr ?_
  simp only [contains_linking_iff, perm.mem_iff]

theorem walletsOf_link (store : Store) (own holder : Holder) (address : String) :
    (store.link own address).walletsOf holder = if own = holder
      then (store.walletsOf holder).insertIfNew (Text.folded address) address
      else store.walletsOf holder := by
  rw [walletsOf, link, SortedMap.get?_insert]
  by_cases same : own = holder
  · rw [if_pos same.symm, if_pos same, same, Option.getD_some]
  · rw [if_neg (Ne.symm same), if_neg same, walletsOf]

theorem linking_append_toList (addresses : List String) (address : Option String) :
    linking (addresses ++ address.toList) = address.elim (linking addresses) fun address =>
      (linking addresses).insertIfNew (Text.folded address) address := by
  cases address with
  | none => rw [Option.toList_none, List.append_nil, Option.elim_none]
  | some address => exact List.foldl_concat ..

theorem walletsOf_apply (store : Store) (deed : Deed) (holder : Holder) :
    (deed.apply store).walletsOf holder = (deed.linkTo holder).elim (store.walletsOf holder)
      fun address => (store.walletsOf holder).insertIfNew (Text.folded address) address := by
  rcases deed.wallets_apply store with ⟨own, address, rfl⟩ | ⟨unlinked, same⟩
  · rw [Deed.apply, walletsOf_link, Deed.linkTo]
    split <;> rfl
  · rw [walletsOf, same, unlinked, Option.elim_none, walletsOf]

theorem walletsOf_after (deeds : List Deed) (holder : Holder) :
    (after deeds).walletsOf holder = linking (Deed.linked deeds holder) := by
  induction deeds using List.reverseRecOn with
  | nil => rfl
  | append_singleton before deed ih =>
      rw [after_concat, Deed.linked_concat, walletsOf_apply, linking_append_toList, ih]

theorem addressesOf_after (deeds : List Deed) (holder : Holder) :
    (after deeds).addressesOf holder = (linking (Deed.linked deeds holder)).values := by
  rw [addressesOf, walletsOf_after]

section Plain
variable {addresses : List String} (plain : ∀ address ∈ addresses, '\x00' ∉ address.toList)
include plain

theorem existsUnique_spelling {address : String} (member : address ∈ addresses) :
    ∃! spelling, spelling ∈ (linking addresses).values ∧ Text.SameButCase spelling address := by
  have alike (spelling : String) :
      Text.folded spelling = Text.folded address ↔ Text.SameButCase spelling address :=
    Text.folded_eq_iff_of_plain (plain address member)
  obtain ⟨spelling, found⟩ :=
    SortedMap.contains_iff_exists.mp (contains_linking_iff.mpr ⟨address, member, rfl⟩)
  have told := SortedMap.mem_values_iff.mpr ⟨_, found⟩
  have own := folded_of_get?_linking found
  refine ⟨spelling, ⟨told, (alike spelling).mp own⟩, fun other ⟨told', same⟩ => ?_⟩
  have place := mem_values_linking_iff.mp told
  have place' := mem_values_linking_iff.mp told'
  rw [(alike other).mpr same, ← own, place] at place'
  exact (Option.some.inj place').symm

theorem pairwise_values_linking : (linking addresses).values.Pairwise
    fun first second => Text.smallBytes first < Text.smallBytes second := by
  have ascending := (linking addresses).pairwise_keys
  rw [← map_folded_values_linking, List.pairwise_map] at ascending
  refine ascending.imp_of_mem fun {first second} told told' less => ?_
  exact Text.smallBytes_lt (plain first (mem_of_mem_values_linking told))
    (plain second (mem_of_mem_values_linking told')) less

theorem forall₂_linking_of_perm {others : List String} (perm : others.Perm addresses) :
    List.Forall₂ Text.SameButCase (linking others).values (linking addresses).values := by
  have keys := keys_linking_of_perm perm
  rw [← map_folded_values_linking, ← map_folded_values_linking, ← List.forall₂_eq_eq_eq,
    List.forall₂_map_left_iff, List.forall₂_map_right_iff] at keys
  have unmarked : ∀ spelling ∈ (linking others).values, '\x00' ∉ spelling.toList :=
    fun spelling told => plain spelling (perm.mem_iff.mp (mem_of_mem_values_linking told))
  refine ((List.forall₂_and_left _ _).mpr ⟨unmarked, keys⟩).imp fun _ _ ⟨unmarked, same⟩ => ?_
  exact ((Text.folded_eq_iff_of_plain unmarked).mp same.symm).symm

end Plain

/-- However wallets are linked, in any run of deeds, each of the addresses of a holder is told once,
in the spelling that came first of those that differ only in the case of ASCII letters. They are in
the order of their bytes in small letters. What else is done, and what is linked to others, has no
influence; and the order of the deeds has none but on which of the spellings is told. -/
theorem addresses_told_once (deeds : List Deed) (holder : Holder)
    (plain : ∀ address ∈ Deed.linked deeds holder, '\x00' ∉ address.toList) :
    (∀ spelling, spelling ∈ (after deeds).addressesOf holder ↔
      ∃ before rest, Deed.linked deeds holder = before ++ spelling :: rest ∧
        ∀ earlier ∈ before, ¬ Text.SameButCase earlier spelling) ∧
    (∀ address ∈ Deed.linked deeds holder, ∃! spelling,
      spelling ∈ (after deeds).addressesOf holder ∧ Text.SameButCase spelling address) ∧
    ((after deeds).addressesOf holder).Pairwise
      (fun first second => Text.smallBytes first < Text.smallBytes second) ∧
    (∀ others, Deed.linked others holder = Deed.linked deeds holder →
      (after others).addressesOf holder = (after deeds).addressesOf holder) ∧
    ∀ others, (Deed.linked others holder).Perm (Deed.linked deeds holder) →
      List.Forall₂ Text.SameButCase ((after others).addressesOf holder)
        ((after deeds).addressesOf holder) := by
  simp only [addressesOf_after]
  refine ⟨fun spelling => ?_, fun _ member => existsUnique_spelling plain member,
    pairwise_values_linking plain, fun others same => by rw [same],
    fun others perm => forall₂_linking_of_perm plain perm⟩
  rw [mem_values_linking_iff_first]
  refine exists_congr fun before => exists_congr fun rest => and_congr_right fun split => ?_
  have unmarked : '\x00' ∉ spelling.toList := plain spelling (by simp [split])
  exact forall₂_congr fun earlier _ => not_congr (Text.folded_eq_iff_of_plain unmarked)

/-- Letters that are not ASCII are told apart, and wallets of other holders are not told. -/
theorem addresses_told_once_sample :
    let holder : Holder := ⟨1, ⟨"celo"⟩⟩
    let deeds : List Deed := [.link holder "0xB", .link holder "É", .link ⟨2, ⟨"celo"⟩⟩ "0xb",
      .link holder "0x", .add [], .link holder "0XB", .link holder "é"]
    let others : List Deed := deeds.reverse
    (after deeds).addressesOf holder = ["0x", "0xB", "É", "é"] ∧
      (after others).addressesOf holder = ["0x", "0XB", "É", "é"] ∧
      List.Forall₂ Text.SameButCase ((after others).addressesOf holder)
        ((after deeds).addressesOf holder) := by
  intro holder deeds others
  have plain : ∀ address ∈ Deed.linked deeds holder, '\x00' ∉ address.toList := by decide
  have perm : (Deed.linked others holder).Perm (Deed.linked deeds holder) := by decide
  exact ⟨by decide +kernel, by decide +kernel,
    (addresses_told_once deeds holder plain).2.2.2.2 others perm⟩

end Store

end Passbook
