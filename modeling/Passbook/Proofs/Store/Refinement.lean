import Mathlib.Data.List.Induction
import Passbook.Proofs.Pass.History
/-!
A store as a map. The register of a run of calls holds, under each identity, the transaction that
the calls come to; what the store shows of an identity is what the register holds, in the form in
which a store keeps transactions, with the last remarks that were made on it.
-/

namespace Passbook

namespace EventLog

/-- The log holds every event at its own log index. Those that are not positive share place zero,
which goes to the greatest of them. -/
def Rekeys (events : List TransferEvent) (log : EventLog) : Prop :=
  ∀ key event, log.get? key = some event ↔
    ∃ origin ∈ events, event = origin.settled ∧ key = origin.settled.logIndex ∧
      ∀ other ∈ events, other.settled.logIndex = key → other.logIndex ≤ origin.logIndex

theorem rekeys_ofEvents {events : List TransferEvent}
    (ascending : events.Pairwise fun first second => first.logIndex < second.logIndex) :
    Rekeys events (ofEvents events) := by
  -- The last event is the greatest, and it displaces whatever stands at its place.
  induction events using List.reverseRecOn with
  | nil => simp [Rekeys, ofEvents]
  | append_singleton before last ih =>
      obtain ⟨earlier, _, below⟩ := List.pairwise_append.mp ascending
      have built : ofEvents (before ++ [last]) = (ofEvents before).add last := by
        simp [ofEvents]
      intro key event
      rw [built, add, SortedMap.get?_insert]
      by_cases own : key = last.settled.logIndex
      · rw [if_pos own, Option.some.injEq]
        constructor
        · rintro rfl
          refine ⟨last, by simp, rfl, own, fun other member _ => ?_⟩
          rcases List.mem_append.mp member with old | new
          · exact Int64.le_of_lt (below other old last (List.mem_singleton_self last))
          · rw [List.mem_singleton.mp new]
            exact Int64.le_refl _
        · rintro ⟨origin, member, rfl, place, greatest⟩
          rcases List.mem_append.mp member with old | new
          · have less := below origin old last (List.mem_singleton_self last)
            exact absurd (greatest last (by simp) own.symm) (Int64.not_le.mpr less)
          · rw [List.mem_singleton.mp new]
      · rw [if_neg own, ih earlier]
        constructor
        · rintro ⟨origin, member, rfl, place, greatest⟩
          refine ⟨origin, List.mem_append_left _ member, rfl, place, fun other among same => ?_⟩
          rcases List.mem_append.mp among with old | new
          · exact greatest other old same
          · rw [List.mem_singleton.mp new] at same
            exact absurd same.symm own
        · rintro ⟨origin, member, rfl, place, greatest⟩
          rcases List.mem_append.mp member with old | new
          · exact ⟨origin, old, rfl, place,
              fun other among => greatest other (List.mem_append_left _ among)⟩
          · rw [List.mem_singleton.mp new] at place
            exact absurd place own

theorem mem_values_byIndex {events : List TransferEvent}
    (once : (events.map TransferEvent.logIndex).Nodup) {event : TransferEvent} :
    event ∈ (byIndex events).values ↔ event ∈ events := by
  have distinct : ((events.map fun event => (event.logIndex, event)).map Prod.fst).Nodup := by
    rw [List.map_map]
    exact once
  simp only [SortedMap.mem_values_iff, byIndex, SortedMap.get?_ofList,
    Entries.find?_reverse_of_nodup distinct, Entries.find?_eq_some_iff_of_nodup distinct,
    List.mem_map, Prod.mk.injEq]
  constructor
  · rintro ⟨_, _, member, _, rfl⟩
    exact member
  · exact fun member => ⟨_, event, member, rfl, rfl⟩

theorem pairwise_values_of_keyed {log : EventLog} (keyed : log.Keyed) :
    log.values.Pairwise fun first second => first.logIndex < second.logIndex := by
  refine List.pairwise_map.mpr (log.ascending.imp_of_mem ?_)
  intro first second member member' less
  rw [keyed first.1 first.2 (SortedMap.get?_eq_some_iff.mpr member),
    keyed second.1 second.2 (SortedMap.get?_eq_some_iff.mpr member')]
  exact Std.compare_eq_lt.mp less

theorem rekeys_kept {log : EventLog}
    (once : (log.values.map TransferEvent.logIndex).Nodup) : Rekeys log.values log.kept := by
  intro key event
  rw [kept, rekeys_ofEvents (pairwise_values_of_keyed (keyed_byIndex log.values)) key event]
  simp only [mem_values_byIndex once]

end EventLog

namespace Rows

/-- A transaction that takes a free identity has no log index twice. -/
theorem logsOnce_of_foldlM_addNew {rows result : Rows} {batch : List Transaction}
    (done : batch.foldlM addNew rows = .ok result) {identity : Identity}
    (free : rows.get? identity = none) {tx : Transaction}
    (first : (batch.find? fun tx => tx.identity = identity) = some tx) : tx.LogsOnce := by
  induction batch generalizing rows with
  | nil => cases first
  | cons head rest ih =>
      rw [List.foldlM_cons, bind_eq_ok_iff] at done
      obtain ⟨middle, added, later⟩ := done
      obtain ⟨_, once, rfl⟩ := addNew_eq_ok_iff.mp added
      by_cases own : head.identity = identity
      · rw [List.find?_cons_of_pos (by simpa using own), Option.some.injEq] at first
        subst first
        refine once.resolve_left fun there => ?_
        rw [own, SortedMap.contains_eq_false_iff.mpr free] at there
        cases there
      · rw [List.find?_cons_of_neg (by simpa using own)] at first
        refine ih later ?_ first
        rw [SortedMap.get?_insertIfNew, free, if_neg (Ne.symm own)]
        rfl

end Rows

/-- The transaction that stands under each identity. -/
abbrev Register := Identity → Option Transaction

namespace Register

/-- Each identity that is free takes its first copy in the batch. -/
def add (register : Register) (batch : List Transaction) : Register := fun identity =>
  (register identity).or (batch.find? fun tx => tx.identity = identity)

/-- Each identity of the batch takes its first copy there, whatever stood there before. -/
def replace (register : Register) (batch : List Transaction) : Register := fun identity =>
  (batch.find? fun tx => tx.identity = identity).or (register identity)

/-- What a call that the store answers in this way makes of the register. -/
def upon (register changed : Register) : Except StoreProblem Store → Register
  | .ok _ => changed
  | .error _ => register

/-- Only the writes of batches count, and of these only those that succeed. -/
def next (store : Store) (register : Register) : Deed → Register
  | .add batch => register.upon (register.add batch) (store.addNew batch)
  | .replace batch => register.upon (register.replace batch) (store.replace batch)
  | _ => register

def along (reached : Store × Register) (deed : Deed) : Store × Register :=
  (deed.apply reached.1, reached.2.next reached.1 deed)

def after (deeds : List Deed) : Register := (deeds.foldl along (.empty, fun _ => none)).2

/-- Every row of the store is that of the transaction in the register, which it can keep. -/
structure Describes (register : Register) (store : Store) : Prop where
  rows : ∀ identity, store.rows.get? identity = (register identity).map Row.keeping
  kept : ∀ identity tx, register identity = some tx →
    tx.identity = identity ∧ tx.Storable ∧ tx.LogsOnce

variable {register : Register} {store result : Store} {batch : List Transaction}

theorem describes_empty : Describes (fun _ => none) .empty := by
  constructor
  · exact fun _ => rfl
  · rintro _ _ ⟨⟩

theorem Describes.of_rows (describes : register.Describes store) (rows : result.rows = store.rows) :
    register.Describes result := by
  constructor
  · rw [rows]
    exact describes.rows
  · exact describes.kept

theorem Describes.addNew (describes : register.Describes store)
    (plain : ∀ tx ∈ batch, ¬ tx.timestamp.IsLeap) (done : store.addNew batch = .ok result) :
    (register.add batch).Describes result := by
  constructor
  · intro identity
    rw [Store.get?_addNew done, describes.rows, add]
    cases register identity <;> rfl
  · intro identity tx stands
    rcases Option.or_eq_some_iff.mp stands with old | ⟨free, first⟩
    · exact describes.kept identity tx old
    · have member := List.mem_of_find?_eq_some first
      refine ⟨by simpa using List.find?_some first,
        ⟨Store.fits_of_addNew done tx member, plain tx member⟩, ?_⟩
      obtain ⟨_, added, _⟩ := Store.addNew_eq_ok_iff.mp done
      refine Rows.logsOnce_of_foldlM_addNew added ?_ first
      rw [describes.rows, free]
      rfl

theorem Describes.replace (describes : register.Describes store)
    (plain : ∀ tx ∈ batch, ¬ tx.timestamp.IsLeap) (done : store.replace batch = .ok result) :
    (register.replace batch).Describes result := by
  constructor
  · intro identity
    rw [Store.get?_replace done, describes.rows, Register.replace]
    cases batch.find? fun tx => tx.identity = identity <;> rfl
  · intro identity tx stands
    rcases Option.or_eq_some_iff.mp stands with first | ⟨_, old⟩
    · have member := List.mem_of_find?_eq_some first
      have own : tx.identity = identity := by simpa using List.find?_some first
      refine ⟨own, ⟨Store.fits_of_replace done tx member, plain tx member⟩, ?_⟩
      obtain ⟨_, _, dropped, added, _⟩ := Store.replace_eq_ok_iff.mp done
      refine Rows.logsOnce_of_foldlM_addNew added ?_ first
      -- The identity was made free before its copy was added.
      rw [Rows.get?_drop dropped, if_pos (own ▸ List.mem_map_of_mem member)]
    · exact describes.kept identity tx old

end Register

namespace Deed

def IsCall : Deed → Prop
  | .pass _ _ _ => False
  | _ => True

def remarkOn (identity : Identity) : Deed → Option SenderRemark
  | .remark own noted => if own = identity then some noted else none
  | _ => none

def noteOn (identity : Identity) (account : Int64) : Deed → Option AccountRemark
  | .note own noted => if own = identity ∧ noted.account = account then some noted else none
  | _ => none

/-- The last of the remarks on an identity that a viewer sees. -/
def remarks (deeds : List Deed) (viewer : Option Int64) (identity : Identity) : Annotations where
  sender := (deeds.filterMap (remarkOn identity)).getLast?
  account := viewer.bind fun account => (deeds.filterMap (noteOn identity account)).getLast?

theorem remarks_concat (deeds : List Deed) (deed : Deed) (viewer : Option Int64)
    (identity : Identity) : remarks (deeds ++ [deed]) viewer identity =
      { sender := (deed.remarkOn identity).or (remarks deeds viewer identity).sender
        account := (viewer.bind fun account => deed.noteOn identity account).or
          (remarks deeds viewer identity).account } := by
  cases viewer <;> simp [remarks]

variable {store : Store} {identity : Identity}

theorem annotations_remark (small : identity.version.toNat < Word.limit) (own : Identity)
    (noted : SenderRemark) (viewer : Option Int64) :
    (apply store (.remark own noted)).annotations viewer identity =
      { store.annotations viewer identity with
        sender := (remarkOn identity (.remark own noted)).or (store.senderRemarks.get? identity) } := by
  by_cases same : own = identity
  · subst same
    have written : store.remark own noted =
        .ok { store with senderRemarks := store.senderRemarks.insert own noted } := by
      rw [Store.remark, Column.write_of_lt small]
      rfl
    simp [apply, written, settle, Store.annotations, Store.remarksOf, remarkOn]
  · cases done : Column.version.write own.version <;>
      simp [apply, Store.remark, done, settle, Store.annotations, Store.remarksOf, remarkOn, same,
        Ne.symm same, SortedMap.get?_insert, bind, Except.bind, pure, Except.pure]

@[simp] theorem senderRemarks_withNote (store : Store) (own : Identity) (noted : AccountRemark) :
    (store.withNote own noted).senderRemarks = store.senderRemarks := rfl

theorem get?_remarksOf_withNote (store : Store) (own identity : Identity) (noted : AccountRemark)
    (account : Int64) :
    ((store.withNote own noted).remarksOf account).get? identity =
      if own = identity ∧ noted.account = account then some noted.message
      else (store.remarksOf account).get? identity := by
  simp only [Store.withNote, Store.remarksOf, SortedMap.get?_insert]
  by_cases holder : account = noted.account
  · subst holder
    by_cases same : identity = own
    · simp [same]
    · simp [same, Ne.symm same, SortedMap.get?_insert]
  · simp [holder, Ne.symm holder]

theorem annotations_note (small : identity.version.toNat < Word.limit) (own : Identity)
    (noted : AccountRemark) (viewer : Option Int64) :
    (apply store (.note own noted)).annotations viewer identity =
      { store.annotations viewer identity with
        account := (viewer.bind fun account => noteOn identity account (.note own noted)).or
          (store.annotations viewer identity).account } := by
  cases viewer with
  | none =>
      cases done : Column.version.write own.version <;>
        simp [apply, Store.note, done, settle, Store.annotations, Store.withNote, bind,
          Except.bind, pure, Except.pure]
  | some account =>
      by_cases here : own = identity ∧ noted.account = account
      · obtain ⟨rfl, rfl⟩ := here
        have written : store.note own noted = .ok (store.withNote own noted) := by
          rw [Store.note, Column.write_of_lt small]
          rfl
        simp [apply, written, settle, Store.annotations, get?_remarksOf_withNote, noteOn]
      · cases done : Column.version.write own.version with
        | error problem =>
            simp [apply, Store.note, done, settle, Store.annotations, noteOn, here, bind,
              Except.bind]
        | ok version =>
            have written : store.note own noted = .ok (store.withNote own noted) := by
              rw [Store.note, done]
              rfl
            simp [apply, written, settle, Store.annotations, get?_remarksOf_withNote, noteOn, here]

/-- A call changes what is noted on an identity at most by its own remark. -/
theorem annotations_apply (small : identity.version.toNat < Word.limit) {deed : Deed}
    (call : deed.IsCall) (viewer : Option Int64) :
    (deed.apply store).annotations viewer identity =
      { sender := (deed.remarkOn identity).or (store.annotations viewer identity).sender
        account := (viewer.bind fun account => deed.noteOn identity account).or
          (store.annotations viewer identity).account } := by
  cases deed with
  | add batch =>
      cases done : store.addNew batch with
      | error problem => cases viewer <;> simp [apply, done, settle, remarkOn, noteOn]
      | ok after =>
          have same := Store.annotations_addNew done
          cases viewer <;> simp [apply, done, settle, same, remarkOn, noteOn]
  | replace batch =>
      cases done : store.replace batch with
      | error problem => cases viewer <;> simp [apply, done, settle, remarkOn, noteOn]
      | ok after =>
          have same := Store.annotations_replace done
          cases viewer <;> simp [apply, done, settle, same, remarkOn, noteOn]
  | remark own noted =>
      rw [annotations_remark small own noted]
      cases viewer <;> simp [noteOn, Store.annotations]
  | note own noted =>
      rw [annotations_note small own noted]
      simp [remarkOn]
  | link holder address =>
      have same : (apply store (.link holder address)).annotations = store.annotations := rfl
      cases viewer <;> simp [same, remarkOn, noteOn]
  | pass outage request arrivals => exact absurd call id

end Deed

namespace Store

theorem after_concat (deeds : List Deed) (deed : Deed) :
    after (deeds ++ [deed]) = deed.apply (after deeds) := by
  rw [after, List.foldl_concat]
  rfl

theorem annotations_after {deeds : List Deed} (calls : ∀ deed ∈ deeds, deed.IsCall)
    {identity : Identity} (small : identity.version.toNat < Word.limit) (viewer : Option Int64) :
    (after deeds).annotations viewer identity = Deed.remarks deeds viewer identity := by
  induction deeds using List.reverseRecOn with
  | nil => cases viewer <;> rfl
  | append_singleton before deed ih =>
      obtain ⟨earlier, last⟩ := List.forall_mem_append.mp calls
      rw [after_concat, Deed.annotations_apply small (last deed (List.mem_singleton_self deed)),
        ih earlier, Deed.remarks_concat]

end Store

namespace Register

theorem foldl_along (deeds : List Deed) :
    deeds.foldl along (.empty, fun _ => none) = (Store.after deeds, after deeds) := by
  suffices stores : (deeds.foldl along (.empty, fun _ => none)).1 = Store.after deeds from
    Prod.ext stores rfl
  induction deeds using List.reverseRecOn with
  | nil => rfl
  | append_singleton before deed ih =>
      rw [List.foldl_concat, along, ih, Store.after_concat]

theorem after_concat (deeds : List Deed) (deed : Deed) :
    after (deeds ++ [deed]) = (after deeds).next (Store.after deeds) deed := by
  rw [after, List.foldl_concat, foldl_along]
  rfl

theorem Describes.next {register : Register} {store : Store}
    (describes : register.Describes store) {deed : Deed} (call : deed.IsCall)
    (plain : deed.Plain) : (register.next store deed).Describes (deed.apply store) := by
  cases deed with
  | add batch =>
      cases done : store.addNew batch with
      | error problem => simpa [Register.next, upon, Deed.apply, Deed.settle, done] using describes
      | ok after =>
          simpa [Register.next, upon, Deed.apply, Deed.settle, done] using
            describes.addNew plain done
  | replace batch =>
      cases done : store.replace batch with
      | error problem => simpa [Register.next, upon, Deed.apply, Deed.settle, done] using describes
      | ok after =>
          simpa [Register.next, upon, Deed.apply, Deed.settle, done] using
            describes.replace plain done
  | remark identity noted => exact describes.of_rows (Deed.rows_remark store identity noted)
  | note identity noted => exact describes.of_rows (Deed.rows_note store identity noted)
  | link holder address => exact describes.of_rows rfl
  | pass outage request arrivals => exact absurd call id

theorem describes_after {deeds : List Deed} (calls : ∀ deed ∈ deeds, deed.IsCall)
    (plain : ∀ deed ∈ deeds, deed.Plain) : (after deeds).Describes (Store.after deeds) := by
  induction deeds using List.reverseRecOn with
  | nil => exact describes_empty
  | append_singleton before deed ih =>
      obtain ⟨earlier, last⟩ := List.forall_mem_append.mp calls
      obtain ⟨before_plain, last_plain⟩ := List.forall_mem_append.mp plain
      rw [after_concat, Store.after_concat]
      exact (ih earlier before_plain).next (last deed (List.mem_singleton_self deed))
        (last_plain deed (List.mem_singleton_self deed))

end Register

namespace Transaction

def withTimestamp (instant : Instant) : Transaction → Transaction
  | .sequential tx => .sequential { tx with timestamp := instant }
  | .block tx => .block { tx with timestamp := instant }

/-- The transaction as a store shows it: its instant in whole microseconds, its events at their
own log indexes, and these annotations in the place of its own. -/
def ShownAs (tx shown : Transaction) (annotations : Annotations) : Prop :=
  ∃ (instant : Instant) (log : EventLog), instant.second = tx.timestamp.second ∧
    instant.nano = tx.timestamp.nano / 1000 * 1000 ∧ EventLog.Rekeys tx.events.values log ∧
    shown = ((tx.withTimestamp instant).withEvents log).withAnnotations annotations

theorem shownAs_kept {tx : Transaction} (plain : ¬ tx.timestamp.IsLeap) (once : tx.LogsOnce)
    {instant : Instant} (kept : tx.timestamp.kept? = some instant) (annotations : Annotations) :
    tx.ShownAs (tx.kept instant annotations) annotations := by
  obtain ⟨second, nano⟩ := (Instant.kept?_eq_some_iff plain).mp kept
  refine ⟨instant, EventLog.kept tx.events, second, nano, EventLog.rekeys_kept once, ?_⟩
  cases tx <;> rfl

end Transaction

namespace Store

/-- After any run of calls the store shows of every identity what the register holds. -/
theorem transaction?_after {deeds : List Deed} (calls : ∀ deed ∈ deeds, deed.IsCall)
    (plain : ∀ deed ∈ deeds, deed.Plain) {identity : Identity}
    (small : identity.version.toNat < Word.limit) (viewer : Option Int64) :
    ∃ shown, (after deeds).transaction? identity viewer = .ok shown ∧
      (shown = none ↔ Register.after deeds identity = none) ∧
      ∀ tx, Register.after deeds identity = some tx → ∃ copy, shown = some copy ∧
        tx.ShownAs copy (Deed.remarks deeds viewer identity) := by
  have describes := Register.describes_after calls plain
  rw [transaction?_eq small, describes.rows, annotations_after calls small]
  cases stands : Register.after deeds identity with
  | none => exact ⟨none, rfl, by simp, by simp⟩
  | some tx =>
      obtain ⟨rfl, storable, once⟩ := describes.kept identity tx stands
      obtain ⟨instant, kept⟩ := Instant.exists_kept storable.plain
      have read := Row.transaction_keeping storable.fits kept
        (Deed.remarks deeds viewer tx.identity)
      refine ⟨_, congrArg (Except.map some) read, by simp, ?_⟩
      rintro _ ⟨⟩
      exact ⟨_, rfl, Transaction.shownAs_kept storable.plain once kept _⟩

/-- A copy with events at negative log indexes is stored, another copy comes too late, and the
second of two remarks stands. -/
theorem transaction?_after_sample :
    let late := Sample.shared [Sample.transfer Sample.first 4]
    let early := late.withEvents (.ofList [(7, Sample.transfer Sample.first (-2)),
      (8, Sample.transfer Sample.second (-1)), (9, Sample.transfer Sample.first 3)])
    let deeds : List Deed := [.remark early.identity ⟨"lunch", false⟩, .add [early],
      .add [late], .remark early.identity ⟨"dinner", false⟩, .note early.identity ⟨7, "shared"⟩]
    (Store.after deeds).transaction? early.identity (some 7) =
        .ok (some ((early.withEvents (.ofEvents
          [Sample.transfer Sample.second 0, Sample.transfer Sample.first 3])).withAnnotations
            { sender := some ⟨"dinner", false⟩, account := some ⟨7, "shared"⟩ })) ∧
      ∃ shown, (Store.after deeds).transaction? early.identity (some 7) = .ok shown ∧
        (shown = none ↔ Register.after deeds early.identity = none) ∧
        ∀ tx, Register.after deeds early.identity = some tx → ∃ copy, shown = some copy ∧
          tx.ShownAs copy (Deed.remarks deeds (some 7) early.identity) := by
  refine ⟨by decide +kernel, transaction?_after ?_ ?_ (by decide) (some 7)⟩
  · simp [Deed.IsCall]
  · simp only [List.forall_mem_cons, List.not_mem_nil, false_implies, implies_true, Deed.Plain,
      and_true, true_and]
    decide +kernel

end Store

end Passbook
