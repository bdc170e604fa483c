import Passbook.Proofs.Pass.Leg
/-!
What becomes of one transaction while another pass is under way on the same store. The other pass
may come to store the transaction first, or to replace it from a copy that it took before; neither
takes away what a pass keeps in its sight.
-/

namespace Passbook

namespace Store
variable {store added after : Store} {ledger : Ledger} {known remote : TransactionMap}
  {identity : Identity}

theorem get?_of_fresh (keyed : TransactionMap.Keyed remote)
    (stored : store.addNew (ledger.merge known remote).fresh = .ok added) :
    added.rows.get? identity = (store.rows.get? identity).or
      (match known.get? identity with
        | none => (remote.get? identity).map Row.keeping
        | some _ => none) := by
  rw [get?_addNew stored, Ledger.find?_fresh keyed]
  cases known.get? identity <;> rfl

theorem get?_of_fresh_of_present (keyed : TransactionMap.Keyed remote)
    (stored : store.addNew (ledger.merge known remote).fresh = .ok added) {row : Row}
    (found : store.rows.get? identity = some row) :
    added.rows.get? identity = some row := by
  rw [get?_of_fresh keyed stored, found]
  rfl

theorem get?_of_revised (keyed : TransactionMap.Keyed remote)
    (replaced : store.replace (ledger.merge known remote).revised = .ok after) {copy tx : Transaction}
    (held : known.get? identity = some copy) (seen : remote.get? identity = some tx)
    (differs : ledger.compare copy tx ≠ .unchanged) :
    after.rows.get? identity = some (Row.keeping (ledger.revision copy tx)) := by
  rw [get?_replace replaced, Ledger.find?_revised keyed, held, seen]
  simp [differs]

/-- A row stays unless its copy differs from what was sighted. -/
theorem get?_of_revised_of_same (keyed : TransactionMap.Keyed remote)
    (replaced : store.replace (ledger.merge known remote).revised = .ok after)
    (same : ∀ copy tx, known.get? identity = some copy → remote.get? identity = some tx →
      ledger.compare copy tx = .unchanged) :
    after.rows.get? identity = store.rows.get? identity := by
  rw [get?_replace replaced, Ledger.find?_revised keyed]
  cases held : known.get? identity with
  | none => rfl
  | some copy =>
      cases seen : remote.get? identity with
      | none => rfl
      | some tx => simp [same copy tx held seen]

end Store

namespace Pass

namespace Leg

/-- The local view by which a pass may still write. -/
def pending? : Leg → Option TransactionMap
  | .opened known _ _ => some known
  | .added known _ => some known
  | _ => none

/-- The pass has handed this transaction to the store as a new one. -/
def Stores (identity : Identity) : Leg → Prop
  | .added known remote => known.get? identity = none ∧ remote.contains identity = true
  | .done known remote => known.get? identity = none ∧ remote.contains identity = true
  | _ => False

/-- The pass has replaced its copy of this transaction. -/
def Replaces (ledger : Ledger) (identity : Identity) : Leg → Prop
  | .done known remote => ∃ copy tx, known.get? identity = some copy ∧
      remote.get? identity = some tx ∧ ledger.compare copy tx ≠ .unchanged
  | _ => False

variable {request : Request} {store after : Store} {leg next : Leg} {call : Option StoreCall}
  {identity : Identity}

/-- The calls of the store that the pass has made. -/
def calls : Leg → List StoreCall
  | .opening => []
  | .opened _ _ _ => [.snapshot]
  | .added _ _ => [.snapshot, .addNew]
  | .done _ _ => [.snapshot, .addNew, .replace]

theorem Moves.calls (moves : leg.Moves request store call next after) :
    next.calls = leg.calls ++ call.toList := by
  cases moves <;> simp [Leg.calls]

theorem calls_nodup (leg : Leg) : leg.calls.Nodup := by
  cases leg <;> simp [Leg.calls]

theorem snapshot_mem_calls (pending : leg.pending?.isSome = true) :
    StoreCall.snapshot ∈ leg.calls := by
  cases leg with
  | opening => cases pending
  | opened known remote awaited => exact List.mem_cons_self
  | added known remote => exact List.mem_cons_self
  | done known remote => cases pending

theorem Stores.moves (stores : leg.Stores identity)
    (moves : leg.Moves request store call next after) : next.Stores identity := by
  cases moves with
  | stay => exact stores
  | load => exact stores.elim
  | hear => exact stores.elim
  | add => exact stores.elim
  | replace => exact stores

theorem Replaces.moves (replaces : leg.Replaces request.ledger identity)
    (moves : leg.Moves request store call next after) :
    next.Replaces request.ledger identity := by
  cases moves with
  | stay => exact replaces
  | load => exact replaces.elim
  | hear => exact replaces.elim
  | add => exact replaces.elim
  | replace => exact replaces.elim

end Leg

namespace Side

@[simp] theorem other_other (side : Side) : side.other.other = side := by cases side <;> rfl

theorem other_ne (side : Side) : side.other ≠ side := by cases side <;> simp [other]

theorem eq_or_eq_other (side given : Side) : side = given ∨ side = given.other := by
  cases side <;> cases given <;> simp [other]

end Side

/-- What one pass meets as far as one transaction goes: the store, the calls made so far, what the
store was when the pass took its snapshot, and how far the other pass has come. -/
structure Scene where
  store : Store
  calls : List (Side × StoreCall)
  origin : Option Store
  its : Leg

namespace Scene

/-- A copy of the ledger's own kind is stored, and has an event at this log index. -/
def Holds (scene : Scene) (ledger : Ledger) (identity : Identity) (key : Int64) : Prop :=
  ∃ row, scene.store.rows.get? identity = some row ∧ row.body.kind = ledger.kind ∧ row.Logs key

/-- The log index is stored, and the other pass has no copy without it to write from. -/
structure Keeps (scene : Scene) (ledger : Ledger) (identity : Identity) (key : Int64) : Prop where
  holds : scene.Holds ledger identity key
  safe : ∀ known, scene.its.pending? = some known → ∀ copy, known.get? identity = some copy →
    copy.kind = ledger.kind ∧ copy.events.contains key = true

/-- What the other pass has as its copy is what is stored. -/
def Faithful (scene : Scene) (identity : Identity) : Prop :=
  ∀ known, scene.its.pending? = some known → ∀ copy, known.get? identity = some copy →
    ∃ row, scene.store.rows.get? identity = some row ∧
      row.transaction identity copy.annotations = .ok copy

/-- A copy was stored when the pass took its snapshot. -/
def Hidden (scene : Scene) (identity : Identity) : Prop :=
  ∃ taken, scene.origin = some taken ∧ taken.rows.contains identity = true

/-- The scene after a step of the other pass. -/
def itsMove (scene : Scene) (side : Side) (call : Option StoreCall) (its : Leg) (store : Store) :
    Scene :=
  { scene with store, its, calls := scene.calls ++ call.toList.map (side.other, ·) }

/-- The scene after a step of the pass itself. -/
def ownMove (scene : Scene) (side : Side) (call : Option StoreCall) (store : Store) : Scene :=
  { scene with
    store
    calls := scene.calls ++ call.toList.map (side, ·)
    origin := if call = some .snapshot then some scene.store else scene.origin }

variable {scene : Scene} {request : Request} {side : Side} {identity : Identity} {key : Int64}
  {call : Option StoreCall} {its : Leg} {store : Store}

theorem holds_of_row {row : Row} {copy : Transaction} {annotations : Annotations}
    (holds : scene.Holds request.ledger identity key)
    (found : scene.store.rows.get? identity = some row)
    (read : row.transaction identity annotations = .ok copy) :
    copy.kind = request.ledger.kind ∧ copy.events.contains key = true := by
  obtain ⟨other, found', own, logs⟩ := holds
  cases found.symm.trans found'
  obtain ⟨kind, indexes⟩ := Row.logs_of_transaction read
  exact ⟨kind.trans own, (indexes key).mpr logs⟩

theorem Holds.of_row {other : Scene} (holds : scene.Holds request.ledger identity key)
    (same : other.store.rows.get? identity = scene.store.rows.get? identity) :
    other.Holds request.ledger identity key := by
  obtain ⟨row, found, rest⟩ := holds
  exact ⟨row, same.trans found, rest⟩

theorem Holds.of_added {other : Scene} (holds : scene.Holds request.ledger identity key)
    (stays : ∀ {row : Row}, scene.store.rows.get? identity = some row →
      other.store.rows.get? identity = some row) : other.Holds request.ledger identity key := by
  obtain ⟨row, found, rest⟩ := holds
  exact ⟨row, stays found, rest⟩

theorem holds_of_revised {before : Store} {known remote : TransactionMap} {copy tx : Transaction}
    (views : request.ledger.Views known remote)
    (replaced : before.replace (request.ledger.merge known remote).revised = .ok scene.store)
    (held : known.get? identity = some copy) (seen : remote.get? identity = some tx)
    (differs : request.ledger.compare copy tx ≠ .unchanged)
    (logged : (request.ledger.revision copy tx).events.contains key = true) :
    scene.Holds request.ledger identity key := by
  obtain ⟨_, kind, tidy⟩ := views.gathered.belongs seen
  refine ⟨_, Store.get?_of_revised views.gathered.keyed replaced held seen differs, ?_, ?_⟩
  · rw [Row.kind_keeping, Ledger.kind_revision, kind]
  · rwa [Row.logs_keeping (Ledger.tidy_revision _ (views.tidy identity copy held) tidy)]

/-- No step of the other pass takes a log index away that is kept. -/
theorem Keeps.itsMove (keeps : scene.Keeps request.ledger identity key)
    (moves : scene.its.Moves request scene.store call its store) :
    (scene.itsMove side call its store).Keeps request.ledger identity key := by
  obtain ⟨before, calls, origin, leg⟩ := scene
  obtain ⟨holds, safe⟩ := keeps
  cases moves with
  | stay => exact ⟨holds, safe⟩
  | load loads =>
      -- A snapshot that is taken now shows the log index.
      refine ⟨holds, ?_⟩
      rintro _ ⟨⟩ copy held
      obtain ⟨_, _, taken⟩ := loads.unhindered
      obtain ⟨_, found, _, read⟩ := (Store.get?_of_snapshot taken).mp held
      exact holds_of_row holds found read
  | hear =>
      refine ⟨holds, ?_⟩
      rintro _ ⟨⟩
      exact safe _ rfl
  | add views stored =>
      refine ⟨holds.of_added (Store.get?_of_fresh_of_present views.gathered.keyed stored), ?_⟩
      rintro _ ⟨⟩
      exact safe _ rfl
  | @replace known remote _ views replaced =>
      refine ⟨?_, by rintro _ ⟨⟩⟩
      by_cases same : ∀ copy tx, known.get? identity = some copy →
          remote.get? identity = some tx → request.ledger.compare copy tx = .unchanged
      · exact holds.of_row (Store.get?_of_revised_of_same views.gathered.keyed replaced same)
      · push Not at same
        obtain ⟨copy, tx, held, seen, differs⟩ := same
        -- The copy that is revised has the log index, and a revision drops none of its copy.
        obtain ⟨own, logged⟩ := safe known rfl copy held
        have kind := (views.gathered.belongs seen).2.1
        exact holds_of_revised views replaced held seen differs
          (Ledger.contains_revision_of_copy own kind logged)

theorem Keeps.of_added {known remote : TransactionMap}
    (keeps : scene.Keeps request.ledger identity key) (views : request.ledger.Views known remote)
    (stored : scene.store.addNew (request.ledger.merge known remote).fresh = .ok store) :
    (scene.ownMove side call store).Keeps request.ledger identity key :=
  ⟨keeps.holds.of_added (Store.get?_of_fresh_of_present views.gathered.keyed stored), keeps.safe⟩

theorem Keeps.of_row (keeps : scene.Keeps request.ledger identity key)
    (same : store.rows.get? identity = scene.store.rows.get? identity) :
    (scene.ownMove side call store).Keeps request.ledger identity key :=
  ⟨keeps.holds.of_row same, keeps.safe⟩

theorem Faithful.itsMove (faithful : scene.Faithful identity)
    (moves : scene.its.Moves request scene.store call its store) :
    (scene.itsMove side call its store).Faithful identity := by
  obtain ⟨before, calls, origin, leg⟩ := scene
  cases moves with
  | stay => exact faithful
  | load loads =>
      rintro _ ⟨⟩ copy held
      obtain ⟨_, _, taken⟩ := loads.unhindered
      obtain ⟨row, found, _, read⟩ := (Store.get?_of_snapshot taken).mp held
      rw [← (Row.transaction_eq_ok read).2.1] at read
      exact ⟨row, found, read⟩
  | hear =>
      rintro _ ⟨⟩
      exact faithful _ rfl
  | add views stored =>
      rintro _ ⟨⟩ copy held
      obtain ⟨row, found, read⟩ := faithful _ rfl copy held
      exact ⟨row, Store.get?_of_fresh_of_present views.gathered.keyed stored found, read⟩
  | replace views replaced => rintro _ ⟨⟩

/-- The other pass has stored the transaction as a new one. -/
structure Forestalled (scene : Scene) (side : Side) (identity : Identity) : Prop where
  stores : scene.its.Stores identity
  called : (side.other, StoreCall.addNew) ∈ scene.calls

theorem Forestalled.itsMove (forestalled : scene.Forestalled side identity)
    (moves : scene.its.Moves request scene.store call its store) :
    (scene.itsMove side call its store).Forestalled side identity :=
  ⟨forestalled.stores.moves moves, List.mem_append_left _ forestalled.called⟩

/-- What can be the case while a pass knows no copy: one was there that its snapshot did not show,
or there is none, or the other pass has stored one. -/
def Unseen (scene : Scene) (side : Side) (identity : Identity) : Prop :=
  scene.Hidden identity ∨ scene.store.rows.get? identity = none ∨
    scene.Forestalled side identity

theorem Unseen.itsMove (unseen : scene.Unseen side identity) (faithful : scene.Faithful identity)
    (moves : scene.its.Moves request scene.store call its store) :
    (scene.itsMove side call its store).Unseen side identity := by
  rcases unseen with hidden | free | forestalled
  · exact .inl hidden
  · obtain ⟨before, calls, origin, leg⟩ := scene
    cases moves with
    | stay => exact .inr (.inl free)
    | load loads => exact .inr (.inl free)
    | hear => exact .inr (.inl free)
    | @add known remote _ views stored =>
        right
        -- Where nothing is stored the other pass has no copy either.
        have unknown : known.get? identity = none := by
          cases held : known.get? identity with
          | none => rfl
          | some copy =>
              obtain ⟨row, found, _⟩ := faithful known rfl copy held
              cases free.symm.trans found
        have row := @Store.get?_of_fresh _ _ _ _ _ identity views.gathered.keyed stored
        rw [show before.rows.get? identity = none from free, unknown, Option.none_or] at row
        cases seen : remote.get? identity with
        | none =>
            rw [seen] at row
            exact .inl row
        | some tx =>
            refine .inr ⟨⟨unknown, SortedMap.contains_iff_exists.mpr ⟨tx, seen⟩⟩, ?_⟩
            exact List.mem_append_right _ (List.mem_singleton_self _)
    | @replace known remote _ views replaced =>
        refine .inr (.inl ((Store.get?_of_revised_of_same views.gathered.keyed replaced ?_).trans
          free))
        intro copy tx held
        obtain ⟨row, found, _⟩ := faithful known rfl copy held
        cases free.symm.trans found
  · exact .inr (.inr (forestalled.itsMove moves))

/-- What has come of a transaction that the pass found new: a copy was hidden from it, or its log
indexes are kept, or the other pass was first. -/
def FreshFate (scene : Scene) (ledger : Ledger) (side : Side) (identity : Identity)
    (tx : Transaction) : Prop :=
  scene.Hidden identity ∨
    (∀ key, tx.events.contains key = true → scene.Keeps ledger identity key) ∨
    (scene.its.Stores identity ∧
      [(side.other, StoreCall.addNew), (side, .addNew)].Sublist scene.calls)

/-- What has come of a log index of a revision: it is kept, or the other pass took its snapshot
before and may write over it, or has done so. -/
def RevisedFate (scene : Scene) (ledger : Ledger) (side : Side) (identity : Identity)
    (key : Int64) : Prop :=
  scene.Keeps ledger identity key ∨
    ([(side.other, StoreCall.snapshot), (side, .replace)].Sublist scene.calls ∧
      scene.Holds ledger identity key) ∨
    (scene.its.Replaces ledger identity ∧
      [(side.other, StoreCall.snapshot), (side, .replace), (side.other, .replace)].Sublist
        scene.calls)

theorem FreshFate.itsMove {tx : Transaction}
    (fate : scene.FreshFate request.ledger side identity tx)
    (moves : scene.its.Moves request scene.store call its store) :
    (scene.itsMove side call its store).FreshFate request.ledger side identity tx := by
  rcases fate with hidden | keeps | ⟨stores, first⟩
  · exact .inl hidden
  · exact .inr (.inl fun key logged => (keeps key logged).itsMove moves)
  · exact .inr (.inr ⟨stores.moves moves, first.trans (List.sublist_append_left _ _)⟩)

theorem RevisedFate.itsMove (fate : scene.RevisedFate request.ledger side identity key)
    (moves : scene.its.Moves request scene.store call its store) :
    (scene.itsMove side call its store).RevisedFate request.ledger side identity key := by
  have onward : scene.calls.Sublist (scene.itsMove side call its store).calls :=
    List.sublist_append_left _ _
  rcases fate with keeps | ⟨early, holds⟩ | ⟨replaces, last⟩
  · exact .inl (keeps.itsMove moves)
  · obtain ⟨before, calls, origin, leg⟩ := scene
    cases moves with
    | stay => exact .inr (.inl ⟨early.trans onward, holds⟩)
    | load loads => exact .inr (.inl ⟨early.trans onward, holds⟩)
    | hear => exact .inr (.inl ⟨early.trans onward, holds⟩)
    | add views stored =>
        exact .inr (.inl ⟨early.trans onward,
          holds.of_added (Store.get?_of_fresh_of_present views.gathered.keyed stored)⟩)
    | @replace known remote _ views replaced =>
        -- Nothing is known of the copy that is revised here, which may be older than the row.
        right
        by_cases same : ∀ copy tx, known.get? identity = some copy →
            remote.get? identity = some tx → request.ledger.compare copy tx = .unchanged
        · exact .inl ⟨early.trans onward,
            holds.of_row (Store.get?_of_revised_of_same views.gathered.keyed replaced same)⟩
        · push Not at same
          exact .inr ⟨same, early.append (List.Sublist.refl [(side.other, StoreCall.replace)])⟩
  · exact .inr (.inr ⟨replaces.moves moves, last.trans onward⟩)

/-- How a pass that has come to this leg stands with one transaction. -/
inductive Account (scene : Scene) (ledger : Ledger) (side : Side) (identity : Identity) :
    Leg → Prop where
  | opening (faithful : scene.Faithful identity) : Account scene ledger side identity .opening
  | opened {known remote : TransactionMap} {awaited : Nat} (faithful : scene.Faithful identity)
      (seen : ∀ copy, known.get? identity = some copy → copy.kind = ledger.kind →
        ∀ key, copy.events.contains key = true → scene.Keeps ledger identity key)
      (unseen : known.get? identity = none → scene.Unseen side identity) :
      Account scene ledger side identity (.opened known remote awaited)
  | added {known remote : TransactionMap}
      (seen : ∀ copy, known.get? identity = some copy → copy.kind = ledger.kind →
        ∀ key, copy.events.contains key = true → scene.Keeps ledger identity key)
      (fresh : ∀ tx, known.get? identity = none → remote.get? identity = some tx →
        scene.FreshFate ledger side identity tx) :
      Account scene ledger side identity (.added known remote)
  | done {known remote : TransactionMap}
      (unchanged : ∀ copy, known.get? identity = some copy → copy.kind = ledger.kind →
        (∀ tx, remote.get? identity = some tx → ledger.compare copy tx = .unchanged) →
        ∀ key, copy.events.contains key = true → scene.Keeps ledger identity key)
      (fresh : ∀ tx, known.get? identity = none → remote.get? identity = some tx →
        scene.FreshFate ledger side identity tx)
      (revised : ∀ copy tx, known.get? identity = some copy → remote.get? identity = some tx →
        ledger.compare copy tx ≠ .unchanged → ∀ key,
          (ledger.revision copy tx).events.contains key = true →
            scene.RevisedFate ledger side identity key) :
      Account scene ledger side identity (.done known remote)

variable {mine next : Leg}

theorem Account.itsMove (account : scene.Account request.ledger side identity mine)
    (moves : scene.its.Moves request scene.store call its store) :
    (scene.itsMove side call its store).Account request.ledger side identity mine := by
  cases account with
  | opening faithful => exact .opening (faithful.itsMove moves)
  | opened faithful seen unseen =>
      exact .opened (faithful.itsMove moves)
        (fun copy held own key logged => (seen copy held own key logged).itsMove moves)
        (fun unknown => (unseen unknown).itsMove faithful moves)
  | added seen fresh =>
      exact .added (fun copy held own key logged => (seen copy held own key logged).itsMove moves)
        (fun tx unknown found => (fresh tx unknown found).itsMove moves)
  | done unchanged fresh revised =>
      exact .done
        (fun copy held own same key logged =>
          (unchanged copy held own same key logged).itsMove moves)
        (fun tx unknown found => (fresh tx unknown found).itsMove moves)
        (fun copy tx held found differs key logged =>
          (revised copy tx held found differs key logged).itsMove moves)

theorem ownMove_none (scene : Scene) (side : Side) :
    scene.ownMove side none scene.store = scene := by
  simp [ownMove]

theorem account_of_loads {outage : Outage} {known : TransactionMap} (awaited : Nat)
    (faithful : scene.Faithful identity) (loads : Loads outage scene.store request known) :
    (scene.ownMove side (some .snapshot) scene.store).Account request.ledger side identity
      (.opened known .empty awaited) := by
  obtain ⟨_, _, taken⟩ := loads.unhindered
  refine .opened faithful ?_ ?_
  · intro copy held own key logged
    obtain ⟨row, found, _, read⟩ := (Store.get?_of_snapshot taken).mp held
    obtain ⟨kind, indexes⟩ := Row.logs_of_transaction read
    have holds : scene.Holds request.ledger identity key :=
      ⟨row, found, kind.symm.trans own, (indexes key).mp logged⟩
    refine ⟨holds, fun known' pending copy' held' => ?_⟩
    obtain ⟨_, found', read'⟩ := faithful known' pending copy' held'
    exact holds_of_row holds found' read'
  · intro unknown
    cases found : scene.store.rows.get? identity with
    | none => exact .inr (.inl found)
    | some row =>
        exact .inl ⟨scene.store, rfl, SortedMap.contains_iff_exists.mpr ⟨row, found⟩⟩

theorem freshFate_of_unseen {known remote : TransactionMap} {tx : Transaction}
    (views : request.ledger.Views known remote) (faithful : scene.Faithful identity)
    (unseen : scene.Unseen side identity) (unknown : known.get? identity = none)
    (found : remote.get? identity = some tx)
    (stored : scene.store.addNew (request.ledger.merge known remote).fresh = .ok store) :
    (scene.ownMove side (some .addNew) store).FreshFate request.ledger side identity tx := by
  rcases unseen with hidden | free | forestalled
  · exact .inl hidden
  · right; left
    intro key logged
    obtain ⟨_, kind, tidy⟩ := views.gathered.belongs found
    have row := @Store.get?_of_fresh _ _ _ _ _ identity views.gathered.keyed stored
    rw [free, unknown, found] at row
    refine ⟨⟨_, row, (Row.kind_keeping tx).trans kind, (Row.logs_keeping tidy).mpr logged⟩, ?_⟩
    intro known' pending copy held
    obtain ⟨_, there, _⟩ := faithful known' pending copy held
    cases free.symm.trans there
  · refine .inr (.inr ⟨forestalled.stores, ?_⟩)
    exact (List.singleton_sublist.mpr forestalled.called).append
      (List.Sublist.refl [(side, StoreCall.addNew)])

theorem revisedFate_of_replaced {known remote : TransactionMap} {copy tx : Transaction}
    (views : request.ledger.Views known remote)
    (heard : scene.its.pending?.isSome = true → (side.other, StoreCall.snapshot) ∈ scene.calls)
    (replaced : scene.store.replace (request.ledger.merge known remote).revised = .ok store)
    (held : known.get? identity = some copy) (seen : remote.get? identity = some tx)
    (differs : request.ledger.compare copy tx ≠ .unchanged)
    (logged : (request.ledger.revision copy tx).events.contains key = true) :
    (scene.ownMove side (some .replace) store).RevisedFate request.ledger side identity key := by
  have holds : (scene.ownMove side (some .replace) store).Holds request.ledger identity key :=
    holds_of_revised views replaced held seen differs logged
  -- Only a pass that holds a copy already can write over this one.
  cases pending : scene.its.pending? with
  | none =>
      refine .inl ⟨holds, fun known' pending' => ?_⟩
      cases pending.symm.trans pending'
  | some known' =>
      rw [pending] at heard
      exact .inr (.inl ⟨(List.singleton_sublist.mpr (heard rfl)).append
        (List.Sublist.refl [(side, StoreCall.replace)]), holds⟩)

theorem Account.ownMove (account : scene.Account request.ledger side identity mine)
    (heard : scene.its.pending?.isSome = true → (side.other, StoreCall.snapshot) ∈ scene.calls)
    (moves : mine.Moves request scene.store call next store) :
    (scene.ownMove side call store).Account request.ledger side identity next := by
  cases moves with
  | stay => rwa [ownMove_none]
  | load loads =>
      cases account with
      | opening faithful => exact account_of_loads _ faithful loads
  | hear =>
      rw [ownMove_none]
      cases account with
      | opened faithful seen unseen => exact .opened faithful seen unseen
  | add views stored =>
      cases account with
      | opened faithful seen unseen =>
          exact .added
            (fun copy held own key logged => (seen copy held own key logged).of_added views stored)
            (fun tx unknown found =>
              freshFate_of_unseen views faithful (unseen unknown) unknown found stored)
  | @replace known remote _ views replaced =>
      have stays := @Store.get?_of_revised_of_same _ _ _ _ _ identity views.gathered.keyed replaced
      cases account with
      | added seen fresh =>
          refine .done ?_ ?_ ?_
          · intro copy held own same key logged
            refine (seen copy held own key logged).of_row (stays fun other tx held' found => ?_)
            cases held.symm.trans held'
            exact same tx found
          · intro tx unknown found
            have same := stays fun copy _ held => by cases unknown.symm.trans held
            rcases fresh tx unknown found with hidden | keeps | ⟨stores, first⟩
            · exact .inl hidden
            · exact .inr (.inl fun key logged => (keeps key logged).of_row same)
            · exact .inr (.inr ⟨stores, first.trans (List.sublist_append_left _ _)⟩)
          · intro copy tx held found differs key logged
            exact revisedFate_of_replaced views heard replaced held found differs logged

end Scene

end Pass

end Passbook
