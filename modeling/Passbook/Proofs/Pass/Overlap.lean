import Mathlib.Data.List.Induction
import Passbook.Proofs.Pass.History
import Passbook.Proofs.Pass.Scene
/-!
Two passes that overlap. What the merged view of a pass shows of a transaction is stored in the
end, unless the other pass overrules it: both found the transaction new and the other stored it
first, or both replaced their copy, each without having seen what the other wrote, and the other
came last.
-/

namespace Passbook

namespace Pass

theorem not_sublist_swap {α : Type} {calls : List α} (once : calls.Nodup) {first second : α}
    (order : [first, second].Sublist calls) : ¬ [second, first].Sublist calls := by
  intro swapped
  induction calls with
  | nil => cases order
  | cons call calls ih =>
      obtain ⟨new, once⟩ := List.nodup_cons.mp once
      cases order with
      | cons _ order =>
          cases swapped with
          | cons _ swapped => exact ih once order swapped
          | cons_cons _ _ => exact new (order.subset (by simp))
      | cons_cons _ order =>
          cases swapped with
          | cons _ swapped => exact new (swapped.subset (by simp))
          | cons_cons _ _ => exact new (order.subset (by simp))

namespace Pair
variable {store : Store} {requests : Side → Request} {ledger : Ledger} {identity : Identity}
  {pair : Pair} {legs : Side → Leg}

def scene (pair : Pair) (legs : Side → Leg) (side : Side) : Scene where
  store := pair.store
  calls := pair.calls
  origin := pair.origins side
  its := legs side.other

def callsOf (pair : Pair) (side : Side) : List StoreCall :=
  (pair.calls.filter fun call => call.1 = side).map Prod.snd

theorem mem_callsOf {side : Side} {call : StoreCall} :
    call ∈ pair.callsOf side ↔ (side, call) ∈ pair.calls := by
  simp [callsOf]

theorem calls_nodup (once : ∀ side, (pair.callsOf side).Nodup) : pair.calls.Nodup := by
  rw [List.nodup_iff_sublist]
  rintro ⟨side, call⟩ twice
  have both : [call, call].Sublist (pair.callsOf side) := by
    simpa [callsOf] using (twice.filter fun made => made.1 = side).map Prod.snd
  exact List.nodup_iff_sublist.mp (once side) call both

/-- Both passes have come this far without a problem. -/
structure Tells (pair : Pair) (requests : Side → Request) (ledger : Ledger) (identity : Identity)
    (legs : Side → Leg) : Prop where
  stands : ∀ side, (legs side).Stands (requests side) (pair.passes side)
  made : ∀ side, pair.callsOf side = (legs side).calls
  account : ∀ side, (pair.scene legs side).Account ledger side identity (legs side)

theorem tells_start (store : Store) (requests : Side → Request) (ledger : Ledger)
    (identity : Identity) :
    (start store requests).Tells requests ledger identity fun _ => .opening where
  stands _ := .opening
  made _ := rfl
  account _ := .opening fun _ pending => by cases pending

section Passes
variable (pair : Pair) (turn : Turn)

theorem store_turn : (pair.turn turn).store =
    (step turn.outage pair.store (pair.passes turn.side) turn.step).1 := rfl

@[simp] theorem passes_turn_self : (pair.turn turn).passes turn.side =
    (step turn.outage pair.store (pair.passes turn.side) turn.step).2 :=
  if_pos rfl

@[simp] theorem passes_turn_of_ne {side : Side} (other : side ≠ turn.side) :
    (pair.turn turn).passes side = pair.passes side :=
  if_neg other

end Passes

/-- A pass makes these steps while the other one waits. -/
def alone (side : Side) (outage : Outage) (next : List Step) : List Turn :=
  next.map fun step => { side, step, outage }

theorem foldl_turn_alone (side : Side) (outage : Outage) (next : List Step) (pair : Pair) :
    let reached := runSteps outage pair.store (pair.passes side) next
    let after := (alone side outage next).foldl turn pair
    after.store = reached.1 ∧ after.passes side = reached.2 ∧
      after.passes side.other = pair.passes side.other := by
  induction next generalizing pair with
  | nil => exact ⟨rfl, rfl, rfl⟩
  | cons step rest ih =>
      obtain ⟨store, own, others⟩ := ih (pair.turn { side, step, outage })
      have self := passes_turn_self pair { side, step, outage }
      have waits := passes_turn_of_ne pair { side, step, outage } (Side.other_ne side)
      rw [self, store_turn] at store own
      exact ⟨store, own, others.trans waits⟩

/-- Passes of which one begins when the other has ended are run one after the other. -/
theorem run_alone (store : Store) (requests : Side → Request) (outage outage' : Outage)
    (arrivals arrivals' : List Arrival) :
    let pair := run store requests
      (alone .first outage (steps arrivals) ++ alone .second outage' (steps arrivals'))
    let earlier := Pass.run outage store (requests .first) arrivals
    let later := Pass.run outage' earlier.1 (requests .second) arrivals'
    pair.store = later.1 ∧ pair.passes .first = earlier.2 ∧ pair.passes .second = later.2 := by
  intro pair earlier later
  let between := (alone .first outage (steps arrivals)).foldl turn (start store requests)
  have parts : pair = (alone .second outage' (steps arrivals')).foldl turn between :=
    List.foldl_append
  obtain ⟨kept, first, waits⟩ :=
    foldl_turn_alone .first outage (steps arrivals) (start store requests)
  obtain ⟨left, second, stays⟩ := foldl_turn_alone .second outage' (steps arrivals') between
  have again : runSteps outage' between.store (between.passes .second) (steps arrivals') =
      later := by
    have fresh : between.passes .second = { request := requests .second } := waits
    rw [show between.store = earlier.1 from kept, fresh]
    rfl
  rw [again] at left second
  rw [parts]
  exact ⟨left, stays.trans first, second⟩

theorem hasFailed_turn {turn : Turn} {side : Side} (failed : (pair.passes side).HasFailed) :
    ((pair.turn turn).passes side).HasFailed := by
  by_cases own : side = turn.side
  · subst own
    simpa [failed.step] using failed
  · simpa [own] using failed

section Turn
variable (pair : Pair) (legs : Side → Leg) (turn : Turn) (after : Leg)

def legsAfter : Side → Leg := fun side => if side = turn.side then after else legs side

theorem scene_turn_self : (pair.turn turn).scene (legsAfter legs turn after) turn.side =
    (pair.scene legs turn.side).ownMove turn.side (call? (pair.passes turn.side) turn.step)
      (step turn.outage pair.store (pair.passes turn.side) turn.step).1 := by
  simp [scene, Pair.turn, legsAfter, Scene.ownMove, Side.other_ne]

theorem scene_turn_other : (pair.turn turn).scene (legsAfter legs turn after) turn.side.other =
    (pair.scene legs turn.side.other).itsMove turn.side.other
      (call? (pair.passes turn.side) turn.step) after
      (step turn.outage pair.store (pair.passes turn.side) turn.step).1 := by
  simp [scene, Pair.turn, legsAfter, Scene.itsMove, Side.other_ne]

end Turn

theorem callsOf_turn (pair : Pair) (turn : Turn) (side : Side) :
    (pair.turn turn).callsOf side = pair.callsOf side ++
      if side = turn.side then (call? (pair.passes turn.side) turn.step).toList else [] := by
  have made : (pair.turn turn).calls =
      pair.calls ++ (call? (pair.passes turn.side) turn.step).toList.map (turn.side, ·) := rfl
  rw [callsOf, made, List.filter_append, List.map_append, callsOf]
  cases call? (pair.passes turn.side) turn.step with
  | none => simp
  | some call =>
      by_cases own : side = turn.side
      · simp [own]
      · simp [own, Ne.symm own]

theorem Tells.turn (tells : pair.Tells requests ledger identity legs)
    (clones : ∀ side, (requests side).ledger = ledger) {turn : Turn}
    (keyed : turn.step.Keyed) :
    (∃ side, ((pair.turn turn).passes side).HasFailed) ∨
      ∃ legs, (pair.turn turn).Tells requests ledger identity legs := by
  rcases @Leg.Stands.step_cases turn.outage pair.store _ _ _ (tells.stands turn.side) turn.step
    keyed with failed | ⟨after, stands, moves⟩
  · left
    refine ⟨turn.side, ?_⟩
    simpa using failed
  · right
    refine ⟨legsAfter legs turn after, ?_, ?_, ?_⟩
    · intro side
      by_cases own : side = turn.side
      · subst own
        simpa [legsAfter] using stands
      · simpa [legsAfter, own] using tells.stands side
    · intro side
      rw [callsOf_turn, tells.made]
      by_cases own : side = turn.side
      · subst own
        simp [legsAfter, moves.calls]
      · simp [legsAfter, own]
    · intro side
      rcases Side.eq_or_eq_other side turn.side with rfl | rfl
      · have account := tells.account turn.side
        rw [← clones turn.side] at account ⊢
        rw [scene_turn_self, legsAfter, if_pos rfl]
        refine account.ownMove (fun pending => mem_callsOf.mp ?_) moves
        rw [tells.made]
        exact Leg.snapshot_mem_calls pending
      · have account := tells.account turn.side.other
        rw [← clones turn.side] at account ⊢
        rw [scene_turn_other, legsAfter, if_neg (Side.other_ne _)]
        refine account.itsMove ?_
        simpa [scene] using moves

/-- However the passes take turns, one of them fails or both are accounted for. -/
theorem run_cases (store : Store) (requests : Side → Request) {ledger : Ledger}
    (clones : ∀ side, (requests side).ledger = ledger) (identity : Identity) {turns : List Turn}
    (keyed : ∀ turn ∈ turns, turn.step.Keyed) :
    (∃ side, ((run store requests turns).passes side).HasFailed) ∨
      ∃ legs, (run store requests turns).Tells requests ledger identity legs := by
  -- One more turn is an own step for its side, and for the other side a step of the other pass.
  induction turns using List.reverseRecOn with
  | nil => exact .inr ⟨_, tells_start store requests ledger identity⟩
  | append_singleton before turn ih =>
      obtain ⟨earlier, last⟩ := List.forall_mem_append.mp keyed
      have onward : run store requests (before ++ [turn]) =
          (run store requests before).turn turn := by
        rw [run, List.foldl_concat]
        rfl
      rw [onward]
      rcases ih earlier with ⟨side, failed⟩ | ⟨legs, tells⟩
      · exact .inl ⟨side, hasFailed_turn failed⟩
      · exact tells.turn clones (last turn (List.mem_singleton_self turn))

def stats (pair : Pair) (side : Side) : Stats := (pair.passes side).tracker.published.stats

/-- The other pass has the last word on a transaction: both passes found it new and the other
stored it first, or both replaced their copy, the other with a snapshot from before this pass wrote
and a write from after. -/
def Overruled (pair : Pair) (side : Side) (identity : Identity) : Prop :=
  (identity ∈ (pair.stats side).stored ∧ identity ∈ (pair.stats side.other).stored ∧
    [(side.other, StoreCall.addNew), (side, .addNew)].Sublist pair.calls) ∨
  (identity ∈ (pair.stats side).replaced ∧ identity ∈ (pair.stats side.other).replaced ∧
    [(side.other, StoreCall.snapshot), (side, .replace), (side.other, .replace)].Sublist pair.calls)

/-- When the pass took its snapshot a copy was stored that it was not shown. -/
def Hidden (pair : Pair) (side : Side) (identity : Identity) : Prop :=
  ∃ taken known, pair.origins side = some taken ∧
    Update.known known ∈ (pair.passes side).updates ∧
    taken.rows.contains identity = true ∧ known.contains identity = false

/-- What has come of a log index that a pass shows. -/
def Settled (pair : Pair) (side : Side) (identity : Identity) (key : Int64) : Prop :=
  pair.store.Logs identity key ∨ pair.Overruled side identity ∨ pair.Hidden side identity

theorem logs_of_holds {side : Side} {key : Int64}
    (holds : (pair.scene legs side).Holds ledger identity key) :
    pair.store.Logs identity key := by
  obtain ⟨row, found, _, logs⟩ := holds
  exact ⟨row, found, logs⟩

section Ends
variable {side : Side} {known remote known' remote' : TransactionMap} {key : Int64}
  (here : pair.passes side = (merging (requests side) known remote).closed none)
  (there : pair.passes side.other = (merging (requests side.other) known' remote').closed none)
  (its : legs side.other = .done known' remote')

include here there its

theorem settled_of_freshFate {tx : Transaction}
    (fate : (pair.scene legs side).FreshFate ledger side identity tx)
    (unknown : known.get? identity = none) (found : remote.get? identity = some tx)
    (logged : tx.events.contains key = true) : pair.Settled side identity key := by
  rcases fate with ⟨taken, origin, stored⟩ | keeps | ⟨stores, first⟩
  · refine .inr (.inr ⟨taken, known, origin, ?_, stored, SortedMap.contains_eq_false_iff.mpr unknown⟩)
    rw [here]
    exact List.mem_cons_self
  · exact .inl (logs_of_holds (keeps key logged).holds)
  · obtain ⟨unknown', listed⟩ : known'.get? identity = none ∧ remote'.contains identity = true := by
      have stores : (legs side.other).Stores identity := stores
      rwa [its] at stores
    refine .inr (.inl (.inl ⟨?_, ?_, first⟩))
    · rw [stats, here, published_closed_none]
      exact mem_stored_merging.mpr ⟨unknown, SortedMap.contains_iff_exists.mpr ⟨tx, found⟩⟩
    · rw [stats, there, published_closed_none]
      exact mem_stored_merging.mpr ⟨unknown', listed⟩

theorem settled_of_revisedFate (clones : ∀ side, (requests side).ledger = ledger)
    {copy tx : Transaction}
    (fate : (pair.scene legs side).RevisedFate ledger side identity key)
    (held : known.get? identity = some copy) (found : remote.get? identity = some tx)
    (differs : ledger.compare copy tx ≠ .unchanged) : pair.Settled side identity key := by
  rcases fate with keeps | ⟨_, holds⟩ | ⟨replaces, last⟩
  · exact .inl (logs_of_holds keeps.holds)
  · exact .inl (logs_of_holds holds)
  · obtain ⟨copy', tx', held', found', differs'⟩ : (Leg.done known' remote').Replaces ledger
        identity := by
      have replaces : (legs side.other).Replaces ledger identity := replaces
      rwa [its] at replaces
    rw [← clones side] at differs
    rw [← clones side.other] at differs'
    refine .inr (.inl (.inr ⟨?_, ?_, last⟩))
    · rw [stats, here, published_closed_none]
      exact mem_replaced_merging.mpr ⟨copy, tx, held, found, differs⟩
    · rw [stats, there, published_closed_none]
      exact mem_replaced_merging.mpr ⟨copy', tx', held', found', differs'⟩

end Ends

theorem Tells.apart (tells : pair.Tells requests ledger identity legs) {side : Side}
    (success : (pair.passes side).tracker.published.stage = .done .success) {other : Identity}
    (stored : other ∈ (pair.stats side).stored) : other ∉ (pair.stats side).replaced := by
  obtain ⟨known, remote, _, here⟩ := (tells.stands side).exists_done success
  rw [stats, here, published_closed_none] at stored ⊢
  rw [mem_replaced_merging]
  rintro ⟨copy, _, held, _, _⟩
  cases (mem_stored_merging.mp stored).1.symm.trans held

/-- One of the passes stands: no transaction is overruled on both sides. -/
theorem Tells.not_overruled (tells : pair.Tells requests ledger identity legs)
    (success : ∀ side, (pair.passes side).tracker.published.stage = .done .success)
    {side : Side} {other : Identity} (overruled : pair.Overruled side other) :
    ¬ pair.Overruled side.other other := by
  have once : pair.calls.Nodup := calls_nodup fun side => by
    rw [tells.made]
    exact (legs side).calls_nodup
  rintro (⟨stored', stored, first'⟩ | ⟨replaced', replaced, last'⟩)
  · rw [Side.other_other] at stored first'
    rcases overruled with ⟨_, _, first⟩ | ⟨replaced, _, _⟩
    · exact not_sublist_swap once first first'
    · exact tells.apart (success side) stored replaced
  · rw [Side.other_other] at replaced last'
    rcases overruled with ⟨stored, _, _⟩ | ⟨_, _, last⟩
    · exact tells.apart (success side) stored replaced
    · exact not_sublist_swap once (List.sublist_of_cons_sublist last)
        (List.sublist_of_cons_sublist last')

theorem Tells.settled (tells : pair.Tells requests ledger identity legs)
    (clones : ∀ side, (requests side).ledger = ledger)
    (success : ∀ side, (pair.passes side).tracker.published.stage = .done .success)
    {side : Side} {view : TransactionMap} (shown : Update.merged view ∈ (pair.passes side).updates)
    {tx : Transaction} (found : view.get? identity = some tx) (own : tx.kind = ledger.kind)
    {key : Int64} (logged : tx.events.contains key = true) : pair.Settled side identity key := by
  obtain ⟨known, remote, mine, here⟩ := (tells.stands side).exists_done (success side)
  obtain ⟨known', remote', its, there⟩ := (tells.stands side.other).exists_done (success side.other)
  obtain rfl : view = (ledger.merge known remote).view := by
    rw [here] at shown
    have merged : Update.merged view ∈
        [Update.known known, .merged ((requests side).ledger.merge known remote).view] := shown
    simpa [clones side] using merged
  have account := tells.account side
  rw [mine] at account
  cases account with
  | done unchanged fresh revised =>
      rw [Ledger.get?_view] at found
      cases seen : remote.get? identity with
      | none =>
          rw [seen] at found
          exact .inl (logs_of_holds (unchanged tx found own (by simp [seen]) key logged).holds)
      | some sighting =>
          rw [seen, Option.bind_some] at found
          -- What is shown of a sighting is the sighting, the copy or the revision.
          rcases @Ledger.judge_cases ledger known identity sighting with
            ⟨unknown, judged⟩ | ⟨copy, held, same, judged⟩ | ⟨copy, held, differs, judged⟩
          · rw [judged, Verdict.written?, Option.some_or, Option.some.injEq] at found
            subst found
            exact settled_of_freshFate here there its (fresh sighting unknown seen) unknown seen
              logged
          · rw [judged, Verdict.written?, Option.none_or, held, Option.some.injEq] at found
            subst found
            refine .inl (logs_of_holds (unchanged copy held own ?_ key logged).holds)
            intro other seen'
            cases seen.symm.trans seen'
            exact same
          · rw [judged, Verdict.written?, Option.some_or, Option.some.injEq] at found
            subst found
            exact settled_of_revisedFate here there its clones
              (revised copy sighting held seen differs key logged) held seen differs

/-- Two passes over one ledger take turns on a store in any order. If both end well, then whatever
log index one of them shows of a transaction of the ledger's own kind is stored in the end, unless
the other pass overrules it or a stored copy was hidden from it. What one pass overrules it is not
overruled on itself. -/
theorem settled_of_success (store : Store) {requests : Side → Request} {ledger : Ledger}
    (clones : ∀ side, (requests side).ledger = ledger) {turns : List Turn}
    (keyed : ∀ turn ∈ turns, turn.step.Keyed)
    (success : ∀ side, ((run store requests turns).passes side).tracker.published.stage =
      .done .success) (side : Side) (identity : Identity) :
    (∀ view, Update.merged view ∈ ((run store requests turns).passes side).updates →
      ∀ tx, view.get? identity = some tx → tx.kind = ledger.kind →
        ∀ key, tx.events.contains key = true →
          (run store requests turns).Settled side identity key) ∧
      ((run store requests turns).Overruled side identity →
        ¬ (run store requests turns).Overruled side.other identity) := by
  rcases run_cases store requests clones identity keyed with ⟨other, failed⟩ | ⟨legs, tells⟩
  · cases failed.failed.shown.symm.trans (success other)
  · exact ⟨fun view shown tx found own key logged =>
      tells.settled clones success shown found own logged, tells.not_overruled success⟩

end Pair

end Pass

namespace Sample
open Pass

def told (events : List TransferEvent) : Step :=
  .receive (.found (.ofTransactions [shared events]))

theorem keyed_told (events : List TransferEvent) : (told events).Keyed :=
  Step.keyed_found (List.forall_mem_singleton.mpr (EventLog.keyed_ofEvents events))

/-- Both passes have heard, the second one of one more event, before either of them writes. -/
def overlapping (writer : Side) : List Turn :=
  [⟨.first, .load, .none⟩, ⟨.second, .load, .none⟩,
    ⟨.first, told [transfer first 0], .none⟩,
    ⟨.second, told [transfer first 0, transfer first 1], .none⟩,
    ⟨writer, .add, .none⟩, ⟨writer, .replace, .none⟩,
    ⟨writer.other, .add, .none⟩, ⟨writer.other, .replace, .none⟩]

theorem keyed_overlapping (writer : Side) :
    ∀ turn ∈ overlapping writer, turn.step.Keyed := by
  simp [overlapping, keyed_told]

def serial (heard later : Step) : List Turn :=
  Pair.alone .first .none [.load, heard, .add, .replace] ++
    Pair.alone .second .none [.load, later, .add, .replace]

theorem keyed_serial {heard later : Step} (keyed : heard.Keyed) (keyed' : later.Keyed) :
    ∀ turn ∈ serial heard later, turn.step.Keyed := by
  simp [serial, Pair.alone, keyed, keyed']

def account : String := "11111111111111111111111111111111"

def payment : Transaction :=
  .sequential {
    identity := ⟨ledger.chain, 10, 0⟩
    gas := ⟨1, 21000, 21000⟩
    gasCurrency := ""
    status := "ok"
    hash := "0x11"
    timestamp := .epoch
    publicKey := ""
    transfer := ⟨"CELO", account, account, 5⟩ }

end Sample

namespace Pass

namespace Pair

/-- Both passes find the transaction new, and the second one stores it too late. -/
theorem settled_of_success_sample :
    let pair := run .empty (fun _ => Sample.request Sample.first) (Sample.overlapping .first)
    let identity := (Sample.shared []).identity
    pair.Overruled .second identity ∧
      (∀ view, Update.merged view ∈ (pair.passes .second).updates →
        ∀ tx, view.get? identity = some tx → tx.kind = Sample.ledger.kind →
          ∀ key, tx.events.contains key = true → pair.Settled .second identity key) ∧
      (pair.Overruled .second identity → ¬ pair.Overruled .first identity) := by
  refine ⟨.inl ⟨by decide +kernel, by decide +kernel, by decide +kernel⟩, ?_⟩
  exact settled_of_success .empty (fun _ => rfl) (Sample.keyed_overlapping .first)
    (fun side => by cases side <;> decide +kernel) .second (Sample.shared []).identity

/-- Two passes over the same addresses end well, and what is stored in the end lacks a log index
that one of them showed. -/
structure Loses (store : Store) (request : Request) (turns : List Turn) (side : Side)
    (identity : Identity) (key : Int64) : Prop where
  keyed : ∀ turn ∈ turns, turn.step.Keyed
  success : ∀ side, ((run store (fun _ => request) turns).passes side).tracker.published.stage =
    .done .success
  shown : ∃ view tx,
    Update.merged view ∈ ((run store (fun _ => request) turns).passes side).updates ∧
      view.get? identity = some tx ∧ tx.events.contains key = true
  lost : ¬ (run store (fun _ => request) turns).store.Logs identity key

theorem loses_of_copy {store : Store} {request : Request} {turns : List Turn} {side : Side}
    {identity : Identity} {key : Int64} (view : TransactionMap) (tx copy : Transaction)
    (keyed : ∀ turn ∈ turns, turn.step.Keyed)
    (apart : view.get? identity = some tx ∧ tx.events.contains key = true ∧
      copy.events.contains key = false)
    (ran : (∀ side ∈ [Side.first, .second],
        ((run store (fun _ => request) turns).passes side).tracker.published.stage =
          .done .success) ∧
      Update.merged view ∈ ((run store (fun _ => request) turns).passes side).updates ∧
      (run store (fun _ => request) turns).store.transaction? identity none = .ok (some copy)) :
    Loses store request turns side identity key := by
  obtain ⟨found, logged, lacks⟩ := apart
  obtain ⟨success, shown, read⟩ := ran
  refine ⟨keyed, fun side => success side ?_, ⟨view, tx, shown, found, logged⟩, ?_⟩
  · cases side <;> decide
  · rw [Store.logs_iff_of_transaction? read, lacks]
    exact Bool.false_ne_true

/-- Each exception is met with: a transaction that is new to both passes, one of which both have a
copy to extend, one whose copy the snapshots hide, and one whose copy is of another kind. -/
theorem log_indexes_lost :
    let identity := (Sample.shared []).identity
    let wallet := Sample.request Sample.first
    let account := { wallet with ledger.kind := .sequential, addresses := [Sample.account] }
    let stored := fun event => Store.after [.add [Sample.shared [event]]]
    Loses .empty wallet (Sample.overlapping .first) .second identity 1 ∧
      Loses (stored (Sample.transfer Sample.first 2)) wallet (Sample.overlapping .second)
        .second identity 1 ∧
      Loses (stored (Sample.transfer Sample.second 1)) wallet
        (Sample.serial (Sample.told [Sample.transfer Sample.first 0])
          (Sample.told [Sample.transfer Sample.first 0])) .second identity 0 ∧
      Loses (stored (Sample.transfer Sample.account 0)) account
        (Sample.serial (.receive (.found (.ofTransactions [])))
          (.receive (.found (.ofTransactions [Sample.payment])))) .first identity 0 := by
  have plain : EventLog.Keyed Sample.payment.events := by rintro _ _ ⟨⟩
  let zero := Sample.transfer Sample.first 0
  let one := Sample.transfer Sample.first 1
  let two := Sample.transfer Sample.first 2
  refine ⟨?_, ?_, ?_, ?_⟩
  · exact loses_of_copy (.ofTransactions [Sample.shared [zero, one]]) (Sample.shared [zero, one])
      (Sample.shared [zero]) (Sample.keyed_overlapping .first) (by decide +kernel)
      (by decide +kernel)
  · exact loses_of_copy (.ofTransactions [Sample.shared [zero, one, two]])
      (Sample.shared [zero, one, two]) (Sample.shared [zero, two])
      (Sample.keyed_overlapping .second) (by decide +kernel) (by decide +kernel)
  · exact loses_of_copy (.ofTransactions [Sample.shared [zero]]) (Sample.shared [zero])
      (Sample.shared [Sample.transfer Sample.second 1])
      (Sample.keyed_serial (Sample.keyed_told _) (Sample.keyed_told _)) (by decide +kernel)
      (by decide +kernel)
  · exact loses_of_copy (.ofTransactions [Sample.shared [Sample.transfer Sample.account 0]])
      (Sample.shared [Sample.transfer Sample.account 0]) Sample.payment
      (Sample.keyed_serial (Step.keyed_found (by simp))
        (Step.keyed_found (List.forall_mem_singleton.mpr plain))) (by decide +kernel)
      (by decide +kernel)

end Pair

end Pass

end Passbook
