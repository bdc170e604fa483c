import Passbook.Proofs.Pass.Effect
/-!
What is known of a pass after any steps, whatever the store was at each of them. While it listens
its remote view is what the answers heard so far fold into. Once all of them are heard it shows, and
goes on to write, what the merge of its two views comes to, and nothing else.
-/

namespace Passbook.Pass

/-- The answers that a pass has heard after a step. It hears nothing unless it waits for answers. -/
def heard (pass : Pass) (before : List Arrival) (next : Step) : List Arrival :=
  match pass.phase, next with
  | .fetching _ _ _, .receive arrival => before ++ [arrival]
  | _, _ => before

/-- The pass that has added what is new and not yet replaced what is revised. -/
def halfway (request : Request) (known remote : TransactionMap) : Pass :=
  { merging request known remote with
    phase := .replacing (request.ledger.merge known remote).revised }

/-- A pass for the request can stand so, with these answers heard. -/
inductive Course (request : Request) : List Arrival → Pass → Prop where
  | opening : Course request [] { request }
  /-- Once nothing is awaited the views are merged. -/
  | opened {views : List TransactionMap} {known remote : TransactionMap} {awaited : Nat}
      (folded : request.ledger.remote views = .ok remote)
      (count : views.length + awaited = request.addresses.length) :
      Course request (views.map .found) ((Pass.opened request known).await known remote awaited)
  | halfway {views : List TransactionMap} {known remote : TransactionMap}
      (folded : request.ledger.remote views = .ok remote)
      (count : views.length = request.addresses.length) :
      Course request (views.map .found) (Pass.halfway request known remote)
  /-- A pass that is over shows what it has shown before. -/
  | finished {heard later : List Arrival} {before after : Pass}
      (course : Course request heard before) (ended : after.phase = .ended)
      (own : after.request = before.request) (shown : after.updates = before.updates) :
      Course request later after

/-- Where a row comes from that is stored after a step of a pass. -/
inductive Origin (pass : Pass) (heard : List Arrival) (store : Store) (identity : Identity)
    (row : Row) : Prop where
  | kept (found : store.rows.get? identity = some row)
  | fresh {remote : TransactionMap} {tx : Transaction}
      (free : store.rows.get? identity = none)
      (gathers : Gathers pass.request heard remote) (seen : remote.get? identity = some tx)
      (written : row = .keeping tx)
  | revised {known remote : TransactionMap} {copy tx : Transaction} (running : pass.phase ≠ .ended)
      (shown : Update.known known ∈ pass.updates) (held : known.get? identity = some copy)
      (gathers : Gathers pass.request heard remote) (seen : remote.get? identity = some tx)
      (written : row = .keeping (pass.request.ledger.revision copy tx))

/-- All that a step of a pass can come to, whatever the phase is. -/
inductive StepsTo (store : Store) (pass : Pass) : Step → Store × Pass → Prop where
  /-- The phase does not wait for the step. -/
  | idle {next : Step} : StepsTo store pass next (store, pass)
  | aborted {next : Step} (problem : Problem) (running : pass.phase ≠ .ended) :
      StepsTo store pass next (store, pass.abort problem)
  | loaded {addresses : List String} {known : TransactionMap} (opening : pass.phase = .opening)
      (read : canonicalAddresses pass.request.ledger.kind pass.request.addresses = .ok addresses)
      (taken : store.snapshot pass.request.ledger.chain addresses pass.request.start
        pass.request.viewer = .ok known) :
      StepsTo store pass .load (store, ({ pass with
        tracker := ((pass.tracker.record (.localLoaded known.size)).advance .localLoaded).advance
          .fetching
        updates := pass.updates ++ [Update.known known] } : Pass).await known .empty
          addresses.length)
  | folded {known remote view after : TransactionMap} {awaited : Nat}
      (fetching : pass.phase = .fetching known remote awaited)
      (absorbed : pass.request.ledger.absorb remote view = .ok after) :
      StepsTo store pass (.receive (.found view)) (store, pass.await known after (awaited - 1))
  | added {fresh revised : List Transaction} {added : Store}
      (adding : pass.phase = .adding fresh revised) (done : store.addNew fresh = .ok added) :
      StepsTo store pass .add (added, { pass with phase := .replacing revised })
  | replaced {revised : List Transaction} {after : Store}
      (replacing : pass.phase = .replacing revised) (done : store.replace revised = .ok after) :
      StepsTo store pass .replace
        (after, { pass with phase := .ended, tracker := pass.tracker.succeed })

variable {outage : Outage} {store : Store} {request : Request} {heard : List Arrival} {pass : Pass}

theorem keyed_of_gathers {remote : TransactionMap} (gathers : Gathers request heard remote) :
    TransactionMap.Keyed remote := by
  obtain ⟨views, _, _, done⟩ := gathers
  exact fun identity tx found => (Ledger.belongs_of_remote done found).1

theorem gathers_of_views {views : List TransactionMap} {remote : TransactionMap}
    (count : views.length = request.addresses.length)
    (done : request.ledger.remote views = .ok remote) :
    Gathers request (views.map .found) remote :=
  ⟨views, List.take_of_length_le (by simp [count]), count, done⟩

theorem known_mem_await {known other remote : TransactionMap} {awaited : Nat} :
    Update.known other ∈ (pass.await known remote awaited).updates ↔
      Update.known other ∈ pass.updates := by
  cases awaited with
  | zero => simp [await, mergeViews]
  | succ awaited => rfl

theorem step_of_ended (ended : pass.phase = .ended) (next : Step) :
    step outage store pass next = (store, pass) := by
  cases next <;> simp only [step, ended]

theorem step_of_adding {fresh revised : List Transaction}
    (adding : pass.phase = .adding fresh revised) (outage : Outage) (store : Store) :
    (∃ problem, step outage store pass .add = (store, pass.abort (.persistence problem))) ∨
      ∃ added, store.addNew fresh = .ok added ∧
        step outage store pass .add = (added, { pass with phase := .replacing revised }) := by
  simp only [step, adding]
  cases outcome : outage.guard .addNew (store.addNew fresh) with
  | error problem => exact .inl ⟨problem, rfl⟩
  | ok added => exact .inr ⟨added, (guard_eq_ok_iff.mp outcome).2, rfl⟩

theorem step_of_replacing {revised : List Transaction}
    (replacing : pass.phase = .replacing revised) (outage : Outage) (store : Store) :
    (∃ problem, step outage store pass .replace = (store, pass.abort (.persistence problem))) ∨
      ∃ after, store.replace revised = .ok after ∧
        step outage store pass .replace =
          (after, { pass with phase := .ended, tracker := pass.tracker.succeed }) := by
  simp only [step, replacing]
  cases outcome : outage.guard .replace (store.replace revised) with
  | error problem => exact .inl ⟨problem, rfl⟩
  | ok after => exact .inr ⟨after, (guard_eq_ok_iff.mp outcome).2, rfl⟩

theorem stepsTo_load (opening : pass.phase = .opening) (outage : Outage) (store : Store) :
    StepsTo store pass .load (store, pass.load outage store) := by
  have running : pass.phase ≠ .ended := by simp [opening]
  unfold load
  split
  case h_1 problem _ => exact .aborted problem running
  case h_2 addresses read =>
    split
    case h_1 problem _ => exact .aborted (.snapshot problem) running
    case h_2 known taken => exact .loaded opening read (guard_eq_ok_iff.mp taken).2

theorem stepsTo_receive {known remote : TransactionMap} {awaited : Nat}
    (fetching : pass.phase = .fetching known remote awaited) (store : Store) (arrival : Arrival) :
    StepsTo store pass (.receive arrival) (store, pass.receive known remote awaited arrival) := by
  rcases receive_cases pass known remote awaited arrival with
    ⟨view, after, rfl, absorbed, received⟩ | ⟨problem, _, _, received⟩
  · rw [received]
    exact .folded fetching absorbed
  · rw [received]
    exact .aborted problem (by simp [fetching])

/-- A step does one of these things, and nothing else. -/
theorem stepsTo (outage : Outage) (store : Store) (pass : Pass) (next : Step) :
    StepsTo store pass next (step outage store pass next) := by
  cases phase : pass.phase with
  | opening =>
      cases next with
      | load =>
          simp only [step, phase]
          exact stepsTo_load phase outage store
      | _ =>
          simp only [step, phase]
          exact .idle
  | fetching known remote awaited =>
      cases next with
      | receive arrival =>
          simp only [step, phase]
          exact stepsTo_receive phase store arrival
      | _ =>
          simp only [step, phase]
          exact .idle
  | adding fresh revised =>
      cases next with
      | add =>
          rcases step_of_adding phase outage store with ⟨problem, stepped⟩ | ⟨added, done, stepped⟩
          · rw [stepped]
            exact .aborted _ (by simp [phase])
          · rw [stepped]
            exact .added phase done
      | _ =>
          simp only [step, phase]
          exact .idle
  | replacing revised =>
      cases next with
      | replace =>
          rcases step_of_replacing phase outage store with
            ⟨problem, stepped⟩ | ⟨after, done, stepped⟩
          · rw [stepped]
            exact .aborted _ (by simp [phase])
          · rw [stepped]
            exact .replaced phase done
      | _ =>
          simp only [step, phase]
          exact .idle
  | ended =>
      rw [step_of_ended phase]
      exact .idle

/-- The store is changed by the step that adds and by the step that replaces, if they go through. -/
theorem step_store_cases (outage : Outage) (store : Store) (pass : Pass) (next : Step) :
    (step outage store pass next).1 = store ∨
    (∃ fresh revised, pass.phase = .adding fresh revised ∧
      store.addNew fresh = .ok (step outage store pass next).1 ∧
      (step outage store pass next).2 = { pass with phase := .replacing revised }) ∨
    ∃ revised, pass.phase = .replacing revised ∧
      store.replace revised = .ok (step outage store pass next).1 ∧
      (step outage store pass next).2.phase = .ended := by
  have stepped := stepsTo outage store pass next
  generalize step outage store pass next = reached at stepped ⊢
  cases stepped with
  | added adding done => exact .inr (.inl ⟨_, _, adding, done, rfl⟩)
  | replaced replacing done => exact .inr (.inr ⟨_, replacing, done, rfl⟩)
  | _ => exact .inl rfl

theorem exists_row_of_step (outage : Outage) (pass : Pass) (next : Step) {identity : Identity}
    {old : Row} (found : store.rows.get? identity = some old) :
    ∃ row, (step outage store pass next).1.rows.get? identity = some row := by
  rcases step_store_cases outage store pass next with
    same | ⟨fresh, revised, _, added, _⟩ | ⟨revised, _, replaced, _⟩
  · rw [same]
    exact ⟨old, found⟩
  · exact ⟨old, by rw [Store.get?_addNew added, found]; rfl⟩
  · rw [Store.get?_replace replaced, found]
    exact Option.isSome_iff_exists.mp (by simp)

/-- A pass knows what it has known before, or what it has just loaded. -/
theorem known_of_step {known : TransactionMap} {next : Step}
    (shown : Update.known known ∈ (step outage store pass next).2.updates) :
    Update.known known ∈ pass.updates ∨ ∃ addresses, store.snapshot pass.request.ledger.chain
      addresses pass.request.start pass.request.viewer = .ok known := by
  have stepped := stepsTo outage store pass next
  generalize step outage store pass next = reached at stepped shown
  cases stepped with
  | @loaded addresses other opening read taken =>
      rw [known_mem_await, List.mem_append] at shown
      rcases shown with before | now
      · exact .inl before
      · cases List.mem_singleton.mp now
        exact .inr ⟨addresses, taken⟩
  | folded fetching absorbed => exact .inl (known_mem_await.mp shown)
  | _ => exact .inl shown

namespace Course

theorem request_eq (course : Course request heard pass) : pass.request = request := by
  induction course with
  | opening => rfl
  | @opened views known remote awaited folded count => cases awaited <;> rfl
  | halfway folded count => rfl
  | finished course ended own shown ih => exact own.trans ih

theorem abort (course : Course request heard pass) (later : List Arrival) (problem : Problem) :
    Course request later (pass.abort problem) :=
  .finished course rfl rfl rfl

theorem step_load (request : Request) (outage : Outage) (store : Store) :
    Course request [] (load outage store { request }) := by
  rcases load_cases outage store request with ⟨known, _, loaded⟩ | ⟨problem, _, failed⟩
  · rw [loaded]
    exact @opened request [] known .empty request.addresses.length rfl (Nat.zero_add _)
  · rw [failed]
    exact opening.abort [] problem

theorem step_receive {views : List TransactionMap} {known remote : TransactionMap} {awaited : Nat}
    (folded : request.ledger.remote views = .ok remote)
    (count : views.length + (awaited + 1) = request.addresses.length) (arrival : Arrival) :
    Course request (views.map .found ++ [arrival])
      (((Pass.opened request known).await known remote (awaited + 1)).receive known remote
        (awaited + 1) arrival) := by
  rcases receive_cases ((Pass.opened request known).await known remote (awaited + 1)) known remote
    (awaited + 1) arrival with ⟨view, after, rfl, absorbed, received⟩ | ⟨problem, _, _, received⟩
  · have onward : request.ledger.remote (views ++ [view]) = .ok after := by
      rw [Ledger.remote, List.foldlM_append, bind_eq_ok_iff]
      have absorbed : request.ledger.absorb remote view = .ok after := absorbed
      exact ⟨remote, folded, by simpa using absorbed⟩
    have further : ((Pass.opened request known).await known remote (awaited + 1)).await known after
        (awaited + 1 - 1) = (Pass.opened request known).await known after awaited :=
      await_phase _ _ _ _ _
    have heard : views.map Arrival.found ++ [.found view] = (views ++ [view]).map .found := by simp
    rw [received, further, heard]
    exact opened onward (by rw [List.length_append, List.length_singleton]; omega)
  · rw [received]
    exact (Course.opened folded count).abort _ problem

theorem step_add {views : List TransactionMap} {known remote : TransactionMap}
    (folded : request.ledger.remote views = .ok remote)
    (count : views.length = request.addresses.length) (outage : Outage) (store : Store) :
    Course request (views.map .found)
      (Pass.step outage store (merging request known remote) .add).2 := by
  have adding : (merging request known remote).phase =
      .adding (request.ledger.merge known remote).fresh
        (request.ledger.merge known remote).revised := rfl
  rcases step_of_adding adding outage store with ⟨problem, stepped⟩ | ⟨added, _, stepped⟩
  · rw [stepped]
    exact (@opened request views known remote 0 folded count).abort _ _
  · rw [stepped]
    exact halfway folded count

theorem step_replace {views : List TransactionMap} {known remote : TransactionMap}
    (folded : request.ledger.remote views = .ok remote)
    (count : views.length = request.addresses.length) (outage : Outage) (store : Store) :
    Course request (views.map .found)
      (Pass.step outage store (Pass.halfway request known remote) .replace).2 := by
  have replacing : (Pass.halfway request known remote).phase =
      .replacing (request.ledger.merge known remote).revised := rfl
  rcases step_of_replacing replacing outage store with ⟨problem, stepped⟩ | ⟨after, _, stepped⟩
  · rw [stepped]
    exact (halfway folded count).abort _ _
  · rw [stepped]
    exact finished (halfway folded count) rfl rfl rfl

/-- Whatever the store is at a step, the pass goes on as its request and its answers have it. -/
theorem step (course : Course request heard pass) (outage : Outage) (store : Store)
    (next : Step) :
    Course request (pass.heard heard next) (Pass.step outage store pass next).2 := by
  cases course with
  | opening =>
      cases next with
      | load => exact step_load request outage store
      | _ => exact opening
  | @opened views known remote awaited folded count =>
      -- With nothing awaited the pass is merging, and otherwise it listens.
      cases awaited with
      | zero =>
          cases next with
          | add => exact step_add folded count outage store
          | _ => exact opened folded count
      | succ awaited =>
          cases next with
          | receive arrival => exact step_receive folded count arrival
          | _ => exact opened folded count
  | halfway folded count =>
      cases next with
      | replace => exact step_replace folded count outage store
      | _ => exact halfway folded count
  | finished course ended own shown =>
      rw [step_of_ended ended]
      exact finished course ended own shown

theorem of_adding (course : Course request heard pass) {fresh revised : List Transaction}
    (adding : pass.phase = .adding fresh revised) :
    ∃ known remote, Gathers request heard remote ∧ pass = merging request known remote := by
  cases course with
  | opening => cases adding
  | @opened views known remote awaited folded count =>
      cases awaited with
      | zero =>
          exact ⟨known, remote, gathers_of_views count folded, rfl⟩
      | succ awaited => cases adding
  | halfway folded count => cases adding
  | finished course ended own shown => cases ended.symm.trans adding

theorem of_replacing (course : Course request heard pass) {revised : List Transaction}
    (replacing : pass.phase = .replacing revised) :
    ∃ known remote, Gathers request heard remote ∧
      pass = Pass.halfway request known remote := by
  cases course with
  | opening => cases replacing
  | @opened views known remote awaited folded count => cases awaited <;> cases replacing
  | @halfway views known remote folded count =>
      exact ⟨known, remote, gathers_of_views count folded, rfl⟩
  | finished course ended own shown => cases ended.symm.trans replacing

/-- A step of a pass leaves a row alone, or it writes one from the remote view of the pass. -/
theorem origin (course : Course request heard pass) {next : Step} {identity : Identity} {row : Row}
    (found : (Pass.step outage store pass next).1.rows.get? identity = some row) :
    Origin pass heard store identity row := by
  have same := course.request_eq
  subst same
  rcases step_store_cases outage store pass next with
    same | ⟨fresh, revised, adding, added, _⟩ | ⟨revised, replacing, replaced, _⟩
  · rw [same] at found
    exact .kept found
  · obtain ⟨known, remote, gathers, merging⟩ := course.of_adding adding
    have batch : fresh = (pass.request.ledger.merge known remote).fresh := by
      rw [merging] at adding
      exact (Phase.adding.inj adding).1.symm
    rw [Store.get?_addNew added, Option.or_eq_some_iff] at found
    rcases found with old | ⟨free, new⟩
    · exact .kept old
    · obtain ⟨tx, picked, rfl⟩ := Option.map_eq_some_iff.mp new
      obtain ⟨member, own⟩ := of_find?_identity picked
      rw [batch] at member
      obtain ⟨place, _, seen⟩ := Ledger.mem_fresh.mp member
      obtain rfl : place = identity := (keyed_of_gathers gathers _ _ seen).symm.trans own
      exact .fresh free gathers seen rfl
  · obtain ⟨known, remote, gathers, halfway⟩ := course.of_replacing replacing
    have batch : revised = (pass.request.ledger.merge known remote).revised := by
      rw [halfway] at replacing
      exact (Phase.replacing.inj replacing).symm
    have shown : Update.known known ∈ pass.updates := by
      rw [halfway]
      exact List.mem_cons_self
    have running : pass.phase ≠ .ended := by
      rw [replacing]
      exact Phase.noConfusion
    rw [Store.get?_replace replaced, Option.or_eq_some_iff] at found
    rcases found with new | ⟨_, old⟩
    · obtain ⟨written, picked, rfl⟩ := Option.map_eq_some_iff.mp new
      obtain ⟨member, own⟩ := of_find?_identity picked
      rw [batch] at member
      obtain ⟨place, copy, tx, held, seen, _, rfl⟩ := Ledger.mem_revised.mp member
      rw [Ledger.identity_revision] at own
      obtain rfl : place = identity := (keyed_of_gathers gathers _ _ seen).symm.trans own
      exact .revised running shown held gathers seen rfl
    · exact .kept old

/-- What a pass shows: first what it knows, and then that with the remote view merged into it. -/
theorem updates_cases (course : Course request heard pass) :
    pass.updates = [] ∨ (∃ known, pass.updates = [.known known]) ∨
      ∃ views known remote, request.ledger.remote views = .ok remote ∧
        pass.updates = [.known known, .merged (request.ledger.merge known remote).view] := by
  induction course with
  | opening => exact .inl rfl
  | @opened views known remote awaited folded count =>
      cases awaited with
      | zero => exact .inr (.inr ⟨views, known, remote, folded, rfl⟩)
      | succ awaited => exact .inr (.inl ⟨known, rfl⟩)
  | @halfway views known remote folded count =>
      exact .inr (.inr ⟨views, known, remote, folded, rfl⟩)
  | finished course ended own shown ih =>
      rw [shown]
      exact ih

end Course

end Passbook.Pass
