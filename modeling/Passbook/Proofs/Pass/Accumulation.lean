import Passbook.Proofs.Pass.History
import Passbook.Proofs.Pass.Leg
import Passbook.Proofs.Pass.Phases
/-!
What passes leave behind one after another, from an empty store on. However each of them ends, and
whatever people write meanwhile, a transaction that is stored once stays stored, with all the log
indexes that it has ever had, and its hash is one that the pass which changed it was told.
-/

namespace Passbook

/-- Nothing that is stored gets lost, and no log of a stored transaction gets shorter. -/
def Store.Extends (later earlier : Store) : Prop :=
  ∀ identity old, earlier.rows.get? identity = some old →
    ∃ row, later.rows.get? identity = some row ∧ old.logIndexes ⊆ row.logIndexes

namespace Store.Extends
variable {first second third : Store}

theorem refl (store : Store) : store.Extends store :=
  fun _ old found => ⟨old, found, List.Subset.refl _⟩

theorem trans (later : third.Extends second) (earlier : second.Extends first) :
    third.Extends first := by
  intro identity old found
  obtain ⟨row, found, kept⟩ := earlier identity old found
  obtain ⟨last, found, kept'⟩ := later identity row found
  exact ⟨last, found, List.Subset.trans kept kept'⟩

theorem of_rows (rows : second.rows = first.rows) : second.Extends first := by
  intro identity old found
  exact ⟨old, rows ▸ found, List.Subset.refl _⟩

end Store.Extends

/-- Every row is of the kind of its chain, and has no event at a negative index. -/
def Store.Orderly (kinds : ChainId → LedgerKind) (store : Store) : Prop :=
  ∀ identity row, store.rows.get? identity = some row →
    row.body.kind = kinds identity.chain ∧ row.Settled

namespace Pass

/-- What a pass knows of a transaction is a reading of the row that is still stored. -/
def Recalls (pass : Pass) (store : Store) : Prop :=
  ∀ known, Update.known known ∈ pass.updates → ∀ identity copy, known.get? identity = some copy →
    ∃ row annotations, store.rows.get? identity = some row ∧
      row.transaction identity annotations = .ok copy

/-- A pass on its way over a store, with these answers heard. -/
structure OnItsWay (kinds : ChainId → LedgerKind) (store : Store) (heard : List Arrival)
    (pass : Pass) : Prop where
  own : pass.request.ledger.kind = kinds pass.request.ledger.chain
  course : Course pass.request heard pass
  keyed : ∀ view, Arrival.found view ∈ heard → ∀ tx ∈ view.values, EventLog.Keyed tx.events
  recalls : pass.phase ≠ .ended → pass.Recalls store

variable {kinds : ChainId → LedgerKind} {outage : Outage} {store : Store} {request : Request}
  {heard : List Arrival} {pass : Pass}

namespace OnItsWay

theorem begin (request : Request) (store : Store)
    (own : request.ledger.kind = kinds request.ledger.chain) :
    OnItsWay kinds store [] { request } where
  own := own
  course := .opening
  keyed := fun _ member => absurd member List.not_mem_nil
  recalls := fun _ _ shown => absurd shown List.not_mem_nil

theorem tidy (way : OnItsWay kinds store heard pass) {remote : TransactionMap}
    (gathers : Gathers pass.request heard remote) {identity : Identity} {tx : Transaction}
    (seen : remote.get? identity = some tx) :
    tx.identity.chain = pass.request.ledger.chain ∧ tx.kind = pass.request.ledger.kind ∧
      tx.Tidy := by
  obtain ⟨views, came, _, done⟩ := gathers
  obtain ⟨_, belongs⟩ := Ledger.belongs_of_remote done seen
  obtain ⟨chain, kind⟩ := Ledger.belongs_of_misfit? belongs
  refine ⟨chain, kind, Ledger.tidy_of_remote done ?_ seen⟩
  intro sighting member
  obtain ⟨view, among, member⟩ := sighted_of_gathers came member
  exact way.keyed view among sighting member

/-- A revised copy keeps the log indexes of the row that it is read from. -/
theorem logIndexes_revision (way : OnItsWay kinds store heard pass)
    (orderly : store.Orderly kinds) {remote : TransactionMap} {copy tx : Transaction} {old : Row}
    {annotations : Annotations} {identity : Identity}
    (found : store.rows.get? identity = some old)
    (read : old.transaction identity annotations = .ok copy)
    (gathers : Gathers pass.request heard remote) (seen : remote.get? identity = some tx) :
    old.logIndexes ⊆ (Row.keeping (pass.request.ledger.revision copy tx)).logIndexes := by
  obtain ⟨kind, settled⟩ := orderly identity old found
  obtain ⟨chain, own, tidy⟩ := way.tidy gathers seen
  obtain ⟨copied, logs⟩ := Row.logs_of_transaction read
  have named : tx.identity = identity := keyed_of_gathers gathers _ _ seen
  have own' : copy.kind = pass.request.ledger.kind := by
    rw [copied, kind, ← named, chain, way.own]
  intro index member
  have held := (logs index).mpr ((Row.logs_iff_of_settled settled).mpr member)
  have both := Ledger.tidy_revision pass.request.ledger (Row.tidy_of_transaction read) tidy
  rw [Row.mem_logIndexes_keeping both]
  exact Ledger.contains_revision_of_copy own' own held

theorem orderly (way : OnItsWay kinds store heard pass) (before : store.Orderly kinds)
    (next : Step) : (step outage store pass next).1.Orderly kinds := by
  intro identity row found
  cases way.course.origin found with
  | kept found => exact before identity row found
  | fresh _ gathers seen written =>
      obtain ⟨chain, own, tidy⟩ := way.tidy gathers seen
      rw [written, Row.kind_keeping, own, way.own, ← chain, keyed_of_gathers gathers _ _ seen]
      exact ⟨rfl, Row.settled_keeping tidy⟩
  | revised running shown held gathers seen written =>
      obtain ⟨chain, own, tidy⟩ := way.tidy gathers seen
      obtain ⟨_, _, _, read⟩ := way.recalls running _ shown identity _ held
      rw [written, Row.kind_keeping, Ledger.kind_revision, own, way.own, ← chain,
        keyed_of_gathers gathers _ _ seen]
      exact ⟨rfl, Row.settled_keeping (Ledger.tidy_revision _ (Row.tidy_of_transaction read) tidy)⟩

theorem grows (way : OnItsWay kinds store heard pass) (orderly : store.Orderly kinds)
    (next : Step) : (step outage store pass next).1.Extends store := by
  intro identity old stored
  obtain ⟨row, found⟩ := exists_row_of_step outage pass next stored
  refine ⟨row, found, ?_⟩
  cases way.course.origin found with
  | kept found =>
      cases stored.symm.trans found
      exact List.Subset.refl _
  | fresh free _ _ _ => cases stored.symm.trans free
  | revised running shown held gathers seen written =>
      obtain ⟨_, _, found, read⟩ := way.recalls running _ shown identity _ held
      cases stored.symm.trans found
      rw [written]
      exact way.logIndexes_revision orderly stored read gathers seen

/-- Another hash is the hash that the remote view of the pass has. -/
theorem told (way : OnItsWay kinds store heard pass) {next : Step} {identity : Identity}
    {old row : Row} (stored : store.rows.get? identity = some old)
    (found : (step outage store pass next).1.rows.get? identity = some row)
    (differs : row.hash ≠ old.hash) :
    ∃ remote tx, Gathers pass.request heard remote ∧ remote.get? identity = some tx ∧
      row.hash = tx.hash := by
  cases way.course.origin found with
  | kept found =>
      cases stored.symm.trans found
      exact absurd rfl differs
  | fresh free _ _ _ => cases stored.symm.trans free
  | @revised _ remote copy tx _ _ _ gathers seen written =>
      refine ⟨remote, tx, gathers, seen, ?_⟩
      rw [written]
      exact Ledger.hash_revision copy tx

theorem keyed_heard (way : OnItsWay kinds store heard pass) {next : Step} (keyed : next.Keyed)
    (view : TransactionMap) (member : Arrival.found view ∈ pass.heard heard next) :
    ∀ tx ∈ view.values, EventLog.Keyed tx.events := by
  unfold Pass.heard at member
  split at member
  · rcases List.mem_append.mp member with before | now
    · exact way.keyed view before
    · cases List.mem_singleton.mp now
      exact keyed view rfl
  · exact way.keyed view member

theorem recalls_step (way : OnItsWay kinds store heard pass) (next : Step)
    (running : (step outage store pass next).2.phase ≠ .ended) :
    (step outage store pass next).2.Recalls (step outage store pass next).1 := by
  have recalls : pass.Recalls store := by
    refine way.recalls fun ended => running ?_
    rw [step_of_ended ended]
    exact ended
  intro known shown identity copy held
  rcases step_store_cases outage store pass next with
    same | ⟨_, _, _, added, stepped⟩ | ⟨_, _, _, ended⟩
  · rw [same]
    rcases known_of_step shown with before | ⟨_, taken⟩
    · exact recalls known before identity copy held
    · obtain ⟨row, stored, _, read⟩ := (Store.get?_of_snapshot taken).mp held
      exact ⟨row, _, stored, read⟩
  · -- What is added leaves the rows that were read alone.
    rw [stepped] at shown
    obtain ⟨row, annotations, stored, read⟩ := recalls known shown identity copy held
    exact ⟨row, annotations, by rw [Store.get?_addNew added, stored]; rfl, read⟩
  · exact absurd ended running

theorem step (way : OnItsWay kinds store heard pass) {next : Step} (keyed : next.Keyed) :
    OnItsWay kinds (step outage store pass next).1 (pass.heard heard next)
      (step outage store pass next).2 := by
  have course := way.course.step outage store next
  have same := course.request_eq
  exact ⟨same ▸ way.own, same.symm ▸ course, way.keyed_heard keyed, way.recalls_step next⟩

/-- Nothing that a pass relies on is changed by what does not touch the rows. -/
theorem of_rows (way : OnItsWay kinds store heard pass) {other : Store}
    (rows : other.rows = store.rows) : OnItsWay kinds other heard pass where
  own := way.own
  course := way.course
  keyed := way.keyed
  recalls := fun running known shown identity copy held =>
    rows.symm ▸ way.recalls running known shown identity copy held

end OnItsWay

/-- Passes that are run one after another over a store, the last of them still on its way. -/
structure Series where
  store : Store := .empty
  pass : Option Pass := none
  /-- What the last pass has heard since it began. -/
  heard : List Arrival := []

namespace Series

/-- A pass begins and makes steps, and gives way to the next wherever it stands; people write
remarks and wallets at any time. -/
inductive Move where
  | begin (request : Request)
  | step (outage : Outage) (next : Step)
  | remark (identity : Identity) (noted : SenderRemark)
  | note (identity : Identity) (noted : AccountRemark)
  | link (holder : Holder) (address : String)

namespace Move

def Keyed : Move → Prop
  | .step _ next => next.Keyed
  | _ => True

/-- The engine of a pass that begins is of the kind of its chain. -/
def Kind (kinds : ChainId → LedgerKind) : Move → Prop
  | .begin request => request.ledger.kind = kinds request.ledger.chain
  | _ => True

end Move

def move (series : Series) : Move → Series
  | .begin request => { series with pass := some { request }, heard := [] }
  | .step outage next =>
      match series.pass with
      | none => series
      | some pass =>
          let (store, after) := Pass.step outage series.store pass next
          { store, pass := some after, heard := pass.heard series.heard next }
  | .remark identity noted =>
      { series with store := Deed.apply series.store (.remark identity noted) }
  | .note identity noted =>
      { series with store := Deed.apply series.store (.note identity noted) }
  | .link holder address =>
      { series with store := Deed.apply series.store (.link holder address) }

def run (moves : List Move) : Series := moves.foldl move {}

structure Sound (kinds : ChainId → LedgerKind) (series : Series) : Prop where
  orderly : series.store.Orderly kinds
  onItsWay : ∀ pass, series.pass = some pass → OnItsWay kinds series.store series.heard pass

variable {series : Series}

theorem sound_start (kinds : ChainId → LedgerKind) : Sound kinds {} where
  orderly := by
    rintro _ _ ⟨⟩
  onItsWay := by
    rintro _ ⟨⟩

namespace Sound

theorem of_rows (sound : series.Sound kinds) {store : Store}
    (rows : store.rows = series.store.rows) : Sound kinds { series with store } where
  orderly := fun identity row found => sound.orderly identity row (rows ▸ found)
  onItsWay := fun pass under => (sound.onItsWay pass under).of_rows rows

theorem move (sound : series.Sound kinds) {move : Move} (keyed : move.Keyed)
    (kind : move.Kind kinds) : (series.move move).Sound kinds := by
  cases move with
  | begin request =>
      refine ⟨sound.orderly, ?_⟩
      rintro _ ⟨⟩
      exact .begin request series.store kind
  | step outage next =>
      cases under : series.pass with
      | none =>
          simp only [Series.move, under]
          exact sound
      | some pass =>
          have way := sound.onItsWay pass under
          simp only [Series.move, under]
          refine ⟨way.orderly sound.orderly next, ?_⟩
          rintro _ ⟨⟩
          exact way.step keyed
  | remark identity noted => exact sound.of_rows (Deed.rows_remark series.store identity noted)
  | note identity noted => exact sound.of_rows (Deed.rows_note series.store identity noted)
  | link holder address => exact sound.of_rows rfl

theorem grows (sound : series.Sound kinds) (move : Move) :
    (series.move move).store.Extends series.store := by
  cases move with
  | begin request => exact .refl series.store
  | step outage next =>
      cases under : series.pass with
      | none =>
          simp only [Series.move, under]
          exact .refl series.store
      | some pass =>
          simp only [Series.move, under]
          exact (sound.onItsWay pass under).grows sound.orderly next
  | remark identity noted => exact .of_rows (Deed.rows_remark series.store identity noted)
  | note identity noted => exact .of_rows (Deed.rows_note series.store identity noted)
  | link holder address => exact .of_rows rfl

theorem told (sound : series.Sound kinds) {move : Move} {identity : Identity} {old row : Row}
    (stored : series.store.rows.get? identity = some old)
    (found : (series.move move).store.rows.get? identity = some row)
    (differs : row.hash ≠ old.hash) :
    ∃ pass remote tx, series.pass = some pass ∧ Gathers pass.request series.heard remote ∧
      remote.get? identity = some tx ∧ row.hash = tx.hash := by
  have unmoved : (series.move move).store.rows ≠ series.store.rows := by
    intro same
    rw [same, stored] at found
    exact differs (congrArg Row.hash (Option.some.inj found.symm))
  cases move with
  | begin request => exact absurd rfl unmoved
  | step outage next =>
      cases under : series.pass with
      | none =>
          simp only [Series.move, under, ne_eq, not_true_eq_false] at unmoved
      | some pass =>
          simp only [Series.move, under] at found
          obtain ⟨remote, tx, gathers, seen, hash⟩ :=
            (sound.onItsWay pass under).told stored found differs
          exact ⟨pass, remote, tx, rfl, gathers, seen, hash⟩
  | remark identity noted => exact absurd (Deed.rows_remark _ _ _) unmoved
  | note identity noted => exact absurd (Deed.rows_note _ _ _) unmoved
  | link holder address => exact absurd rfl unmoved

end Sound

variable {moves : List Move}

theorem run_append (earlier later : List Move) :
    run (earlier ++ later) = later.foldl move (run earlier) := List.foldl_append

theorem sound_run (keyed : ∀ move ∈ moves, move.Keyed) (kind : ∀ move ∈ moves, move.Kind kinds) :
    (run moves).Sound kinds :=
  List.foldlRecOn moves move (sound_start kinds) fun _ sound next member =>
    sound.move (keyed next member) (kind next member)

theorem extends_of_sound (sound : series.Sound kinds) (keyed : ∀ move ∈ moves, move.Keyed)
    (kind : ∀ move ∈ moves, move.Kind kinds) :
    (moves.foldl move series).store.Extends series.store := by
  induction moves generalizing series with
  | nil => exact .refl series.store
  | cons next rest ih =>
      obtain ⟨keyed, others⟩ := List.forall_mem_cons.mp keyed
      obtain ⟨kind, others'⟩ := List.forall_mem_cons.mp kind
      exact (ih (sound.move keyed kind) others others').trans (sound.grows next)

theorem foldl_step (outage : Outage) (next : List Step) (under : series.pass = some pass) :
    ((next.map (.step outage)).foldl move series).store =
      (runSteps outage series.store pass next).1 := by
  induction next generalizing series pass with
  | nil => rfl
  | cons first rest ih =>
      have onward : series.move (.step outage first) = {
          store := (Pass.step outage series.store pass first).1
          pass := some (Pass.step outage series.store pass first).2
          heard := pass.heard series.heard first } := by
        simp only [move, under]
      rw [List.map_cons, List.foldl_cons, onward, ih rfl]
      rfl

/-- The steps of a whole pass are a pass. -/
theorem run_pass (moves : List Move) (outage : Outage) (request : Request)
    (arrivals : List Arrival) :
    (run (moves ++ .begin request :: (steps arrivals).map (.step outage))).store =
      (Pass.run outage (run moves).store request arrivals).1 := by
  rw [run_append, List.foldl_cons]
  exact foldl_step outage (steps arrivals) rfl

/-- However the passes end that are run one after another from an empty store, and whatever people
write meanwhile, what is stored stays stored with all its log indexes, and a move that gives it
another hash is a step of a pass whose remote view has that hash. -/
theorem accumulates (keyed : ∀ move ∈ moves, move.Keyed)
    (kind : ∀ move ∈ moves, move.Kind kinds) :
    (∀ earlier later, moves = earlier ++ later →
      (run moves).store.Extends (run earlier).store) ∧
    ∀ earlier move later, moves = earlier ++ move :: later → ∀ identity old row,
      (run earlier).store.rows.get? identity = some old →
      (run (earlier ++ [move])).store.rows.get? identity = some row → row.hash ≠ old.hash →
      ∃ pass remote tx, (run earlier).pass = some pass ∧
        Gathers pass.request (run earlier).heard remote ∧ remote.get? identity = some tx ∧
        row.hash = tx.hash := by
  constructor
  · rintro earlier later rfl
    obtain ⟨keyed, keyed'⟩ := List.forall_mem_append.mp keyed
    obtain ⟨kind, kind'⟩ := List.forall_mem_append.mp kind
    rw [run_append]
    exact extends_of_sound (sound_run keyed kind) keyed' kind'
  · rintro earlier move later rfl identity old row stored found differs
    have before := sound_run (List.forall_mem_append.mp keyed).1 (List.forall_mem_append.mp kind).1
    rw [run_append] at found
    exact before.told stored found differs

end Series

end Pass

namespace Sample
open Pass.Series

/-- The shared transaction after its hash was corrected. -/
def rehashed (events : List TransferEvent) : Transaction :=
  match shared events with
  | .block tx => .block { tx with hash := "0x11" }
  | tx => tx

/-- A whole pass whose query tells of this transaction. -/
def telling (tx : Transaction) : List Move :=
  .begin (request first) ::
    (Pass.steps [.found (.ofTransactions [tx])]).map (.step .none)

def remembered : List Move :=
  telling (shared [transfer first 0]) ++ [.remark (shared []).identity ⟨"rent", false⟩]

/-- A second pass over the remembered transaction, which finds another event. -/
def corrected : List Move := remembered ++ telling (rehashed [transfer first 1])

theorem keyed_telling {tx : Transaction} (keyed : EventLog.Keyed tx.events) :
    ∀ move ∈ telling tx, move.Keyed := by
  simp [telling, Pass.steps, Move.Keyed, Pass.Step.keyed_found, keyed]

theorem keyed_corrected : ∀ move ∈ corrected, move.Keyed := by
  have first := @keyed_telling (shared [transfer first 0]) (EventLog.keyed_ofEvents _)
  have second := @keyed_telling (rehashed [transfer Sample.first 1]) (EventLog.keyed_ofEvents _)
  refine List.forall_mem_append.mpr ⟨List.forall_mem_append.mpr ⟨first, ?_⟩, second⟩
  exact List.forall_mem_singleton.mpr trivial

end Sample

namespace Pass.Series

/-- The second pass corrects the hash, and the first event stays. -/
theorem accumulates_sample :
    (run Sample.corrected).store.Extends (run Sample.remembered).store ∧
    ((run Sample.corrected).store.rows.get? (Sample.shared []).identity).map Row.logIndexes =
      some [0, 1] ∧
    ∃ pass remote tx, (run Sample.corrected.dropLast).pass = some pass ∧
      Gathers pass.request (run Sample.corrected.dropLast).heard remote ∧
      remote.get? (Sample.shared []).identity = some tx ∧
      (Row.keeping (Sample.rehashed [])).hash = tx.hash := by
  have kind : ∀ move ∈ Sample.corrected, move.Kind fun _ => .block := by
    simp [Sample.corrected, Sample.remembered, Sample.telling, steps, Move.Kind, Sample.request,
      Sample.ledger]
  obtain ⟨extends_, told⟩ := accumulates Sample.keyed_corrected kind
  refine ⟨extends_ _ _ rfl, by decide +kernel, ?_⟩
  exact told Sample.corrected.dropLast (.step .none .replace) [] rfl
    (Sample.shared []).identity (.keeping (Sample.shared [Sample.transfer Sample.first 0]))
    (.keeping (Sample.rehashed [Sample.transfer Sample.first 0, Sample.transfer Sample.first 1]))
    (by decide +kernel) (by decide +kernel) (by decide +kernel)

end Pass.Series

end Passbook
