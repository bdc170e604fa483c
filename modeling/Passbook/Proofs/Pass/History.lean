import Passbook.Proofs.Pass.Effect
/-!
Stores with a past. Passes and people write to a store in any order, and a write that fails changes
nothing. What all transactions have that are written, or told by a query, their rows have in common.
In particular, as long as no transaction with a leap second is written, every row is the row of a
transaction that can be read again.
-/

namespace Passbook

namespace Transaction

/-- A transaction that a store can write and read again. -/
structure Storable (tx : Transaction) : Prop where
  fits : tx.Fits
  plain : ¬ tx.timestamp.IsLeap

end Transaction

theorem Row.not_isLeap_of_transaction {row : Row} {identity : Identity}
    {annotations : Annotations} {tx : Transaction}
    (read : row.transaction identity annotations = .ok tx) : ¬ tx.timestamp.IsLeap := by
  rw [Row.transaction, bind_eq_ok_iff] at read
  obtain ⟨_, _, read⟩ := read
  obtain ⟨instant, timed, read⟩ := bind_eq_ok_iff.mp read
  have shown : tx.timestamp = instant := by
    cases body : row.body with
    | sequential part =>
        simp only [body] at read
        obtain ⟨_, _, built⟩ := bind_eq_ok_iff.mp read
        cases built
        rfl
    | block part =>
        simp only [body] at read
        obtain ⟨_, _, read⟩ := bind_eq_ok_iff.mp read
        obtain ⟨_, _, built⟩ := bind_eq_ok_iff.mp read
        cases built
        rfl
  unfold Row.timestamp at timed
  cases found : Instant.ofMicros? row.micros.toInt with
  | none =>
      rw [found] at timed
      cases timed
  | some other =>
      rw [found] at timed
      cases timed
      rw [shown]
      exact Instant.not_isLeap_of_ofMicros? found

/-- What is done to a store. -/
inductive Deed where
  | add (batch : List Transaction)
  | replace (batch : List Transaction)
  | remark (identity : Identity) (noted : SenderRemark)
  | note (identity : Identity) (noted : AccountRemark)
  | link (holder : Holder) (address : String)
  | pass (outage : Pass.Outage) (request : Pass.Request) (arrivals : List Pass.Arrival)

namespace Deed

/-- The store after a write, or the store as it was if the write fails. -/
def settle (store : Store) : Except StoreProblem Store → Store
  | .ok after => after
  | .error _ => store

def apply (store : Store) : Deed → Store
  | .add batch => settle store (store.addNew batch)
  | .replace batch => settle store (store.replace batch)
  | .remark identity noted => settle store (store.remark identity noted)
  | .note identity noted => settle store (store.note identity noted)
  | .link holder address => store.link holder address
  | .pass outage request arrivals => (Pass.run outage store request arrivals).1

/-- What is remarked on a transaction is kept apart from its row. -/
theorem rows_remark (store : Store) (identity : Identity) (noted : SenderRemark) :
    (apply store (.remark identity noted)).rows = store.rows := by
  cases done : Column.version.write identity.version <;>
    simp [apply, Store.remark, done, settle, bind, Except.bind, pure, Except.pure]

theorem rows_note (store : Store) (identity : Identity) (noted : AccountRemark) :
    (apply store (.note identity noted)).rows = store.rows := by
  cases done : Column.version.write identity.version <;>
    simp [apply, Store.note, Store.withNote, done, settle, bind, Except.bind, pure, Except.pure]

/-- Every transaction that is written, or told by a query, is of this sort. -/
def Tells (good : Transaction → Prop) : Deed → Prop
  | .add batch => ∀ tx ∈ batch, good tx
  | .replace batch => ∀ tx ∈ batch, good tx
  | .pass _ _ arrivals => ∀ view, Pass.Arrival.found view ∈ arrivals → ∀ tx ∈ view.values, good tx
  | _ => True

/-- No transaction with a leap second is written. -/
def Plain : Deed → Prop
  | .add batch => ∀ tx ∈ batch, ¬ tx.timestamp.IsLeap
  | .replace batch => ∀ tx ∈ batch, ¬ tx.timestamp.IsLeap
  | .pass _ _ arrivals => ∀ view, Pass.Arrival.found view ∈ arrivals →
      ∀ tx ∈ view.values, ¬ tx.timestamp.IsLeap
  | _ => True

theorem tells_of_plain {deed : Deed} (plain : deed.Plain) :
    deed.Tells fun tx => ¬ tx.timestamp.IsLeap := by
  cases deed <;> exact plain

end Deed

namespace Transaction

/-- A property that whatever is read from a store has, and that is not lost when sightings are
folded. -/
structure Heritable (good : Transaction → Prop) : Prop where
  read : ∀ (row : Row) (identity : Identity) (annotations : Annotations) (tx : Transaction),
    row.transaction identity annotations = .ok tx → good tx
  normalized : ∀ tx : Transaction, good tx → good tx.normalized
  merged : ∀ (ledger : Ledger) (base incoming : Transaction), good base → good incoming →
    good (ledger.mergeEvents base incoming)
  noted : ∀ (tx : Transaction) (annotations : Annotations), good tx →
    good (tx.withAnnotations annotations)

theorem heritable_plain : Heritable fun tx => ¬ tx.timestamp.IsLeap where
  read _ _ _ _ read := Row.not_isLeap_of_transaction read
  normalized tx plain := by rwa [timestamp_normalized]
  merged ledger base incoming _ plain := by rwa [Ledger.timestamp_mergeEvents]
  noted tx annotations plain := by rwa [timestamp_withAnnotations]

end Transaction

namespace Ledger
variable {ledger : Ledger} {views : List TransactionMap} {known remote : TransactionMap}
  {good : Transaction → Prop}

theorem good_of_remote (heritable : Transaction.Heritable good)
    (done : ledger.remote views = .ok remote) (sighted : ∀ tx ∈ sightings views, good tx)
    {identity : Identity} {tx : Transaction} (found : remote.get? identity = some tx) :
    good tx := by
  refine remote_induction done good ?_ ?_ found
  · intro tx member
    exact heritable.normalized tx (sighted tx (mem_sightingsOf.mp member).1)
  · intro seen held tx member
    have sighting := heritable.normalized tx (sighted tx (mem_sightingsOf.mp member).1)
    exact heritable.merged ledger seen tx.normalized held sighting

theorem good_of_merge (heritable : Transaction.Heritable good)
    (copies : ∀ identity copy, known.get? identity = some copy → good copy)
    (seen : ∀ identity tx, remote.get? identity = some tx → good tx) :
    (∀ tx ∈ (ledger.merge known remote).fresh, good tx) ∧
      ∀ tx ∈ (ledger.merge known remote).revised, good tx := by
  constructor
  · intro tx member
    obtain ⟨identity, _, found⟩ := mem_fresh.mp member
    exact seen identity tx found
  · intro tx member
    obtain ⟨identity, copy, sighting, held, found, _, rfl⟩ := mem_revised.mp member
    have merged := heritable.merged ledger copy sighting (copies identity copy held)
      (seen identity sighting found)
    exact heritable.noted _ copy.annotations merged

/-- What a revision takes from the known copy tells nothing of time. -/
theorem plain_of_merge (ledger : Ledger) (known : TransactionMap)
    (plain : ∀ identity tx, remote.get? identity = some tx →
      ¬ tx.timestamp.IsLeap) :
    (∀ tx ∈ (ledger.merge known remote).fresh, ¬ tx.timestamp.IsLeap) ∧
      ∀ tx ∈ (ledger.merge known remote).revised, ¬ tx.timestamp.IsLeap := by
  constructor
  · intro tx member
    obtain ⟨identity, _, found⟩ := mem_fresh.mp member
    exact plain identity tx found
  · intro tx member
    obtain ⟨identity, copy, sighting, _, found, _, rfl⟩ := mem_revised.mp member
    rw [timestamp_revision]
    exact plain identity sighting found

end Ledger

namespace Store

/-- The store after all of these deeds, starting from an empty one. -/
def after (deeds : List Deed) : Store := deeds.foldl Deed.apply .empty

/-- Every row has this property, under the identity that it is stored under. -/
def Every (kept : Identity → Row → Prop) (store : Store) : Prop :=
  ∀ identity row, store.rows.get? identity = some row → kept identity row

/-- The row of a transaction of this sort has the property, if it can be written. -/
def Entails (good : Transaction → Prop) (kept : Identity → Row → Prop) : Prop :=
  ∀ tx : Transaction, tx.Fits → good tx → kept tx.identity (Row.keeping tx)

variable {store result : Store} {batch : List Transaction} {kept : Identity → Row → Prop}
  {good : Transaction → Prop}

theorem every_empty : empty.Every kept := by
  intro identity row found
  cases found

theorem every_of_rows (rows : result.rows = store.rows) (every : store.Every kept) :
    result.Every kept := by
  intro identity row found
  rw [rows] at found
  exact every identity row found

theorem kept_of_find? (entails : Entails good kept) (fits : ∀ tx ∈ batch, tx.Fits)
    (written : ∀ tx ∈ batch, good tx) {identity : Identity} {row : Row}
    (found : (batch.find? fun tx => tx.identity = identity).map Row.keeping = some row) :
    kept identity row := by
  obtain ⟨tx, picked, rfl⟩ := Option.map_eq_some_iff.mp found
  obtain ⟨member, rfl⟩ := of_find?_identity picked
  exact entails tx (fits tx member) (written tx member)

theorem every_addNew (entails : Entails good kept) (every : store.Every kept)
    (written : ∀ tx ∈ batch, good tx) (done : store.addNew batch = .ok result) :
    result.Every kept := by
  intro identity row found
  rw [get?_addNew done, Option.or_eq_some_iff] at found
  rcases found with old | ⟨_, new⟩
  · exact every identity row old
  · exact kept_of_find? entails (fits_of_addNew done) written new

theorem every_replace (entails : Entails good kept) (every : store.Every kept)
    (written : ∀ tx ∈ batch, good tx) (done : store.replace batch = .ok result) :
    result.Every kept := by
  intro identity row found
  rw [get?_replace done, Option.or_eq_some_iff] at found
  rcases found with new | ⟨_, old⟩
  · exact kept_of_find? entails (fits_of_replace done) written new
  · exact every identity row old

end Store

namespace Pass
variable {outage : Outage} {store : Store} {request : Request} {arrivals : List Arrival}
  {kept : Identity → Row → Prop} {good : Transaction → Prop}

theorem good_of_loads (heritable : Transaction.Heritable good) {known : TransactionMap}
    (loads : Loads outage store request known) (identity : Identity) (copy : Transaction)
    (found : known.get? identity = some copy) : good copy := by
  obtain ⟨_, _, taken⟩ := loads.unhindered
  obtain ⟨row, _, _, read⟩ := (Store.get?_of_snapshot taken).mp found
  exact heritable.read row identity _ copy read

/-- What a pass writes is of the sort of all that it was told. -/
theorem every_run (heritable : Transaction.Heritable good) (entails : Store.Entails good kept)
    (every : store.Every kept)
    (told : ∀ view, Arrival.found view ∈ arrivals → ∀ tx ∈ view.values, good tx) :
    (run outage store request arrivals).1.Every kept := by
  rcases run_cases outage store request arrivals with
    ⟨known, remote, loads, gathers⟩ | ⟨same, _⟩
  · rw [run_of_gathers loads gathers]
    obtain ⟨views, came, _, done⟩ := gathers
    have sighted : ∀ tx ∈ Ledger.sightings views, good tx := by
      intro tx member
      obtain ⟨view, among, member⟩ := sighted_of_gathers came member
      exact told view among tx member
    obtain ⟨fresh, revised⟩ := Ledger.good_of_merge heritable (good_of_loads heritable loads)
      fun identity tx found => Ledger.good_of_remote heritable done sighted found
    rcases written_cases outage store (request.ledger.merge known remote).fresh
        (request.ledger.merge known remote).revised with
      ⟨problem, _, built⟩ | ⟨added, problem, _, stored, _, built⟩ |
      ⟨added, after, stored, replaced, built⟩
    · rw [built]
      exact every
    · rw [built]
      exact Store.every_addNew entails every fresh stored
    · rw [built]
      have halfway := Store.every_addNew entails every fresh stored
      exact Store.every_replace entails halfway revised replaced
  · rw [same]
    exact every

end Pass

theorem Deed.every_apply {good : Transaction → Prop} {kept : Identity → Row → Prop}
    {store : Store} (heritable : Transaction.Heritable good) (entails : Store.Entails good kept)
    (every : store.Every kept) {deed : Deed} (tells : deed.Tells good) :
    (deed.apply store).Every kept := by
  cases deed with
  | add batch =>
      cases done : store.addNew batch with
      | error problem => simpa [apply, done, settle] using every
      | ok after => simpa [apply, done, settle] using Store.every_addNew entails every tells done
  | replace batch =>
      cases done : store.replace batch with
      | error problem => simpa [apply, done, settle] using every
      | ok after => simpa [apply, done, settle] using Store.every_replace entails every tells done
  | remark identity noted => exact Store.every_of_rows (rows_remark store identity noted) every
  | note identity noted => exact Store.every_of_rows (rows_note store identity noted) every
  | link holder address => exact Store.every_of_rows rfl every
  | pass outage request arrivals => exact Pass.every_run heritable entails every tells

namespace Store

/-- Whatever was done, and whatever of it failed, every row is that of something told. -/
theorem every_after {good : Transaction → Prop} {kept : Identity → Row → Prop}
    (heritable : Transaction.Heritable good) (entails : Entails good kept) {deeds : List Deed}
    (tells : ∀ deed ∈ deeds, deed.Tells good) : (after deeds).Every kept := by
  suffices onward : ∀ store : Store, store.Every kept →
      (deeds.foldl Deed.apply store).Every kept from
    onward .empty every_empty
  induction deeds with
  | nil => exact fun store every => every
  | cons deed rest ih =>
      intro store every
      obtain ⟨here, later⟩ := List.forall_mem_cons.mp tells
      exact ih later (deed.apply store) (Deed.every_apply heritable entails every here)

/-- No version is stored that a signed word cannot hold. -/
theorem version_lt_of_after (deeds : List Deed) :
    (after deeds).Every fun identity _ => identity.version.toNat < Word.limit := by
  have anything : Transaction.Heritable fun _ => True := ⟨by simp, by simp, by simp, by simp⟩
  refine every_after anything (fun tx fits _ => fits.1) fun deed _ => ?_
  cases deed <;> simp [Deed.Tells]

/-- Every row is the row of a transaction that can be read again. -/
def Sound (store : Store) : Prop :=
  ∀ identity row, store.rows.get? identity = some row →
    ∃ tx : Transaction, tx.identity = identity ∧ tx.Storable ∧ row = Row.keeping tx

theorem entails_storable : Entails (fun tx => ¬ tx.timestamp.IsLeap) fun identity row =>
    ∃ tx : Transaction, tx.identity = identity ∧ tx.Storable ∧ row = Row.keeping tx :=
  fun tx fits plain => ⟨tx, rfl, ⟨fits, plain⟩, rfl⟩

theorem sound_addNew {store result : Store} {batch : List Transaction} (sound : store.Sound)
    (plain : ∀ tx ∈ batch, ¬ tx.timestamp.IsLeap) (done : store.addNew batch = .ok result) :
    result.Sound :=
  every_addNew entails_storable sound plain done

theorem sound_replace {store result : Store} {batch : List Transaction} (sound : store.Sound)
    (plain : ∀ tx ∈ batch, ¬ tx.timestamp.IsLeap) (done : store.replace batch = .ok result) :
    result.Sound :=
  every_replace entails_storable sound plain done

/-- Whatever was done, every row can be read, as long as no leap second was written. -/
theorem sound_after {deeds : List Deed} (plain : ∀ deed ∈ deeds, deed.Plain) :
    (after deeds).Sound :=
  every_after Transaction.heritable_plain entails_storable fun deed member =>
    Deed.tells_of_plain (plain deed member)

end Store

namespace Store
variable {store : Store}

theorem exists_of_sound (sound : store.Sound) {identity : Identity} {row : Row}
    (found : store.rows.get? identity = some row) (annotations : Annotations) :
    ∃ tx, row.transaction identity annotations = .ok tx := by
  obtain ⟨tx, rfl, storable, rfl⟩ := sound identity row found
  obtain ⟨instant, kept⟩ := Instant.exists_kept storable.plain
  exact ⟨_, Row.transaction_keeping storable.fits kept annotations⟩

theorem exists_snapshot_of_sound (sound : store.Sound) (chain : ChainId)
    {addresses : List String} (allowed : Statement.isAllowed addresses.length) (start : UInt64)
    (viewer : Option Int64) : ∃ view, store.snapshot chain addresses start viewer = .ok view :=
  exists_snapshot allowed fun _ _ found => exists_of_sound sound found _

end Store

end Passbook
