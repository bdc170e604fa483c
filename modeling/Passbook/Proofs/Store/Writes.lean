import Passbook.Proofs.Store.Row
/-!
What writing a batch does to the rows of a store. Adding leaves every stored row as it is and
takes the first copy of each new identity; replacing takes the first copy of each identity of the
batch and leaves all other rows as they are. Neither touches remarks or wallets.
-/

namespace Passbook

namespace Rows

theorem addNew_of_fits (rows : Rows) {tx : Transaction} (fits : tx.Fits) :
    rows.addNew tx =
      if rows.contains tx.identity then .ok rows
      else if tx.LogsOnce then .ok (rows.insert tx.identity (Row.keeping tx))
      else .error .eventTwice := by
  obtain ⟨version, used, most⟩ := fits
  rw [addNew, Column.write_of_lt version, Column.write_of_lt used, Column.write_of_lt most]
  by_cases stored : rows.contains tx.identity = true
  · simp only [bind, Except.bind, stored, if_true]
    rfl
  · simp only [bind, Except.bind, stored, RowBody.ofTransaction_eq]
    by_cases once : tx.LogsOnce
    · simp only [once, if_true]
      rfl
    · simp only [once, if_false]
      rfl

theorem fits_of_addNew {rows result : Rows} {tx : Transaction}
    (done : rows.addNew tx = .ok result) : tx.Fits := by
  rw [addNew, bind_eq_ok_iff] at done
  obtain ⟨_, version, done⟩ := done
  obtain ⟨_, used, done⟩ := bind_eq_ok_iff.mp done
  obtain ⟨_, most, _⟩ := bind_eq_ok_iff.mp done
  exact ⟨(Column.write_eq_ok_iff.mp version).1, (Column.write_eq_ok_iff.mp used).1,
    (Column.write_eq_ok_iff.mp most).1⟩

theorem addNew_eq_ok_iff {rows result : Rows} {tx : Transaction} :
    rows.addNew tx = .ok result ↔
      tx.Fits ∧ (rows.contains tx.identity = true ∨ tx.LogsOnce) ∧
        result = rows.insertIfNew tx.identity (Row.keeping tx) := by
  by_cases fits : tx.Fits
  · rw [addNew_of_fits rows fits]
    unfold SortedMap.insertIfNew
    by_cases stored : rows.contains tx.identity = true
    · simp [stored, fits, eq_comm]
    · by_cases once : tx.LogsOnce
      · simp [stored, once, fits, eq_comm]
      · simp [stored, once]
  · constructor
    · exact fun done => absurd (fits_of_addNew done) fits
    · exact fun valid => absurd valid.1 fits

/-- A row says nothing of annotations. -/
theorem addNew_withAnnotations (rows : Rows) (tx : Transaction) (annotations : Annotations) :
    rows.addNew (tx.withAnnotations annotations) = rows.addNew tx := by
  cases tx <;> rfl

theorem rows_of_find? (batch : List Transaction) (identity : Identity) :
    Entries.find? identity (batch.map fun tx => (tx.identity, Row.keeping tx)) =
      (batch.find? fun tx => tx.identity = identity).map Row.keeping := by
  induction batch with
  | nil => rfl
  | cons tx rest ih =>
      rw [List.map_cons, Entries.find?_cons, List.find?_cons, ih]
      by_cases same : identity = tx.identity
      · simp [same]
      · simp [same, Ne.symm same]

theorem foldlM_addNew {rows result : Rows} {batch : List Transaction}
    (done : batch.foldlM addNew rows = .ok result) :
    (∀ tx ∈ batch, tx.Fits) ∧
      result = (batch.map fun tx => (tx.identity, Row.keeping tx)).foldl
        (fun rows entry => rows.insertIfNew entry.1 entry.2) rows := by
  induction batch generalizing rows with
  | nil => exact ⟨by simp, by simpa [pure, Except.pure, eq_comm] using done⟩
  | cons tx rest ih =>
      rw [List.foldlM_cons, bind_eq_ok_iff] at done
      obtain ⟨middle, first, later⟩ := done
      obtain ⟨fits, _, rfl⟩ := addNew_eq_ok_iff.mp first
      obtain ⟨others, rfl⟩ := ih later
      exact ⟨List.forall_mem_cons.mpr ⟨fits, others⟩, rfl⟩

theorem exists_foldlM_addNew (rows : Rows) {batch : List Transaction}
    (writable : ∀ tx ∈ batch, tx.Fits ∧ tx.LogsOnce) :
    ∃ result, batch.foldlM addNew rows = .ok result := by
  induction batch generalizing rows with
  | nil => exact ⟨rows, rfl⟩
  | cons tx rest ih =>
      obtain ⟨⟨fits, once⟩, others⟩ := List.forall_mem_cons.mp writable
      have first := (@addNew_eq_ok_iff rows _ _).mpr ⟨fits, Or.inr once, rfl⟩
      obtain ⟨result, later⟩ := ih (rows.insertIfNew tx.identity (Row.keeping tx)) others
      exact ⟨result, by rw [List.foldlM_cons, bind_eq_ok_iff]; exact ⟨_, first, later⟩⟩

theorem foldlM_addNew_of_stored {rows : Rows} {batch : List Transaction}
    (stored : ∀ tx ∈ batch, tx.Fits ∧ rows.contains tx.identity = true) :
    batch.foldlM addNew rows = .ok rows := by
  induction batch with
  | nil => rfl
  | cons tx rest ih =>
      obtain ⟨⟨fits, there⟩, others⟩ := List.forall_mem_cons.mp stored
      rw [List.foldlM_cons, addNew_of_fits rows fits, if_pos there]
      exact ih others

theorem drop_eq_ok_iff {rows result : Rows} {batch : List Transaction} :
    rows.drop batch = .ok result ↔
      (∀ tx ∈ batch, tx.identity.version.toNat < Word.limit) ∧
        result = rows.filter fun identity _ =>
          !(batch.map Transaction.identity).contains identity := by
  -- The versions are looked at before anything is dropped.
  have looked : (batch.forM fun tx => discard (Column.version.write tx.identity.version)) =
      (.ok () : Except StoreProblem Unit) ↔
        ∀ tx ∈ batch, tx.identity.version.toNat < Word.limit := by
    induction batch with
    | nil => simp [pure, Except.pure]
    | cons tx rest ih =>
        rw [List.forall_mem_cons, ← ih]
        by_cases small : tx.identity.version.toNat < Word.limit
        · simp [Column.write_of_lt small, small, discard, Functor.discard, Functor.mapConst,
            Except.map, bind, Except.bind]
        · simp [Column.write, small, discard, Functor.discard, Functor.mapConst, Except.map,
            bind, Except.bind]
  rw [drop, bind_eq_ok_iff, ← looked]
  constructor
  · rintro ⟨_, checked, built⟩
    cases built
    exact ⟨checked, rfl⟩
  · rintro ⟨checked, rfl⟩
    exact ⟨(), checked, rfl⟩

theorem get?_drop {rows left : Rows} {batch : List Transaction}
    (dropped : rows.drop batch = .ok left) (identity : Identity) :
    left.get? identity =
      if identity ∈ batch.map Transaction.identity then none else rows.get? identity := by
  obtain ⟨_, rfl⟩ := drop_eq_ok_iff.mp dropped
  rw [SortedMap.get?_filter]
  by_cases own : identity ∈ batch.map Transaction.identity
  · cases rows.get? identity <;> simp [own, Option.filter]
  · cases rows.get? identity <;> simp [own, Option.filter]

end Rows

namespace Store

theorem addNew_eq_ok_iff {store after : Store} {batch : List Transaction} :
    store.addNew batch = .ok after ↔
      ∃ rows, batch.foldlM Rows.addNew store.rows = .ok rows ∧ after = { store with rows } := by
  rw [addNew, bind_eq_ok_iff]
  constructor
  · rintro ⟨rows, done, built⟩
    cases built
    exact ⟨rows, done, rfl⟩
  · rintro ⟨rows, done, rfl⟩
    exact ⟨rows, done, rfl⟩

theorem replace_eq_ok_iff {store after : Store} {batch : List Transaction} :
    store.replace batch = .ok after ↔
      ∃ left rows, store.rows.drop batch = .ok left ∧
        batch.foldlM Rows.addNew left = .ok rows ∧ after = { store with rows } := by
  rw [replace, bind_eq_ok_iff]
  constructor
  · rintro ⟨left, dropped, done⟩
    obtain ⟨rows, added, built⟩ := bind_eq_ok_iff.mp done
    cases built
    exact ⟨left, rows, dropped, added, rfl⟩
  · rintro ⟨left, rows, dropped, done, rfl⟩
    exact ⟨left, dropped, bind_eq_ok_iff.mpr ⟨rows, done, rfl⟩⟩

theorem get?_addNew {store after : Store} {batch : List Transaction}
    (done : store.addNew batch = .ok after) (identity : Identity) :
    after.rows.get? identity =
      (store.rows.get? identity).or
        ((batch.find? fun tx => tx.identity = identity).map Row.keeping) := by
  obtain ⟨rows, added, rfl⟩ := addNew_eq_ok_iff.mp done
  obtain ⟨_, rfl⟩ := Rows.foldlM_addNew added
  rw [SortedMap.get?_foldl_insertIfNew, Rows.rows_of_find?]

theorem get?_replace {store after : Store} {batch : List Transaction}
    (done : store.replace batch = .ok after) (identity : Identity) :
    after.rows.get? identity =
      ((batch.find? fun tx => tx.identity = identity).map Row.keeping).or
        (store.rows.get? identity) := by
  obtain ⟨left, rows, dropped, added, rfl⟩ := replace_eq_ok_iff.mp done
  have remaining := Rows.get?_drop dropped identity
  obtain ⟨_, rfl⟩ := Rows.foldlM_addNew added
  rw [SortedMap.get?_foldl_insertIfNew, Rows.rows_of_find?, remaining]
  cases found : batch.find? fun tx => tx.identity = identity with
  | none =>
      -- Nothing of this identity is dropped, and nothing is added.
      have foreign : identity ∉ batch.map Transaction.identity := by
        rw [List.find?_eq_none] at found
        simpa using found
      rw [if_neg foreign]
      simp
  | some tx =>
      have same : tx.identity = identity := by simpa using List.find?_some found
      have own : identity ∈ batch.map Transaction.identity := by
        rw [← same]
        exact List.mem_map_of_mem (List.mem_of_find?_eq_some found)
      rw [if_pos own]
      simp

theorem fits_of_addNew {store after : Store} {batch : List Transaction}
    (done : store.addNew batch = .ok after) : ∀ tx ∈ batch, tx.Fits := by
  obtain ⟨_, added, _⟩ := addNew_eq_ok_iff.mp done
  exact (Rows.foldlM_addNew added).1

theorem fits_of_replace {store after : Store} {batch : List Transaction}
    (done : store.replace batch = .ok after) : ∀ tx ∈ batch, tx.Fits := by
  obtain ⟨_, _, _, added, _⟩ := replace_eq_ok_iff.mp done
  exact (Rows.foldlM_addNew added).1

/-- What is no part of rows: the annotations of every identity, for every viewer. -/
theorem annotations_addNew {store after : Store} {batch : List Transaction}
    (done : store.addNew batch = .ok after) : after.annotations = store.annotations := by
  obtain ⟨_, _, rfl⟩ := addNew_eq_ok_iff.mp done
  rfl

theorem annotations_replace {store after : Store} {batch : List Transaction}
    (done : store.replace batch = .ok after) : after.annotations = store.annotations := by
  obtain ⟨_, _, _, _, rfl⟩ := replace_eq_ok_iff.mp done
  rfl

theorem exists_addNew (store : Store) (batch : List Transaction)
    (writable : ∀ tx ∈ batch, tx.Fits ∧ tx.LogsOnce) :
    ∃ after, store.addNew batch = .ok after := by
  obtain ⟨rows, done⟩ := Rows.exists_foldlM_addNew store.rows writable
  exact ⟨_, addNew_eq_ok_iff.mpr ⟨rows, done, rfl⟩⟩

theorem exists_replace (store : Store) (batch : List Transaction)
    (writable : ∀ tx ∈ batch, tx.Fits ∧ tx.LogsOnce) :
    ∃ after, store.replace batch = .ok after := by
  have dropped := (@Rows.drop_eq_ok_iff store.rows _ _).mpr
    ⟨fun tx member => (writable tx member).1.1, rfl⟩
  obtain ⟨rows, done⟩ := Rows.exists_foldlM_addNew _ writable
  exact ⟨_, replace_eq_ok_iff.mpr ⟨_, rows, dropped, done, rfl⟩⟩

theorem addNew_of_stored {store : Store} {batch : List Transaction}
    (stored : ∀ tx ∈ batch, tx.Fits ∧ store.rows.contains tx.identity = true) :
    store.addNew batch = .ok store :=
  addNew_eq_ok_iff.mpr ⟨store.rows, Rows.foldlM_addNew_of_stored stored, rfl⟩

theorem replace_nil (store : Store) : store.replace [] = .ok store := by
  refine replace_eq_ok_iff.mpr ⟨_, store.rows, Rows.drop_eq_ok_iff.mpr ⟨by simp, rfl⟩, ?_, rfl⟩
  simp [SortedMap.filter_true, pure, Except.pure]

theorem replace_withAnnotations (store : Store) (batch : List Transaction)
    (annotations : Annotations) :
    store.replace (batch.map (Transaction.withAnnotations annotations)) =
      store.replace batch := by
  have identity : ∀ tx : Transaction, (tx.withAnnotations annotations).identity = tx.identity :=
    fun tx => by cases tx <;> rfl
  have same : (batch.map (Transaction.withAnnotations annotations)).map Transaction.identity =
      batch.map Transaction.identity := by
    rw [List.map_map]
    exact List.map_congr_left fun tx _ => identity tx
  have dropped : store.rows.drop (batch.map (Transaction.withAnnotations annotations)) =
      store.rows.drop batch := by
    simp only [Rows.drop, same, List.forM_eq_forM, List.forM_map, identity]
  simp only [replace, dropped, List.foldlM_map, Rows.addNew_withAnnotations]

end Store

end Passbook
