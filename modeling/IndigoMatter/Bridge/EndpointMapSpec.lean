import IndigoMatter.Bridge.EndpointMap

/-!
# What each operation does to one record

One pass of `check` rewrites every live identity's record independently of the
others, so the pass is described entry by entry: `seenRecord` is the record it
leaves and `driftOf` the report it makes.  Forgetting, destroying and voiding
are described in the same way, by the record that stands under one identity
afterwards.
-/

namespace IndigoMatter.Bridge

open IndigoMatter.Library

/-! ## One live entry -/

@[simp]
theorem restoredRecord_number (record : EndpointRecord) (entry : LiveEndpointNumber) :
    (restoredRecord record entry).number = record.number := rfl

@[simp]
theorem restoredRecord_numberVoid (record : EndpointRecord) (entry : LiveEndpointNumber) :
    (restoredRecord record entry).numberVoid = record.numberVoid := rfl

@[simp]
theorem recordFor_number (entry : LiveEndpointNumber) :
    (recordFor entry).number = entry.endpointNumber := rfl

@[simp]
theorem recordFor_numberVoid (entry : LiveEndpointNumber) :
    (recordFor entry).numberVoid = false := rfl

/-- Refreshing reports a change exactly when the record is another one. -/
theorem noteRestorable_changed_iff (record : EndpointRecord) (entry : LiveEndpointNumber) :
    (noteRestorable record entry).2 = true ↔ (noteRestorable record entry).1 ≠ record := by
  obtain ⟨number, role, label, numberVoid, orphaned, battery, deviceId, supersededBy⟩ := record
  obtain ⟨uniqueId, endpointNumber, liveRole, liveLabel, liveBattery, liveDevice⟩ := entry
  have optional {α : Type} [DecidableEq α] (seen recorded : Option α) :
      (seen.isSome && recorded != seen) = true ↔ seen.or recorded ≠ recorded := by
    cases seen with
    | none => simp
    | some value =>
        rw [Option.isSome_some, Bool.true_and, bne_iff_ne, Option.some_or]
        exact ne_comm
  have marker (seen recorded : Bool) :
      (seen && !recorded) = true ↔ (seen || recorded) ≠ recorded := by
    cases seen <;> cases recorded <;> simp
  simp only [noteRestorable, restoredRecord, Bool.or_eq_true, optional, marker, ne_eq,
    EndpointRecord.mk.injEq, true_and, Option.isSome_iff_ne_none]
  cases orphaned <;> cases supersededBy <;> cases battery <;> cases liveBattery <;> simp <;> tauto

/-- Refreshing twice from one live endpoint is refreshing once. -/
theorem restoredRecord_restoredRecord (record : EndpointRecord) (entry : LiveEndpointNumber) :
    restoredRecord (restoredRecord record entry) entry = restoredRecord record entry := by
  obtain ⟨uniqueId, endpointNumber, role, label, battery, deviceId⟩ := entry
  cases role <;> cases label <;> cases battery <;> cases deviceId <;> rfl

/-- A fresh record already holds everything its live endpoint reports. -/
theorem restoredRecord_recordFor (entry : LiveEndpointNumber) :
    restoredRecord (recordFor entry) entry = recordFor entry := by
  obtain ⟨uniqueId, endpointNumber, role, label, battery, deviceId⟩ := entry
  cases role <;> cases label <;> cases battery <;> cases deviceId <;> rfl

/-- The record a check leaves of an identity it sees live. -/
def seenRecord (found : Option EndpointRecord) (entry : LiveEndpointNumber) : EndpointRecord :=
  match found with
  | none => recordFor entry
  | some record =>
      if record.numberVoid then
        { restoredRecord record entry with
          number := entry.endpointNumber, numberVoid := false }
      else restoredRecord record entry

/-- What a check reports about an identity it sees live. -/
def driftOf (found : Option EndpointRecord) (entry : LiveEndpointNumber) : Option DriftEntry :=
  match found with
  | none => none
  | some record =>
      if record.numberVoid = false ∧ record.number ≠ entry.endpointNumber then
        some ⟨entry.uniqueId, record.number, entry.endpointNumber⟩
      else none

@[simp]
theorem seenRecord_numberVoid (found : Option EndpointRecord) (entry : LiveEndpointNumber) :
    (seenRecord found entry).numberVoid = false := by
  cases found with
  | none => rfl
  | some record =>
      by_cases void : record.numberVoid = true
      · simp [seenRecord, void]
      · simp [seenRecord, void]

theorem seenRecord_number_of_void {record : EndpointRecord} (entry : LiveEndpointNumber)
    (void : record.numberVoid = true) :
    (seenRecord (some record) entry).number = entry.endpointNumber := by
  simp [seenRecord, void]

theorem seenRecord_number_of_not_void {record : EndpointRecord} (entry : LiveEndpointNumber)
    (trusted : record.numberVoid = false) :
    (seenRecord (some record) entry).number = record.number := by
  simp [seenRecord, trusted]

theorem driftOf_eq_some_iff {found : Option EndpointRecord} {entry : LiveEndpointNumber}
    {report : DriftEntry} :
    driftOf found entry = some report ↔
      ∃ record, found = some record ∧ record.numberVoid = false ∧
        record.number ≠ entry.endpointNumber ∧
        report = ⟨entry.uniqueId, record.number, entry.endpointNumber⟩ := by
  cases found with
  | none => simp [driftOf]
  | some record =>
      simp only [driftOf, Option.ite_none_right_eq_some, Option.some.injEq, eq_comm (b := report)]
      aesop

/-- What a check has seen once, it leaves as it is. -/
theorem seenRecord_seenRecord (found : Option EndpointRecord) (entry : LiveEndpointNumber) :
    seenRecord (some (seenRecord found entry)) entry = seenRecord found entry := by
  have refreshed : restoredRecord (seenRecord found entry) entry = seenRecord found entry := by
    cases found with
    | none => exact restoredRecord_recordFor entry
    | some record =>
        by_cases void : record.numberVoid = true
        · simp only [seenRecord, if_pos void]
          have twice := restoredRecord_restoredRecord record entry
          simp only [restoredRecord, EndpointRecord.mk.injEq] at twice ⊢
          simpa using twice
        · simp only [seenRecord, if_neg void]
          exact restoredRecord_restoredRecord record entry
  rw [seenRecord, seenRecord_numberVoid, if_neg Bool.false_ne_true, refreshed]

/-- A second look at one live endpoint reports what the first one did. -/
theorem driftOf_seenRecord (found : Option EndpointRecord) (entry : LiveEndpointNumber) :
    driftOf (some (seenRecord found entry)) entry = driftOf found entry := by
  cases found with
  | none => simp [driftOf, seenRecord]
  | some record =>
      by_cases void : record.numberVoid = true
      · simp [driftOf, seenRecord, void]
      · simp [driftOf, seenRecord, void]

/-! ## The pass over a live set -/

namespace EndpointMapStore

/-- Whether a pass has anything to write. -/
def Pass.Wrote (pass : Pass) : Prop := 0 < pass.added ∨ 0 < pass.refreshed ∨ 0 < pass.adopted

/-- One entry of a pass: the record it leaves, the report it makes, and that it
counts exactly the changes. -/
theorem checkEntry_spec (pass : Pass) (entry : LiveEndpointNumber) :
    (checkEntry pass entry).endpoints =
        pass.endpoints.set entry.uniqueId
          (seenRecord (pass.endpoints.get? entry.uniqueId) entry) ∧
      (checkEntry pass entry).drift =
        pass.drift ++ (driftOf (pass.endpoints.get? entry.uniqueId) entry).toList ∧
      ((checkEntry pass entry).Wrote ↔
        pass.Wrote ∨ pass.endpoints.get? entry.uniqueId ≠
          some (seenRecord (pass.endpoints.get? entry.uniqueId) entry)) := by
  cases found : pass.endpoints.get? entry.uniqueId with
  | none => simp [checkEntry, found, seenRecord, driftOf, Pass.Wrote]
  | some record =>
      by_cases void : record.numberVoid = true
      · have adopted : record ≠ seenRecord (some record) entry := by
          intro same
          have trusted := seenRecord_numberVoid (some record) entry
          rw [← same, void] at trusted
          cases trusted
        refine ⟨?_, ?_, ?_⟩
        · simp [checkEntry, found, noteRestorable, seenRecord, void]
        · simp [checkEntry, found, noteRestorable, driftOf, void]
        · simp [checkEntry, found, noteRestorable, void, Pass.Wrote, adopted]
      · have changed := noteRestorable_changed_iff record entry
        have left : seenRecord (some record) entry = restoredRecord record entry := by
          simp [seenRecord, void]
        refine ⟨?_, ?_, ?_⟩
        · simp [checkEntry, found, noteRestorable, void, left]
        · by_cases moved : record.number = entry.endpointNumber
          · simp [checkEntry, found, noteRestorable, driftOf, void, moved]
          · simp [checkEntry, found, noteRestorable, driftOf, void, moved]
        · rw [left]
          by_cases same : restoredRecord record entry = record
          · have steady : (noteRestorable record entry).2 = false := by
              rw [Bool.eq_false_iff, ne_eq, changed]
              exact not_not_intro same
            simp [checkEntry, found, steady, void, Pass.Wrote, same,
              show (noteRestorable record entry).1 = restoredRecord record entry from rfl]
          · have moved : (noteRestorable record entry).2 = true := changed.mpr same
            have different : record ≠ restoredRecord record entry := fun equal => same equal.symm
            simp [checkEntry, found, moved, void, Pass.Wrote, different,
              show (noteRestorable record entry).1 = restoredRecord record entry from rfl]

/-- The endpoints a pass leaves, as one update per live entry. -/
theorem foldl_checkEntry_endpoints (live : List LiveEndpointNumber) (pass : Pass) :
    (live.foldl checkEntry pass).endpoints =
      pass.endpoints.upsertAll LiveEndpointNumber.uniqueId seenRecord live := by
  induction live generalizing pass with
  | nil => rfl
  | cons entry rest ih =>
      rw [List.foldl_cons, ih, (checkEntry_spec pass entry).1]
      rfl

/-- A pass reports, in order, what each entry finds in the map it started from. -/
theorem foldl_checkEntry_drift {live : List LiveEndpointNumber}
    (distinct : (live.map LiveEndpointNumber.uniqueId).Nodup) (pass : Pass) :
    (live.foldl checkEntry pass).drift =
      pass.drift ++ live.filterMap fun entry =>
        driftOf (pass.endpoints.get? entry.uniqueId) entry := by
  induction live generalizing pass with
  | nil => simp
  | cons entry rest ih =>
      rw [List.map_cons, List.nodup_cons] at distinct
      obtain ⟨endpoints, drift, -⟩ := checkEntry_spec pass entry
      have unaffected : rest.filterMap (fun other =>
            driftOf ((checkEntry pass entry).endpoints.get? other.uniqueId) other) =
          rest.filterMap fun other => driftOf (pass.endpoints.get? other.uniqueId) other := by
        apply List.filterMap_congr
        intro other member
        have differs : other.uniqueId ≠ entry.uniqueId := by
          intro same
          exact distinct.1 (same ▸ List.mem_map_of_mem member)
        rw [endpoints, InsertionMap.get?_set, if_neg differs]
      rw [List.foldl_cons, ih distinct.2, drift, unaffected, List.append_assoc]
      cases report : driftOf (pass.endpoints.get? entry.uniqueId) entry with
      | none => simp [report]
      | some moved => simp [report]

/-- A pass with nothing to write has found every record as it leaves it. -/
theorem foldl_checkEntry_wrote {live : List LiveEndpointNumber}
    (distinct : (live.map LiveEndpointNumber.uniqueId).Nodup) (pass : Pass) :
    (live.foldl checkEntry pass).Wrote ↔
      pass.Wrote ∨ ∃ entry ∈ live, pass.endpoints.get? entry.uniqueId ≠
        some (seenRecord (pass.endpoints.get? entry.uniqueId) entry) := by
  induction live generalizing pass with
  | nil => simp
  | cons entry rest ih =>
      rw [List.map_cons, List.nodup_cons] at distinct
      obtain ⟨endpoints, -, wrote⟩ := checkEntry_spec pass entry
      have unaffected : ∀ other ∈ rest,
          (checkEntry pass entry).endpoints.get? other.uniqueId =
            pass.endpoints.get? other.uniqueId := by
        intro other member
        have differs : other.uniqueId ≠ entry.uniqueId := by
          intro same
          exact distinct.1 (same ▸ List.mem_map_of_mem member)
        rw [endpoints, InsertionMap.get?_set, if_neg differs]
      have others : (∃ other ∈ rest,
            (checkEntry pass entry).endpoints.get? other.uniqueId ≠
              some (seenRecord ((checkEntry pass entry).endpoints.get? other.uniqueId) other)) ↔
          ∃ other ∈ rest, pass.endpoints.get? other.uniqueId ≠
            some (seenRecord (pass.endpoints.get? other.uniqueId) other) := by
        constructor
        · rintro ⟨other, member, changes⟩
          exact ⟨other, member, unaffected other member ▸ changes⟩
        · rintro ⟨other, member, changes⟩
          exact ⟨other, member, (unaffected other member).symm ▸ changes⟩
      rw [List.foldl_cons, ih distinct.2, wrote, others, or_assoc]
      simp only [List.mem_cons, exists_eq_or_imp]

/-! ## Calls -/

@[simp]
theorem persist_endpoints (lands : Bool) (store : EndpointMapStore) :
    (store.persist lands).endpoints = store.endpoints := by
  cases lands <;> rfl

@[simp]
theorem persistWhen_endpoints (needed lands : Bool) (store : EndpointMapStore) :
    (store.persistWhen needed lands).endpoints = store.endpoints := by
  cases needed <;> simp [persistWhen]

theorem check_endpoints (live : List LiveEndpointNumber) (lands : Bool)
    (store : EndpointMapStore) :
    (store.check live lands).2.endpoints =
      store.endpoints.upsertAll LiveEndpointNumber.uniqueId seenRecord live := by
  have pass := foldl_checkEntry_endpoints live ⟨store.endpoints, [], 0, 0, 0⟩
  simpa [check, checkPass] using pass

theorem check_drift (live : LiveSet) (lands : Bool) (store : EndpointMapStore) :
    (store.check live.entries lands).1 =
      live.entries.filterMap fun entry =>
        driftOf (store.endpoints.get? entry.uniqueId) entry := by
  have pass := foldl_checkEntry_drift live.distinct ⟨store.endpoints, [], 0, 0, 0⟩
  simpa [check, checkPass] using pass

theorem get?_check_of_mem {live : LiveSet} {entry : LiveEndpointNumber}
    (member : entry ∈ live.entries) (lands : Bool) (store : EndpointMapStore) :
    (store.check live.entries lands).2.endpoints.get? entry.uniqueId =
      some (seenRecord (store.endpoints.get? entry.uniqueId) entry) := by
  rw [check_endpoints]
  exact InsertionMap.get?_upsertAll_of_mem live.distinct member store.endpoints

theorem get?_check_of_notMem {live : List LiveEndpointNumber} {uniqueId : String}
    (absent : uniqueId ∉ live.map LiveEndpointNumber.uniqueId) (lands : Bool)
    (store : EndpointMapStore) :
    (store.check live lands).2.endpoints.get? uniqueId = store.endpoints.get? uniqueId := by
  rw [check_endpoints]
  exact InsertionMap.get?_upsertAll_of_notMem absent store.endpoints

/-- A check of a clean store whose every live record is as it would leave it
writes nothing. -/
theorem check_of_settled {live : LiveSet} {store : EndpointMapStore}
    (clean : store.dirty = false)
    (ran : live.entries ≠ [] → store.checkRan = true)
    (settled : ∀ entry ∈ live.entries, store.endpoints.get? entry.uniqueId =
      some (seenRecord (store.endpoints.get? entry.uniqueId) entry))
    (lands : Bool) : (store.check live.entries lands).2 = store := by
  have quiet : ¬(checkPass store.endpoints live.entries).Wrote := by
    rw [checkPass, foldl_checkEntry_wrote live.distinct]
    rintro (wrote | ⟨entry, member, changes⟩)
    · simp [Pass.Wrote] at wrote
    · exact changes (settled entry member)
  have unchanged : (checkPass store.endpoints live.entries).endpoints = store.endpoints := by
    rw [checkPass, foldl_checkEntry_endpoints]
    exact InsertionMap.upsertAll_eq_self settled
  simp only [Pass.Wrote, not_or] at quiet
  obtain ⟨path, endpoints, present, problem, checkRan, dirty, file, writes⟩ := store
  obtain rfl : dirty = false := clean
  simpa [check, quiet, persistWhen, unchanged] using ran

theorem check_checkRan {live : List LiveEndpointNumber} (some : live ≠ []) (lands : Bool)
    (store : EndpointMapStore) : (store.check live lands).2.checkRan = true := by
  simp [check, some]

/-- A record after forgetting it. -/
def forgotten (supersededBy : Option String) (record : EndpointRecord) : EndpointRecord :=
  (forgottenRecord supersededBy record).getD record

/-- Forgetting touches nothing but the two markers of departure. -/
theorem forgotten_eq (supersededBy : Option String) (record : EndpointRecord) :
    ∃ orphaned newer, forgotten supersededBy record =
      { record with orphaned := orphaned, supersededBy := newer } := by
  unfold forgotten forgottenRecord
  split
  · exact ⟨record.orphaned, record.supersededBy, rfl⟩
  · simp only
    split
    · exact ⟨record.orphaned, record.supersededBy, rfl⟩
    · exact ⟨_, _, rfl⟩

@[simp]
theorem forgotten_number (supersededBy : Option String) (record : EndpointRecord) :
    (forgotten supersededBy record).number = record.number := by
  obtain ⟨orphaned, newer, same⟩ := forgotten_eq supersededBy record
  rw [same]

@[simp]
theorem forgotten_numberVoid (supersededBy : Option String) (record : EndpointRecord) :
    (forgotten supersededBy record).numberVoid = record.numberVoid := by
  obtain ⟨orphaned, newer, same⟩ := forgotten_eq supersededBy record
  rw [same]

@[simp]
theorem forgotten_role (supersededBy : Option String) (record : EndpointRecord) :
    (forgotten supersededBy record).role = record.role := by
  obtain ⟨orphaned, newer, same⟩ := forgotten_eq supersededBy record
  rw [same]

@[simp]
theorem forgotten_label (supersededBy : Option String) (record : EndpointRecord) :
    (forgotten supersededBy record).label = record.label := by
  obtain ⟨orphaned, newer, same⟩ := forgotten_eq supersededBy record
  rw [same]

@[simp]
theorem forgotten_deviceId (supersededBy : Option String) (record : EndpointRecord) :
    (forgotten supersededBy record).deviceId = record.deviceId := by
  obtain ⟨orphaned, newer, same⟩ := forgotten_eq supersededBy record
  rw [same]

/-- A record worth protecting is orphaned by being forgotten. -/
theorem forgotten_orphaned {record : EndpointRecord} (supersededBy : Option String)
    (worth : record.role.isSome ∨ record.label.isSome) :
    (forgotten supersededBy record).orphaned = true := by
  have described : ¬(record.role.isNone = true ∧ record.label.isNone = true) := by
    rintro ⟨noRole, noLabel⟩
    rcases worth with role | label
    · simp [Option.isNone_iff_eq_none.mp noRole] at role
    · simp [Option.isNone_iff_eq_none.mp noLabel] at label
  simp only [forgotten, forgottenRecord, if_neg described]
  split
  · rename_i already
    exact already.1
  · rfl

/-- An orphaned record stays orphaned. -/
theorem forgotten_orphaned_of_orphaned {record : EndpointRecord} (supersededBy : Option String)
    (orphaned : record.orphaned = true) : (forgotten supersededBy record).orphaned = true := by
  unfold forgotten forgottenRecord
  split
  · exact orphaned
  · simp only
    split
    · exact orphaned
    · rfl

/-- Forgetting twice is forgetting once. -/
theorem forgottenRecord_forgotten (supersededBy : Option String) (record : EndpointRecord) :
    forgottenRecord supersededBy (forgotten supersededBy record) = none := by
  obtain ⟨number, role, label, numberVoid, orphaned, battery, deviceId, older⟩ := record
  cases role <;> cases label <;> cases orphaned <;> cases supersededBy <;> cases older <;> rfl

theorem get?_forget (uniqueIds : List String) (supersededBy : Option String) (lands : Bool)
    (store : EndpointMapStore) (uniqueId : String) :
    (store.forget uniqueIds supersededBy lands).2.endpoints.get? uniqueId =
      if uniqueId ∈ uniqueIds then
        (store.endpoints.get? uniqueId).map (forgotten supersededBy)
      else store.endpoints.get? uniqueId := by
  have one : ∀ (state : InsertionMap String EndpointRecord × Nat) (head : String),
      (forgetOne supersededBy state head).1.get? uniqueId =
        if uniqueId = head then (state.1.get? uniqueId).map (forgotten supersededBy)
        else state.1.get? uniqueId := by
    intro state head
    cases changed : (state.1.get? head).bind (forgottenRecord supersededBy) with
    | none =>
        simp only [forgetOne, changed]
        split
        · rename_i same
          subst same
          cases stored : state.1.get? uniqueId with
          | none => rfl
          | some record =>
              rw [stored, Option.bind_some] at changed
              simp [forgotten, changed]
        · rfl
    | some record =>
        obtain ⟨found, stored, rewritten⟩ := Option.bind_eq_some_iff.mp changed
        simp only [forgetOne, changed, InsertionMap.get?_set]
        split
        · rename_i same
          subst same
          simp [stored, forgotten, rewritten]
        · rfl
  have fold : ∀ state : InsertionMap String EndpointRecord × Nat,
      (uniqueIds.foldl (forgetOne supersededBy) state).1.get? uniqueId =
        if uniqueId ∈ uniqueIds then (state.1.get? uniqueId).map (forgotten supersededBy)
        else state.1.get? uniqueId := by
    induction uniqueIds with
    | nil => simp
    | cons head rest ih =>
        intro state
        rw [List.foldl_cons, ih, one]
        by_cases same : uniqueId = head
        · have twice (record : EndpointRecord) :
              forgotten supersededBy (forgotten supersededBy record) =
                forgotten supersededBy record := by
            rw [forgotten, forgottenRecord_forgotten, Option.getD_none]
          simp [same, Function.comp_def, twice]
        · simp [same]
  simpa [forget] using fold (store.endpoints, 0)

theorem get?_destroy (uniqueIds : List String) (lands : Bool) (store : EndpointMapStore)
    (uniqueId : String) :
    (store.destroy uniqueIds lands).2.endpoints.get? uniqueId =
      if uniqueId ∈ uniqueIds then none else store.endpoints.get? uniqueId := by
  have one : ∀ (state : InsertionMap String EndpointRecord × Nat) (head : String),
      (destroyOne state head).1.get? uniqueId =
        if uniqueId = head then none else state.1.get? uniqueId := by
    intro state head
    rw [destroyOne]
    cases present : state.1.has head with
    | true => simp
    | false =>
        have absent : state.1.get? head = none := by simpa [InsertionMap.has] using present
        split
        · contradiction
        · by_cases same : uniqueId = head
          · rw [if_pos same, same, absent]
          · rw [if_neg same]
  have fold : ∀ state : InsertionMap String EndpointRecord × Nat,
      (uniqueIds.foldl destroyOne state).1.get? uniqueId =
        if uniqueId ∈ uniqueIds then none else state.1.get? uniqueId := by
    induction uniqueIds with
    | nil => simp
    | cons head rest ih =>
        intro state
        rw [List.foldl_cons, ih, one]
        by_cases same : uniqueId = head <;> simp [same]
  simpa [destroy] using fold (store.endpoints, 0)

theorem get?_voidNumbers (lands : Bool) (store : EndpointMapStore) {uniqueId : String}
    {record : EndpointRecord} (recorded : store.endpoints.get? uniqueId = some record) :
    (store.voidNumbers lands).2.endpoints.get? uniqueId =
      some { record with numberVoid := true } := by
  have filled : store.endpoints.size ≠ 0 := by
    have member := InsertionMap.mem_entries_iff.mpr recorded
    exact List.length_pos_of_mem member |>.ne'
  simp [voidNumbers, filled, InsertionMap.get?_mapValues, recorded]

end EndpointMapStore

end IndigoMatter.Bridge
