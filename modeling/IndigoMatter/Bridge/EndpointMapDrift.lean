import IndigoMatter.Bridge.EndpointMapSpec

/-!
# Drift is reported and never repaired

The number of a record moves in one way only, by the adoption of a live number
over a void one; forgetting and voiding keep every number.  Over a run the same
facts give the history: between two `voidNumbers` the number of a record that is
not void stands still.
-/

namespace IndigoMatter.Bridge

open IndigoMatter.Library

/-- The calls the drift promise is about. -/
def MapCall.Witnesses : MapCall → Prop
  | .check _ _ | .forget _ _ _ | .voidNumbers _ => True
  | _ => False

/-- Whether a call voids the recorded numbers. -/
def MapCall.Voids : MapCall → Prop
  | .voidNumbers _ => True
  | _ => False

/-- A check that sees an identity live, under a number, while its record is void. -/
def Adopts (store : EndpointMapStore) (call : MapCall) (uniqueId : String) (number : Nat) :
    Prop :=
  ∃ live lands entry record, call = .check live lands ∧ entry ∈ live.entries ∧
    entry.uniqueId = uniqueId ∧ entry.endpointNumber = number ∧
    store.endpoints.get? uniqueId = some record ∧ record.numberVoid = true

namespace EndpointMapStore

/-- One call on one record: the number stands, or the call adopts another. -/
theorem number_after {store : EndpointMapStore} {call : MapCall} (witnesses : call.Witnesses)
    {uniqueId : String} {record : EndpointRecord}
    (recorded : store.endpoints.get? uniqueId = some record) :
    ∃ next, (store.after call).endpoints.get? uniqueId = some next ∧
      (next.number = record.number ∨ Adopts store call uniqueId next.number) := by
  cases call with
  | check live lands =>
      by_cases seen : uniqueId ∈ live.entries.map LiveEndpointNumber.uniqueId
      · obtain ⟨entry, member, rfl⟩ := List.mem_map.mp seen
        refine ⟨_, get?_check_of_mem member lands store, ?_⟩
        rw [recorded]
        by_cases void : record.numberVoid = true
        · right
          exact ⟨live, lands, entry, record, rfl, member, rfl,
            (seenRecord_number_of_void entry void).symm, recorded, void⟩
        · left
          exact seenRecord_number_of_not_void entry (Bool.eq_false_iff.mpr void)
      · exact ⟨record, (get?_check_of_notMem seen lands store).trans recorded, .inl rfl⟩
  | forget uniqueIds supersededBy lands =>
      have kept := get?_forget uniqueIds supersededBy lands store uniqueId
      rw [recorded] at kept
      split at kept
      · exact ⟨_, kept, .inl (forgotten_number _ _)⟩
      · exact ⟨_, kept, .inl rfl⟩
  | voidNumbers lands => exact ⟨_, get?_voidNumbers lands store recorded, .inl rfl⟩
  | load | destroy | seed | rebuild | discard => cases witnesses

/-- An adoption leaves the live number, and the mark is gone. -/
theorem adopted_after {store : EndpointMapStore} {call : MapCall} {uniqueId : String}
    {number : Nat} (adopts : Adopts store call uniqueId number) :
    ∃ record, (store.after call).endpoints.get? uniqueId = some record ∧
      record.number = number ∧ record.numberVoid = false := by
  obtain ⟨live, lands, entry, record, rfl, member, rfl, rfl, recorded, void⟩ := adopts
  refine ⟨_, get?_check_of_mem member lands store, ?_, seenRecord_numberVoid _ _⟩
  rw [recorded, seenRecord_number_of_void entry void]

/-- A trusted number stands until the numbers are voided. -/
theorem trusted_after {store : EndpointMapStore} {call : MapCall} (witnesses : call.Witnesses)
    (keeps : ¬call.Voids) {uniqueId : String} {record : EndpointRecord}
    (recorded : store.endpoints.get? uniqueId = some record)
    (trusted : record.numberVoid = false) :
    ∃ next, (store.after call).endpoints.get? uniqueId = some next ∧
      next.number = record.number ∧ next.numberVoid = false := by
  cases call with
  | check live lands =>
      by_cases seen : uniqueId ∈ live.entries.map LiveEndpointNumber.uniqueId
      · obtain ⟨entry, member, rfl⟩ := List.mem_map.mp seen
        refine ⟨_, get?_check_of_mem member lands store, ?_, seenRecord_numberVoid _ _⟩
        rw [recorded, seenRecord_number_of_not_void entry trusted]
      · exact ⟨record, (get?_check_of_notMem seen lands store).trans recorded, rfl, trusted⟩
  | forget uniqueIds supersededBy lands =>
      have kept := get?_forget uniqueIds supersededBy lands store uniqueId
      rw [recorded] at kept
      split at kept
      · exact ⟨_, kept, forgotten_number _ _, (forgotten_numberVoid _ _).trans trusted⟩
      · exact ⟨_, kept, rfl, trusted⟩
  | voidNumbers => exact absurd trivial keeps
  | load | destroy | seed | rebuild | discard => cases witnesses

theorem trusted_of_run {store final : EndpointMapStore} {calls : List MapCall}
    (run : RunWhere step (fun _ call => call.Witnesses ∧ ¬call.Voids) store calls final)
    {uniqueId : String} {record : EndpointRecord}
    (recorded : store.endpoints.get? uniqueId = some record)
    (trusted : record.numberVoid = false) :
    ∃ last, final.endpoints.get? uniqueId = some last ∧
      last.number = record.number ∧ last.numberVoid = false := by
  induction run with
  | nil => exact ⟨record, recorded, rfl, trusted⟩
  | snoc _ meets taken ih =>
      obtain ⟨last, held, number, still⟩ := ih
      obtain ⟨after, stored, same, void⟩ := trusted_after meets.1 meets.2 held still
      obtain rfl := Option.some.inj taken
      exact ⟨after, stored, same.trans number, void⟩

/-- The store owes the disk a write exactly when its last write failed. -/
def OwesWrite (store : EndpointMapStore) : Prop :=
  store.dirty = true ↔ store.writes.head? = some false

theorem owesWrite_persist (lands : Bool) (store : EndpointMapStore) :
    (store.persist lands).OwesWrite := by
  cases lands <;> simp [OwesWrite, persist]

theorem owesWrite_persistWhen (needed lands : Bool) {store : EndpointMapStore}
    (owes : store.OwesWrite) : (store.persistWhen needed lands).OwesWrite := by
  cases needed with
  | false => exact owes
  | true => exact owesWrite_persist lands store

theorem owesWrite_after {store : EndpointMapStore} {call : MapCall} (witnesses : call.Witnesses)
    (owes : store.OwesWrite) : (store.after call).OwesWrite := by
  cases call with
  | check live lands => exact owesWrite_persistWhen _ lands owes
  | forget uniqueIds supersededBy lands => exact owesWrite_persistWhen _ lands owes
  | voidNumbers lands =>
      simp only [after, voidNumbers]
      split
      · exact owes
      · exact owesWrite_persist lands _
  | load | destroy | seed | rebuild | discard => cases witnesses

theorem owesWrite_opened (path : String) (file : MapFile) : (opened path file).OwesWrite := by
  simp [opened, load, unread, OwesWrite]

/-- Looking again reports the same, and writes only what a failed write owes. -/
theorem check_again (live : LiveSet) (lands again : Bool) (store : EndpointMapStore) :
    ((store.check live.entries lands).2.check live.entries again).1 =
        (store.check live.entries lands).1 ∧
      ((store.check live.entries lands).2.dirty = false →
        ((store.check live.entries lands).2.check live.entries again).2 =
          (store.check live.entries lands).2) := by
  constructor
  · rw [check_drift, check_drift]
    apply List.filterMap_congr
    intro entry member
    rw [get?_check_of_mem member, driftOf_seenRecord]
  · intro clean
    apply check_of_settled clean
    · exact fun some => check_checkRan some lands store
    · intro entry member
      rw [get?_check_of_mem member, seenRecord_seenRecord]

/-- Drift is reported and never repaired.  In every state a run of checks,
forgets and voids reaches from a loaded map: a call moves a recorded number only
by adopting, at a check that sees the identity live and void, the live number;
an adoption takes the mark off, and a number without the mark stands until the
next void, so it is adopted once; a check reports exactly the live identities
whose trusted number differs, each once; and a second check of one live set
reports the same and, unless the last write failed, leaves everything alone. -/
theorem drift_never_repaired {path : String} {file : MapFile} {calls : List MapCall}
    {store : EndpointMapStore}
    (run : RunWhere step (fun _ call => call.Witnesses) (opened path file) calls store) :
    (∀ call, call.Witnesses → ∀ uniqueId record,
        store.endpoints.get? uniqueId = some record →
        ∃ next, (store.after call).endpoints.get? uniqueId = some next ∧
          (next.number = record.number ∨ Adopts store call uniqueId next.number)) ∧
      (∀ call uniqueId number, Adopts store call uniqueId number →
        ∃ record, (store.after call).endpoints.get? uniqueId = some record ∧
          record.number = number ∧ record.numberVoid = false) ∧
      (∀ later final,
        RunWhere step (fun _ call => call.Witnesses ∧ ¬call.Voids) store later final →
        ∀ uniqueId record, store.endpoints.get? uniqueId = some record →
          record.numberVoid = false →
          ∃ last, final.endpoints.get? uniqueId = some last ∧
            last.number = record.number ∧ last.numberVoid = false) ∧
      (∀ (live : LiveSet) (lands : Bool),
        (∀ report, report ∈ (store.check live.entries lands).1 ↔
          ∃ entry ∈ live.entries, ∃ record,
            store.endpoints.get? entry.uniqueId = some record ∧
            record.numberVoid = false ∧ record.number ≠ entry.endpointNumber ∧
            report = ⟨entry.uniqueId, record.number, entry.endpointNumber⟩) ∧
        ((store.check live.entries lands).1.map DriftEntry.uniqueId).Nodup) ∧
      (∀ (live : LiveSet) (lands again : Bool),
        ((store.check live.entries lands).2.check live.entries again).1 =
            (store.check live.entries lands).1 ∧
          ((store.check live.entries lands).2.writes.head? ≠ some false →
            ((store.check live.entries lands).2.check live.entries again).2 =
              (store.check live.entries lands).2)) := by
  have owes : store.OwesWrite := by
    apply run.invariant (owesWrite_opened path file)
    intro state call next holds witnesses taken
    obtain rfl : state.after call = next := Option.some.inj taken
    exact owesWrite_after witnesses holds
  refine ⟨?_, ?_, ?_, ?_, ?_⟩
  · exact fun call witnesses uniqueId record recorded => number_after witnesses recorded
  · exact fun call uniqueId number adopts => adopted_after adopts
  · exact fun later final rest uniqueId record recorded trusted =>
      trusted_of_run rest recorded trusted
  · intro live lands
    rw [check_drift]
    constructor
    · intro report
      simp only [List.mem_filterMap, driftOf_eq_some_iff]
    · have reported : ∀ entries : List LiveEndpointNumber,
          (entries.filterMap fun entry =>
              driftOf (store.endpoints.get? entry.uniqueId) entry).map DriftEntry.uniqueId |>.Sublist
            (entries.map LiveEndpointNumber.uniqueId) := by
        intro entries
        induction entries with
        | nil => exact .slnil
        | cons entry rest ih =>
            cases report : driftOf (store.endpoints.get? entry.uniqueId) entry with
            | none => simpa [report] using ih.cons entry.uniqueId
            | some moved =>
                obtain ⟨record, -, -, -, rfl⟩ := driftOf_eq_some_iff.mp report
                simpa [report] using ih
      exact live.distinct.sublist (reported live.entries)
  · intro live lands again
    obtain ⟨same, quiet⟩ := check_again live lands again store
    refine ⟨same, fun landed => quiet ?_⟩
    have owed : ((store.check live.entries lands).2).OwesWrite :=
      owesWrite_persistWhen _ lands owes
    exact Bool.eq_false_iff.mpr fun dirty => landed (owed.mp dirty)

/-- A file that records one identity under number 3. -/
def recordedAsThree : MapFile :=
  .contents (mapFile (.ofList [("indigo-7", { number := 3, role := some "onoff_light" })]))

/-- That identity, live under number 4. -/
def liveAsFour : LiveSet where
  entries := [{ uniqueId := "indigo-7", endpointNumber := 4 }]
  distinct := List.nodup_singleton _

/-- The recorded 3 is reported against the live 4, check after check; once the
numbers are void the next check adopts 4. -/
theorem drift_never_repaired_until_void :
    (⟨"indigo-7", 3, 4⟩ : DriftEntry) ∈
        (((opened "map" recordedAsThree).after (.check liveAsFour true)).check
          liveAsFour.entries true).1 ∧
      ∃ record,
        (((opened "map" recordedAsThree).after (.voidNumbers true)).after
          (.check liveAsFour true)).endpoints.get? "indigo-7" = some record ∧
        record.number = 4 ∧ record.numberVoid = false := by
  constructor
  · have run : RunWhere step (fun _ call => call.Witnesses) (opened "map" recordedAsThree)
        ([] ++ [.check liveAsFour true])
        ((opened "map" recordedAsThree).after (.check liveAsFour true)) :=
      .snoc .nil trivial rfl
    apply ((drift_never_repaired run).2.2.2.1 liveAsFour true).1 _ |>.mpr
    exact ⟨⟨"indigo-7", 4, none, none, false, none⟩, List.mem_singleton_self _,
      ⟨3, some "onoff_light", none, false, false, false, none, none⟩,
      by decide, rfl, by decide, rfl⟩
  · have run : RunWhere step (fun _ call => call.Witnesses) (opened "map" recordedAsThree)
        ([] ++ [.voidNumbers true])
        ((opened "map" recordedAsThree).after (.voidNumbers true)) :=
      .snoc .nil trivial rfl
    apply (drift_never_repaired run).2.1 _ _ 4
    exact ⟨liveAsFour, true, ⟨"indigo-7", 4, none, none, false, none⟩,
      ⟨3, some "onoff_light", none, true, false, false, none, none⟩, rfl,
      List.mem_singleton_self _, rfl, rfl, by decide, rfl⟩

end EndpointMapStore

end IndigoMatter.Bridge
