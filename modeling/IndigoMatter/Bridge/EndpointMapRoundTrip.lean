import IndigoMatter.Bridge.EndpointMapFile
import IndigoMatter.Bridge.Reconcile

/-!
# Writing the endpoint map and reading it again

The reader takes an empty string for an absent one.  The writer is never handed
an empty role or an empty `supersededBy`, but the wire parser lets an empty label
through, and a record that holds it comes back without a label and cannot be
rebuilt.  A map without such a record comes back as it was.
-/

namespace IndigoMatter.Bridge

open IndigoMatter.Library

/-! ## Records the reader gives back -/

/-- The two texts of a record that are never empty. -/
structure EndpointRecord.Readable (record : EndpointRecord) : Prop where
  role : record.role ≠ some ""
  supersededBy : record.supersededBy ≠ some ""

/-- A record whose label, if it has one, is not empty. -/
def EndpointRecord.Labelled (record : EndpointRecord) : Prop := record.label ≠ some ""

theorem withoutEmpty_eq_self_iff (text : Option String) :
    withoutEmpty text = text ↔ text ≠ some "" := by
  cases text with
  | none => simp [withoutEmpty]
  | some value => by_cases empty : value = "" <;> simp [withoutEmpty, Option.filter, empty]

theorem EndpointRecord.reread_eq_self_iff {record : EndpointRecord} (readable : record.Readable) :
    record.reread = record ↔ record.Labelled := by
  have role := (withoutEmpty_eq_self_iff record.role).mpr readable.role
  have supersededBy := (withoutEmpty_eq_self_iff record.supersededBy).mpr readable.supersededBy
  rw [EndpointRecord.Labelled, ← withoutEmpty_eq_self_iff]
  constructor
  · intro same
    exact congrArg EndpointRecord.label same
  · intro same
    simp [EndpointRecord.reread, role, supersededBy, same]

theorem nonEmptyString_ne_empty (value : Option Json) : nonEmptyString value ≠ some "" := by
  unfold nonEmptyString
  split
  · split
    · simp
    · rename_i text nonEmpty
      simpa using nonEmpty
  · simp

/-- What the reader makes of an entry has no empty text. -/
theorem readable_of_readRecord {value : Json} {record : EndpointRecord}
    (read : readRecord value = some record) : record.Readable ∧ record.Labelled := by
  unfold readRecord at read
  split at read
  · rcases Option.map_eq_some_iff.mp read with ⟨number, -, rfl⟩
    exact ⟨⟨nonEmptyString_ne_empty _, nonEmptyString_ne_empty _⟩, nonEmptyString_ne_empty _⟩
  · rcases Option.map_eq_some_iff.mp read with ⟨number, -, rfl⟩
    exact ⟨⟨by simp, by simp⟩, by simp [EndpointRecord.Labelled]⟩

/-! ## What the calls are fed -/

/-- An entry of a live set stands for an endpoint whose spec the wire parser has
accepted.  The number is the one matter.js has given it, and a battery stays once
it has one. -/
def LiveEndpointNumber.SpecFed (entry : LiveEndpointNumber) : Prop :=
  ∃ value spec, parseEndpointSpec value = .ok spec ∧ entry.uniqueId = spec.publishedAs ∧
    entry.role = some spec.role.name ∧ entry.label = some spec.label ∧
    entry.deviceId = some spec.indigoDeviceId

/-- The calls that only accepted specs feed: a check of their endpoints, and a
forget whose successor, if it names one, is a published identity. -/
def MapCall.SpecFed : MapCall → Prop
  | .check live _ => ∀ entry ∈ live.entries, entry.SpecFed
  | .forget _ supersededBy _ =>
      ∀ newer, supersededBy = some newer → (parsePublishedId newer).isSome
  | .destroy _ _ | .voidNumbers _ => True
  | _ => False

/-- No endpoint a check sees has an empty label. -/
def MapCall.Labelled : MapCall → Prop
  | .check live _ => ∀ entry ∈ live.entries, entry.label ≠ some ""
  | _ => True

theorem mem_of_mapM_eq_some {α β : Type} {f : α → Option β} {items : List α} {results : List β}
    (mapped : items.mapM f = some results) {result : β} (member : result ∈ results) :
    ∃ item ∈ items, f item = some result := by
  induction items generalizing results with
  | nil =>
      obtain rfl : [] = results := by simpa using mapped
      cases member
  | cons item rest ih =>
      rw [List.mapM_cons] at mapped
      cases first : f item with
      | none => simp [first] at mapped
      | some head =>
          cases others : rest.mapM f with
          | none => simp [first, others] at mapped
          | some tail =>
              obtain rfl : head :: tail = results := by simpa [first, others] using mapped
              rcases List.mem_cons.mp member with rfl | later
              · exact ⟨item, List.mem_cons_self, first⟩
              · rcases ih others later with ⟨other, listed, mapsTo⟩
                exact ⟨other, List.mem_cons_of_mem _ listed, mapsTo⟩

namespace EndpointMapStore

/-! ## Every record of a store -/

/-- Every record of the map has a property. -/
def AllRecords (property : EndpointRecord → Prop) (store : EndpointMapStore) : Prop :=
  ∀ uniqueId record, store.endpoints.get? uniqueId = some record → property record

/-- A map that has just been read holds no empty text. -/
theorem readable_opened (path : String) (file : MapFile) :
    AllRecords (fun record => record.Readable ∧ record.Labelled) (opened path file) := by
  intro uniqueId record recorded
  have loaded : (loadEndpointMap path file).endpoints.get? uniqueId = some record := recorded
  unfold loadEndpointMap at loaded
  cases file with
  | absent => simp at loaded
  | unreadable message => simp at loaded
  | contents value =>
      simp only at loaded
      cases read : readMapFile value with
      | none => simp [read] at loaded
      | some endpoints =>
          simp only [read] at loaded
          unfold readMapFile at read
          split at read
          · split at read
            · rename_i fields known
              unfold readEndpoints at read
              split at read
              · rcases Option.map_eq_some_iff.mp read with ⟨entries, mapped, rfl⟩
                have listed := InsertionMap.mem_of_get?_ofList loaded
                rcases mem_of_mapM_eq_some mapped listed with ⟨entry, -, entryRead⟩
                rcases Option.map_eq_some_iff.mp entryRead with ⟨other, readsTo, same⟩
                obtain rfl : other = record := congrArg Prod.snd same
                exact readable_of_readRecord readsTo
              · contradiction
            · contradiction
          · contradiction

variable {property : EndpointRecord → Prop} {store : EndpointMapStore}

theorem allRecords_check (holds : store.AllRecords property) {live : LiveSet} (lands : Bool)
    (seen : ∀ entry ∈ live.entries, ∀ found, (∀ record, found = some record → property record) →
      property (seenRecord found entry)) :
    (store.after (.check live lands)).AllRecords property := by
  intro uniqueId record recorded
  by_cases listed : uniqueId ∈ live.entries.map LiveEndpointNumber.uniqueId
  · rcases List.mem_map.mp listed with ⟨entry, member, rfl⟩
    rw [after, get?_check_of_mem member] at recorded
    obtain rfl := Option.some.inj recorded
    apply seen entry member
    exact fun found stored => holds _ _ stored
  · rw [after, get?_check_of_notMem listed] at recorded
    exact holds _ _ recorded

theorem allRecords_forget (holds : store.AllRecords property) {uniqueIds : List String}
    {supersededBy : Option String} (lands : Bool)
    (kept : ∀ record, property record → property (forgotten supersededBy record)) :
    (store.after (.forget uniqueIds supersededBy lands)).AllRecords property := by
  intro uniqueId record recorded
  rw [after, get?_forget] at recorded
  split at recorded
  · rcases Option.map_eq_some_iff.mp recorded with ⟨found, stored, rfl⟩
    exact kept found (holds _ _ stored)
  · exact holds _ _ recorded

theorem allRecords_destroy (holds : store.AllRecords property) (uniqueIds : List String)
    (lands : Bool) : (store.after (.destroy uniqueIds lands)).AllRecords property := by
  intro uniqueId record recorded
  rw [after, get?_destroy] at recorded
  split at recorded
  · contradiction
  · exact holds _ _ recorded

theorem allRecords_voidNumbers (holds : store.AllRecords property) (lands : Bool)
    (kept : ∀ record, property record → property { record with numberVoid := true }) :
    (store.after (.voidNumbers lands)).AllRecords property := by
  intro uniqueId record recorded
  cases stored : store.endpoints.get? uniqueId with
  | some found =>
      rw [after, get?_voidNumbers lands store stored] at recorded
      obtain rfl := Option.some.inj recorded
      exact kept found (holds _ _ stored)
  | none =>
      -- voiding adds no record
      rw [after, voidNumbers] at recorded
      split at recorded <;> simp [stored] at recorded

/-! ## Runs -/

theorem readable_seenRecord {entry : LiveEndpointNumber} (fed : entry.SpecFed)
    {found : Option EndpointRecord}
    (readable : ∀ record, found = some record → record.Readable) :
    (seenRecord found entry).Readable := by
  rcases fed with ⟨value, spec, -, -, role, -, -⟩
  have named : entry.role ≠ some "" := by simp [role, Role.name_ne_empty]
  cases found with
  | none => exact ⟨named, by simp [seenRecord, recordFor]⟩
  | some record =>
      have restored : (restoredRecord record entry).Readable :=
        ⟨by simp [restoredRecord, role, Role.name_ne_empty], by simp [restoredRecord]⟩
      simp only [seenRecord]
      split
      · exact ⟨restored.role, restored.supersededBy⟩
      · exact restored

theorem labelled_seenRecord {entry : LiveEndpointNumber} (label : entry.label ≠ some "")
    {found : Option EndpointRecord}
    (labelled : ∀ record, found = some record → record.Labelled) :
    (seenRecord found entry).Labelled := by
  cases found with
  | none => exact label
  | some record =>
      have restored : (restoredRecord record entry).Labelled := by
        cases reported : entry.label with
        | none => simpa [EndpointRecord.Labelled, restoredRecord, reported] using
            labelled record rfl
        | some text => simpa [EndpointRecord.Labelled, restoredRecord, reported] using label
      simp only [seenRecord]
      split
      · exact restored
      · exact restored

theorem readable_forgotten {supersededBy : Option String} (newer : supersededBy ≠ some "")
    {record : EndpointRecord} (readable : record.Readable) :
    (forgotten supersededBy record).Readable := by
  refine ⟨by simpa using readable.role, ?_⟩
  unfold forgotten forgottenRecord
  split
  · exact readable.supersededBy
  · simp only
    split
    · exact readable.supersededBy
    · simp only [Option.getD_some]
      split
      · exact newer
      · exact readable.supersededBy

/-- A call fed by accepted specs keeps the texts of every record readable. -/
theorem readable_after {call : MapCall} (fed : call.SpecFed)
    (holds : store.AllRecords EndpointRecord.Readable) :
    (store.after call).AllRecords EndpointRecord.Readable := by
  cases call with
  | check live lands =>
      apply allRecords_check holds
      intro entry member found readable
      exact readable_seenRecord (fed entry member) readable
  | forget uniqueIds supersededBy lands =>
      apply allRecords_forget holds
      intro record readable
      apply readable_forgotten _ readable
      rintro rfl
      exact absurd (fed "" rfl) (by decide)
  | destroy uniqueIds lands => exact allRecords_destroy holds uniqueIds lands
  | voidNumbers lands =>
      apply allRecords_voidNumbers holds
      exact fun record readable => ⟨readable.role, readable.supersededBy⟩
  | load | seed | rebuild | discard => cases fed

/-- A call that is fed no empty label records none. -/
theorem labelled_after {call : MapCall} (fed : call.SpecFed) (named : call.Labelled)
    (holds : store.AllRecords EndpointRecord.Labelled) :
    (store.after call).AllRecords EndpointRecord.Labelled := by
  cases call with
  | check live lands =>
      apply allRecords_check holds
      intro entry member found labelled
      exact labelled_seenRecord (named entry member) labelled
  | forget uniqueIds supersededBy lands =>
      apply allRecords_forget holds
      intro record labelled
      simpa [EndpointRecord.Labelled] using labelled
  | destroy uniqueIds lands => exact allRecords_destroy holds uniqueIds lands
  | voidNumbers lands =>
      apply allRecords_voidNumbers holds
      exact fun record labelled => labelled
  | load | seed | rebuild | discard => cases fed

/-! ## The round trip -/

/-- What a write that lands puts in the file is read back as it was, and so are
the entries that can be rebuilt. -/
structure RoundTrips (store : EndpointMapStore) : Prop where
  endpoints : (store.persist true).load.endpoints = store.endpoints
  restorable : (store.persist true).load.restorable = store.restorable

theorem load_persist_endpoints (store : EndpointMapStore) :
    (store.persist true).load.endpoints =
      store.endpoints.mapValues fun _ record => record.reread := by
  simp [persist, load, loadEndpointMap, readMapFile_mapFile]

/-- Rereading changes nothing in a map without empty texts. -/
theorem mapValues_reread {endpoints : InsertionMap String EndpointRecord}
    (texts : ∀ uniqueId record, endpoints.get? uniqueId = some record →
      record.Readable ∧ record.Labelled) :
    (endpoints.mapValues fun _ record => record.reread) = endpoints := by
  apply InsertionMap.ext
  change endpoints.entries.map _ = endpoints.entries
  conv_rhs => rw [← List.map_id endpoints.entries]
  apply List.map_congr_left
  rintro ⟨uniqueId, record⟩ listed
  rcases texts _ _ (InsertionMap.mem_entries_iff.mp listed) with ⟨readable, labelled⟩
  have reread := (EndpointRecord.reread_eq_self_iff readable).mpr labelled
  simp [reread]

/-- A readable map comes back as it was exactly when no record holds an empty
label. -/
theorem roundTrips_iff_labelled (readable : store.AllRecords EndpointRecord.Readable) :
    store.RoundTrips ↔ store.AllRecords EndpointRecord.Labelled := by
  constructor
  · intro same uniqueId record recorded
    have reread := congrArg (InsertionMap.get? · uniqueId) same.endpoints
    rw [load_persist_endpoints] at reread
    simp only [InsertionMap.get?_mapValues, recorded, Option.map_some] at reread
    apply (EndpointRecord.reread_eq_self_iff (readable _ _ recorded)).mp
    exact Option.some.inj reread
  · intro labelled
    have unchanged : (store.persist true).load.endpoints = store.endpoints := by
      rw [load_persist_endpoints]
      apply mapValues_reread
      exact fun uniqueId record recorded => ⟨readable _ _ recorded, labelled _ _ recorded⟩
    exact ⟨unchanged, by simp only [restorable, unchanged]⟩

/-- Over a run of calls that accepted specs feed, the map comes back from its
file as it was exactly when no record holds an empty label; and none does when no
endpoint the run has checked had one. -/
theorem roundTrips_of_run {path : String} {file : MapFile} {calls : List MapCall}
    {store : EndpointMapStore}
    (run : RunWhere step (fun _ call => call.SpecFed) (opened path file) calls store) :
    (store.RoundTrips ↔ store.AllRecords EndpointRecord.Labelled) ∧
      ((∀ call ∈ calls, call.Labelled) → store.RoundTrips) := by
  have readable : store.AllRecords EndpointRecord.Readable := by
    apply run.invariant
    · exact fun uniqueId record recorded => (readable_opened path file _ _ recorded).1
    · intro state call next holds fed taken
      obtain rfl : state.after call = next := Option.some.inj taken
      exact readable_after fed holds
  have exactly := roundTrips_iff_labelled readable
  refine ⟨exactly, fun named => exactly.mpr ?_⟩
  clear readable exactly
  induction run with
  | nil => exact fun uniqueId record recorded => (readable_opened path file _ _ recorded).2
  | snoc before fed last ih =>
      rename_i events middle final call
      obtain rfl : middle.after call = final := Option.some.inj last
      have earlier : ∀ call ∈ events, call.Labelled := fun call member =>
        named call (List.mem_append_left _ member)
      exact labelled_after fed (named call (by simp)) (ih earlier)

/-! ### Two runs -/

/-- A wire spec of an on/off light with a given label. -/
def wireLight (label : String) : Json :=
  .object
    [("indigoDeviceId", .number (.ofInt 7)), ("role", .string "onOffLight"),
      ("label", .string label), ("states", .object []), ("options", .object [])]

/-- Its endpoint, live under number 3. -/
def liveLight (label : String) : LiveSet where
  entries :=
    [{ uniqueId := "indigo-7"
       endpointNumber := 3
       role := some "onOffLight"
       label := some label
       deviceId := some 7 }]
  distinct := List.nodup_singleton _

theorem specFed_liveLight (label : String) (lands : Bool) :
    MapCall.SpecFed (.check (liveLight label) lands) := by
  intro entry member
  obtain rfl := List.mem_singleton.mp member
  exact ⟨wireLight label, ⟨7, .onOffLight, label, "indigo-7", true, [], [], false⟩, rfl, rfl, rfl,
    rfl, rfl⟩

/-- The map as a check of the light leaves it. -/
def checkedLight (label : String) : EndpointMapStore :=
  (opened "map" .absent).after (.check (liveLight label) true)

theorem run_checkedLight (label : String) :
    RunWhere step (fun _ call => call.SpecFed) (opened "map" .absent)
      ([] ++ [.check (liveLight label) true]) (checkedLight label) :=
  .snoc .nil (specFed_liveLight label true) rfl

theorem named_light_roundTrips : (checkedLight "Lamp").RoundTrips := by
  apply (roundTrips_of_run (run_checkedLight "Lamp")).2
  intro call member
  obtain rfl : call = .check (liveLight "Lamp") true := by simpa using member
  intro entry listed
  obtain rfl := List.mem_singleton.mp listed
  decide

theorem unnamed_light_is_lost :
    ¬ ∀ (path : String) (file : MapFile) (calls : List MapCall) (store : EndpointMapStore),
      RunWhere step (fun _ call => call.SpecFed) (opened path file) calls store →
        store.RoundTrips := by
  intro always
  have same := (always _ _ _ _ (run_checkedLight "")).restorable
  have lost : ((checkedLight "").persist true).load.restorable = [] := by rfl
  have offered : (checkedLight "").restorable ≠ [] := by decide
  exact offered (same.symm.trans lost)

end EndpointMapStore

end IndigoMatter.Bridge
