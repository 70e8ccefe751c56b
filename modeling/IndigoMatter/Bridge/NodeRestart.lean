import IndigoMatter.Bridge.NodeRecords

/-!
# Restorable identities never compete for a device

A restart rebuilds every restorable entry of the map under its driving device,
so two of them must not have the same one.  While the node runs this follows
from a stronger fact: a restorable entry is live, under its driving device.  A
command keeps it, because what it takes out of the live set it also forgets or
destroys, with one exception, the upsert that closes an endpoint and cannot
create it again.  A restart gets it back from the file, when everything in it is
rebuilt.  Whatever is on disk was written by some command half-way through, and
is only required not to have two entries for one device.
-/

namespace IndigoMatter.Bridge

open IndigoMatter.Library

/-- A restart would rebuild the identity under the device. -/
def RestorableAs (endpoints : InsertionMap String EndpointRecord) (uniqueId : String)
    (indigoDeviceId : Int) : Prop :=
  ∃ record entry, endpoints.get? uniqueId = some record ∧
    EndpointMapStore.restorableEntry uniqueId record = some entry ∧
    entry.indigoDeviceId = indigoDeviceId

/-- A map whose restorable entries can all be rebuilt. -/
structure Tidy (endpoints : InsertionMap String EndpointRecord) : Prop where
  devices : ∀ {first second : String} {indigoDeviceId : Int},
    RestorableAs endpoints first indigoDeviceId →
      RestorableAs endpoints second indigoDeviceId → first = second
  retired : ∀ {uniqueId : String} {record : EndpointRecord},
    endpoints.get? uniqueId = some record → record.supersededBy.isSome = true →
      record.orphaned = true
  roles : ∀ {uniqueId : String} {record : EndpointRecord} {text : String},
    endpoints.get? uniqueId = some record → record.role = some text →
      ∃ role : Role, role.name = text

theorem tidy_empty : Tidy ∅ where
  devices := by
    rintro first second indigoDeviceId ⟨record, entry, stored, -⟩
    simp at stored
  retired stored := by simp at stored
  roles stored := by simp at stored

/-- The second record is restorable only where the first one is. -/
structure Declines (first second : EndpointRecord) : Prop where
  restorable : ∀ {uniqueId : String} {entry : RestorableEndpoint},
    EndpointMapStore.restorableEntry uniqueId second = some entry →
      ∃ before, EndpointMapStore.restorableEntry uniqueId first = some before ∧
        before.indigoDeviceId = entry.indigoDeviceId
  retired : second.supersededBy.isSome = true → second.orphaned = true
  role : ∀ {text : String}, second.role = some text → first.role = some text

theorem declines_refl {record : EndpointRecord}
    (retired : record.supersededBy.isSome = true → record.orphaned = true) :
    Declines record record :=
  ⟨fun restorable => ⟨_, restorable, rfl⟩, retired, fun role => role⟩

theorem restorableEntry_of_orphaned {record : EndpointRecord} (uniqueId : String)
    (orphaned : record.orphaned = true) :
    EndpointMapStore.restorableEntry uniqueId record = none := by
  unfold EndpointMapStore.restorableEntry
  split
  · rw [if_pos (.inl orphaned)]
  · rfl

/-- Forgetting leaves a record alone or orphans it. -/
theorem forgotten_eq_or_orphaned (supersededBy : Option String) (record : EndpointRecord) :
    EndpointMapStore.forgotten supersededBy record = record ∨
      (EndpointMapStore.forgotten supersededBy record).orphaned = true := by
  unfold EndpointMapStore.forgotten EndpointMapStore.forgottenRecord
  split
  · exact .inl rfl
  · simp only
    split
    · exact .inl rfl
    · exact .inr rfl

theorem declines_forgotten {record : EndpointRecord} (supersededBy : Option String)
    (retired : record.supersededBy.isSome = true → record.orphaned = true) :
    Declines record (EndpointMapStore.forgotten supersededBy record) := by
  rcases forgotten_eq_or_orphaned supersededBy record with same | orphaned
  · rw [same]
    exact declines_refl retired
  · constructor
    · intro uniqueId entry restorable
      rw [restorableEntry_of_orphaned uniqueId orphaned] at restorable
      cases restorable
    · exact fun _ => orphaned
    · intro text role
      rwa [EndpointMapStore.forgotten_role] at role

theorem restorableEntry_of_fields {record : EndpointRecord} {role label : String}
    {indigoDeviceId : Int} (uniqueId : String) (hasRole : record.role = some role)
    (hasLabel : record.label = some label) (present : record.orphaned = false)
    (current : record.supersededBy = none)
    (driven : EndpointMapStore.drivingDevice uniqueId record = some indigoDeviceId) :
    ∃ entry, EndpointMapStore.restorableEntry uniqueId record = some entry ∧
      entry.indigoDeviceId = indigoDeviceId := by
  refine ⟨⟨uniqueId, record.number, role, label, record.battery, indigoDeviceId⟩, ?_, rfl⟩
  simp [EndpointMapStore.restorableEntry, hasRole, hasLabel, present, current, driven]

theorem declines_reread {record : EndpointRecord}
    (retired : record.supersededBy.isSome = true → record.orphaned = true) :
    Declines record record.reread := by
  constructor
  · intro uniqueId entry restorable
    obtain ⟨role, label, orphaned, -, -, driven⟩ :=
      EndpointMapStore.restorableEntry_eq_some restorable
    obtain ⟨text, hasLabel⟩ := Option.isSome_iff_exists.mp label
    have current : record.supersededBy = none := by
      rw [← Option.not_isSome_iff_eq_none]
      intro marked
      have gone := retired marked
      rw [show record.orphaned = false from orphaned] at gone
      cases gone
    exact restorableEntry_of_fields uniqueId (withoutEmpty_eq_some role)
      (withoutEmpty_eq_some hasLabel) orphaned current driven
  · intro present
    apply retired
    obtain ⟨value, kept⟩ := Option.isSome_iff_exists.mp present
    exact Option.isSome_iff_exists.mpr ⟨value, withoutEmpty_eq_some kept⟩
  · exact fun role => withoutEmpty_eq_some role

/-- A map whose records decline from those of a tidy map is tidy. -/
theorem Tidy.of_declines {endpoints final : InsertionMap String EndpointRecord}
    (tidy : Tidy endpoints)
    (declines : ∀ uniqueId record, final.get? uniqueId = some record →
      ∃ before, endpoints.get? uniqueId = some before ∧ Declines before record) :
    Tidy final := by
  have restorable : ∀ {uniqueId : String} {indigoDeviceId : Int},
      RestorableAs final uniqueId indigoDeviceId →
        RestorableAs endpoints uniqueId indigoDeviceId := by
    rintro uniqueId indigoDeviceId ⟨record, entry, stored, rebuilt, rfl⟩
    obtain ⟨before, recorded, lesser⟩ := declines uniqueId record stored
    obtain ⟨earlier, rebuilds, same⟩ := lesser.restorable rebuilt
    exact ⟨before, earlier, recorded, rebuilds, same⟩
  constructor
  · exact fun first second => tidy.devices (restorable first) (restorable second)
  · intro uniqueId record stored
    obtain ⟨before, recorded, lesser⟩ := declines uniqueId record stored
    exact lesser.retired
  · intro uniqueId record text stored role
    obtain ⟨before, recorded, lesser⟩ := declines uniqueId record stored
    exact tidy.roles recorded (lesser.role role)

/-! ## The store -/

/-- The map in memory and the one on disk are tidy. -/
structure TidyStore (store : EndpointMapStore) : Prop where
  memory : Tidy store.endpoints
  file : ∀ value endpoints, store.file = .contents value → readMapFile value = some endpoints →
    Tidy endpoints

theorem tidyStore_persist {store : EndpointMapStore} (tidy : TidyStore store) (lands : Bool) :
    TidyStore (store.persist lands) := by
  constructor
  · rw [EndpointMapStore.persist_endpoints]
    exact tidy.memory
  · intro value endpoints written read
    cases lands with
    | false => exact tidy.file value endpoints written read
    | true =>
        obtain rfl : mapFile store.endpoints = value := by
          simpa [EndpointMapStore.persist] using written
        rw [readMapFile_mapFile, Option.some.injEq] at read
        subst read
        apply tidy.memory.of_declines
        intro uniqueId record stored
        rw [InsertionMap.get?_mapValues] at stored
        obtain ⟨before, recorded, rfl⟩ := Option.map_eq_some_iff.mp stored
        exact ⟨before, recorded, declines_reread (tidy.memory.retired recorded)⟩

theorem tidyStore_persistWhen {store : EndpointMapStore} (tidy : TidyStore store)
    (needed lands : Bool) : TidyStore (store.persistWhen needed lands) := by
  cases needed with
  | false => exact tidy
  | true => exact tidyStore_persist tidy lands

/-- A tidy map in place of the one in memory, written or not. -/
theorem tidyStore_replace {store : EndpointMapStore} (tidy : TidyStore store)
    {endpoints : InsertionMap String EndpointRecord} (memory : Tidy endpoints)
    (needed lands : Bool) :
    TidyStore (({ store with endpoints := endpoints }).persistWhen needed lands) := by
  have replaced : TidyStore { store with endpoints := endpoints } := ⟨memory, tidy.file⟩
  exact tidyStore_persistWhen replaced needed lands

theorem tidyStore_forget {store : EndpointMapStore} (tidy : TidyStore store)
    (uniqueIds : List String) (supersededBy : Option String) (lands : Bool) :
    TidyStore (store.forget uniqueIds supersededBy lands).2 := by
  have memory : Tidy (store.forget uniqueIds supersededBy lands).2.endpoints := by
    apply tidy.memory.of_declines
    intro uniqueId record stored
    rw [EndpointMapStore.get?_forget] at stored
    split at stored
    · obtain ⟨before, recorded, rfl⟩ := Option.map_eq_some_iff.mp stored
      exact ⟨before, recorded, declines_forgotten _ (tidy.memory.retired recorded)⟩
    · exact ⟨record, stored, declines_refl (tidy.memory.retired stored)⟩
  simp only [EndpointMapStore.forget, EndpointMapStore.persistWhen_endpoints] at memory ⊢
  exact tidyStore_replace tidy memory _ lands

theorem tidyStore_destroy {store : EndpointMapStore} (tidy : TidyStore store)
    (uniqueIds : List String) (lands : Bool) :
    TidyStore (store.destroy uniqueIds lands).2 := by
  have memory : Tidy (store.destroy uniqueIds lands).2.endpoints := by
    apply tidy.memory.of_declines
    intro uniqueId record stored
    rw [EndpointMapStore.get?_destroy] at stored
    split at stored
    · cases stored
    · exact ⟨record, stored, declines_refl (tidy.memory.retired stored)⟩
  simp only [EndpointMapStore.destroy, EndpointMapStore.persistWhen_endpoints] at memory ⊢
  exact tidyStore_replace tidy memory _ lands

theorem tidyStore_check {store : EndpointMapStore} {live : List LiveEndpointNumber}
    {lands : Bool} (tidy : TidyStore store)
    (memory : Tidy (store.check live lands).2.endpoints) :
    TidyStore (store.check live lands).2 := by
  refine ⟨memory, ?_⟩
  simp only [EndpointMapStore.check, EndpointMapStore.persistWhen_endpoints] at memory ⊢
  exact (tidyStore_replace tidy memory _ lands).file

theorem tidyStore_load {store : EndpointMapStore} (tidy : TidyStore store) :
    TidyStore store.load := by
  refine ⟨?_, tidy.file⟩
  change Tidy (loadEndpointMap store.path store.file).endpoints
  cases stands : store.file with
  | absent => exact tidy_empty
  | unreadable message => exact tidy_empty
  | contents value =>
      cases read : readMapFile value with
      | none => simpa [loadEndpointMap, read] using tidy_empty
      | some endpoints =>
          simpa [loadEndpointMap, read] using tidy.file value endpoints stands read

namespace Node

theorem tidyStore_forgetRemoved {node : Node} (tidy : TidyStore node.endpointMap) (disk : Disk)
    (before : InsertionMap String Int) (hard : Bool) :
    TidyStore (node.forgetRemoved disk before hard).endpointMap := by
  have loop : ∀ (departed : List (String × Int)) (createdDeviceIds : InsertionMap Int String)
      (state : Departures), TidyStore state.endpointMap →
      TidyStore (departed.foldl (depart disk hard createdDeviceIds) state).endpointMap := by
    intro departed createdDeviceIds
    induction departed with
    | nil => exact fun _ holds => holds
    | cons head rest ih =>
        intro state holds
        rw [List.foldl_cons]
        apply ih
        cases found : successor hard createdDeviceIds head with
        | none => simpa only [depart, found] using holds
        | some newer =>
            simp only [depart, found]
            exact tidyStore_forget holds _ _ _
  simp only [forgetRemoved]
  split
  · exact tidy
  · cases hard with
    | true => exact tidyStore_destroy (loop _ _ _ tidy) _ _
    | false => exact tidyStore_forget (loop _ _ _ tidy) _ _ _

/-- Every restorable entry is live under its driving device. -/
def RestorableLive (node : Node) : Prop :=
  ∀ uniqueId indigoDeviceId, RestorableAs node.endpointMap.endpoints uniqueId indigoDeviceId →
    ∃ live, node.registry.live.get? indigoDeviceId = some live ∧ live.publishedAs = uniqueId

/-- A node that a restart would rebuild as it is. -/
structure Restartable (node : Node) : Prop where
  live : node.RestorableLive
  store : TidyStore node.endpointMap

/-- The check at the end of a command makes a node restartable when nothing but
live identities was left restorable. -/
theorem restartable_checkDrift {node : Node} (disk : Disk) (tidy : TidyStore node.endpointMap)
    (departed : ∀ uniqueId indigoDeviceId, ¬node.registry.Publishes uniqueId →
      ¬RestorableAs node.endpointMap.endpoints uniqueId indigoDeviceId) :
    (node.checkDrift disk).Restartable := by
  have live : (node.checkDrift disk).RestorableLive := by
    rintro uniqueId indigoDeviceId restorable
    by_cases published : node.registry.Publishes uniqueId
    · obtain ⟨record, recorded, seen⟩ := @seenLive_checkDrift disk node uniqueId published
      obtain ⟨found, entry, stored, rebuilt, rfl⟩ := restorable
      obtain rfl : record = found := Option.some.inj (recorded.symm.trans stored)
      obtain ⟨device, endpoint, isLive, named, driven, -⟩ := seen.driven
      obtain ⟨-, -, -, -, -, resolves⟩ := EndpointMapStore.restorableEntry_eq_some rebuilt
      rw [EndpointMapStore.drivingDevice, driven, Option.some_or, Option.some.injEq] at resolves
      exact ⟨endpoint, resolves ▸ isLive, named⟩
    · rw [RestorableAs, get?_checkDrift_of_unpublished published] at restorable
      exact absurd restorable (departed uniqueId indigoDeviceId published)
  refine ⟨live, tidyStore_check tidy ⟨?_, ?_, ?_⟩⟩
  · intro first second indigoDeviceId firstRestorable secondRestorable
    obtain ⟨firstLive, firstStored, rfl⟩ := live _ _ firstRestorable
    obtain ⟨secondLive, secondStored, rfl⟩ := live _ _ secondRestorable
    rw [Option.some.inj (firstStored.symm.trans secondStored)]
  · intro uniqueId record stored marked
    by_cases published : node.registry.Publishes uniqueId
    · obtain ⟨found, recorded, seen⟩ := @seenLive_checkDrift disk node uniqueId published
      obtain rfl : found = record := Option.some.inj (recorded.symm.trans stored)
      rw [seen.supersededBy] at marked
      cases marked
    · have kept := @get?_checkDrift_of_unpublished disk node uniqueId published
      exact tidy.memory.retired (kept.symm.trans stored) marked
  · intro uniqueId record text stored role
    by_cases published : node.registry.Publishes uniqueId
    · obtain ⟨found, recorded, seen⟩ := @seenLive_checkDrift disk node uniqueId published
      obtain rfl : found = record := Option.some.inj (recorded.symm.trans stored)
      obtain ⟨device, endpoint, isLive, named, driven, hasRole⟩ := seen.driven
      exact ⟨endpoint.role, Option.some.inj (hasRole.symm.trans role)⟩
    · have kept := @get?_checkDrift_of_unpublished disk node uniqueId published
      exact tidy.memory.roles (kept.symm.trans stored) role

/-- What a command has taken out of the live set is no longer restorable once it
has been forgotten or destroyed. -/
theorem not_restorable_forgetRemoved {node : Node} {disk : Disk}
    {before : InsertionMap String Int} {hard : Bool} {uniqueId : String} {indigoDeviceId : Int}
    (known : RestorableAs node.endpointMap.endpoints uniqueId indigoDeviceId →
      uniqueId ∈ before.keys)
    (departed : ¬node.registry.Publishes uniqueId) :
    ¬RestorableAs (node.forgetRemoved disk before hard).endpointMap.endpoints uniqueId
      indigoDeviceId := by
  rintro ⟨record, entry, stored, rebuilt, same⟩
  by_cases inSnapshot : uniqueId ∈ before.keys
  · cases hard with
    | true =>
        rw [get?_forgetRemoved_hard inSnapshot departed] at stored
        cases stored
    | false =>
        obtain ⟨supersededBy, forgot⟩ :=
          @get?_forgetRemoved_soft disk node before uniqueId inSnapshot departed
        rw [forgot] at stored
        obtain ⟨original, recorded, rfl⟩ := Option.map_eq_some_iff.mp stored
        obtain ⟨role, -, present, -⟩ := EndpointMapStore.restorableEntry_eq_some rebuilt
        rw [EndpointMapStore.forgotten_role] at role
        rw [EndpointMapStore.forgotten_orphaned supersededBy
          (.inl (Option.isSome_iff_exists.mpr ⟨_, role⟩))] at present
        cases present
  · rw [get?_forgetRemoved_of_stays fun member => absurd member inSnapshot] at stored
    exact inSnapshot (known ⟨record, entry, stored, rebuilt, same⟩)

/-- Marking an identity as superseded keeps a node restartable. -/
theorem restartable_noteSupersession {node : Node} (disk : Disk) (spec : EndpointSpec)
    (restartable : node.Restartable) :
    (node.noteSupersessionIfPaired disk spec).Restartable := by
  constructor
  · rintro uniqueId indigoDeviceId ⟨record, entry, stored, rebuilt, rfl⟩
    rw [noteSupersession_registry]
    apply restartable.live
    rw [get?_noteSupersession] at stored
    split at stored
    · obtain ⟨original, recorded, rfl⟩ := Option.map_eq_some_iff.mp stored
      obtain ⟨earlier, rebuilds, same⟩ := (declines_forgotten _
        (restartable.store.memory.retired recorded)).restorable rebuilt
      exact ⟨original, earlier, recorded, rebuilds, same⟩
    · exact ⟨record, entry, stored, rebuilt, rfl⟩
  · simp only [noteSupersessionIfPaired]
    split
    · exact restartable.store
    · dsimp only
      exact tidyStore_forget restartable.store _ _ _

/-- A command that severs no identity keeps a node restartable. -/
theorem restartable_execute {node : Node} (disk : Disk) {matter : Matter} {command : NodeCommand}
    (severs : ∀ spec, command = .upsertEndpoint spec →
      upsertSevers matter node.registry spec = false)
    (restartable : node.Restartable) : (node.execute disk matter command).Restartable := by
  have known : ∀ {uniqueId : String} {indigoDeviceId : Int},
      RestorableAs node.endpointMap.endpoints uniqueId indigoDeviceId →
        uniqueId ∈ node.registry.livePublishedIdentities.keys := by
    intro uniqueId indigoDeviceId restorable
    obtain ⟨live, stored, named⟩ := restartable.live uniqueId indigoDeviceId restorable
    exact mem_snapshot_iff.mpr ⟨indigoDeviceId, live, stored, named⟩
  have store : TidyStore (node.afterRun matter command).endpointMap := restartable.store
  have removal (hard : Bool) : (((node.afterRun matter command).forgetRemoved disk
      node.registry.livePublishedIdentities hard).checkDrift disk).Restartable := by
    apply restartable_checkDrift disk (tidyStore_forgetRemoved store disk _ hard)
    intro uniqueId indigoDeviceId unpublished
    rw [forgetRemoved_registry] at unpublished
    exact not_restorable_forgetRemoved known unpublished
  cases command with
  | reconcile endpoints replaceAll => exact removal false
  | removeEndpoint indigoDeviceId => exact removal true
  | upsertEndpoint spec =>
      have checked : ((node.afterRun matter (.upsertEndpoint spec)).checkDrift disk).Restartable := by
        apply restartable_checkDrift disk store
        intro uniqueId indigoDeviceId unpublished restorable
        apply unpublished
        apply (upsertOutcome matter spec node.registry).kept (severs spec rfl)
        exact mem_snapshot_iff.mp (known restorable)
      simp only [execute, cleanUp]
      split
      · exact restartable_noteSupersession disk spec checked
      · exact checked

/-! ## Restarts -/

end Node

/-- Restoring specs of distinct devices, when none of the creations fails, makes
every one of them live. -/
theorem live_restored {matter : Matter} {specs : List EndpointSpec}
    (distinct : (specs.map EndpointSpec.indigoDeviceId).Nodup)
    (works : ∀ spec ∈ specs, creationFails matter spec = false) :
    ∀ spec ∈ specs, ∃ live,
      (finalState (restore matter specs Registry.fresh)).live.get? spec.indigoDeviceId =
        some live ∧ live.publishedAs = spec.publishedAs := by
  apply final_of_wp fun final : Registry => ∀ spec ∈ specs, ∃ live,
    final.live.get? spec.indigoDeviceId = some live ∧ live.publishedAs = spec.publishedAs
  refine wp_mono (wp_forM (fun rest (state : Registry) => rest ⊆ specs ∧
      ∀ spec ∈ specs, spec ∈ rest ∨ ∃ live,
        state.live.get? spec.indigoDeviceId = some live ∧ live.publishedAs = spec.publishedAs)
      (fun _ _ => False) ?_ specs Registry.fresh ⟨List.Subset.refl _, fun _ => .inl⟩)
    ?_ (fun _ _ impossible => impossible.elim)
  · rintro head rest state ⟨within, done⟩
    have wanted : head ∈ specs := within List.mem_cons_self
    rw [wp_tryCatch, wp_bind]
    refine wp_mono create_spec ?_ ?_
    · rintro _ final ⟨-, liveEq, -⟩
      refine ⟨fun _ member => within (List.mem_cons_of_mem _ member), fun spec member => ?_⟩
      by_cases same : spec.indigoDeviceId = head.indigoDeviceId
      · obtain rfl := List.inj_on_of_nodup_map distinct member wanted same
        exact .inr ⟨_, by rw [liveEq, InsertionMap.get?_set_self], rfl⟩
      · rcases done spec member with pending | ⟨live, stored, named⟩
        · rcases List.mem_cons.mp pending with rfl | later
          · exact absurd rfl same
          · exact .inl later
        · exact .inr ⟨live, by rw [liveEq, InsertionMap.get?_set, if_neg same, stored], named⟩
    · rintro _ final ⟨fails, -⟩
      rw [works head wanted] at fails
      cases fails
  · rintro _ final ⟨-, done⟩ spec member
    exact (done spec member).resolve_left List.not_mem_nil

namespace EndpointMapStore

/-- The devices of the restorable entries of a tidy map are distinct. -/
theorem restorable_devices_nodup {store : EndpointMapStore} (tidy : Tidy store.endpoints) :
    (store.restorable.map RestorableEndpoint.indigoDeviceId).Nodup := by
  rw [restorable, List.map_filterMap]
  apply nodup_filterMap_of_injOn (store.endpoints.nodupKeys.of_map _)
  intro first firstMember second secondMember indigoDeviceId firstDevice secondDevice
  obtain ⟨firstEntry, firstRebuilt, firstDriven⟩ := Option.map_eq_some_iff.mp firstDevice
  obtain ⟨secondEntry, secondRebuilt, secondDriven⟩ := Option.map_eq_some_iff.mp secondDevice
  have firstStored := InsertionMap.mem_entries_iff.mp firstMember
  have secondStored := InsertionMap.mem_entries_iff.mp secondMember
  have same : first.1 = second.1 := tidy.devices
    ⟨first.2, firstEntry, firstStored, firstRebuilt, firstDriven⟩
    ⟨second.2, secondEntry, secondStored, secondRebuilt, secondDriven⟩
  exact List.inj_on_of_nodup_map store.endpoints.nodupKeys firstMember secondMember same

/-- The identities of the restorable entries are distinct. -/
theorem restorable_identities_nodup (store : EndpointMapStore) :
    (store.restorable.map RestorableEndpoint.uniqueId).Nodup := by
  rw [restorable, List.map_filterMap]
  apply nodup_filterMap_of_injOn (store.endpoints.nodupKeys.of_map _)
  intro first firstMember second secondMember uniqueId firstNamed secondNamed
  obtain ⟨firstEntry, firstRebuilt, firstSame⟩ := Option.map_eq_some_iff.mp firstNamed
  obtain ⟨secondEntry, secondRebuilt, secondSame⟩ := Option.map_eq_some_iff.mp secondNamed
  have same : first.1 = second.1 := by
    rw [← (restorableEntry_eq_some firstRebuilt).2.2.2.2.1, firstSame, ← secondSame,
      (restorableEntry_eq_some secondRebuilt).2.2.2.2.1]
  exact List.inj_on_of_nodup_map store.endpoints.nodupKeys firstMember secondMember same

theorem distinct_restoreSpecs {store : EndpointMapStore} (tidy : Tidy store.endpoints) :
    Distinct store.restoreSpecs := by
  unfold restoreSpecs
  split
  · exact ⟨List.nodup_nil, List.nodup_nil⟩
  · constructor
    · apply (restorable_devices_nodup tidy).sublist (filterMap_map_sublist ?_)
      intro entry _ spec built
      obtain ⟨role, -, rfl⟩ := Option.map_eq_some_iff.mp built
      rfl
    · apply (restorable_identities_nodup store).sublist (filterMap_map_sublist ?_)
      intro entry _ spec built
      obtain ⟨role, -, rfl⟩ := Option.map_eq_some_iff.mp built
      rfl

/-- A restorable entry of a usable tidy map has a spec to be rebuilt from. -/
theorem exists_restoreSpec {store : EndpointMapStore} (tidy : Tidy store.endpoints)
    (usable : store.problem = none) {uniqueId : String} {indigoDeviceId : Int}
    (restorableAs : RestorableAs store.endpoints uniqueId indigoDeviceId) :
    ∃ spec ∈ store.restoreSpecs, spec.publishedAs = uniqueId ∧
      spec.indigoDeviceId = indigoDeviceId := by
  obtain ⟨record, entry, stored, rebuilt, rfl⟩ := restorableAs
  obtain ⟨hasRole, -, -, -, named, -⟩ := restorableEntry_eq_some rebuilt
  obtain ⟨role, sameRole⟩ := tidy.roles stored hasRole
  have listed : entry ∈ store.restorable :=
    List.mem_filterMap.mpr ⟨(uniqueId, record), InsertionMap.mem_entries_iff.mpr stored, rebuilt⟩
  obtain ⟨spec, built, sameIdentity, sameDevice⟩ : ∃ spec, entry.spec = some spec ∧
      spec.publishedAs = entry.uniqueId ∧ spec.indigoDeviceId = entry.indigoDeviceId := by
    rw [RestorableEndpoint.spec, ← sameRole, Role.ofName?_name]
    exact ⟨_, rfl, rfl, rfl⟩
  refine ⟨spec, ?_, sameIdentity.trans named, sameDevice⟩
  rw [restoreSpecs, usable, Option.isSome_none, if_neg Bool.false_ne_true]
  exact List.mem_filterMap.mpr ⟨entry, listed, built⟩

end EndpointMapStore

namespace Node

/-- An unusable file is read as no map at all. -/
theorem load_endpoints_of_problem {store : EndpointMapStore}
    (unusable : store.load.problem ≠ none) : store.load.endpoints = ∅ := by
  change (loadEndpointMap store.path store.file).problem ≠ none at unusable
  change (loadEndpointMap store.path store.file).endpoints = ∅
  cases stands : store.file with
  | absent => rfl
  | unreadable message => rfl
  | contents value =>
      cases read : readMapFile value with
      | none => simp [loadEndpointMap, read]
      | some endpoints => simp [stands, loadEndpointMap, read] at unusable

/-- A restart in which every creation works gives a restartable node. -/
theorem restartable_restart {node : Node} {matter : Matter}
    (works : ∀ spec ∈ node.endpointMap.load.restoreSpecs, creationFails matter spec = false)
    (restartable : node.Restartable) : (node.restart matter).Restartable := by
  have tidy := tidyStore_load restartable.store
  refine ⟨?_, tidy⟩
  intro uniqueId indigoDeviceId restorable
  change RestorableAs node.endpointMap.load.endpoints uniqueId indigoDeviceId at restorable
  cases problem : node.endpointMap.load.problem with
  | none =>
      obtain ⟨spec, member, rfl, rfl⟩ :=
        EndpointMapStore.exists_restoreSpec tidy.memory problem restorable
      exact live_restored (EndpointMapStore.distinct_restoreSpecs tidy.memory).deviceIds works
        spec member
  | some message =>
      obtain ⟨record, entry, stored, -⟩ := restorable
      rw [load_endpoints_of_problem (by simp [problem])] at stored
      cases stored

/-! ## Runs -/

/-- The events that leave an identity restorable that is not live: an upsert that
severs one, and a restart that cannot create everything it restores. -/
def severs (node : Node) : NodeEvent → Bool
  | .execute matter (.upsertEndpoint spec) => upsertSevers matter node.registry spec
  | .execute _ _ => false
  | .restart matter =>
      node.endpointMap.load.restoreSpecs.any fun spec => creationFails matter spec

theorem restartable_blank (path : String) :
    (Node.fresh (.opened path .absent)).Restartable := by
  constructor
  · rintro uniqueId indigoDeviceId ⟨record, entry, stored, -⟩
    cases stored
  · refine ⟨tidy_empty, ?_⟩
    rintro value endpoints stands
    cases stands

/-- Restorable identities never compete for one device: in every run of commands
and restarts from an empty map, in which no upsert severs an identity and no
restart fails to create one, the restorable entries have distinct devices, and
restoring them leaves no endpoint without a live entry. -/
theorem restorable_devices_distinct {disk : Disk} {path : String} {events : List NodeEvent}
    {node : Node}
    (run : RunWhere (step disk) (fun node event => node.severs event = false)
      (Node.fresh (.opened path .absent)) events node) :
    (node.endpointMap.restorable.map RestorableEndpoint.indigoDeviceId).Nodup ∧
      ∀ matter, Agree (Registry.restored matter node.endpointMap.restoreSpecs) := by
  have restartable : node.Restartable := by
    refine run.invariant (restartable_blank path) ?_
    intro before event after holds keeps taken
    cases event with
    | execute matter command =>
        obtain rfl := Option.some.inj taken
        apply restartable_execute disk ?_ holds
        rintro spec rfl
        exact keeps
    | restart matter =>
        obtain rfl := Option.some.inj taken
        apply restartable_restart ?_ holds
        intro spec member
        exact Bool.eq_false_iff.mpr (List.any_eq_false.mp keeps spec member)
  refine ⟨EndpointMapStore.restorable_devices_nodup restartable.store.memory, fun matter => ?_⟩
  exact (restored_owned
    (EndpointMapStore.distinct_restoreSpecs restartable.store.memory)).agree

/-! ## Two identities for one device -/

/-- Device 7 is exported and gains a battery, but its endpoint cannot be added
again. -/
def severed : Node :=
  (blank.execute soundDisk .sound (.upsertEndpoint (lightSpec 7 "indigo-7"))).execute soundDisk
    (.failing (.add "indigo-7")) (.upsertEndpoint { lightSpec 7 "indigo-7" with battery := true })

/-- A failing upsert that takes nothing away leaves the devices distinct. -/
theorem devices_distinct_after_failed_update :
    (((blank.execute soundDisk .sound (.upsertEndpoint (lightSpec 7 "indigo-7"))).execute
      soundDisk (.failing (.applyLabel "indigo-7"))
      (.upsertEndpoint { lightSpec 7 "indigo-7" with label := "Desk" })).endpointMap.restorable.map
        RestorableEndpoint.indigoDeviceId).Nodup := by
  have first : blank.severs
      (.execute .sound (.upsertEndpoint (lightSpec 7 "indigo-7"))) = false := rfl
  have last : (blank.execute soundDisk .sound
      (.upsertEndpoint (lightSpec 7 "indigo-7"))).severs (.execute (.failing (.applyLabel "indigo-7"))
        (.upsertEndpoint { lightSpec 7 "indigo-7" with label := "Desk" })) = false := by decide
  exact (restorable_devices_distinct (.snoc (.snoc .nil first (step_execute _ _ _ _)) last
    (step_execute _ _ _ _))).1

/-- Once the next generation is exported on the device of a severed identity,
both would be restored under it. -/
theorem severed_identity_competes :
    ¬ ∀ (disk : Disk) (path : String) (events : List NodeEvent) (node : Node),
      Run (step disk) (Node.fresh (.opened path .absent)) events node →
        (node.endpointMap.restorable.map RestorableEndpoint.indigoDeviceId).Nodup := by
  intro claimed
  have distinct := claimed soundDisk "endpoint-map.json" _
    (severed.execute soundDisk .sound (.upsertEndpoint (lightSpec 7 "indigo-7~2")))
    (.snoc (.snoc (.snoc .nil trivial (step_execute _ _ _ _)) trivial
      (step_execute _ _ _ _)) trivial (step_execute _ _ _ _))
  have devices : ((severed.execute soundDisk .sound
      (.upsertEndpoint (lightSpec 7 "indigo-7~2"))).endpointMap.restorable.map
        RestorableEndpoint.indigoDeviceId) = [7, 7] := by decide
  rw [devices] at distinct
  exact absurd distinct (by decide)

end Node

end IndigoMatter.Bridge
