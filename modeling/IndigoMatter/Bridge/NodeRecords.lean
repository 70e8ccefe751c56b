import IndigoMatter.Bridge.NodeSpec
import IndigoMatter.Bridge.RegistryAgreement

/-!
# The record of a live accessory

An accessory that is live must not be recorded as gone.  Every command ends with
a check of the live set, which takes the markers of departure off; what can put
one back is the pairing that follows a successful `upsert_endpoint`.  It marks
the identity the device was last softly removed under, and by then that identity
may be live again on another device.
-/

namespace IndigoMatter.Bridge

open IndigoMatter.Library

namespace EndpointMapStore

/-- An entry can be rebuilt only when nothing marks it as gone. -/
theorem restorableEntry_eq_some {uniqueId : String} {record : EndpointRecord}
    {entry : RestorableEndpoint} (restorable : restorableEntry uniqueId record = some entry) :
    record.role = some entry.role ∧ record.label.isSome ∧ record.orphaned = false ∧
      record.supersededBy = none ∧ entry.uniqueId = uniqueId ∧
      drivingDevice uniqueId record = some entry.indigoDeviceId := by
  unfold restorableEntry at restorable
  split at restorable
  · rename_i role label hasRole hasLabel
    split at restorable
    · contradiction
    · rename_i unmarked
      rw [not_or] at unmarked
      obtain ⟨device, driven, rfl⟩ := Option.map_eq_some_iff.mp restorable
      refine ⟨hasRole, by simp [hasLabel], Bool.eq_false_iff.mpr unmarked.1, ?_, rfl, driven⟩
      simpa using unmarked.2
  · contradiction

/-- Every spec a store is restored from stands for one of its records. -/
theorem mem_restoreSpecs {store : EndpointMapStore} {spec : EndpointSpec}
    (member : spec ∈ store.restoreSpecs) :
    ∃ record entry, store.endpoints.get? spec.publishedAs = some record ∧
      restorableEntry spec.publishedAs record = some entry ∧ entry.spec = some spec := by
  unfold restoreSpecs at member
  split at member
  · cases member
  · obtain ⟨entry, restorable, built⟩ := List.mem_filterMap.mp member
    obtain ⟨⟨uniqueId, record⟩, recorded, rebuilt⟩ := List.mem_filterMap.mp restorable
    have named := (restorableEntry_eq_some rebuilt).2.2.2.2.1
    obtain ⟨role, -, rfl⟩ := Option.map_eq_some_iff.mp built
    refine ⟨record, entry, ?_, ?_, built⟩
    · simpa [named] using InsertionMap.mem_entries_iff.mp recorded
    · simpa [named] using rebuilt

end EndpointMapStore

/-- Restoring publishes nothing but the identities of the specs. -/
theorem publishes_restored {matter : Matter} {specs : List EndpointSpec} {publishedAs : String}
    (published : (finalState (restore matter specs Registry.fresh)).Publishes publishedAs) :
    ∃ spec ∈ specs, spec.publishedAs = publishedAs := by
  revert published
  apply final_of_wp fun final : Registry => final.Publishes publishedAs →
    ∃ spec ∈ specs, spec.publishedAs = publishedAs
  refine wp_mono (wp_forM (fun rest (state : Registry) => rest ⊆ specs ∧
      (state.Publishes publishedAs → ∃ spec ∈ specs, spec.publishedAs = publishedAs))
      (fun _ _ => False) ?_ specs Registry.fresh ⟨List.Subset.refl _, ?_⟩)
    (fun _ _ holds => holds.2) (fun _ _ impossible => impossible.elim)
  · rintro spec rest state ⟨within, known⟩
    have later : rest ⊆ specs := fun _ member => within (List.mem_cons_of_mem _ member)
    rw [wp_tryCatch, wp_bind]
    refine wp_mono create_spec ?_ ?_
    · rintro _ final ⟨-, liveEq, -⟩
      refine ⟨later, fun published => ?_⟩
      rcases (publishes_set liveEq).mp published with same | ⟨other, -, entry, stored, same⟩
      · exact ⟨spec, within List.mem_cons_self, same⟩
      · exact known ⟨other, entry, stored, same⟩
    · rintro _ final ⟨-, liveEq, -⟩
      exact ⟨later, fun published => known ((publishes_congr liveEq).mp published)⟩
  · rintro ⟨indigoDeviceId, live, stored, -⟩
    simp [Registry.fresh] at stored

namespace Node

/-- Every live accessory is recorded, and not as gone. -/
def LiveRecorded (node : Node) : Prop :=
  ∀ uniqueId, node.registry.Publishes uniqueId →
    ∃ record, node.endpointMap.endpoints.get? uniqueId = some record ∧
      record.orphaned = false ∧ record.supersededBy = none

theorem liveRecorded_checkDrift (disk : Disk) (node : Node) :
    (node.checkDrift disk).LiveRecorded := by
  intro uniqueId published
  rw [checkDrift_registry] at published
  obtain ⟨record, recorded, seen⟩ := seenLive_checkDrift published
  exact ⟨record, recorded, seen.orphaned, seen.supersededBy⟩

/-- A command that pairs a live accessory with its supposed successor: an upsert
that works, for a device last softly removed under an identity that is live by
now and that the spec's identity supersedes. -/
def mispairs (matter : Matter) (node : Node) : NodeCommand → Bool
  | .upsertEndpoint spec =>
      !upsertFails matter node.registry spec &&
        (node.lastRemoved.get? spec.indigoDeviceId).any fun old =>
          supersedes old spec.publishedAs && (node.registry.deviceIdFor old).isSome
  | _ => false

/-- After a command every live accessory is recorded as live exactly when the
command has mispaired none. -/
theorem liveRecorded_execute_iff (disk : Disk) (matter : Matter) (node : Node)
    (command : NodeCommand) :
    (node.execute disk matter command).LiveRecorded ↔
      node.mispairs matter command = false := by
  cases command with
  | reconcile endpoints replaceAll =>
      exact iff_of_true (liveRecorded_checkDrift _ _) rfl
  | removeEndpoint indigoDeviceId =>
      exact iff_of_true (liveRecorded_checkDrift _ _) rfl
  | upsertEndpoint spec =>
      have outcome := upsertOutcome matter spec node.registry
      have recorded := liveRecorded_checkDrift disk (node.afterRun matter (.upsertEndpoint spec))
      simp only [execute, cleanUp, mispairs]
      rw [← outcome.works]
      cases result : returned (NodeCommand.run matter (.upsertEndpoint spec) node.registry) with
      | false => simpa using recorded
      | true =>
          have published := outcome.published result
          simp only [if_true, Bool.true_and]
          constructor
          · intro live
            rw [Bool.eq_false_iff, ne_eq, Option.any_eq_true]
            rintro ⟨old, remembered, paired⟩
            rw [Bool.and_eq_true, ← publishes_iff_deviceIdFor] at paired
            have stillLive := (published old).mpr (.inl paired.2)
            obtain ⟨marked, stored, notOrphaned, -⟩ := live old (by
              rw [noteSupersession_registry]
              exact stillLive)
            obtain ⟨record, seen, fields⟩ :=
              @seenLive_checkDrift disk (node.afterRun matter (.upsertEndpoint spec)) old stillLive
            obtain ⟨_, entry, _, _, _, hasRole⟩ := fields.driven
            rw [get?_noteSupersession, if_pos ⟨remembered, paired.1⟩, seen] at stored
            obtain rfl := Option.some.inj stored
            have orphaned := EndpointMapStore.forgotten_orphaned (some spec.publishedAs)
              (.inl (Option.isSome_iff_exists.mpr ⟨_, hasRole⟩))
            rw [orphaned] at notOrphaned
            cases notOrphaned
          · intro unpaired uniqueId live
            rw [noteSupersession_registry] at live
            rw [get?_noteSupersession]
            split
            · rename_i paired
              exfalso
              rw [checkDrift_lastRemoved, afterRun] at paired
              rcases (published uniqueId).mp live with before | same
              · rw [paired.1, Option.any_some, paired.2, Bool.true_and] at unpaired
                rw [publishes_iff_deviceIdFor, unpaired] at before
                cases before
              · rw [same, supersedes_irrefl] at paired
                cases paired.2
            · exact recorded uniqueId live

theorem step_execute (disk : Disk) (node : Node) (matter : Matter) (command : NodeCommand) :
    step disk node (.execute matter command) = some (node.execute disk matter command) := rfl

/-- What a restart has rebuilt is recorded as live. -/
theorem liveRecorded_restart (matter : Matter) (node : Node) :
    (node.restart matter).LiveRecorded := by
  intro uniqueId published
  obtain ⟨spec, member, rfl⟩ := publishes_restored published
  obtain ⟨record, entry, recorded, restorable, -⟩ := EndpointMapStore.mem_restoreSpecs member
  obtain ⟨-, -, orphaned, supersededBy, -⟩ :=
    EndpointMapStore.restorableEntry_eq_some restorable
  exact ⟨record, recorded, orphaned, supersededBy⟩

/-- The condition on an event under which live accessories stay recorded. -/
def pairsSafely (node : Node) : NodeEvent → Bool
  | .execute matter command => !node.mispairs matter command
  | .restart _ => true

/-- A live accessory is never recorded as gone: in every run of commands and
restarts from a node that serves nothing yet, over whatever map, in which no
upsert mispairs. -/
theorem liveRecorded_of_safe_run {disk : Disk} {store : EndpointMapStore}
    {events : List NodeEvent} {node : Node}
    (run : RunWhere (step disk) (fun node event => node.pairsSafely event = true)
      (Node.fresh store) events node) :
    node.LiveRecorded := by
  refine run.invariant ?_ ?_
  · rintro uniqueId ⟨indigoDeviceId, live, stored, -⟩
    simp [Node.fresh, Registry.fresh] at stored
  · intro before event after _ safe taken
    cases event with
    | execute matter command =>
        obtain rfl := Option.some.inj taken
        rw [liveRecorded_execute_iff]
        simpa [pairsSafely] using safe
    | restart matter =>
        obtain rfl := Option.some.inj taken
        exact liveRecorded_restart matter before

/-! ## A live accessory marked as retired -/

/-- A disk that takes every write. -/
def soundDisk : Disk := fun _ => true

/-- A node over no map at all. -/
def blank : Node := Node.fresh (.opened "endpoint-map.json" .absent)

/-- Device 7 has been exported and un-exported. -/
def unexported : Node :=
  (blank.execute soundDisk .sound (.reconcile [lightSpec 7 "indigo-7"] false)).execute
    soundDisk .sound (.reconcile [] true)

/-- The identity device 7 left behind is published on device 8. -/
def migrated : Node :=
  unexported.execute soundDisk .sound (.reconcile [lightSpec 8 "indigo-7"] false)

/-- The next generation of an identity that is no longer live can be exported. -/
theorem liveRecorded_after_regeneration :
    (unexported.execute soundDisk .sound (.upsertEndpoint (lightSpec 7 "indigo-7~2"))).LiveRecorded := by
  have first : blank.pairsSafely
      (.execute .sound (.reconcile [lightSpec 7 "indigo-7"] false)) = true := rfl
  have last : unexported.pairsSafely
      (.execute .sound (.upsertEndpoint (lightSpec 7 "indigo-7~2"))) = true := by decide
  exact liveRecorded_of_safe_run
    (.snoc (.snoc (.snoc .nil first (step_execute _ _ _ _)) rfl (step_execute _ _ _ _)) last
      (step_execute _ _ _ _))

/-- Exporting the next generation on device 7 marks the identity that is live on
device 8 as retired. -/
theorem regeneration_retires_live_identity :
    ¬ ∀ (disk : Disk) (store : EndpointMapStore) (events : List NodeEvent) (node : Node),
      Run (step disk) (Node.fresh store) events node → node.LiveRecorded := by
  intro claimed
  have live := claimed soundDisk (.opened "endpoint-map.json" .absent) _
    (migrated.execute soundDisk .sound (.upsertEndpoint (lightSpec 7 "indigo-7~2")))
    (.snoc (.snoc (.snoc (.snoc .nil trivial (step_execute _ _ _ _)) trivial
      (step_execute _ _ _ _)) trivial (step_execute _ _ _ _)) trivial (step_execute _ _ _ _))
  have published : (migrated.execute soundDisk .sound
      (.upsertEndpoint (lightSpec 7 "indigo-7~2"))).registry.Publishes "indigo-7" :=
    publishes_iff_deviceIdFor.mpr (by decide)
  have retired : ((migrated.execute soundDisk .sound
      (.upsertEndpoint (lightSpec 7 "indigo-7~2"))).endpointMap.endpoints.get? "indigo-7").map
        EndpointRecord.orphaned = some true := by decide
  obtain ⟨record, recorded, notOrphaned, -⟩ := live "indigo-7" published
  rw [recorded, Option.map_some, notOrphaned] at retired
  cases retired

end Node

end IndigoMatter.Bridge
