import IndigoMatter.Bridge.NodeLifecycle
import Mathlib.Logic.Relation

/-!
# Genuine supersession

A record names the identity that has superseded it.  Two places write this
marker, the clean-up of a reconcile and the pairing after an upsert, and both
ask first whether the other identity is a later generation of the same device.
A check takes the marker off again, and nothing else makes a record with one.

The file matters as well, since every start reads it: what is in it was written
from a map that was genuine at the time.
-/

namespace IndigoMatter.Bridge

open IndigoMatter.Library

/-- A record that names a successor is orphaned, and the successor is a later
generation of its identity. -/
def GenuineRecord (uniqueId : String) (record : EndpointRecord) : Prop :=
  ∀ newer, record.supersededBy = some newer →
    supersedes uniqueId newer = true ∧ record.orphaned = true

/-- Every marker of supersession in the map is genuine. -/
def Genuine (endpoints : InsertionMap String EndpointRecord) : Prop :=
  ∀ uniqueId record, endpoints.get? uniqueId = some record → GenuineRecord uniqueId record

theorem genuineRecord_of_unmarked {record : EndpointRecord} (uniqueId : String)
    (unmarked : record.supersededBy = none) : GenuineRecord uniqueId record := by
  intro newer marked
  rw [unmarked] at marked
  cases marked

theorem genuine_empty : Genuine ∅ := by
  intro uniqueId record stored
  simp at stored

/-- Rereading a record loses at most the marker. -/
theorem genuineRecord_reread {uniqueId : String} {record : EndpointRecord}
    (genuine : GenuineRecord uniqueId record) : GenuineRecord uniqueId record.reread := by
  intro newer marked
  exact genuine newer (withoutEmpty_eq_some marked)

/-- Forgetting a record for the sake of a later generation, or of nothing. -/
theorem genuineRecord_forgotten {uniqueId : String} {record : EndpointRecord}
    {supersededBy : Option String} (genuine : GenuineRecord uniqueId record)
    (later : ∀ newer, supersededBy = some newer → supersedes uniqueId newer = true) :
    GenuineRecord uniqueId (EndpointMapStore.forgotten supersededBy record) := by
  unfold EndpointMapStore.forgotten EndpointMapStore.forgottenRecord
  split
  · exact genuine
  · dsimp only
    split
    · exact genuine
    · intro newer marked
      rw [Option.getD_some] at marked ⊢
      dsimp only at marked
      constructor
      · split at marked
        · exact later newer marked
        · exact (genuine newer marked).1
      · rfl

/-! ## The store -/

/-- The map in memory and the one on disk are genuine. -/
structure GenuineStore (store : EndpointMapStore) : Prop where
  memory : Genuine store.endpoints
  file : ∀ value endpoints, store.file = .contents value → readMapFile value = some endpoints →
    Genuine endpoints

namespace GenuineStore

variable {store : EndpointMapStore}

theorem persist (genuine : GenuineStore store) (lands : Bool) :
    GenuineStore (store.persist lands) := by
  constructor
  · rw [EndpointMapStore.persist_endpoints]
    exact genuine.memory
  · intro value endpoints written read
    cases lands with
    | false => exact genuine.file value endpoints written read
    | true =>
        have same : mapFile store.endpoints = value := by
          simpa [EndpointMapStore.persist] using written
        subst same
        rw [readMapFile_mapFile, Option.some.injEq] at read
        subst read
        intro uniqueId record stored
        rw [InsertionMap.get?_mapValues] at stored
        rcases Option.map_eq_some_iff.mp stored with ⟨before, recorded, rfl⟩
        exact genuineRecord_reread (genuine.memory uniqueId before recorded)

theorem persistWhen (genuine : GenuineStore store) (needed lands : Bool) :
    GenuineStore (store.persistWhen needed lands) := by
  cases needed with
  | false => exact genuine
  | true => exact genuine.persist lands

/-- A genuine map in place of the one in memory, written or not. -/
theorem replace (genuine : GenuineStore store) {endpoints : InsertionMap String EndpointRecord}
    (memory : Genuine endpoints) (needed lands : Bool) :
    GenuineStore (({ store with endpoints := endpoints }).persistWhen needed lands) := by
  have replaced : GenuineStore { store with endpoints := endpoints } := ⟨memory, genuine.file⟩
  exact replaced.persistWhen needed lands

theorem load (genuine : GenuineStore store) : GenuineStore store.load := by
  constructor
  · change Genuine (loadEndpointMap store.path store.file).endpoints
    cases stands : store.file with
    | absent => exact genuine_empty
    | unreadable message => exact genuine_empty
    | contents value =>
        cases read : readMapFile value with
        | none => simpa [loadEndpointMap, read] using genuine_empty
        | some endpoints =>
            simpa [loadEndpointMap, read] using genuine.file value endpoints stands read
  · exact genuine.file

theorem forget (genuine : GenuineStore store) {uniqueIds : List String}
    {supersededBy : Option String} (lands : Bool)
    (later : ∀ uniqueId ∈ uniqueIds, ∀ newer, supersededBy = some newer →
      supersedes uniqueId newer = true) :
    GenuineStore (store.forget uniqueIds supersededBy lands).2 := by
  have memory : Genuine (store.forget uniqueIds supersededBy lands).2.endpoints := by
    intro uniqueId record stored
    rw [EndpointMapStore.get?_forget] at stored
    split at stored
    · rename_i listed
      rcases Option.map_eq_some_iff.mp stored with ⟨before, recorded, rfl⟩
      exact genuineRecord_forgotten (genuine.memory uniqueId before recorded)
        (later uniqueId listed)
    · exact genuine.memory uniqueId record stored
  simp only [EndpointMapStore.forget, EndpointMapStore.persistWhen_endpoints] at memory ⊢
  exact genuine.replace memory _ lands

theorem destroy (genuine : GenuineStore store) (uniqueIds : List String) (lands : Bool) :
    GenuineStore (store.destroy uniqueIds lands).2 := by
  have memory : Genuine (store.destroy uniqueIds lands).2.endpoints := by
    intro uniqueId record stored
    rw [EndpointMapStore.get?_destroy] at stored
    split at stored
    · cases stored
    · exact genuine.memory uniqueId record stored
  simp only [EndpointMapStore.destroy, EndpointMapStore.persistWhen_endpoints] at memory ⊢
  exact genuine.replace memory _ lands

theorem check (genuine : GenuineStore store) {live : List LiveEndpointNumber} {lands : Bool}
    (memory : Genuine (store.check live lands).2.endpoints) :
    GenuineStore (store.check live lands).2 := by
  constructor
  · exact memory
  · simp only [EndpointMapStore.check, EndpointMapStore.persistWhen_endpoints] at memory ⊢
    exact (genuine.replace memory _ lands).file

theorem voidNumbers (genuine : GenuineStore store) (lands : Bool) :
    GenuineStore (store.voidNumbers lands).2 := by
  unfold EndpointMapStore.voidNumbers
  split
  · exact genuine
  · apply persist
    constructor
    · intro uniqueId record stored
      rw [InsertionMap.get?_mapValues] at stored
      rcases Option.map_eq_some_iff.mp stored with ⟨before, recorded, rfl⟩
      exact genuine.memory uniqueId before recorded
    · exact genuine.file

/-- A map that records live endpoints has no markers. -/
theorem genuine_recordsOf (live : List LiveEndpointNumber) :
    Genuine (EndpointMapStore.recordsOf live) := by
  intro uniqueId record stored
  apply genuineRecord_of_unmarked
  have listed := InsertionMap.mem_of_get?_ofList stored
  rcases List.mem_map.mp listed with ⟨entry, -, same⟩
  rw [← (Prod.mk.inj same).2]
  rfl

theorem rebuild (genuine : GenuineStore store) (live : List LiveEndpointNumber)
    (lands : Bool) : GenuineStore (store.rebuild live lands).2 := by
  have adopted : GenuineStore
      { store with endpoints := EndpointMapStore.recordsOf live, problem := none } :=
    ⟨genuine_recordsOf live, genuine.file⟩
  have written := adopted.persist lands
  exact ⟨written.memory, written.file⟩

theorem seed (genuine : GenuineStore store) (numbers : List LiveEndpointNumber) (lands : Bool) :
    GenuineStore (((store.seed numbers lands).map Prod.snd).getD store) := by
  unfold EndpointMapStore.seed
  split
  · exact genuine
  · have adopted : GenuineStore
        { store with
          endpoints := EndpointMapStore.recordsOf numbers
          problem := none
          checkRan := 0 < numbers.length } :=
      ⟨genuine_recordsOf numbers, genuine.file⟩
    exact adopted.persist lands

theorem discard (genuine : GenuineStore store) (deletes : Bool) :
    GenuineStore (store.discard deletes).2 := by
  cases deletes with
  | false => exact ⟨genuine_empty, genuine.file⟩
  | true =>
      constructor
      · exact genuine_empty
      · intro value endpoints stands
        cases stands

end GenuineStore

/-! ## Commands -/

namespace Node

variable {disk : Disk} {node : Node}

theorem genuine_checkDrift (genuine : GenuineStore node.endpointMap) :
    GenuineStore (node.checkDrift disk).endpointMap := by
  apply genuine.check
  change Genuine (node.checkDrift disk).endpointMap.endpoints
  intro uniqueId record stored
  by_cases published : node.registry.Publishes uniqueId
  · rcases @seenLive_checkDrift disk node uniqueId published with ⟨found, recorded, seen⟩
    rw [recorded, Option.some.injEq] at stored
    subst stored
    exact genuineRecord_of_unmarked uniqueId seen.supersededBy
  · rw [get?_checkDrift_of_unpublished published] at stored
    exact genuine.memory uniqueId record stored

/-- The clean-up pairs an identity only with a later generation of it. -/
theorem genuine_forgetRemoved (genuine : GenuineStore node.endpointMap)
    (before : InsertionMap String Int) (hard : Bool) :
    GenuineStore (node.forgetRemoved disk before hard).endpointMap := by
  have loop : ∀ (departed : List (String × Int)) (createdDeviceIds : InsertionMap Int String)
      (state : Departures), GenuineStore state.endpointMap →
      GenuineStore (departed.foldl (depart disk hard createdDeviceIds) state).endpointMap := by
    intro departed createdDeviceIds
    induction departed with
    | nil => exact fun _ holds => holds
    | cons head rest ih =>
        intro state holds
        rw [List.foldl_cons]
        apply ih
        cases found : successor hard createdDeviceIds head with
        | none => simpa only [depart, found] using holds
        | some newer =>
            simp only [depart, found]
            apply holds.forget
            intro uniqueId listed newest same
            rw [List.mem_singleton] at listed
            subst listed
            cases same
            have paired := (Option.filter_eq_some_iff.mp found).2
            exact (Bool.and_eq_true_iff.mp paired).2
  simp only [forgetRemoved]
  split
  · exact genuine
  · cases hard with
    | true =>
        apply GenuineStore.destroy
        exact loop _ _ _ genuine
    | false =>
        apply GenuineStore.forget
        · exact loop _ _ _ genuine
        · intro uniqueId _ newer impossible
          cases impossible

/-- So does the pairing across two commands. -/
theorem genuine_noteSupersession (genuine : GenuineStore node.endpointMap)
    (spec : EndpointSpec) :
    GenuineStore (node.noteSupersessionIfPaired disk spec).endpointMap := by
  simp only [noteSupersessionIfPaired]
  split
  · exact genuine
  · rename_i old paired
    dsimp only
    apply genuine.forget
    intro uniqueId listed newer same
    rw [List.mem_singleton] at listed
    subst listed
    cases same
    exact (Option.filter_eq_some_iff.mp paired).2

theorem genuine_cleanUp (genuine : GenuineStore node.endpointMap)
    (before : InsertionMap String Int) (succeeded : Bool) (command : NodeCommand) :
    GenuineStore (node.cleanUp disk before succeeded command).endpointMap := by
  cases command with
  | reconcile endpoints replaceAll =>
      exact genuine_checkDrift (genuine_forgetRemoved genuine before false)
  | removeEndpoint indigoDeviceId =>
      exact genuine_checkDrift (genuine_forgetRemoved genuine before true)
  | upsertEndpoint spec =>
      simp only [cleanUp]
      split
      · exact genuine_noteSupersession (genuine_checkDrift genuine) spec
      · exact genuine_checkDrift genuine

theorem genuine_voidNumbers (genuine : GenuineStore node.endpointMap) :
    GenuineStore (node.voidNumbers disk).endpointMap := by
  unfold voidNumbers
  split
  · exact genuine.voidNumbers _
  · exact genuine

end Node

/-- One event of the commands in flight. -/
theorem Concurrent.genuine_step {disk : Disk} {state next : Concurrent} {event : CallEvent}
    (genuine : GenuineStore state.node.endpointMap)
    (taken : state.step disk event = some next) : GenuineStore next.node.endpointMap := by
  cases event with
  | call command =>
      cases taken
      exact genuine
  | run matter =>
      simp only [step] at taken
      split at taken
      · cases taken
      · cases taken
        exact genuine
  | finish index =>
      rcases Option.map_eq_some_iff.mp taken with ⟨done, -, rfl⟩
      exact Node.genuine_cleanUp genuine _ _ _

/-! ## The node across starts -/

namespace BridgeNode

variable {disk : Disk} {bridge : BridgeNode} {answers : Answers}

theorem genuine_noteFabrics (genuine : GenuineStore bridge.endpointMap) :
    GenuineStore (bridge.noteFabrics disk answers).endpointMap := by
  unfold noteFabrics noteLastFabricGone
  dsimp only
  split
  · split
    · split
      · exact genuine
      · exact Node.genuine_voidNumbers genuine
    · exact genuine
  · exact genuine

theorem genuine_fabricsChanged (genuine : GenuineStore bridge.endpointMap) :
    GenuineStore (bridge.fabricsChanged disk answers).endpointMap := by
  unfold fabricsChanged
  split
  · apply genuine_noteFabrics
    rwa [noteCommissioningWitness_endpointMap]
  · exact genuine

theorem genuine_removeFabric (genuine : GenuineStore bridge.endpointMap) (fabricIndex : Nat)
    (numbers : Nat → Nat) :
    GenuineStore (bridge.removeFabric disk fabricIndex numbers answers).endpointMap := by
  unfold removeFabric
  split
  · apply genuine_noteFabrics
    rwa [withFabrics_endpointMap]
  · exact genuine_noteFabrics genuine

theorem genuine_factoryReset (genuine : GenuineStore bridge.endpointMap)
    (preserveEndpointNumbers deletes : Bool) (numbers : Nat → Nat) :
    GenuineStore (bridge.factoryReset disk preserveEndpointNumbers deletes numbers
      answers).endpointMap := by
  have erased : GenuineStore (bridge.withFabrics [] numbers).endpointMap := by
    rwa [withFabrics_endpointMap]
  unfold factoryReset
  cases preserveEndpointNumbers with
  | true =>
      apply Node.genuine_voidNumbers
      apply genuine_noteFabrics
      exact erased
  | false =>
      apply genuine_noteFabrics
      exact erased.discard deletes

theorem genuine_rebuild (genuine : GenuineStore bridge.endpointMap) :
    GenuineStore (bridge.rebuildEndpointMap disk answers).2.endpointMap := by
  have written : GenuineStore (bridge.calls.node.endpointMap.rebuild
      bridge.calls.node.registry.liveIdentities
      (disk.next bridge.calls.node.endpointMap)).2 := genuine.rebuild _ _
  unfold rebuildEndpointMap
  dsimp only
  split
  · exact genuine
  · split
    · dsimp only
      split <;> exact written
    · exact written

theorem genuine_assertEndpointIdentity (genuine : GenuineStore bridge.endpointMap) :
    GenuineStore (bridge.assertEndpointIdentity disk answers).endpointMap := by
  unfold assertEndpointIdentity
  dsimp only
  split
  · exact genuine
  · split
    · rw [noteCommissioningWitness_endpointMap]
      split
      · exact genuine.seed _ _
      · exact genuine
    · exact genuine

theorem genuine_start {matter : Matter} {boot : Boot} {next : BridgeNode}
    (genuine : GenuineStore bridge.endpointMap)
    (started : bridge.start disk matter boot = some next) :
    GenuineStore next.endpointMap := by
  rcases Option.map_eq_some_iff.mp started with ⟨identified, found, rfl⟩
  have loaded : GenuineStore identified.endpointMap.load := by
    rw [identify_endpointMap found]
    exact genuine.load
  dsimp only
  unfold withdrawRestoredIfRefusing
  split <;> exact genuine_assertEndpointIdentity loaded

/-- The events that put another map file in place of the node's own. -/
def BridgeEvent.replacesMap : BridgeEvent → Bool
  | .outside (.endpointMap _) => true
  | _ => false

theorem genuine_step {event : BridgeEvent} {next : BridgeNode}
    (genuine : GenuineStore bridge.endpointMap) (own : event.replacesMap = false)
    (taken : step disk bridge event = some next) : GenuineStore next.endpointMap := by
  rcases step_cases taken with ⟨-, served⟩ | ⟨-, ⟨matter, boot, rfl, started⟩ | ⟨change, rfl, rfl⟩⟩
  · cases event with
    | start matter boot => cases served
    | outside change => cases served
    | stop =>
        cases served
        exact genuine
    | call event =>
        rcases Option.map_eq_some_iff.mp served with ⟨calls, moved, rfl⟩
        exact Concurrent.genuine_step genuine moved
    | fabricsChanged fabrics numbers answers =>
        cases served
        apply genuine_fabricsChanged
        rwa [withFabrics_endpointMap]
    | removeFabric fabricIndex numbers answers =>
        cases served
        exact genuine_removeFabric genuine fabricIndex numbers
    | factoryReset preserveEndpointNumbers deletes numbers answers =>
        cases served
        exact genuine_factoryReset genuine preserveEndpointNumbers deletes numbers
    | rebuildEndpointMap answers =>
        cases served
        exact genuine_rebuild genuine
  · exact genuine_start genuine started
  · cases change with
    | fabrics found => exact genuine
    | identityFile file quarantined => exact genuine
    | endpointMap file => cases own

end BridgeNode

/-! ## Following the markers -/

/-- The record of the first identity names the second as its successor. -/
def Follows (endpoints : InsertionMap String EndpointRecord) (older newer : String) : Prop :=
  ∃ record, endpoints.get? older = some record ∧ record.supersededBy = some newer

theorem supersedes_trans {first second third : String}
    (earlier : supersedes first second = true) (later : supersedes second third = true) :
    supersedes first third = true := by
  rcases supersedes_iff.mp earlier with ⟨oldest, middle, parsed, between, device, generation⟩
  rcases supersedes_iff.mp later with ⟨same, newest, again, last, sameDevice, newer⟩
  have equal : middle = same := Option.some.inj (between.symm.trans again)
  subst equal
  apply supersedes_iff.mpr
  exact ⟨oldest, newest, parsed, last, device.trans sameDevice, generation.trans newer⟩

theorem Genuine.supersedes_of_follows {endpoints : InsertionMap String EndpointRecord}
    (genuine : Genuine endpoints) {first last : String}
    (followed : Relation.TransGen (Follows endpoints) first last) :
    supersedes first last = true := by
  have direct : ∀ {older newer}, Follows endpoints older newer → supersedes older newer = true := by
    rintro older newer ⟨record, stored, marked⟩
    exact (genuine older record stored newer marked).1
  induction followed with
  | single one => exact direct one
  | tail _ one earlier => exact supersedes_trans earlier (direct one)

namespace BridgeNode

/-- Markers of supersession are genuine.  Started over a map without any, a node
keeps this in every run of starts, commands in any order and interleaving,
pairings, unpairings, resets and rebuilds, whatever fails: a record that names a
successor is orphaned and the successor is a later generation of its identity.
So following the markers raises the generation of one device, and never comes
back. -/
theorem supersededBy_genuine {disk : Disk} {storagePath : String} {file : MapFile}
    {fabrics : List Nat} {identityFile : IdentityFile} {quarantined : Bool}
    {events : List BridgeEvent} {bridge : BridgeNode}
    (unmarked : ∀ uniqueId record, (EndpointMapStore.opened (storagePath ++ "/" ++
      ENDPOINT_MAP_FILE) file).endpoints.get? uniqueId = some record →
        record.supersededBy = none)
    (run : RunWhere (step disk) (fun _ event => event.replacesMap = false)
      (installed storagePath file fabrics identityFile quarantined) events bridge) :
    (∀ uniqueId record newer, bridge.endpointMap.endpoints.get? uniqueId = some record →
      record.supersededBy = some newer →
        supersedes uniqueId newer = true ∧ record.orphaned = true) ∧
    (∀ first last, Relation.TransGen (Follows bridge.endpointMap.endpoints) first last →
      ∃ before after, parsePublishedId first = some before ∧
        parsePublishedId last = some after ∧ before.deviceId = after.deviceId ∧
        before.generation < after.generation) ∧
    ∀ uniqueId, ¬Relation.TransGen (Follows bridge.endpointMap.endpoints) uniqueId uniqueId := by
  have genuine : GenuineStore bridge.endpointMap := by
    apply run.invariant
    · constructor
      · exact genuine_empty
      · intro value endpoints stands read uniqueId record stored
        apply genuineRecord_of_unmarked
        apply unmarked uniqueId record
        obtain rfl : file = .contents value := stands
        simpa [EndpointMapStore.opened, EndpointMapStore.unread, EndpointMapStore.load,
          loadEndpointMap, read] using stored
    · intro state event next holds own taken
      exact genuine_step holds own taken
  refine ⟨?_, ?_, ?_⟩
  · intro uniqueId record newer stored marked
    exact genuine.memory uniqueId record stored newer marked
  · intro first last followed
    exact supersedes_iff.mp (genuine.memory.supersedes_of_follows followed)
  · intro uniqueId followed
    have newer := genuine.memory.supersedes_of_follows followed
    rw [supersedes_irrefl] at newer
    cases newer

/-- A light is exported, un-exported, and exported again as the next
generation, with a restart in between. -/
def regenerationEvents : List BridgeEvent :=
  .start .sound firstBoot ::
    (commandEvents (.reconcile [lightSpec 7 "indigo-7"] false) ++
      [.stop, .start .sound firstBoot] ++
      commandEvents (.reconcile [] true) ++
      commandEvents (.upsertEndpoint (lightSpec 7 "indigo-7~2")))

/-- The state after these events. -/
def regenerated : BridgeNode :=
  let fresh := installed "/bridge" .absent [] .absent false
  (follow (step Node.soundDisk) (fun _ event => event.replacesMap = false) fresh
    regenerationEvents).getD fresh

theorem supersededBy_genuine_after_regeneration :
    (regenerated.endpointMap.endpoints.get? "indigo-7").bind EndpointRecord.supersededBy =
        some "indigo-7~2" ∧
      ∀ uniqueId,
        ¬Relation.TransGen (Follows regenerated.endpointMap.endpoints) uniqueId uniqueId := by
  have run := @runWhere_follow_getD _ _ (step Node.soundDisk)
    (fun _ event => event.replacesMap = false) _ (installed "/bridge" .absent [] .absent false)
    regenerationEvents (by decide +kernel) (installed "/bridge" .absent [] .absent false)
  refine ⟨by decide +kernel, (supersededBy_genuine ?_ run).2.2⟩
  intro uniqueId record stored
  cases stored

end BridgeNode

end IndigoMatter.Bridge
