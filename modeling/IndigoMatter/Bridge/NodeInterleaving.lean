import IndigoMatter.Bridge.NodeRecords

/-!
# Commands in flight together

Commands of a node may overlap.  Each takes its snapshot when it is called; the
registry parts run one at a time, in the order of the calls; and the map part of
a command follows some time after its registry part.  A state carries the
commands that wait for the registry and those whose registry part is over.

The clean-up of `removeEndpoint` destroys every identity of its snapshot that is
no longer live.  That is its own identity only as long as no other command takes
one of the others away while it is in flight.
-/

namespace IndigoMatter.Bridge

open IndigoMatter.Library

/-- The identities that were published before and are not afterwards. -/
def taken (before after : Registry) : List String :=
  before.livePublishedIdentities.keys.filter fun uniqueId =>
    !after.livePublishedIdentities.has uniqueId

theorem mem_taken_iff {before after : Registry} {uniqueId : String} :
    uniqueId ∈ taken before after ↔ before.Publishes uniqueId ∧ ¬after.Publishes uniqueId := by
  rw [taken, List.mem_filter, mem_snapshot_iff, ← @mem_snapshot_iff after, ← InsertionMap.has_iff,
    Bool.not_eq_true, Bool.not_eq_true']

/-- Whether a command is a hard removal. -/
def NodeCommand.isRemove : NodeCommand → Bool
  | .removeEndpoint _ => true
  | _ => false

/-- Whether a command removes softly. -/
def NodeCommand.isReconcile : NodeCommand → Bool
  | .reconcile _ _ => true
  | _ => false

/-- A command that waits for its turn at the registry. -/
structure Waiting where
  command : NodeCommand
  before : InsertionMap String Int

/-- A command whose registry part is over.  `took` is what this part took out of
the live set; the source does not keep it, and no step reads it. -/
structure Ran where
  command : NodeCommand
  before : InsertionMap String Int
  succeeded : Bool
  took : List String

/-- A node with commands in flight. -/
structure Concurrent where
  node : Node
  waiting : List Waiting
  ran : List Ran

/-- A command is called, the next registry part runs, or the map part of one of
the commands whose registry part is over. -/
inductive CallEvent
  | call (command : NodeCommand)
  | run (matter : Matter)
  | finish (index : Nat)

namespace Concurrent

/-- A node that serves nothing yet, with nothing in flight. -/
def fresh (path : String) : Concurrent := ⟨Node.fresh (.opened path .absent), [], []⟩

/-- The registry part of the command at the head of the queue. -/
def afterRun (matter : Matter) (state : Concurrent) (head : Waiting) (rest : List Waiting) :
    Concurrent :=
  let result := head.command.run matter state.node.registry
  { node := state.node.afterRun matter head.command
    waiting := rest
    ran := state.ran ++
      [{ command := head.command
         before := head.before
         succeeded := returned result
         took := taken state.node.registry (finalState result) }] }

/-- One event. -/
def step (disk : Disk) : LabelledStep Concurrent CallEvent
  | state, .call command =>
      some { state with
        waiting := state.waiting ++
          [⟨command, state.node.registry.livePublishedIdentities⟩] }
  | state, .run matter =>
      match state.waiting with
      | [] => none
      | head :: rest => some (state.afterRun matter head rest)
  | state, .finish index =>
      (state.ran[index]?).map fun done =>
        { state with
          node := state.node.cleanUp disk done.before done.succeeded done.command
          ran := state.ran.eraseIdx index }

/-! ## What must not happen -/

/-- The snapshots of the removals in flight, apart from the head of the queue. -/
def removalSnapshots (rest : List Waiting) (ran : List Ran) : List (InsertionMap String Int) :=
  (rest.filter fun waiting => waiting.command.isRemove).map Waiting.before ++
    (ran.filter fun done => done.command.isRemove).map Ran.before

/-- A registry part that takes an identity away from under another command: one
that a removal in flight has in its snapshot, or, for a reconcile, one that was
not live yet when it was called. -/
def interferes (state : Concurrent) : CallEvent → Bool
  | .run matter =>
      match state.waiting with
      | [] => false
      | head :: rest =>
          (taken state.node.registry
              (finalState (head.command.run matter state.node.registry))).any fun uniqueId =>
            (removalSnapshots rest state.ran).any (fun before => before.has uniqueId) ||
              (head.command.isReconcile && !head.before.has uniqueId)
  | _ => false

end Concurrent

/-! ## The clean-up of one command -/

namespace Node

/-- Every record comes from an endpoint that was live, and none is void. -/
def Recorded (node : Node) : Prop :=
  ∀ uniqueId record, node.endpointMap.endpoints.get? uniqueId = some record →
    record.role.isSome = true ∧ record.numberVoid = false

/-- What a clean-up leaves of a record it keeps: the number, and the mark of an
orphan that is not live. -/
structure KeptRecord (node : Node) (uniqueId : String) (before after : EndpointRecord) :
    Prop where
  number : after.number = before.number
  numberVoid : after.numberVoid = false
  orphaned : before.orphaned = true → ¬node.registry.Publishes uniqueId →
    after.orphaned = true

theorem keptRecord_refl {node : Node} {uniqueId : String} {record : EndpointRecord}
    (trusted : record.numberVoid = false) : KeptRecord node uniqueId record record :=
  ⟨rfl, trusted, fun orphaned _ => orphaned⟩

theorem keptRecord_forgotten {node : Node} {uniqueId : String} {record : EndpointRecord}
    (trusted : record.numberVoid = false) (supersededBy : Option String) :
    KeptRecord node uniqueId record (EndpointMapStore.forgotten supersededBy record) where
  number := EndpointMapStore.forgotten_number _ _
  numberVoid := (EndpointMapStore.forgotten_numberVoid _ _).trans trusted
  orphaned orphaned _ := EndpointMapStore.forgotten_orphaned_of_orphaned _ orphaned

theorem KeptRecord.trans {node middle : Node} {uniqueId : String}
    {first second third : EndpointRecord} (same : middle.registry = node.registry)
    (before : KeptRecord node uniqueId first second)
    (after : KeptRecord middle uniqueId second third) : KeptRecord node uniqueId first third where
  number := after.number.trans before.number
  numberVoid := after.numberVoid
  orphaned orphaned unpublished :=
    after.orphaned (before.orphaned orphaned unpublished) (same ▸ unpublished)

variable {disk : Disk} {node : Node} {uniqueId : String} {record : EndpointRecord}

theorem keptRecord_checkDrift (trusted : record.numberVoid = false)
    (recorded : node.endpointMap.endpoints.get? uniqueId = some record) :
    ∃ after, (node.checkDrift disk).endpointMap.endpoints.get? uniqueId = some after ∧
      KeptRecord node uniqueId record after := by
  by_cases published : node.registry.Publishes uniqueId
  · obtain ⟨after, stored, number, void⟩ := @number_checkDrift disk node uniqueId record recorded trusted
    exact ⟨after, stored, number, void, fun _ unpublished => absurd published unpublished⟩
  · rw [get?_checkDrift_of_unpublished published]
    exact ⟨record, recorded, keptRecord_refl trusted⟩

theorem keptRecord_forgetRemoved {before : InsertionMap String Int} {hard : Bool}
    (trusted : record.numberVoid = false)
    (recorded : node.endpointMap.endpoints.get? uniqueId = some record)
    (spared : hard = true → uniqueId ∈ before.keys → node.registry.Publishes uniqueId) :
    ∃ after,
      (node.forgetRemoved disk before hard).endpointMap.endpoints.get? uniqueId = some after ∧
      KeptRecord node uniqueId record after := by
  by_cases departed : uniqueId ∈ before.keys ∧ ¬node.registry.Publishes uniqueId
  · cases hard with
    | true => exact absurd (spared rfl departed.1) departed.2
    | false =>
        obtain ⟨supersededBy, forgot⟩ :=
          @get?_forgetRemoved_soft disk node before uniqueId departed.1 departed.2
        rw [recorded, Option.map_some] at forgot
        exact ⟨_, forgot, keptRecord_forgotten trusted supersededBy⟩
  · have stays : uniqueId ∈ before.keys → node.registry.Publishes uniqueId := by tauto
    rw [get?_forgetRemoved_of_stays stays]
    exact ⟨record, recorded, keptRecord_refl trusted⟩

theorem keptRecord_noteSupersession {spec : EndpointSpec} (trusted : record.numberVoid = false)
    (recorded : node.endpointMap.endpoints.get? uniqueId = some record) :
    ∃ after, (node.noteSupersessionIfPaired disk spec).endpointMap.endpoints.get? uniqueId =
        some after ∧ KeptRecord node uniqueId record after := by
  rw [get?_noteSupersession, recorded]
  split
  · exact ⟨_, rfl, keptRecord_forgotten trusted _⟩
  · exact ⟨_, rfl, keptRecord_refl trusted⟩

/-- A clean-up keeps every record but those a hard removal finds departed. -/
theorem keptRecord_cleanUp {before : InsertionMap String Int} {succeeded : Bool}
    {command : NodeCommand} (trusted : record.numberVoid = false)
    (recorded : node.endpointMap.endpoints.get? uniqueId = some record)
    (spared : command.isRemove = true → uniqueId ∈ before.keys →
      node.registry.Publishes uniqueId) :
    ∃ after,
      (node.cleanUp disk before succeeded command).endpointMap.endpoints.get? uniqueId =
        some after ∧ KeptRecord node uniqueId record after := by
  have removal (hard : Bool) (sparing : hard = true → uniqueId ∈ before.keys →
      node.registry.Publishes uniqueId) :
      ∃ after, ((node.forgetRemoved disk before hard).checkDrift
        disk).endpointMap.endpoints.get? uniqueId = some after ∧
          KeptRecord node uniqueId record after := by
    obtain ⟨middle, forgot, first⟩ :=
      @keptRecord_forgetRemoved disk node uniqueId record before hard trusted recorded sparing
    obtain ⟨after, stored, second⟩ :=
      @keptRecord_checkDrift disk _ uniqueId middle first.numberVoid forgot
    exact ⟨after, stored, first.trans forgetRemoved_registry second⟩
  cases command with
  | reconcile endpoints replaceAll =>
      exact removal false fun impossible => absurd impossible Bool.false_ne_true
  | removeEndpoint indigoDeviceId => exact removal true fun _ => spared rfl
  | upsertEndpoint spec =>
      obtain ⟨middle, checked, first⟩ :=
        @keptRecord_checkDrift disk node uniqueId record trusted recorded
      simp only [cleanUp]
      split
      · obtain ⟨after, stored, second⟩ :=
          @keptRecord_noteSupersession disk _ uniqueId middle spec first.numberVoid checked
        exact ⟨after, stored, first.trans checkDrift_registry second⟩
      · exact ⟨middle, checked, first⟩

/-- A clean-up makes records of live endpoints only. -/
theorem recorded_cleanUp {before : InsertionMap String Int} {succeeded : Bool}
    {command : NodeCommand} (recorded : node.Recorded) :
    (node.cleanUp disk before succeeded command).Recorded := by
  have checks : ∀ middle : Node, middle.Recorded → (middle.checkDrift disk).Recorded := by
    intro middle holds uniqueId record stored
    by_cases published : middle.registry.Publishes uniqueId
    · obtain ⟨found, seen, fields⟩ := @seenLive_checkDrift disk middle uniqueId published
      obtain rfl : found = record := Option.some.inj (seen.symm.trans stored)
      obtain ⟨device, live, isLive, named, driven, hasRole⟩ := fields.driven
      exact ⟨Option.isSome_iff_exists.mpr ⟨_, hasRole⟩, fields.numberVoid⟩
    · rw [get?_checkDrift_of_unpublished published] at stored
      exact holds uniqueId record stored
  have forgets : ∀ (supersededBy : Option String) (original : Option EndpointRecord)
      (record : EndpointRecord),
      original.map (EndpointMapStore.forgotten supersededBy) = some record →
      (∀ found, original = some found →
        found.role.isSome = true ∧ found.numberVoid = false) →
      record.role.isSome = true ∧ record.numberVoid = false := by
    intro supersededBy original record forgot holds
    obtain ⟨found, rfl, rfl⟩ := Option.map_eq_some_iff.mp forgot
    simpa using holds found rfl
  have removes : ∀ hard, (node.forgetRemoved disk before hard).Recorded := by
    intro hard uniqueId record stored
    by_cases departed : uniqueId ∈ before.keys ∧ ¬node.registry.Publishes uniqueId
    · cases hard with
      | true =>
          rw [get?_forgetRemoved_hard departed.1 departed.2] at stored
          cases stored
      | false =>
          obtain ⟨supersededBy, forgot⟩ :=
            @get?_forgetRemoved_soft disk node before uniqueId departed.1 departed.2
          exact forgets supersededBy _ record (forgot.symm.trans stored) (recorded uniqueId)
    · rw [get?_forgetRemoved_of_stays (by tauto)] at stored
      exact recorded uniqueId record stored
  cases command with
  | reconcile endpoints replaceAll => exact checks _ (removes false)
  | removeEndpoint indigoDeviceId => exact checks _ (removes true)
  | upsertEndpoint spec =>
      simp only [cleanUp]
      split
      · intro uniqueId record stored
        rw [get?_noteSupersession] at stored
        split at stored
        · exact forgets _ _ record stored (checks node recorded uniqueId)
        · exact checks node recorded uniqueId record stored
      · exact checks node recorded

/-- The clean-up of a reconcile orphans what is departed. -/
theorem orphaned_cleanUp {before : InsertionMap String Int} {succeeded : Bool}
    {command : NodeCommand} (soft : command.isReconcile = true) (recorded : node.Recorded)
    (known : uniqueId ∈ before.keys) (departed : ¬node.registry.Publishes uniqueId)
    (stored : (node.cleanUp disk before succeeded command).endpointMap.endpoints.get? uniqueId =
      some record) : record.orphaned = true := by
  cases command with
  | upsertEndpoint spec => cases soft
  | removeEndpoint indigoDeviceId => cases soft
  | reconcile endpoints replaceAll =>
      have unpublished : ¬(node.forgetRemoved disk before false).registry.Publishes uniqueId := by
        rwa [forgetRemoved_registry]
      obtain ⟨supersededBy, forgot⟩ :=
        @get?_forgetRemoved_soft disk node before uniqueId known departed
      rw [cleanUp, get?_checkDrift_of_unpublished unpublished, forgot] at stored
      obtain ⟨original, found, rfl⟩ := Option.map_eq_some_iff.mp stored
      exact EndpointMapStore.forgotten_orphaned _ (.inl (recorded uniqueId original found).1)

end Node

/-! ## Runs -/

namespace Concurrent

/-- What holds of the commands in flight as long as nothing interferes: what a
removal has in its snapshot is live or was taken by its own registry part, and
what a reconcile took is in its snapshot. -/
structure Undisturbed (state : Concurrent) : Prop where
  recorded : state.node.Recorded
  waiting : ∀ command ∈ state.waiting, command.command.isRemove = true →
    ∀ uniqueId ∈ command.before.keys, state.node.registry.Publishes uniqueId
  removed : ∀ done ∈ state.ran, done.command.isRemove = true →
    ∀ uniqueId ∈ done.before.keys, state.node.registry.Publishes uniqueId ∨ uniqueId ∈ done.took
  reconciled : ∀ done ∈ state.ran, done.command.isReconcile = true →
    ∀ uniqueId ∈ done.took, uniqueId ∈ done.before.keys

theorem undisturbed_fresh (path : String) : (fresh path).Undisturbed := by
  constructor
  · intro uniqueId record stored
    cases stored
  · intro command member
    cases member
  · intro done member
    cases member
  · intro done member
    cases member

/-- What a registry part takes, when it does not interfere, is in the snapshot of
no other removal, and in its own when it is a reconcile. -/
theorem spared_of_not_interferes {state : Concurrent} {matter : Matter} {head : Waiting}
    {rest : List Waiting} (queue : state.waiting = head :: rest)
    (quiet : state.interferes (.run matter) = false) {uniqueId : String}
    (took : uniqueId ∈ taken state.node.registry
      (finalState (head.command.run matter state.node.registry))) :
    (∀ before ∈ removalSnapshots rest state.ran, uniqueId ∉ before.keys) ∧
      (head.command.isReconcile = true → uniqueId ∈ head.before.keys) := by
  simp only [interferes, queue, List.any_eq_false] at quiet
  have spared := quiet uniqueId took
  simp only [Bool.or_eq_true, not_or, List.any_eq_true, not_exists, not_and,
    Bool.and_eq_true, Bool.not_eq_true', Bool.not_eq_false, InsertionMap.has_iff] at spared
  exact spared

theorem undisturbed_afterRun {state : Concurrent} {matter : Matter} {head : Waiting}
    {rest : List Waiting} (queue : state.waiting = head :: rest)
    (quiet : state.interferes (.run matter) = false) (holds : state.Undisturbed) :
    (state.afterRun matter head rest).Undisturbed := by
  have stays : ∀ {before : InsertionMap String Int} {uniqueId : String},
      before ∈ removalSnapshots rest state.ran → uniqueId ∈ before.keys →
      state.node.registry.Publishes uniqueId →
      (state.afterRun matter head rest).node.registry.Publishes uniqueId := by
    intro before uniqueId listed known published
    by_contra gone
    exact (spared_of_not_interferes queue quiet (mem_taken_iff.mpr ⟨published, gone⟩)).1 before
      listed known
  constructor
  · exact holds.recorded
  · intro waiting member removes uniqueId known
    have listed : waiting.before ∈ removalSnapshots rest state.ran :=
      List.mem_append_left _ (List.mem_map_of_mem (List.mem_filter.mpr ⟨member, removes⟩))
    have queued : waiting ∈ state.waiting := queue ▸ List.mem_cons_of_mem head member
    exact stays listed known (holds.waiting waiting queued removes uniqueId known)
  · intro done member removes uniqueId known
    rcases List.mem_append.mp member with earlier | new
    · have listed : done.before ∈ removalSnapshots rest state.ran :=
        List.mem_append_right _ (List.mem_map_of_mem (List.mem_filter.mpr ⟨earlier, removes⟩))
      exact (holds.removed done earlier removes uniqueId known).imp_left (stays listed known)
    · obtain rfl := List.mem_singleton.mp new
      have queued : head ∈ state.waiting := queue ▸ List.mem_cons_self
      have published := holds.waiting head queued removes uniqueId known
      by_cases still : (state.afterRun matter head rest).node.registry.Publishes uniqueId
      · exact .inl still
      · exact .inr (mem_taken_iff.mpr ⟨published, still⟩)
  · intro done member reconciles uniqueId took
    rcases List.mem_append.mp member with earlier | new
    · exact holds.reconciled done earlier reconciles uniqueId took
    · obtain rfl := List.mem_singleton.mp new
      exact (spared_of_not_interferes queue quiet took).2 reconciles

theorem cleanUp_registry (disk : Disk) (before : InsertionMap String Int) (succeeded : Bool)
    (command : NodeCommand) (node : Node) :
    (node.cleanUp disk before succeeded command).registry = node.registry := by
  cases command with
  | reconcile endpoints replaceAll => exact Node.forgetRemoved_registry
  | removeEndpoint indigoDeviceId => exact Node.forgetRemoved_registry
  | upsertEndpoint spec =>
      simp only [Node.cleanUp]
      split
      · exact Node.noteSupersession_registry
      · rfl

theorem undisturbed_step {disk : Disk} {state next : Concurrent} {event : CallEvent}
    (holds : state.Undisturbed) (quiet : state.interferes event = false)
    (taken : step disk state event = some next) : next.Undisturbed := by
  cases event with
  | call command =>
      obtain rfl := Option.some.inj taken
      refine ⟨holds.recorded, ?_, holds.removed, holds.reconciled⟩
      intro waiting member removes uniqueId known
      rcases List.mem_append.mp member with earlier | new
      · exact holds.waiting waiting earlier removes uniqueId known
      · obtain rfl := List.mem_singleton.mp new
        exact mem_snapshot_iff.mp known
  | run matter =>
      rw [step] at taken
      cases queue : state.waiting with
      | nil => simp [queue] at taken
      | cons head rest =>
          rw [queue] at taken
          obtain rfl := Option.some.inj taken
          exact undisturbed_afterRun queue quiet holds
  | finish index =>
      obtain ⟨done, -, rfl⟩ := Option.map_eq_some_iff.mp taken
      constructor
      · exact Node.recorded_cleanUp holds.recorded
      · intro waiting member removes uniqueId known
        rw [cleanUp_registry]
        exact holds.waiting waiting member removes uniqueId known
      · intro other member removes uniqueId known
        rw [cleanUp_registry]
        exact holds.removed other (List.mem_of_mem_eraseIdx member) removes uniqueId known
      · intro other member
        exact holds.reconciled other (List.mem_of_mem_eraseIdx member)

/-- The record of an identity over one event: it is kept, with its number, and
stays orphaned while the identity is not live; or it is destroyed, by the
clean-up of a `removeEndpoint` whose own registry part took the identity. -/
def KeepsOrOwns (state next : Concurrent) (event : CallEvent) : Prop :=
  ∀ uniqueId record, state.node.endpointMap.endpoints.get? uniqueId = some record →
    (∃ after, next.node.endpointMap.endpoints.get? uniqueId = some after ∧
      after.number = record.number ∧
      (record.orphaned = true → ¬state.node.registry.Publishes uniqueId →
        after.orphaned = true)) ∨
    ∃ index done indigoDeviceId, event = .finish index ∧ state.ran[index]? = some done ∧
      done.command = .removeEndpoint indigoDeviceId ∧ uniqueId ∈ done.took

/-- After the clean-up of a reconcile, what its registry part took and nothing
has published again is an orphan, as far as it has a record. -/
def OrphansTaken (state next : Concurrent) (event : CallEvent) : Prop :=
  ∀ index done, event = .finish index → state.ran[index]? = some done →
    done.command.isReconcile = true → ∀ uniqueId ∈ done.took,
      ¬state.node.registry.Publishes uniqueId →
      ∀ after, next.node.endpointMap.endpoints.get? uniqueId = some after →
        after.orphaned = true

/-- The registry part of a `removeEndpoint` takes at most the identity that is
live on its device. -/
def TakesOwn (state : Concurrent) : Prop :=
  ∀ matter head rest indigoDeviceId, state.waiting = head :: rest →
    head.command = .removeEndpoint indigoDeviceId →
    ∀ uniqueId ∈ taken state.node.registry
      (finalState (head.command.run matter state.node.registry)),
      ∃ live, state.node.registry.live.get? indigoDeviceId = some live ∧
        live.publishedAs = uniqueId

theorem taken_remove {matter : Matter} {registry : Registry} {indigoDeviceId : Int}
    {uniqueId : String} (took : uniqueId ∈ taken registry
      (finalState (NodeCommand.run matter (.removeEndpoint indigoDeviceId) registry))) :
    ∃ live, registry.live.get? indigoDeviceId = some live ∧ live.publishedAs = uniqueId := by
  obtain ⟨published, gone⟩ := mem_taken_iff.mp took
  have ran : wp (NodeCommand.run matter (.removeEndpoint indigoDeviceId))
      (fun _ final => ¬final.Publishes uniqueId →
        ∃ live, registry.live.get? indigoDeviceId = some live ∧ live.publishedAs = uniqueId)
      (fun _ final => ¬final.Publishes uniqueId →
        ∃ live, registry.live.get? indigoDeviceId = some live ∧ live.publishedAs = uniqueId)
      registry := by
    simp only [NodeCommand.run, remove, wp_bind, wp_get]
    cases stored : registry.live.get? indigoDeviceId with
    | none => exact fun gone => absurd published gone
    | some live =>
        rw [wp_bind]
        refine wp_mono closeOne_spec ?_ ?_
        · rintro _ final ⟨-, liveEq, -⟩ gone
          rcases (publishes_of_get? stored).mp published with own | elsewhere
          · exact ⟨live, rfl, own⟩
          · exact absurd ((publishes_delete liveEq).mpr elsewhere) gone
        · rintro _ final ⟨-, ⟨watching, liveEq⟩, -⟩ gone
          exact absurd ((publishes_rewrite stored liveEq rfl).mpr published) gone
  exact final_of_wp (fun final : Registry => ¬final.Publishes uniqueId →
    ∃ live, registry.live.get? indigoDeviceId = some live ∧ live.publishedAs = uniqueId) ran gone

/-- A hard removal destroys only what it removed.  In every run in which no
registry part interferes with another command in flight, every further event
keeps the number of every record, except that the clean-up of a
`removeEndpoint` destroys what its own registry part took, which is at most the
identity of its device; and the clean-up of a reconcile orphans what it took. -/
theorem removal_destroys_own {disk : Disk} {path : String} {events : List CallEvent}
    {state : Concurrent}
    (run : RunWhere (step disk) (fun state event => state.interferes event = false)
      (fresh path) events state) :
    state.TakesOwn ∧
      ∀ event next, step disk state event = some next →
        KeepsOrOwns state next event ∧ OrphansTaken state next event := by
  have holds : state.Undisturbed := run.invariant (undisturbed_fresh path)
    fun before event after holds quiet taken => undisturbed_step holds quiet taken
  refine ⟨?_, ?_⟩
  · rintro matter head rest indigoDeviceId - removes uniqueId took
    rw [removes] at took
    exact taken_remove took
  · intro event next stepped
    constructor
    · intro uniqueId record recorded
      have trusted := (holds.recorded uniqueId record recorded).2
      cases event with
      | call command =>
          obtain rfl := Option.some.inj stepped
          exact .inl ⟨record, recorded, rfl, fun orphaned _ => orphaned⟩
      | run matter =>
          rw [step] at stepped
          cases queue : state.waiting with
          | nil => simp [queue] at stepped
          | cons head rest =>
              rw [queue] at stepped
              obtain rfl := Option.some.inj stepped
              exact .inl ⟨record, recorded, rfl, fun orphaned _ => orphaned⟩
      | finish index =>
          obtain ⟨done, found, rfl⟩ := Option.map_eq_some_iff.mp stepped
          have member : done ∈ state.ran := List.mem_of_getElem? found
          by_cases own : done.command.isRemove = true ∧ uniqueId ∈ done.took
          · right
            cases command : done.command with
            | reconcile endpoints replaceAll => simp [command, NodeCommand.isRemove] at own
            | upsertEndpoint spec => simp [command, NodeCommand.isRemove] at own
            | removeEndpoint indigoDeviceId =>
                exact ⟨index, done, indigoDeviceId, rfl, found, command, own.2⟩
          · left
            have spared : done.command.isRemove = true → uniqueId ∈ done.before.keys →
                state.node.registry.Publishes uniqueId := fun removes known =>
              (holds.removed done member removes uniqueId known).resolve_right
                fun took => own ⟨removes, took⟩
            obtain ⟨after, stored, kept⟩ := Node.keptRecord_cleanUp trusted recorded spared
            exact ⟨after, stored, kept.number, kept.orphaned⟩
    · rintro index done rfl found soft uniqueId took departed after stored
      obtain ⟨other, same, rfl⟩ := Option.map_eq_some_iff.mp stepped
      obtain rfl : done = other := Option.some.inj (found.symm.trans same)
      have known := holds.reconciled done (List.mem_of_getElem? found) soft uniqueId took
      exact Node.orphaned_cleanUp soft holds.recorded known departed stored

/-! ## A removal that destroys another command's orphan -/

/-- Two lights are exported. -/
def exportBoth : List CallEvent :=
  [.call (.reconcile [lightSpec 7 "indigo-7", lightSpec 8 "indigo-8"] false), .run .sound,
    .finish 0]

/-- Light 7 is un-exported, and then light 8 is removed. -/
def oneAfterTheOther : List CallEvent :=
  exportBoth ++ [.call (.reconcile [lightSpec 8 "indigo-8"] false), .run .sound, .finish 0,
    .call (.removeEndpoint 8), .run .sound]

/-- The same, but the removal is called while the un-export waits. -/
def overlapping : List CallEvent :=
  exportBoth ++ [.call (.reconcile [lightSpec 8 "indigo-8"] false), .call (.removeEndpoint 8),
    .run .sound, .finish 0, .run .sound]

/-- The state after a list of events that can all happen. -/
def play (events : List CallEvent) : Concurrent :=
  ((follow (step Node.soundDisk) (fun _ _ => True) (fresh "endpoint-map.json") events)).getD
    (fresh "endpoint-map.json")

/-- Called one after the other, the removal keeps the orphan. -/
theorem orphan_kept_one_after_the_other :
    KeepsOrOwns (play oneAfterTheOther) (play (oneAfterTheOther ++ [.finish 0]))
      (.finish 0) := by
  have run : RunWhere (step Node.soundDisk) (fun state event => state.interferes event = false)
      (fresh "endpoint-map.json") oneAfterTheOther (play oneAfterTheOther) :=
    runWhere_of_follow (by rfl)
  have stepped : step Node.soundDisk (play oneAfterTheOther) (.finish 0) =
      some (play (oneAfterTheOther ++ [.finish 0])) := rfl
  exact ((removal_destroys_own run).2 _ _ stepped).1

/-- Called while the un-export waits, the removal of device 8 destroys the record
of the identity that the un-export has just orphaned. -/
theorem overlapping_removal_destroys_orphan :
    ¬ ∀ (disk : Disk) (path : String) (events : List CallEvent) (state : Concurrent),
      Run (step disk) (fresh path) events state →
        ∀ event next, step disk state event = some next → KeepsOrOwns state next event := by
  intro claimed
  have run : Run (step Node.soundDisk) (fresh "endpoint-map.json") overlapping
      (play overlapping) := runWhere_of_follow (by rfl)
  have stepped : step Node.soundDisk (play overlapping) (.finish 0) =
      some (play (overlapping ++ [.finish 0])) := rfl
  have orphan : ((play overlapping).node.endpointMap.endpoints.get? "indigo-7").map
      EndpointRecord.orphaned = some true := by decide
  have gone : (play (overlapping ++ [.finish 0])).node.endpointMap.endpoints.get? "indigo-7" =
      none := by decide
  have own : (play overlapping).ran.map Ran.took = [["indigo-8"]] := by decide
  obtain ⟨record, recorded, -⟩ := Option.map_eq_some_iff.mp orphan
  rcases claimed _ _ _ _ run _ _ stepped "indigo-7" record recorded with
    ⟨after, stored, -⟩ | ⟨index, done, indigoDeviceId, -, found, -, took⟩
  · rw [gone] at stored
    cases stored
  · have listed := List.mem_map_of_mem (f := Ran.took) (List.mem_of_getElem? found)
    rw [own, List.mem_singleton] at listed
    rw [listed] at took
    exact absurd took (by decide)

end Concurrent

end IndigoMatter.Bridge
