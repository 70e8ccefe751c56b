import IndigoMatter.Bridge.NodeLifecycle

/-!
# Losing the last fabric

matter.js erases itself when its last fabric leaves, its endpoint numbers
included.  The node is to follow: the recorded numbers become void and the
commissioning witness goes, so that the next start does not take a deliberate
unpairing for lost storage.

The node does this only when its identity in memory carries the witness, and a
start that refuses does not stamp it.  A bridge that is paired, whose map is
unreadable and whose `identity.json` has no witness, refuses and is rebuilt; it
then serves without one, and keeps the numbers when the last fabric leaves.
-/

namespace IndigoMatter.Bridge

open IndigoMatter.Library

/-! ## Void numbers -/

/-- Every recorded number is void. -/
def EndpointMapStore.allVoid (store : EndpointMapStore) : Bool :=
  store.endpoints.values.all EndpointRecord.numberVoid

theorem EndpointMapStore.allVoid_iff {store : EndpointMapStore} :
    store.allVoid = true ↔ ∀ uniqueId record, store.endpoints.get? uniqueId = some record →
      record.numberVoid = true := by
  rw [allVoid, List.all_eq_true]
  constructor
  · intro void uniqueId record stored
    exact void record (InsertionMap.mem_values_iff.mpr ⟨uniqueId, stored⟩)
  · intro void record member
    rcases InsertionMap.mem_values_iff.mp member with ⟨uniqueId, stored⟩
    exact void uniqueId record stored

theorem Node.allVoid_voidNumbers (disk : Disk) (node : Node) :
    (node.voidNumbers disk).endpointMap.allVoid = true := by
  rw [EndpointMapStore.allVoid_iff]
  intro uniqueId record stored
  unfold voidNumbers at stored
  split at stored
  · rename_i filled
    rw [EndpointMapStore.voidNumbers,
      if_neg (show node.endpointMap.endpoints.size ≠ 0 from Nat.ne_of_gt filled)] at stored
    simp only [EndpointMapStore.persist_endpoints, InsertionMap.get?_mapValues] at stored
    rcases Option.map_eq_some_iff.mp stored with ⟨before, -, rfl⟩
    rfl
  · rename_i empty
    have member := InsertionMap.mem_entries_iff.mpr stored
    exact absurd (List.length_pos_of_mem member) empty

namespace BridgeNode

/-! ## What is to hold of a step -/

/-- Whether everything an event asks of the fabric table and of `identity.json`
succeeds. -/
def BridgeEvent.succeeds : BridgeEvent → Bool
  | .start _ boot => boot.lands
  | .fabricsChanged _ _ answers | .removeFabric _ _ answers | .factoryReset _ _ _ answers
  | .rebuildEndpointMap answers => answers.readable && answers.lands
  | .stop | .call _ | .outside _ => true

/-- Whether an event is a factory reset. -/
def BridgeEvent.isReset : BridgeEvent → Bool
  | .factoryReset _ _ _ _ => true
  | _ => false

/-- A running node has gone from at least one fabric to none. -/
def LastFabricGone (before after : BridgeNode) : Prop :=
  before.running = true ∧ before.fabrics ≠ [] ∧ after.fabrics = []

/-- No next start refuses because fabric storage was lost. -/
def StartsPaired (bridge : BridgeNode) : Prop :=
  ∀ disk matter boot next, bridge.start disk matter boot = some next →
    next.refusal ≠ some .fabricStorageLost

/-- The node has followed an event.  When the last fabric went, the recorded
numbers are void and the witness is cleared; and after that, or after a reset, the
next start does not blame lost storage, if reads and writes succeeded. -/
structure Handled (event : BridgeEvent) (before after : BridgeNode) : Prop where
  voided : LastFabricGone before after →
    (∀ uniqueId record, after.endpointMap.endpoints.get? uniqueId = some record →
      record.numberVoid = true) ∧ after.identity.commissionedAt = none
  startsPaired : event.succeeds = true →
    event.isReset = true ∨ LastFabricGone before after → after.StartsPaired

/-! ## When it does -/

/-- The node is ready to lose its last fabric: the fabrics can be read, it knows
of one, and its identity carries the witness; or it has nothing to do. -/
def readyToLose (answers : Answers) (bridge : BridgeNode) : Bool :=
  (answers.readable && decide (0 < bridge.fabricCount) &&
      bridge.identity.commissionedAt.isSome) ||
    (bridge.identity.commissionedAt.isNone && bridge.endpointMap.allVoid &&
      (!(answers.readable && answers.lands) || bridge.identityFile.witness.isNone))

/-- The node is ready for an event.  A reset needs the witness in memory, if it
is on disk. -/
def prepared (bridge : BridgeNode) : BridgeEvent → Bool
  | .fabricsChanged fabrics _ answers =>
      bridge.fabrics = [] || fabrics ≠ [] || bridge.readyToLose answers
  | .removeFabric fabricIndex _ answers =>
      bridge.fabrics = [] || bridge.fabrics.erase fabricIndex ≠ [] || bridge.readyToLose answers
  | .factoryReset _ _ _ answers =>
      !(answers.readable && answers.lands) || bridge.identity.commissionedAt.isSome ||
        bridge.identityFile.witness.isNone
  | _ => true

/-! ## The next start -/

/-- What a start settles about the identity: it is unreadable, or it carries the
witness that is on disk. -/
structure Identified (bridge identified : BridgeNode) : Prop where
  fabrics : identified.fabrics = bridge.fabrics
  outcome :
    bridge.identityProblem = true ∧ identified.refusal = some .identityUnreadable ∧
      identified.identityFile.witness = none ∨
    bridge.identityProblem = false ∧ identified.refusal = none ∧
      identified.identity.commissionedAt = bridge.identityFile.witness ∧
      identified.identityFile.witness = bridge.identityFile.witness

theorem quarantineIdentity_witness {bridge : BridgeNode} (unreadable : bridge.identityProblem = true)
    (boot : Boot) : (bridge.quarantineIdentity boot).identityFile.witness = none := by
  rw [identityProblem] at unreadable
  unfold quarantineIdentity
  split
  · rfl
  · cases stands : bridge.identityFile with
    | usable identity => simp [stands] at unreadable
    | _ => rfl

theorem identified_of_identify {bridge identified : BridgeNode} {boot : Boot}
    (found : bridge.identify boot = some identified) : Identified bridge identified := by
  unfold identify at found
  split at found
  · rename_i unreadable
    cases found
    constructor
    · unfold quarantineIdentity
      split <;> rfl
    · exact .inl ⟨unreadable, rfl, quarantineIdentity_witness unreadable boot⟩
  · rename_i readable
    rw [Bool.not_eq_true] at readable
    have sound := readable
    rw [identityProblem] at sound
    unfold loadOrCreateIdentity at found
    cases stands : bridge.identityFile with
    | unusable => simp [stands] at sound
    | usable identity =>
        simp only [stands] at found
        cases found
        constructor
        · rfl
        · right
          rw [stands]
          exact ⟨readable, rfl, rfl, rfl⟩
    | absent =>
        simp only [stands] at found
        split at found
        · cases found
          constructor
          · rfl
          · right
            rw [stands]
            exact ⟨readable, rfl, rfl, rfl⟩
        · cases found

theorem identify_of_usable {bridge : BridgeNode} {identity : BridgeIdentity}
    (stands : bridge.identityFile = .usable identity) (boot : Boot) :
    bridge.identify boot = some { bridge with refusal := none, identity := identity } := by
  simp [identify, identityProblem, loadOrCreateIdentity, stands]

theorem refuseReasonFor_eq_fabricStorageLost_iff {state : EndpointIdentityState} :
    refuseReasonFor state = some .fabricStorageLost ↔
      state.commissioned = false ∧ state.commissionedAt.isSome = true := by
  unfold refuseReasonFor
  cases state.commissioned with
  | true => cases state.mapProblem <;> simp
  | false => cases state.commissionedAt <;> simp

theorem assertEndpointIdentity_refusal (disk : Disk) (answers : Answers) (bridge : BridgeNode) :
    (bridge.assertEndpointIdentity disk answers).refusal =
      bridge.refusal.or (refuseReasonFor ⟨decide (bridge.fabrics ≠ []),
        bridge.endpointMap.problem, bridge.identity.commissionedAt⟩) := by
  unfold assertEndpointIdentity
  cases refuses : bridge.refusal with
  | some reason => simpa using refuses
  | none =>
      dsimp only
      rw [Option.isSome_none, if_neg Bool.false_ne_true, Option.none_or]
      split
      · rename_i serves
        rw [serves, noteCommissioningWitness_refusal]
        split <;> exact refuses
      · rename_i reason found
        exact found.symm

@[simp]
theorem withdrawRestoredIfRefusing_refusal (matter : Matter) (bridge : BridgeNode) :
    (bridge.withdrawRestoredIfRefusing matter).refusal = bridge.refusal := by
  unfold withdrawRestoredIfRefusing
  split <;> rfl

/-- What a started node refuses for, if for anything. -/
theorem start_refusal {disk : Disk} {matter : Matter} {boot : Boot} {bridge next : BridgeNode}
    (started : bridge.start disk matter boot = some next) :
    ∃ identified problem, bridge.identify boot = some identified ∧
      next.refusal = identified.refusal.or (refuseReasonFor
        ⟨decide (bridge.fabrics ≠ []), problem, identified.identity.commissionedAt⟩) := by
  rcases Option.map_eq_some_iff.mp started with ⟨identified, found, rfl⟩
  refine ⟨identified, (identified.restoreEndpoints matter).endpointMap.problem, found, ?_⟩
  rw [withdrawRestoredIfRefusing_refusal, assertEndpointIdentity_refusal,
    ← (identified_of_identify found).fabrics]
  rfl

/-- A start blames lost storage exactly when there is no fabric and a usable
`identity.json` carries the witness. -/
theorem startsPaired_iff {bridge : BridgeNode} :
    bridge.StartsPaired ↔ (bridge.fabrics = [] → bridge.identityFile.witness = none) := by
  constructor
  · intro starts unpaired
    cases stands : bridge.identityFile with
    | absent => rfl
    | unusable => rfl
    | usable identity =>
        cases witness : identity.commissionedAt with
        | none => exact witness
        | some stamped =>
            let boot : Boot := ⟨"", 0, 0, true, ""⟩
            have found := identify_of_usable stands boot
            have started : ∃ next, bridge.start (fun _ => true) .sound boot = some next := by
              rw [start, found, Option.map_some]
              exact ⟨_, rfl⟩
            rcases started with ⟨next, taken⟩
            have served := starts _ _ _ _ taken
            rcases start_refusal taken with ⟨identified, problem, again, refuses⟩
            rw [found, Option.some.injEq] at again
            subst again
            rw [refuses, Option.none_or, ne_eq, refuseReasonFor_eq_fabricStorageLost_iff] at served
            simp [unpaired, witness] at served
  · intro unwitnessed disk matter boot next started
    rcases start_refusal started with ⟨identified, problem, found, refuses⟩
    rw [refuses]
    rcases (identified_of_identify found).outcome with
      ⟨-, unreadable, -⟩ | ⟨-, serves, witness, -⟩
    · rw [unreadable]
      simp
    · rw [serves, Option.none_or, ne_eq, refuseReasonFor_eq_fabricStorageLost_iff]
      rintro ⟨unpaired, stamped⟩
      rw [witness, unwitnessed (by simpa using unpaired)] at stamped
      cases stamped

/-! ## One step -/

section Step

variable {disk : Disk} {answers : Answers} {bridge : BridgeNode}

/-- Without the witness a count of the fabrics changes nothing but the count. -/
theorem noteFabrics_of_unwitnessed (unwitnessed : bridge.identity.commissionedAt = none) :
    ∃ fabricCount, bridge.noteFabrics disk answers = { bridge with fabricCount := fabricCount } := by
  unfold noteFabrics noteLastFabricGone
  simp only [unwitnessed, Option.isNone_none, if_true, ite_self]
  split
  · exact ⟨_, rfl⟩
  · exact ⟨bridge.fabricCount, rfl⟩

@[simp]
theorem noteFabrics_fabrics : (bridge.noteFabrics disk answers).fabrics = bridge.fabrics := by
  unfold noteFabrics noteLastFabricGone
  dsimp only
  split
  · split
    · split <;> rfl
    · rfl
  · rfl

@[simp]
theorem clearWitness_commissionedAt :
    (bridge.clearWitness answers).identity.commissionedAt = none := by
  unfold clearWitness clearCommissioned
  cases witness : bridge.identity.commissionedAt with
  | none => simp [applyWitness, witness]
  | some stamped => rfl

/-- Clearing the witness takes it off the disk when there is one to clear and the
write lands. -/
theorem clearWitness_witness (lands : answers.lands = true) :
    (bridge.clearWitness answers).identityFile.witness = none ↔
      bridge.identity.commissionedAt.isSome = true ∨ bridge.identityFile.witness = none := by
  unfold clearWitness clearCommissioned
  cases witness : bridge.identity.commissionedAt with
  | none => simp [applyWitness]
  | some stamped => simp [applyWitness, IdentityFile.write, lands, IdentityFile.witness]

/-- What a count of the fabrics leaves when the last one has gone. -/
theorem noteFabrics_iff_readyToLose (gone : bridge.fabrics = []) :
    ((bridge.noteFabrics disk answers).endpointMap.allVoid = true ∧
      (bridge.noteFabrics disk answers).identity.commissionedAt = none ∧
      ((answers.readable && answers.lands) = true →
        (bridge.noteFabrics disk answers).identityFile.witness = none)) ↔
    bridge.readyToLose answers = true := by
  by_cases follows : answers.readable = true ∧ 0 < bridge.fabricCount ∧
      bridge.identity.commissionedAt.isSome = true
  · rcases follows with ⟨readable, known, witness⟩
    have cleared : bridge.noteFabrics disk answers =
        (({ bridge with fabricCount := 0 }).clearWitness answers).modifyNode fun node =>
          { node.voidNumbers disk with drift := [] } := by
      simp [noteFabrics, noteLastFabricGone, readable, known, gone,
        Option.isNone_eq_false_iff.mpr witness]
    apply iff_of_true
    · rw [cleared]
      refine ⟨Node.allVoid_voidNumbers disk _, clearWitness_commissionedAt, ?_⟩
      intro succeeds
      rw [readable, Bool.true_and] at succeeds
      exact (clearWitness_witness succeeds).mpr (.inl witness)
    · simp [readyToLose, readable, known, witness]
  · have kept : ∃ fabricCount, bridge.noteFabrics disk answers =
        { bridge with fabricCount := fabricCount } := by
      cases witness : bridge.identity.commissionedAt with
      | none => exact noteFabrics_of_unwitnessed witness
      | some stamped =>
          unfold noteFabrics
          split
          · rename_i readable
            rw [if_neg]
            · exact ⟨_, rfl⟩
            · rintro ⟨known, -⟩
              exact follows ⟨readable, known, by simp [witness]⟩
          · exact ⟨bridge.fabricCount, rfl⟩
    rcases kept with ⟨fabricCount, same⟩
    have notFollowing : (answers.readable && decide (0 < bridge.fabricCount) &&
        bridge.identity.commissionedAt.isSome) = false := by
      rw [Bool.eq_false_iff]
      intro all
      rw [Bool.and_eq_true, Bool.and_eq_true, decide_eq_true_eq] at all
      exact follows ⟨all.1.1, all.1.2, all.2⟩
    rw [same, readyToLose, notFollowing, Bool.false_or]
    change (bridge.endpointMap.allVoid = true ∧ bridge.identity.commissionedAt = none ∧
      (_ → bridge.identityFile.witness = none)) ↔ _
    simp only [Bool.and_eq_true, Bool.or_eq_true, Bool.not_eq_true', Bool.and_eq_false_iff,
      Option.isNone_iff_eq_none]
    cases answers.readable <;> cases answers.lands <;> simp <;> tauto

@[simp]
theorem readyToLose_withFabrics (fabrics : List Nat) (numbers : Nat → Nat) :
    (bridge.withFabrics fabrics numbers).readyToLose answers = bridge.readyToLose answers := by
  simp [readyToLose]

/-- With no fabric there is no witness to stamp. -/
theorem fabricsChanged_of_gone (gone : bridge.fabrics = []) :
    bridge.fabricsChanged disk answers = bridge.noteFabrics disk answers := by
  unfold fabricsChanged
  split
  · rw [noteCommissioningWitness, if_pos (.inr (by rw [gone, List.length_nil]))]
  · rename_i unreadable
    rw [noteFabrics, if_neg unreadable]

theorem fabricsChanged_fabrics :
    (bridge.fabricsChanged disk answers).fabrics = bridge.fabrics := by
  unfold fabricsChanged
  split
  · rw [noteFabrics_fabrics, noteCommissioningWitness_fabrics]
  · rfl

theorem removeFabric_fabrics (fabricIndex : Nat) (numbers : Nat → Nat) :
    (bridge.removeFabric disk fabricIndex numbers answers).fabrics =
      bridge.fabrics.erase fabricIndex := by
  unfold removeFabric
  split
  · rw [noteFabrics_fabrics, withFabrics_fabrics]
  · rename_i unknown
    rw [noteFabrics_fabrics, List.erase_of_not_mem unknown]

theorem rebuildEndpointMap_fabrics :
    (bridge.rebuildEndpointMap disk answers).2.fabrics = bridge.fabrics := by
  unfold rebuildEndpointMap
  dsimp only
  split
  · rfl
  · split
    · dsimp only
      split <;> rfl
    · rfl

/-- What a factory reset leaves. -/
structure Reset (answers : Answers) (bridge final : BridgeNode) : Prop where
  fabrics : final.fabrics = []
  void : final.endpointMap.allVoid = true
  unwitnessed : final.identity.commissionedAt = none
  identityFile : final.identityFile = (bridge.clearWitness answers).identityFile

theorem reset_factoryReset (preserveEndpointNumbers deletes : Bool) (numbers : Nat → Nat) :
    Reset answers bridge
      (bridge.factoryReset disk preserveEndpointNumbers deletes numbers answers) := by
  have unwitnessed : (bridge.wiped preserveEndpointNumbers deletes numbers
      answers).identity.commissionedAt = none := clearWitness_commissionedAt
  have gone : (bridge.wiped preserveEndpointNumbers deletes numbers answers).fabrics = [] :=
    withFabrics_fabrics [] numbers bridge
  have file : (bridge.wiped preserveEndpointNumbers deletes numbers answers).identityFile =
      (bridge.clearWitness answers).identityFile := by
    simp [wiped, modifyNode, clearWitness, applyWitness]
  rcases @noteFabrics_of_unwitnessed disk answers _ unwitnessed with ⟨fabricCount, counted⟩
  unfold factoryReset
  rw [counted]
  cases preserveEndpointNumbers with
  | true => exact ⟨gone, Node.allVoid_voidNumbers _ _, unwitnessed, file⟩
  | false =>
      refine ⟨gone, ?_, unwitnessed, file⟩
      cases deletes <;> rfl

end Step

/-! ## Every step -/

variable {disk : Disk} {before after : BridgeNode} {event : BridgeEvent}

theorem handled_of_not_gone (stays : ¬LastFabricGone before after)
    (notReset : event.isReset = false) : Handled event before after := by
  constructor
  · exact fun gone => absurd gone stays
  · rintro - (reset | gone)
    · rw [notReset] at reset
      cases reset
    · exact absurd gone stays

theorem handled_of_stays (stays : before.fabrics ≠ [] → after.fabrics ≠ [])
    (notReset : event.isReset = false) : Handled event before after :=
  handled_of_not_gone (fun gone => stays gone.2.1 gone.2.2) notReset

theorem handled_iff_of_gone (gone : LastFabricGone before after) :
    Handled event before after ↔
      after.endpointMap.allVoid = true ∧ after.identity.commissionedAt = none ∧
        (event.succeeds = true → after.identityFile.witness = none) := by
  constructor
  · intro handled
    rcases handled.voided gone with ⟨void, cleared⟩
    refine ⟨EndpointMapStore.allVoid_iff.mpr void, cleared, fun succeeds => ?_⟩
    exact startsPaired_iff.mp (handled.startsPaired succeeds (.inr gone)) gone.2.2
  · rintro ⟨void, cleared, unwitnessed⟩
    constructor
    · exact fun _ => ⟨EndpointMapStore.allVoid_iff.mp void, cleared⟩
    · exact fun succeeds _ => startsPaired_iff.mpr fun _ => unwitnessed succeeds

/-- The step that takes the last fabric away. -/
theorem handled_iff_readyToLose {answers : Answers} {numbers : Nat → Nat}
    (running : before.running = true) (paired : before.fabrics ≠ [])
    (succeeds : event.succeeds = (answers.readable && answers.lands)) :
    Handled event before ((before.withFabrics [] numbers).noteFabrics disk answers) ↔
      before.readyToLose answers = true := by
  have gone : (before.withFabrics [] numbers).fabrics = [] := withFabrics_fabrics _ _ _
  have lost : LastFabricGone before ((before.withFabrics [] numbers).noteFabrics disk answers) :=
    ⟨running, paired, by rw [noteFabrics_fabrics, gone]⟩
  rw [handled_iff_of_gone lost, succeeds, noteFabrics_iff_readyToLose gone,
    readyToLose_withFabrics]

/-- A step is handled exactly when the node is prepared for it. -/
theorem handled_iff_prepared (taken : step disk before event = some after) :
    Handled event before after ↔ before.prepared event = true := by
  have idle (stopped : before.running = false) : ¬LastFabricGone before after := by
    intro gone
    rw [gone.1] at stopped
    cases stopped
  rcases step_cases taken with
    ⟨running, served⟩ | ⟨stopped, ⟨matter, boot, rfl, -⟩ | ⟨change, rfl, -⟩⟩
  · cases event with
    | start matter boot => cases served
    | outside change => cases served
    | stop =>
        cases served
        exact iff_of_true (handled_of_stays id rfl) rfl
    | call event =>
        rcases Option.map_eq_some_iff.mp served with ⟨calls, -, rfl⟩
        exact iff_of_true (handled_of_stays id rfl) rfl
    | rebuildEndpointMap answers =>
        cases served
        apply iff_of_true (handled_of_stays _ rfl) rfl
        rw [rebuildEndpointMap_fabrics]
        exact id
    | fabricsChanged fabrics numbers answers =>
        cases served
        by_cases lost : before.fabrics ≠ [] ∧ fabrics = []
        · rcases lost with ⟨paired, rfl⟩
          rw [fabricsChanged_of_gone (withFabrics_fabrics _ _ _),
            handled_iff_readyToLose running paired rfl]
          simp [prepared, paired]
        · apply iff_of_true (handled_of_stays _ rfl)
          · simp only [prepared, Bool.or_eq_true, decide_eq_true_eq]
            tauto
          · rw [fabricsChanged_fabrics, withFabrics_fabrics]
            tauto
    | removeFabric fabricIndex numbers answers =>
        cases served
        by_cases lost : before.fabrics ≠ [] ∧ before.fabrics.erase fabricIndex = []
        · rcases lost with ⟨paired, last⟩
          have known : fabricIndex ∈ before.fabrics := by
            by_contra unknown
            rw [List.erase_of_not_mem unknown] at last
            exact paired last
          rw [removeFabric, if_pos known, last, handled_iff_readyToLose running paired rfl]
          simp [prepared, paired, last]
        · apply iff_of_true (handled_of_stays _ rfl)
          · simp only [prepared, Bool.or_eq_true, decide_eq_true_eq]
            tauto
          · rw [removeFabric_fabrics]
            tauto
    | factoryReset preserveEndpointNumbers deletes numbers answers =>
        cases served
        have reset := @reset_factoryReset disk answers before preserveEndpointNumbers deletes
          numbers
        generalize before.factoryReset disk preserveEndpointNumbers deletes numbers answers =
          final at reset
        have handled : Handled (.factoryReset preserveEndpointNumbers deletes numbers answers)
            before final ↔ ((answers.readable && answers.lands) = true →
              final.identityFile.witness = none) := by
          constructor
          · intro handled succeeds
            exact startsPaired_iff.mp (handled.startsPaired succeeds (.inl rfl)) reset.fabrics
          · intro unwitnessed
            constructor
            · exact fun _ => ⟨EndpointMapStore.allVoid_iff.mp reset.void, reset.unwitnessed⟩
            · exact fun succeeds _ => startsPaired_iff.mpr fun _ => unwitnessed succeeds
        rw [handled, reset.identityFile]
        simp only [prepared, Bool.or_eq_true, Bool.not_eq_true', Option.isNone_iff_eq_none]
        cases lands : answers.lands with
        | false => simp
        | true =>
            rw [clearWitness_witness lands]
            cases answers.readable <;> simp
  · exact iff_of_true (handled_of_not_gone (idle stopped) rfl) rfl
  · exact iff_of_true (handled_of_not_gone (idle stopped) rfl) rfl

/-! ## Runs -/

/-- In a run whose every step finds the node prepared, every step is handled:
whenever the last fabric goes the recorded numbers are void and the witness is
cleared, and no deliberate unpairing or reset makes the next start blame lost
storage. -/
theorem every_step_handled {disk : Disk} {storagePath : String} {file : MapFile}
    {fabrics : List Nat} {identityFile : IdentityFile} {quarantined : Bool}
    {events : List BridgeEvent} {final : BridgeNode}
    (run : RunWhere (step disk) (fun bridge event => bridge.prepared event = true)
      (installed storagePath file fabrics identityFile quarantined) events final) :
    ∀ earlier event later, events = earlier ++ event :: later → ∃ before after,
      Run (step disk) (installed storagePath file fabrics identityFile quarantined) earlier
        before ∧ step disk before event = some after ∧ Handled event before after := by
  intro earlier event later same
  rcases run.at_event same with ⟨before, after, reached, ready, taken⟩
  refine ⟨before, after, ?_, taken, ?_⟩
  · exact reached.weaken fun _ _ _ => trivial
  · exact (handled_iff_prepared taken).mpr ready

/-! ## Where a node gets unprepared -/

/-- A start that stamps the witness of a paired bridge or finds it stamped: the
identity is usable, and carries the witness or comes with a usable map. -/
def stampsAtStart (bridge : BridgeNode) : BridgeEvent → Bool
  | .start _ _ =>
      bridge.fabrics = [] || (!bridge.identityProblem &&
        (bridge.identityFile.witness.isSome || bridge.endpointMap.load.problem.isNone))
  | _ => true

/-- A node that has counted its fabrics, and carries the witness when there is one
or when `identity.json` does. -/
structure Stamped (bridge : BridgeNode) : Prop where
  counted : bridge.fabricCount = bridge.fabrics.length
  paired : bridge.fabrics ≠ [] → bridge.identity.commissionedAt.isSome = true
  file : bridge.identityFile.witness.isSome = true →
    bridge.identity.commissionedAt.isSome = true

namespace Stamped

variable {disk : Disk} {answers : Answers} {bridge : BridgeNode}

theorem prepared (stamped : Stamped bridge) {event : BridgeEvent}
    (succeeds : event.succeeds = true) : bridge.prepared event = true := by
  have ready {answers : Answers} (readable : answers.readable = true)
      (fabrics : bridge.fabrics ≠ []) : bridge.readyToLose answers = true := by
    have known : 0 < bridge.fabricCount := by
      rw [stamped.counted]
      exact List.length_pos_iff.mpr fabrics
    simp [readyToLose, readable, known, stamped.paired fabrics]
  cases event with
  | fabricsChanged fabrics numbers answers =>
      by_cases unpaired : bridge.fabrics = []
      · simp [BridgeNode.prepared, unpaired]
      · have readable := (Bool.and_eq_true_iff.mp succeeds).1
        simp [BridgeNode.prepared, ready readable unpaired]
  | removeFabric fabricIndex numbers answers =>
      by_cases unpaired : bridge.fabrics = []
      · simp [BridgeNode.prepared, unpaired]
      · have readable := (Bool.and_eq_true_iff.mp succeeds).1
        simp [BridgeNode.prepared, ready readable unpaired]
  | factoryReset preserveEndpointNumbers deletes numbers answers =>
      cases witness : bridge.identity.commissionedAt with
      | some stamp => simp [BridgeNode.prepared, witness]
      | none =>
          have unwitnessed : bridge.identityFile.witness = none := by
            rw [← Option.not_isSome_iff_eq_none]
            intro carried
            have impossible := stamped.file carried
            rw [witness] at impossible
            cases impossible
          simp [BridgeNode.prepared, unwitnessed]
  | _ => rfl

/-- What the endpoint map depends on has no part in it. -/
theorem modifyNode (stamped : Stamped bridge) (change : Node → Node) :
    Stamped (bridge.modifyNode change) :=
  ⟨stamped.counted, stamped.paired, stamped.file⟩

theorem clearWitness (stamped : Stamped bridge) (gone : bridge.fabrics = [])
    (lands : answers.lands = true) : Stamped (bridge.clearWitness answers) := by
  have unwitnessed : (bridge.clearWitness answers).identityFile.witness = none := by
    rw [clearWitness_witness lands]
    cases carried : bridge.identityFile.witness with
    | none => exact .inr rfl
    | some stamp => exact .inl (stamped.file (by simp [carried]))
  constructor
  · exact stamped.counted
  · exact fun paired => absurd gone paired
  · intro carried
    rw [unwitnessed] at carried
    cases carried

/-- Counting the fabrics stamps a node that has followed the witness. -/
theorem noteFabrics (readable : answers.readable = true) (lands : answers.lands = true)
    (paired : bridge.fabrics ≠ [] → bridge.identity.commissionedAt.isSome = true)
    (file : bridge.identityFile.witness.isSome = true →
      bridge.identity.commissionedAt.isSome = true) :
    Stamped (bridge.noteFabrics disk answers) := by
  have counted : Stamped { bridge with fabricCount := bridge.fabrics.length } :=
    ⟨rfl, paired, file⟩
  unfold BridgeNode.noteFabrics noteLastFabricGone
  rw [if_pos readable]
  dsimp only
  split
  · rename_i lost
    split
    · exact counted
    · apply modifyNode
      exact counted.clearWitness (List.length_eq_zero_iff.mp lost.2) lands
  · exact counted

/-- What a look at the fabrics stamps. -/
theorem noteCommissioningWitness
    (file : bridge.identityFile.witness.isSome = true →
      bridge.identity.commissionedAt.isSome = true) :
    (bridge.fabrics ≠ [] →
      (bridge.noteCommissioningWitness answers).identity.commissionedAt.isSome = true) ∧
    ((bridge.noteCommissioningWitness answers).identityFile.witness.isSome = true →
      (bridge.noteCommissioningWitness answers).identity.commissionedAt.isSome = true) := by
  unfold BridgeNode.noteCommissioningWitness
  split
  · rename_i settled
    refine ⟨fun paired => ?_, file⟩
    rcases settled with witnessed | unpaired
    · exact witnessed
    · exact absurd (List.length_eq_zero_iff.mp unpaired) paired
  · rename_i unsettled
    have fresh : ¬bridge.identity.commissionedAt.isSome = true :=
      fun witnessed => unsettled (.inl witnessed)
    simp [applyWitness, markCommissioned, fresh]

theorem fabricsChanged (stamped : Stamped bridge) (readable : answers.readable = true)
    (lands : answers.lands = true) (fabrics : List Nat) (numbers : Nat → Nat) :
    Stamped ((bridge.withFabrics fabrics numbers).fabricsChanged disk answers) := by
  have file : (bridge.withFabrics fabrics numbers).identityFile.witness.isSome = true →
      (bridge.withFabrics fabrics numbers).identity.commissionedAt.isSome = true := by
    simpa using stamped.file
  have looked := @noteCommissioningWitness answers _ file
  unfold BridgeNode.fabricsChanged
  rw [if_pos readable]
  apply noteFabrics readable lands
  · rw [noteCommissioningWitness_fabrics]
    exact looked.1
  · exact looked.2

theorem removeFabric (stamped : Stamped bridge) (readable : answers.readable = true)
    (lands : answers.lands = true) (fabricIndex : Nat) (numbers : Nat → Nat) :
    Stamped (bridge.removeFabric disk fabricIndex numbers answers) := by
  unfold BridgeNode.removeFabric
  split
  · rename_i known
    apply noteFabrics readable lands
    · intro _
      rw [withFabrics_identity]
      exact stamped.paired (List.ne_nil_of_mem known)
    · simpa using stamped.file
  · exact noteFabrics readable lands stamped.paired stamped.file

theorem factoryReset (stamped : Stamped bridge) (readable : answers.readable = true)
    (lands : answers.lands = true) (preserveEndpointNumbers deletes : Bool)
    (numbers : Nat → Nat) :
    Stamped (bridge.factoryReset disk preserveEndpointNumbers deletes numbers answers) := by
  have gone : (bridge.wiped preserveEndpointNumbers deletes numbers answers).fabrics = [] :=
    withFabrics_fabrics [] numbers bridge
  have unwitnessed : (bridge.wiped preserveEndpointNumbers deletes numbers
      answers).identityFile.witness = none := by
    change ((bridge.withFabrics [] numbers).clearWitness answers).identityFile.witness = none
    rw [clearWitness_witness lands, withFabrics_identity, withFabrics_identityFile]
    cases carried : bridge.identityFile.witness with
    | none => exact .inr rfl
    | some stamp => exact .inl (stamped.file (by simp [carried]))
  have noted : Stamped ((bridge.wiped preserveEndpointNumbers deletes numbers
      answers).noteFabrics disk answers) := by
    apply noteFabrics readable lands
    · exact fun paired => absurd gone paired
    · intro carried
      rw [unwitnessed] at carried
      cases carried
  unfold BridgeNode.factoryReset
  cases preserveEndpointNumbers with
  | true => exact noted.modifyNode _
  | false => exact noted

theorem rebuildEndpointMap (stamped : Stamped bridge) (lands : answers.lands = true) :
    Stamped (bridge.rebuildEndpointMap disk answers).2 := by
  unfold BridgeNode.rebuildEndpointMap
  dsimp only
  split
  · exact stamped
  · split
    · dsimp only
      split
      · rename_i gone
        exact clearWitness ⟨stamped.counted, stamped.paired, stamped.file⟩ gone lands
      · exact ⟨stamped.counted, stamped.paired, stamped.file⟩
    · dsimp only
      exact stamped.modifyNode _

theorem assertEndpointIdentity (counted : bridge.fabricCount = bridge.fabrics.length)
    (file : bridge.identityFile.witness.isSome = true →
      bridge.identity.commissionedAt.isSome = true)
    (paired : bridge.fabrics ≠ [] → bridge.refusal = none ∧
      (bridge.identity.commissionedAt.isSome = true ∨ bridge.endpointMap.problem = none)) :
    Stamped (bridge.assertEndpointIdentity disk answers) := by
  have look {based : BridgeNode} (sameCount : based.fabricCount = bridge.fabricCount)
      (sameFabrics : based.fabrics = bridge.fabrics) (sameIdentity : based.identity = bridge.identity)
      (sameFile : based.identityFile = bridge.identityFile) :
      Stamped (based.noteCommissioningWitness answers) := by
    rw [← sameIdentity, ← sameFile] at file
    have looked := @noteCommissioningWitness answers based file
    constructor
    · rw [noteCommissioningWitness_fabrics, noteCommissioningWitness_fabricCount, sameCount,
        counted, sameFabrics]
    · rw [noteCommissioningWitness_fabrics]
      exact looked.1
    · exact looked.2
  unfold BridgeNode.assertEndpointIdentity
  split
  · rename_i refuses
    refine ⟨counted, fun fabrics => ?_, file⟩
    rw [(paired fabrics).1] at refuses
    cases refuses
  · dsimp only
    split
    · split
      · exact look rfl rfl rfl rfl
      · exact look rfl rfl rfl rfl
    · rename_i reason refuses
      refine ⟨counted, fun fabrics => ?_, file⟩
      rcases (paired fabrics).2 with witnessed | usable
      · exact witnessed
      · simp [refuseReasonFor, fabrics, usable] at refuses

/-- A start that looks at its fabrics leaves the node stamped when it stamps the
witness or finds it. -/
theorem start {matter : Matter} {boot : Boot} {next : BridgeNode}
    (stamps : bridge.stampsAtStart (.start matter boot) = true)
    (started : bridge.start disk matter boot = some next) : Stamped next := by
  rcases Option.map_eq_some_iff.mp started with ⟨identified, found, rfl⟩
  have settled := identified_of_identify found
  have loaded : (identified.restoreEndpoints matter).endpointMap = bridge.endpointMap.load := by
    rw [← identify_endpointMap found]
    rfl
  have file : identified.identityFile.witness.isSome = true →
      identified.identity.commissionedAt.isSome = true := by
    rcases settled.outcome with ⟨-, -, unwitnessed⟩ | ⟨-, -, memory, disk⟩
    · intro carried
      rw [unwitnessed] at carried
      cases carried
    · rw [memory, disk]
      exact id
  have asserted : Stamped (({ identified.restoreEndpoints matter with
      running := true, fabricCount := identified.fabrics.length }).assertEndpointIdentity disk
        ⟨true, boot.lands, boot.now⟩) := by
    apply assertEndpointIdentity
    · rfl
    · exact file
    · intro fabrics
      change identified.fabrics ≠ [] at fabrics
      rw [settled.fabrics] at fabrics
      change identified.refusal = none ∧ (identified.identity.commissionedAt.isSome = true ∨
        (identified.restoreEndpoints matter).endpointMap.problem = none)
      rw [loaded]
      simp only [stampsAtStart, fabrics, decide_false, Bool.false_or, Bool.and_eq_true,
        Bool.not_eq_true', Bool.or_eq_true, Option.isNone_iff_eq_none] at stamps
      rcases settled.outcome with ⟨unreadable, -⟩ | ⟨-, serves, memory, -⟩
      · rw [unreadable] at stamps
        cases stamps.1
      · rw [memory]
        exact ⟨serves, stamps.2⟩
  dsimp only
  unfold withdrawRestoredIfRefusing
  split
  · exact asserted
  · exact asserted.modifyNode _

end Stamped

theorem stamped_step {disk : Disk} {bridge next : BridgeNode} {event : BridgeEvent}
    (stamped : bridge.running = true → Stamped bridge)
    (succeeds : event.succeeds = true) (stamps : bridge.stampsAtStart event = true)
    (taken : step disk bridge event = some next) : next.running = true → Stamped next := by
  intro serving
  rcases step_cases taken with
    ⟨running, served⟩ | ⟨stopped, ⟨matter, boot, rfl, started⟩ | ⟨change, rfl, rfl⟩⟩
  · have holds := stamped running
    cases event with
    | start matter boot => cases served
    | outside change => cases served
    | stop =>
        cases served
        cases serving
    | call event =>
        rcases Option.map_eq_some_iff.mp served with ⟨calls, -, rfl⟩
        exact ⟨holds.counted, holds.paired, holds.file⟩
    | fabricsChanged fabrics numbers answers =>
        cases served
        rcases Bool.and_eq_true_iff.mp succeeds with ⟨readable, lands⟩
        exact holds.fabricsChanged readable lands fabrics numbers
    | removeFabric fabricIndex numbers answers =>
        cases served
        rcases Bool.and_eq_true_iff.mp succeeds with ⟨readable, lands⟩
        exact holds.removeFabric readable lands fabricIndex numbers
    | factoryReset preserveEndpointNumbers deletes numbers answers =>
        cases served
        rcases Bool.and_eq_true_iff.mp succeeds with ⟨readable, lands⟩
        exact holds.factoryReset readable lands preserveEndpointNumbers deletes numbers
    | rebuildEndpointMap answers =>
        cases served
        exact holds.rebuildEndpointMap (Bool.and_eq_true_iff.mp succeeds).2
  · exact Stamped.start stamps started
  · cases change <;> exact absurd serving (Bool.eq_false_iff.mp stopped)

/-- The node is prepared throughout a run in which every read and write of the
fabrics and of `identity.json` succeeds and every start stamps the witness of a
paired bridge or finds it stamped. -/
theorem prepared_of_stamping_run {disk : Disk} {storagePath : String} {file : MapFile}
    {fabrics : List Nat} {identityFile : IdentityFile} {quarantined : Bool}
    {events : List BridgeEvent} {final : BridgeNode}
    (run : RunWhere (step disk)
      (fun bridge event => event.succeeds = true ∧ bridge.stampsAtStart event = true)
      (installed storagePath file fabrics identityFile quarantined) events final) :
    RunWhere (step disk) (fun bridge event => bridge.prepared event = true)
      (installed storagePath file fabrics identityFile quarantined) events final := by
  apply @RunWhere.weaken_of_invariant _ _ _ _ _ _
    (fun bridge => bridge.running = true → Stamped bridge) _ _ _ _ _ run
  · intro running
    cases running
  · rintro bridge event next stamped ⟨succeeds, stamps⟩ taken
    exact stamped_step stamped succeeds stamps taken
  · rintro bridge event next stamped ⟨succeeds, -⟩ taken
    cases running : bridge.running with
    | true => exact (stamped running).prepared succeeds
    | false =>
        cases event with
        | start matter boot => rfl
        | outside change => rfl
        | _ => simp [step, running] at taken

/-- Everything an event asks for succeeds. -/
def sure : Answers := ⟨true, true, "2026-01-02T00:00:00.000Z"⟩

/-- A node that has never been started. -/
def brandNew : BridgeNode := installed "/bridge" .absent [] .absent false

/-- A bridge is started for the first time, paired, and exports a light. -/
def pairedEvents : List BridgeEvent :=
  .start .sound firstBoot :: .fabricsChanged [1] id sure ::
    commandEvents (.reconcile [lightSpec 7 "indigo-7"] false)

theorem unpairing_handled : ∃ before after,
    Run (step Node.soundDisk) brandNew pairedEvents before ∧
      step Node.soundDisk before (.removeFabric 1 id sure) = some after ∧
      Handled (.removeFabric 1 id sure) before after := by
  have run := @runWhere_follow_getD _ _ (step Node.soundDisk)
    (fun bridge event => bridge.prepared event = true) _ brandNew
    (pairedEvents ++ [.removeFabric 1 id sure]) (by decide +kernel) brandNew
  exact every_step_handled run pairedEvents (.removeFabric 1 id sure) [] rfl

/-- The paired bridge is stopped; its map becomes unreadable and `identity.json`
is restored from before the pairing.  The next start refuses, the map is rebuilt
and the light exported again. -/
def rebuiltEvents : List BridgeEvent :=
  pairedEvents ++
    [.stop, .outside (.identityFile (.usable (mintIdentity firstBoot)) false),
      .outside (.endpointMap (.unreadable "EIO")), .start .sound firstBoot,
      .rebuildEndpointMap sure] ++
    commandEvents (.reconcile [lightSpec 7 "indigo-7"] false)

/-- Removing the last fabric then leaves the recorded number trusted. -/
theorem unpairing_after_rebuild_not_handled :
    ¬ ∀ (disk : Disk) (storagePath : String) (file : MapFile) (fabrics : List Nat)
      (identityFile : IdentityFile) (quarantined : Bool) (events : List BridgeEvent)
      (event : BridgeEvent) (before after : BridgeNode),
      Run (step disk) (installed storagePath file fabrics identityFile quarantined) events
        before → step disk before event = some after → Handled event before after := by
  intro claimed
  have run := @runWhere_follow_getD _ _ (step Node.soundDisk) (fun _ _ => True) _ brandNew
    rebuiltEvents (by decide +kernel) brandNew
  have taken : ((step Node.soundDisk ((follow (step Node.soundDisk) (fun _ _ => True) brandNew
      rebuiltEvents).getD brandNew) (.removeFabric 1 id sure)).isSome) = true := by
    decide +kernel
  rcases Option.isSome_iff_exists.mp taken with ⟨after, left⟩
  have handled := claimed _ _ _ _ _ _ _ _ _ _ run left
  rw [handled_iff_prepared left] at handled
  exact absurd handled (by decide +kernel)

end BridgeNode

end IndigoMatter.Bridge
