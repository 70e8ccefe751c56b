import IndigoMatter.Bridge.Registry

/-!
# What each registry operation does

One specification for every operation of the registry, for both of its ways
out.  A specification names the new live set and the new children; the sinks
are left free, since nothing about ownership depends on them.  The two
predicates `creationFails` and `updateFails` say, before anything has run,
whether a creation or an update is going to throw.
-/

namespace IndigoMatter.Bridge

open IndigoMatter.Library

variable {matter : Matter} {registry : Registry}

section Leaves

variable {post : PUnit → Registry → Prop} {onThrow : Thrown → Registry → Prop}

theorem wp_call {request : MatterCall} :
    wp (call matter request) post onThrow registry ↔
      (matter.fault request = none → post ⟨⟩ registry) ∧
        ∀ message, matter.fault request = some message →
          onThrow (.matter message) registry := by
  unfold call
  cases matter.fault request <;> simp

theorem wp_orRefuse {α : Type} {value : Except ProtocolError α}
    {post : α → Registry → Prop} :
    wp (orRefuse value) post onThrow registry ↔
      (∀ result, value = .ok result → post result registry) ∧
        ∀ error, value = .error error → onThrow (.protocol error) registry := by
  cases value <;> simp [orRefuse]

theorem wp_watchCommands {id : String} {indigoDeviceId : Int} :
    wp (watchCommands matter id indigoDeviceId) post onThrow registry ↔
      (matter.fault (.watchCommands id indigoDeviceId) = none →
        post ⟨⟩ { registry with sinks := registry.sinks.set id indigoDeviceId }) ∧
      ∀ message, matter.fault (.watchCommands id indigoDeviceId) = some message →
        onThrow (.matter message) { registry with sinks := registry.sinks.delete id } := by
  simp [watchCommands, wp_call]

theorem wp_unwatch {live : LiveEndpoint} (kept : ∀ sinks, post ⟨⟩ { registry with sinks }) :
    wp (unwatch live) post onThrow registry := by
  unfold unwatch
  split
  · exact kept _
  · exact kept registry.sinks

theorem wp_require {indigoDeviceId : Int} {live : LiveEndpoint}
    {post : LiveEndpoint → Registry → Prop}
    (stored : registry.live.get? indigoDeviceId = some live) :
    wp (require indigoDeviceId) post onThrow registry ↔ post live registry := by
  simp [require, stored]

end Leaves

/-! ## Closing -/

/-- A close that works forgets the entry and its endpoint; one that fails keeps
both. -/
theorem closeOne_spec {indigoDeviceId : Int} {live : LiveEndpoint} :
    wp (closeOne matter indigoDeviceId live)
      (fun _ final => matter.fault (.close live.publishedAs) = none ∧
        final.live = registry.live.delete indigoDeviceId ∧
        final.children = registry.children.delete live.endpoint ∧
        final.nextEndpoint = registry.nextEndpoint ∧
        final.configurationChanges = registry.configurationChanges)
      (fun _ final => matter.fault (.close live.publishedAs) ≠ none ∧
        (∃ watching, final.live =
          registry.live.set indigoDeviceId { live with watching := watching }) ∧
        final.children = registry.children ∧
        final.nextEndpoint = registry.nextEndpoint ∧
        final.configurationChanges = registry.configurationChanges)
      registry := by
  rw [closeOne, wp_bind]
  apply wp_unwatch
  intro sinks
  simp only [wp_bind, wp_modify, wp_tryCatch, wp_throw, wp_call, wp_watchCommands]
  refine ⟨fun closed => ?_, fun message failed => ⟨fun restored => ?_, fun _ failedAgain => ?_⟩⟩
  · simp [closed, Registry.deleteLive, Registry.removeChild, Registry.setLive]
  · simp only [failed, ne_eq, reduceCtorEq, not_false_eq_true, Registry.setLive,
      InsertionMap.set_set, true_and, and_self, and_true]
    exact ⟨true, rfl⟩
  · simp only [failed, ne_eq, reduceCtorEq, not_false_eq_true, Registry.setLive, true_and,
      and_self, and_true]
    exact ⟨false, rfl⟩

/-! ## Creating -/

/-- The role refuses the states of the spec it would be built with. -/
def specRefused (spec : EndpointSpec) : Bool :=
  (acceptStates spec.role spec.states spec.battery spec.indigoDeviceId).toOption.isNone

/-- Whether a creation is going to throw. -/
def creationFails (matter : Matter) (spec : EndpointSpec) : Bool :=
  specRefused spec ||
    (matter.fault (.construct spec.publishedAs)).isSome ||
    (matter.fault (.add spec.publishedAs)).isSome ||
    (matter.fault (.watchCommands spec.publishedAs spec.indigoDeviceId)).isSome

/-- The child a creation puts in the tree. -/
def childOf (matter : Matter) (spec : EndpointSpec) : Endpoint :=
  { id := spec.publishedAs
    number := matter.number spec.publishedAs
    nodeLabel := spec.label
    productLabel := spec.label }

/-- No matter.js call throws. -/
def Matter.NoFault (matter : Matter) : Prop := ∀ request, matter.fault request = none

/-- A call that removes an endpoint of an id from the tree, or makes one. -/
def MatterCall.Replaces (id : String) : MatterCall → Prop
  | .construct other | .add other | .close other => other = id
  | .watchCommands _ _ | .applyLabel _ | .applyReachable _ | .applyStates _ => False

/-- No call throws that writes to an endpoint or watches it. -/
def Matter.WritesWork (matter : Matter) : Prop :=
  ∀ request, (∀ id, ¬ request.Replaces id) → matter.fault request = none

/-- No call throws that makes an endpoint of an id. -/
def Matter.MakesEndpoint (matter : Matter) (id : String) : Prop :=
  matter.fault (.construct id) = none ∧ matter.fault (.add id) = none

section WritesWork

theorem Matter.WritesWork.watchCommands (writes : matter.WritesWork) (id : String)
    (indigoDeviceId : Int) : matter.fault (.watchCommands id indigoDeviceId) = none :=
  writes _ fun _ replaces => replaces

theorem Matter.WritesWork.applyLabel (writes : matter.WritesWork) (id : String) :
    matter.fault (.applyLabel id) = none :=
  writes _ fun _ replaces => replaces

theorem Matter.WritesWork.applyReachable (writes : matter.WritesWork) (id : String) :
    matter.fault (.applyReachable id) = none :=
  writes _ fun _ replaces => replaces

theorem Matter.WritesWork.applyStates (writes : matter.WritesWork) (id : String) :
    matter.fault (.applyStates id) = none :=
  writes _ fun _ replaces => replaces

end WritesWork

/-- The error is the role's refusal of the states. -/
def StatesRefused (role : Role) (states : Struct) (battery : Bool) (indigoDeviceId : Int)
    (error : Thrown) : Prop :=
  ∃ refusal, acceptStates role states battery indigoDeviceId = .error refusal ∧
    error = .protocol refusal

/-- A creation that works adds one child and one entry for it; one that fails
leaves the live set and the children as they were. -/
theorem create_spec {spec : EndpointSpec} :
    wp (create matter spec)
      (fun _ final => creationFails matter spec = false ∧
        final.live = registry.live.set spec.indigoDeviceId
          (LiveEndpoint.ofSpec spec registry.nextEndpoint) ∧
        final.children = registry.children.set registry.nextEndpoint (childOf matter spec) ∧
        final.nextEndpoint = registry.nextEndpoint + 1 ∧
        final.configurationChanges = registry.configurationChanges)
      (fun error final => creationFails matter spec = true ∧
        final.live = registry.live ∧
        (registry.nextEndpoint ∉ registry.children.keys → final.children = registry.children) ∧
        registry.nextEndpoint ≤ final.nextEndpoint ∧
        final.configurationChanges = registry.configurationChanges ∧
        (matter.WritesWork → matter.MakesEndpoint spec.publishedAs →
          StatesRefused spec.role spec.states spec.battery spec.indigoDeviceId error))
      registry := by
  simp only [create, createEndpoint, wp_bind, wp_orRefuse, wp_call, wp_pure, wp_get, wp_modify,
    wp_tryCatch, wp_throw, wp_watchCommands]
  refine ⟨fun patch accepted => ⟨fun constructed => ⟨fun added => ⟨fun watched => ?_, ?_⟩, ?_⟩, ?_⟩, ?_⟩
  · simp [creationFails, specRefused, accepted, constructed, added, watched, Registry.addChild,
      Registry.setLive, childOf, Except.toOption]
  · intro message failed
    have untouched (fresh : registry.nextEndpoint ∉ registry.children.keys) :
        (registry.children.set registry.nextEndpoint (childOf matter spec)).delete
          registry.nextEndpoint = registry.children := by
      rw [InsertionMap.delete_set, InsertionMap.delete_of_notMem fresh]
    refine ⟨by simp [creationFails, failed], rfl, untouched, Nat.le_succ _, rfl, ?_⟩
    intro writes _
    rw [writes.watchCommands] at failed
    cases failed
  · intro message failed
    refine ⟨by simp [creationFails, failed], trivial, fun _ => trivial, le_rfl, trivial, ?_⟩
    intro _ makes
    rw [makes.2] at failed
    cases failed
  · intro message failed
    refine ⟨by simp [creationFails, failed], trivial, fun _ => trivial, le_rfl, trivial, ?_⟩
    intro _ makes
    rw [makes.1] at failed
    cases failed
  · intro error refused
    refine ⟨?_, trivial, fun _ => trivial, le_rfl, trivial, fun _ _ => ⟨error, refused, rfl⟩⟩
    simp [creationFails, specRefused, refused, Except.toOption]

/-! ## Updating -/

/-- Whether the update of a live endpoint to a spec is going to throw. -/
def updateFails (matter : Matter) (registry : Registry) (live : LiveEndpoint)
    (spec : EndpointSpec) : Bool :=
  (labelIsStale registry live spec.label && (matter.fault (.applyLabel live.publishedAs)).isSome) ||
    (matter.fault (.applyReachable live.publishedAs)).isSome ||
    (acceptStates live.role spec.states live.battery spec.indigoDeviceId).toOption.isNone ||
    (matter.fault (.applyStates live.publishedAs)).isSome

/-- The children after an operation that can only have written labels of one of
them. -/
structure SameChildrenBut (endpoint : Nat) (before after : InsertionMap Nat Endpoint) : Prop where
  keys : after.keys = before.keys
  others : ∀ other, other ≠ endpoint → after.get? other = before.get? other

theorem SameChildrenBut.refl (endpoint : Nat) (children : InsertionMap Nat Endpoint) :
    SameChildrenBut endpoint children children :=
  ⟨rfl, fun _ _ => rfl⟩

theorem sameChildrenBut_set {endpoint : Nat} {children : InsertionMap Nat Endpoint}
    {child info : Endpoint} (stored : children.get? endpoint = some info) :
    SameChildrenBut endpoint children (children.set endpoint child) where
  keys := InsertionMap.keys_set_of_get? stored child
  others other different := by simp [different]

/-- Refreshing the labels of an endpoint writes to no other child. -/
theorem refreshLabel_spec {live : LiveEndpoint} {label : String} :
    wp (refreshLabel matter live label)
      (fun _ final => (labelIsStale registry live label &&
          (matter.fault (.applyLabel live.publishedAs)).isSome) = false ∧
        ∃ children, SameChildrenBut live.endpoint registry.children children ∧
          final = { registry with children })
      (fun _ final => (labelIsStale registry live label &&
          (matter.fault (.applyLabel live.publishedAs)).isSome) = true ∧
        final = registry)
      registry := by
  simp only [refreshLabel, wp_bind, wp_get]
  split
  · rename_i stale
    simp only [applyLabel, wp_bind, wp_call, wp_modify, stale, Bool.true_and]
    refine ⟨fun written => ?_, fun message failed => by simp [failed]⟩
    refine ⟨by simp [written], ?_⟩
    split
    · exact ⟨_, .refl _ _, rfl⟩
    · rename_i info stored
      exact ⟨_, sameChildrenBut_set stored, rfl⟩
  · rename_i current
    simp only [wp_pure, current, Bool.false_and, true_and]
    exact ⟨_, .refl _ _, rfl⟩

/-- An update keeps every entry where it is and can only change its label. -/
theorem update_spec {spec : EndpointSpec} {live : LiveEndpoint}
    (stored : registry.live.get? spec.indigoDeviceId = some live) :
    wp (update matter spec)
      (fun _ final => updateFails matter registry live spec = false ∧
        final.live = registry.live.set spec.indigoDeviceId { live with label := spec.label } ∧
        SameChildrenBut live.endpoint registry.children final.children ∧
        final.nextEndpoint = registry.nextEndpoint ∧
        final.configurationChanges = registry.configurationChanges)
      (fun error final => updateFails matter registry live spec = true ∧
        (∃ label, final.live =
          registry.live.set spec.indigoDeviceId { live with label := label }) ∧
        SameChildrenBut live.endpoint registry.children final.children ∧
        final.nextEndpoint = registry.nextEndpoint ∧
        final.configurationChanges = registry.configurationChanges ∧
        (matter.WritesWork →
          StatesRefused live.role spec.states live.battery spec.indigoDeviceId error))
      registry := by
  rw [update, wp_bind, wp_require stored, wp_bind]
  refine wp_mono refreshLabel_spec ?_ ?_
  · rintro _ middle ⟨labelled, children, same, rfl⟩
    simp only [wp_bind, wp_modify, wp_call, wp_orRefuse, Registry.setLive]
    refine ⟨fun reached => ⟨fun patch accepted => ⟨fun applied => ?_, ?_⟩, ?_⟩, ?_⟩
    · simp [updateFails, labelled, reached, accepted, applied, Except.toOption, same]
    · intro message failed
      refine ⟨by simp [updateFails, failed], ⟨spec.label, rfl⟩, same, trivial, trivial, ?_⟩
      intro writes
      rw [writes.applyStates] at failed
      cases failed
    · intro error refused
      refine ⟨by simp [updateFails, refused, Except.toOption], ⟨spec.label, rfl⟩, same, trivial, trivial, ?_⟩
      exact fun _ => ⟨error, refused, rfl⟩
    · intro message failed
      refine ⟨by simp [updateFails, failed], ⟨spec.label, rfl⟩, same, trivial, trivial, ?_⟩
      intro writes
      rw [writes.applyReachable] at failed
      cases failed
  · rintro _ final ⟨failed, rfl⟩
    refine ⟨by simp [updateFails, failed], ⟨live.label, ?_⟩, .refl _ _, rfl, rfl, ?_⟩
    · exact (InsertionMap.set_of_get? stored).symm
    · intro writes
      simp [writes.applyLabel] at failed

/-! ## Rekeying -/

/-- The endpoint of a rekey, held back by phase 1, as phase 2 stores it. -/
def HeldRekey.rewatched (held : HeldRekey) : LiveEndpoint := { held.live with watching := true }

/-- Whether re-watching a held endpoint for its new device throws. -/
def rewatchFails (matter : Matter) (spec : EndpointSpec) : Bool :=
  (matter.fault (.watchCommands spec.publishedAs spec.indigoDeviceId)).isSome

/-- Whether restoring the old watcher of a held endpoint throws. -/
def restoreFails (matter : Matter) (live : LiveEndpoint) (fromDeviceId : Int) : Bool :=
  (matter.fault (.watchCommands live.publishedAs fromDeviceId)).isSome

/-- What a failing rekey leaves behind: the entry at its target when only the
update failed, the entry back at its source when re-watching failed, and no
entry at all when the old watcher could not be restored either. -/
def RekeyAborted (matter : Matter) (registry : Registry) (held : HeldRekey)
    (final : Registry) : Prop :=
  (rewatchFails matter held.spec = false ∧
    updateFails matter registry held.live held.spec = true ∧
    ∃ label, final.live = registry.live.set held.spec.indigoDeviceId
      { held.rewatched with label := label }) ∨
  (rewatchFails matter held.spec = true ∧
    restoreFails matter held.live held.fromDeviceId = false ∧
    final.live = registry.live.set held.fromDeviceId held.rewatched) ∨
  (rewatchFails matter held.spec = true ∧
    restoreFails matter held.live held.fromDeviceId = true ∧
    final.live = registry.live)

/-- A rekey whose target is free moves the held entry there, or aborts. -/
theorem rekeyOne_spec {held : HeldRekey}
    (free : held.spec.indigoDeviceId ∉ registry.live.keys) :
    wp (rekeyOne matter held)
      (fun _ final => rewatchFails matter held.spec = false ∧
        updateFails matter registry held.live held.spec = false ∧
        final.live = registry.live.set held.spec.indigoDeviceId
          { held.rewatched with label := held.spec.label } ∧
        SameChildrenBut held.live.endpoint registry.children final.children ∧
        final.nextEndpoint = registry.nextEndpoint ∧
        final.configurationChanges = registry.configurationChanges)
      (fun error final => RekeyAborted matter registry held final ∧
        SameChildrenBut held.live.endpoint registry.children final.children ∧
        final.nextEndpoint = registry.nextEndpoint ∧
        final.configurationChanges = registry.configurationChanges ∧
        (matter.WritesWork → StatesRefused held.live.role held.spec.states held.live.battery
          held.spec.indigoDeviceId error))
      registry := by
  have vacant : registry.live.has held.spec.indigoDeviceId = false := by
    rw [Bool.eq_false_iff, ne_eq, InsertionMap.has_iff]
    exact free
  simp only [rekeyOne, wp_bind, wp_get, vacant, Bool.false_eq_true, if_false]
  apply wp_unwatch
  intro sinks
  simp only [wp_bind, wp_tryCatch, wp_watchCommands, wp_modify, wp_throw]
  refine ⟨fun watched => ?_, fun message failed => ⟨fun restored => ?_, fun _ lost => ?_⟩⟩
  · have rewatched : rewatchFails matter held.spec = false := by simp [rewatchFails, watched]
    have stored : (registry.live.set held.spec.indigoDeviceId held.rewatched).get?
        held.spec.indigoDeviceId = some held.rewatched := InsertionMap.get?_set_self _ _ _
    refine wp_mono (update_spec stored) ?_ ?_
    · rintro _ final ⟨updated, liveEq, children, next, changes⟩
      refine ⟨rewatched, updated, ?_, children, next, changes⟩
      simpa [Registry.setLive] using liveEq
    · rintro error final ⟨failed, ⟨label, liveEq⟩, children, next, changes, refused⟩
      refine ⟨.inl ⟨rewatched, failed, label, ?_⟩, children, next, changes, refused⟩
      simpa [Registry.setLive] using liveEq
  · refine ⟨.inr (.inl ⟨?_, ?_, rfl⟩), .refl _ _, rfl, rfl, ?_⟩
    · simp [rewatchFails, failed]
    · simp [restoreFails, restored]
    · intro writes
      rw [writes.watchCommands] at failed
      cases failed
  · refine ⟨.inr (.inr ⟨?_, ?_, rfl⟩), .refl _ _, trivial, trivial, ?_⟩
    · simp [rewatchFails, failed]
    · simp [restoreFails, lost]
    · intro writes
      rw [writes.watchCommands] at failed
      cases failed

end IndigoMatter.Bridge
