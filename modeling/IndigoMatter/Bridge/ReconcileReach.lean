import IndigoMatter.Bridge.RegistryAgreement

/-!
# A reconcile that does not fail

When the guard lets the plan through and no matter.js call throws, a reconcile
ends with exactly the desired set live, whatever devices and identities trade
places.  The only thing left that can stop it is a role that refuses a spec's
states.  Each phase writes only the keys of its own specs, and no two desired
specs share a key, so the phases do not disturb each other's work.

An identity that the plan updates or rekeys keeps its endpoint.  No call that
would close it or make another is made, so such calls are left free to throw.
-/

namespace IndigoMatter.Bridge

open IndigoMatter.Library

variable {matter : Matter} {registry : Registry} {desired : List EndpointSpec}

/-- Whether an identity keeps its endpoint: the plan updates or rekeys it. -/
def keepsEndpoint (live : InsertionMap String LiveComposition) (spec : EndpointSpec) : Bool :=
  match bucketOf live spec with
  | .update => true
  | .rekey _ => true
  | _ => false

/-- The battery flag of the endpoint that is going to take a spec's states. -/
def servedBattery (live : InsertionMap String LiveComposition) (spec : EndpointSpec) : Bool :=
  match keepsEndpoint live spec, live.get? spec.publishedAs with
  | true, some composition => composition.battery
  | _, _ => spec.battery

/-- What the live entry of a desired spec has to be after a reconcile: the
spec's identity, role and label, and for an identity that keeps its endpoint the
very endpoint and battery flag it had. -/
structure Serves (before : Registry) (spec : EndpointSpec) (live : LiveEndpoint) : Prop where
  publishedAs : live.publishedAs = spec.publishedAs
  role : live.role = spec.role
  label : live.label = spec.label
  battery : live.battery = servedBattery before.liveComposition spec
  endpoint : keepsEndpoint before.liveComposition spec = true →
    ∀ indigoDeviceId old, before.live.get? indigoDeviceId = some old →
      old.publishedAs = spec.publishedAs →
        live.endpoint = old.endpoint ∧ live.battery = old.battery

/-- The endpoint of a live entry is a child of the aggregator and of no other entry. -/
def OwnsChild (registry : Registry) (indigoDeviceId : Int) (live : LiveEndpoint) : Prop :=
  live.endpoint ∈ registry.children.keys ∧ ∀ other otherLive,
    registry.live.get? other = some otherLive → otherLive.endpoint = live.endpoint →
      other = indigoDeviceId

theorem Owned.ownsChild (owned : Owned [] registry) {indigoDeviceId : Int} {live : LiveEndpoint}
    (stored : registry.live.get? indigoDeviceId = some live) :
    OwnsChild registry indigoDeviceId live :=
  ⟨(owned.agree.sameEndpoints live.endpoint).mpr ⟨indigoDeviceId, live, stored, rfl⟩,
    fun _ _ otherStored same => owned.agree.oneDevice otherStored stored same⟩

/-- The endpoint of an identity that keeps it. -/
def KeptEndpoint (before : Registry) (desired : List EndpointSpec) (endpoint : Nat) : Prop :=
  ∃ spec ∈ desired, keepsEndpoint before.liveComposition spec = true ∧
    ∃ indigoDeviceId live, before.live.get? indigoDeviceId = some live ∧
      live.publishedAs = spec.publishedAs ∧ live.endpoint = endpoint ∧
        OwnsChild before indigoDeviceId live

/-- Exactly the desired devices are live, each serving its spec, and the endpoints of
the identities that keep them are still children of the aggregator. -/
structure ReachesDesired (before : Registry) (desired : List EndpointSpec)
    (after : Registry) : Prop where
  keys : ∀ indigoDeviceId, indigoDeviceId ∈ after.live.keys ↔
    indigoDeviceId ∈ desired.map EndpointSpec.indigoDeviceId
  serves : ∀ spec ∈ desired, ∃ live,
    after.live.get? spec.indigoDeviceId = some live ∧ Serves before spec live
  children : ∀ endpoint, KeptEndpoint before desired endpoint → endpoint ∈ after.children.keys

/-- No matter.js call throws, those left out that would close the endpoint of an identity
that keeps it, or make another one for it. -/
def CallsWork (matter : Matter) (before : Registry) (desired : List EndpointSpec) : Prop :=
  ∀ request, (∀ spec ∈ desired, keepsEndpoint before.liveComposition spec = true →
    ¬ request.Replaces spec.publishedAs) → matter.fault request = none

theorem Matter.NoFault.callsWork (noFault : matter.NoFault) : CallsWork matter registry desired :=
  fun request _ => noFault request

namespace CallsWork

variable (works : CallsWork matter registry desired)
include works

theorem writes : matter.WritesWork :=
  fun request replacesNone => works request fun spec _ _ => replacesNone spec.publishedAs

/-- A call that replaces an endpoint nobody keeps. -/
theorem replaces {request : MatterCall} {id : String}
    (only : ∀ other, request.Replaces other → id = other)
    (fresh : ∀ spec ∈ desired, spec.publishedAs = id →
      keepsEndpoint registry.liveComposition spec = false) : matter.fault request = none := by
  apply works
  intro spec wanted keeps replaces
  rw [fresh spec wanted (only _ replaces).symm] at keeps
  cases keeps

theorem makesEndpoint {id : String} (fresh : ∀ spec ∈ desired, spec.publishedAs = id →
    keepsEndpoint registry.liveComposition spec = false) : matter.MakesEndpoint id :=
  ⟨works.replaces (fun _ same => same) fresh, works.replaces (fun _ same => same) fresh⟩

/-- What the plan closes or makes anew keeps no endpoint. -/
theorem makes_of_fresh (distinct : Distinct desired) {spec : EndpointSpec} (wanted : spec ∈ desired)
    (fresh : keepsEndpoint registry.liveComposition spec = false) :
    matter.MakesEndpoint spec.publishedAs := by
  apply works.makesEndpoint
  intro other otherWanted same
  rw [distinct.eq_of_publishedAs otherWanted wanted same]
  exact fresh

theorem closes (distinct : Distinct desired) :
    closesFail matter registry (registry.removals (registry.plan desired)) = false := by
  rw [closesFail_eq_false_iff]
  intro indigoDeviceId removal live stored
  obtain ⟨closed, closedStored, recreated⟩ := removal_live distinct removal
  obtain rfl : live = closed := Option.some.inj (stored.symm.trans closedStored)
  have closing : ∀ other, MatterCall.Replaces other (.close live.publishedAs) →
      live.publishedAs = other := fun _ same => same
  refine works.replaces closing fun spec wanted same => ?_
  simp [keepsEndpoint, recreated spec wanted same]

end CallsWork

/-- The error is a role's refusal of the states of some desired spec. -/
def SpecRefused (before : Registry) (desired : List EndpointSpec) (error : Thrown) : Prop :=
  ∃ spec ∈ desired, StatesRefused spec.role spec.states
    (servedBattery before.liveComposition spec) spec.indigoDeviceId error

/-! ## Identities that keep their endpoint -/

/-- The live entry behind an identity that keeps its endpoint. -/
theorem UniqueIdentities.kept (unique : UniqueIdentities registry) {spec : EndpointSpec}
    {indigoDeviceId : Int} {old : LiveEndpoint}
    (keeps : keepsEndpoint registry.liveComposition spec = true)
    (stored : registry.live.get? indigoDeviceId = some old)
    (same : old.publishedAs = spec.publishedAs) :
    old.role = spec.role ∧ servedBattery registry.liveComposition spec = old.battery := by
  have composed := unique.liveComposition_of_live stored
  rw [same] at composed
  constructor
  · unfold keepsEndpoint at keeps
    split at keeps
    · rename_i bucket
      obtain ⟨composition, found, role, -⟩ := bucketOf_eq_update_iff.mp bucket
      rw [composed] at found
      obtain rfl := Option.some.inj found
      exact role
    · rename_i bucket
      obtain ⟨composition, found, role, -⟩ := bucketOf_eq_rekey_iff.mp bucket
      rw [composed] at found
      obtain rfl := Option.some.inj found
      exact role
    · contradiction
  · rw [servedBattery, keeps, composed]

/-- An entry that carries an old endpoint on, under the spec's label. -/
theorem UniqueIdentities.serves_of_kept (unique : UniqueIdentities registry)
    {spec : EndpointSpec} {indigoDeviceId : Int} {old live : LiveEndpoint}
    (keeps : keepsEndpoint registry.liveComposition spec = true)
    (stored : registry.live.get? indigoDeviceId = some old)
    (same : old.publishedAs = spec.publishedAs)
    (carried : ∃ watching, live = { old with label := spec.label, watching := watching }) :
    Serves registry spec live := by
  obtain ⟨watching, rfl⟩ := carried
  obtain ⟨role, battery⟩ := unique.kept keeps stored same
  constructor
  case publishedAs => exact same
  case role => exact role
  case label => rfl
  case battery => exact battery.symm
  case endpoint =>
    intro _ other otherOld otherStored otherSame
    have equal := unique.eq_device otherStored stored (otherSame.trans same.symm)
    subst equal
    obtain rfl : otherOld = old := Option.some.inj (otherStored.symm.trans stored)
    exact ⟨rfl, rfl⟩

/-- An entry that has just been created. -/
theorem serves_of_created {spec : EndpointSpec} {endpoint : Nat}
    (fresh : keepsEndpoint registry.liveComposition spec = false) :
    Serves registry spec (LiveEndpoint.ofSpec spec endpoint) where
  publishedAs := rfl
  role := rfl
  label := rfl
  battery := by simp [servedBattery, fresh, LiveEndpoint.ofSpec]
  endpoint keeps := by simp [fresh] at keeps

/-! ## The three loops -/

/-- What the loops look at: the live entry of a device. -/
abbrev liveView (state : Registry × Bool) (indigoDeviceId : Int) : Option LiveEndpoint :=
  state.1.live.get? indigoDeviceId

/-- The live entry of a device serves a spec. -/
def Served (before : Registry) (spec : EndpointSpec) (entry : Option LiveEndpoint) : Prop :=
  ∃ live, entry = some live ∧ Serves before spec live

theorem rekeys_reach (unique : UniqueIdentities registry) (distinct : Distinct desired)
    (works : CallsWork matter registry desired) (state : Registry × Bool)
    (free : ∀ held ∈ registry.heldRekeys (registry.plan desired).rekey,
      liveView state held.spec.indigoDeviceId = none) :
    wp (forM (registry.heldRekeys (registry.plan desired).rekey) fun held =>
        onFirst (rekeyOne matter held))
      (fun _ final =>
        (∀ held ∈ registry.heldRekeys (registry.plan desired).rekey,
          Served registry held.spec (liveView final held.spec.indigoDeviceId)) ∧
        ∀ other, other ∉ (registry.heldRekeys (registry.plan desired).rekey).map
          (fun held => held.spec.indigoDeviceId) → liveView final other = liveView state other)
      (fun error _ => SpecRefused registry desired error) state := by
  refine wp_forM_keyed liveView (fun held : HeldRekey => held.spec.indigoDeviceId)
    (fun _ entry => entry = none) (fun held entry => Served registry held.spec entry)
    (fun error _ => SpecRefused registry desired error) _ ?_ ?_ state free
  · rintro held member ⟨middle, mutated⟩ vacant
    obtain ⟨planned, stored⟩ := mem_heldRekeys member
    obtain ⟨wanted, bucket⟩ := mem_rekey_iff.mp planned
    obtain ⟨-, old, oldStored, same⟩ := unique.rekey_source distinct planned
    obtain rfl : held.live = old := Option.some.inj (stored.symm.trans oldStored)
    have keeps : keepsEndpoint registry.liveComposition held.spec = true := by
      simp [keepsEndpoint, bucket]
    obtain ⟨role, battery⟩ := unique.kept keeps stored same
    rw [wp_onFirst]
    refine wp_mono (rekeyOne_spec (InsertionMap.get?_eq_none_iff.mp vacant)) ?_ ?_
    · rintro _ final ⟨-, -, liveEq, -⟩
      constructor
      · refine ⟨{ held.rewatched with label := held.spec.label }, by simp [liveView, liveEq], ?_⟩
        exact unique.serves_of_kept keeps stored same ⟨true, rfl⟩
      · intro other different
        simp [liveView, liveEq, different]
    · rintro error final ⟨-, -, -, -, refused⟩
      refine ⟨held.spec, wanted, ?_⟩
      rw [battery, ← role]
      exact refused works.writes
  · exact heldRekeys_targets_nodup distinct

theorem creates_reach (distinct : Distinct desired) (works : CallsWork matter registry desired)
    {specs : List EndpointSpec} (wanted : specs ⊆ desired)
    (fresh : ∀ spec ∈ specs, keepsEndpoint registry.liveComposition spec = false)
    (nodup : (specs.map EndpointSpec.indigoDeviceId).Nodup) (state : Registry × Bool)
    (free : ∀ spec ∈ specs, liveView state spec.indigoDeviceId = none) :
    wp (forM specs fun spec => do
        let _ ← onFirst (create matter spec)
        markMutated)
      (fun _ final =>
        (∀ spec ∈ specs, Served registry spec (liveView final spec.indigoDeviceId)) ∧
        ∀ other, other ∉ specs.map EndpointSpec.indigoDeviceId →
          liveView final other = liveView state other)
      (fun error _ => SpecRefused registry desired error) state := by
  refine wp_forM_keyed liveView EndpointSpec.indigoDeviceId (fun _ entry => entry = none)
    (Served registry) (fun error _ => SpecRefused registry desired error) specs ?_ nodup state free
  rintro spec member ⟨middle, mutated⟩ -
  rw [wp_bind, wp_onFirst]
  refine wp_mono create_spec ?_ ?_
  · rintro _ final ⟨-, liveEq, -⟩
    constructor
    · exact ⟨LiveEndpoint.ofSpec spec middle.nextEndpoint, by simp [liveView, liveEq],
        serves_of_created (fresh spec member)⟩
    · intro other different
      simp [liveView, liveEq, different]
  · rintro error final ⟨-, -, -, -, -, refused⟩
    refine ⟨spec, wanted member, ?_⟩
    have battery : servedBattery registry.liveComposition spec = spec.battery := by
      simp [servedBattery, fresh spec member]
    rw [battery]
    exact refused works.writes (works.makes_of_fresh distinct (wanted member) (fresh spec member))

theorem updates_reach (unique : UniqueIdentities registry) (distinct : Distinct desired)
    (works : CallsWork matter registry desired) (state : Registry × Bool)
    (untouched : ∀ spec ∈ (registry.plan desired).update,
      liveView state spec.indigoDeviceId = registry.live.get? spec.indigoDeviceId) :
    wp (forM (registry.plan desired).update fun spec => onFirst (update matter spec))
      (fun _ final =>
        (∀ spec ∈ (registry.plan desired).update,
          Served registry spec (liveView final spec.indigoDeviceId)) ∧
        ∀ other, other ∉ (registry.plan desired).update.map EndpointSpec.indigoDeviceId →
          liveView final other = liveView state other)
      (fun error _ => SpecRefused registry desired error) state := by
  refine wp_forM_keyed liveView EndpointSpec.indigoDeviceId
    (fun spec entry => entry = registry.live.get? spec.indigoDeviceId)
    (Served registry) (fun error _ => SpecRefused registry desired error) _ ?_ ?_ state untouched
  · rintro spec member ⟨middle, mutated⟩ entry
    obtain ⟨wanted, bucket⟩ := mem_update_iff.mp member
    have keeps : keepsEndpoint registry.liveComposition spec = true := by
      simp [keepsEndpoint, bucket]
    obtain ⟨composition, found, -, -, driver⟩ := bucketOf_eq_update_iff.mp bucket
    obtain ⟨old, stored, same, -, -⟩ := unique.liveComposition_eq_some_iff.mp found
    rw [driver] at stored
    obtain ⟨role, battery⟩ := unique.kept keeps stored same
    rw [wp_onFirst]
    refine wp_mono (update_spec (entry.trans stored)) ?_ ?_
    · rintro _ final ⟨-, liveEq, -⟩
      constructor
      · refine ⟨{ old with label := spec.label }, by simp [liveView, liveEq], ?_⟩
        exact unique.serves_of_kept keeps stored same ⟨old.watching, rfl⟩
      · intro other different
        simp [liveView, liveEq, different]
    · rintro error final ⟨-, -, -, -, -, refused⟩
      refine ⟨spec, wanted, ?_⟩
      rw [battery, ← role]
      exact refused works.writes
  · exact distinct.deviceIds.sublist (List.filter_sublist.map _)

/-! ## The children -/

/-- An operation that takes no child away from the aggregator. -/
def KeepsChildren {α : Type} (operation : Operation α) : Prop :=
  ∀ registry, wp operation (fun _ final => registry.children.keys ⊆ final.children.keys)
    (fun _ _ => True) registry

/-- A loop of such operations takes none away. -/
theorem children_forM {α : Type} {body : α → Batch PUnit}
    (keeps : ∀ element state, wp (body element)
      (fun _ final => state.1.children.keys ⊆ final.1.children.keys) (fun _ _ => True) state)
    (elements : List α) (state : Registry × Bool) :
    wp (forM elements body) (fun _ final => state.1.children.keys ⊆ final.1.children.keys)
      (fun _ _ => True) state := by
  refine wp_forM (fun _ (final : Registry × Bool) => state.1.children.keys ⊆ final.1.children.keys)
    _ ?_ elements state (List.Subset.refl _)
  intro element rest middle before
  exact wp_mono (keeps element middle) (fun _ _ after => List.Subset.trans before after) fun _ _ _ => trivial

theorem update_children (spec : EndpointSpec) : KeepsChildren (update matter spec) := by
  intro registry
  cases stored : registry.live.get? spec.indigoDeviceId with
  | none => simp [update, require, stored]
  | some live =>
      refine wp_mono (update_spec stored) ?_ (fun _ _ _ => trivial)
      rintro _ final ⟨-, -, children, -⟩
      rw [children.keys]
      exact List.Subset.refl _

theorem rekeyOne_children (held : HeldRekey) : KeepsChildren (rekeyOne matter held) := by
  intro registry
  by_cases occupied : held.spec.indigoDeviceId ∈ registry.live.keys
  · have taken : registry.live.has held.spec.indigoDeviceId = true := InsertionMap.has_iff.mpr occupied
    simp only [rekeyOne, wp_bind, wp_get, taken, if_true, wp_throw]
  · refine wp_mono (rekeyOne_spec occupied) ?_ (fun _ _ _ => trivial)
    rintro _ final ⟨-, -, -, children, -⟩
    rw [children.keys]
    exact List.Subset.refl _

theorem create_children (spec : EndpointSpec) : KeepsChildren (create matter spec) := by
  intro registry
  refine wp_mono create_spec ?_ (fun _ _ _ => trivial)
  rintro _ final ⟨-, -, children, -⟩ endpoint member
  rw [children]
  exact InsertionMap.mem_keys_set.mpr (.inr member)

/-- The removals close no endpoint that an identity keeps. -/
theorem ClosedOf.keepsChildren {middle : Registry} (distinct : Distinct desired)
    (closed : ClosedOf registry (registry.removals (registry.plan desired)) middle)
    {endpoint : Nat} (kept : KeptEndpoint registry desired endpoint) :
    endpoint ∈ middle.children.keys := by
  obtain ⟨spec, wanted, keeps, indigoDeviceId, live, stored, same, rfl, present, alone⟩ := kept
  refine closed.kept live.endpoint present ?_
  intro other removal otherLive otherStored sameEndpoint
  obtain rfl := alone other otherLive otherStored sameEndpoint
  obtain ⟨removed, removedStored, recreated⟩ := removal_live distinct removal
  obtain rfl : live = removed := Option.some.inj (stored.symm.trans removedStored)
  simp [keepsEndpoint, recreated spec wanted same.symm] at keeps

/-! ## The whole reconcile -/

/-- Before the rekeys run, the devices the plan updates hold what they held. -/
theorem untouched_updates {middle vacated : Registry} (unique : UniqueIdentities registry)
    (distinct : Distinct desired)
    (closed : ClosedOf registry (registry.removals (registry.plan desired)) middle)
    (liveEq : ∀ indigoDeviceId, vacated.live.get? indigoDeviceId =
      if indigoDeviceId ∈ (registry.plan desired).rekey.map Rekey.fromDeviceId then none
      else middle.live.get? indigoDeviceId)
    {spec : EndpointSpec} (member : spec ∈ (registry.plan desired).update) :
    vacated.live.get? spec.indigoDeviceId = registry.live.get? spec.indigoDeviceId := by
  obtain ⟨wanted, bucket⟩ := mem_update_iff.mp member
  obtain ⟨composition, found, -, -, driver⟩ := bucketOf_eq_update_iff.mp bucket
  obtain ⟨old, stored, same, -, -⟩ := unique.liveComposition_eq_some_iff.mp found
  rw [driver] at stored
  have notSource : spec.indigoDeviceId ∉
      (registry.plan desired).rekey.map Rekey.fromDeviceId := by
    intro source
    obtain ⟨rekey, planned, sameDevice⟩ := List.mem_map.mp source
    obtain ⟨-, live, rekeyStored, rekeySame⟩ := unique.rekey_source distinct planned
    rw [sameDevice, stored] at rekeyStored
    obtain rfl := Option.some.inj rekeyStored
    obtain ⟨rekeyWanted, rekeyBucket⟩ := mem_rekey_iff.mp planned
    have equal := distinct.eq_of_publishedAs wanted rekeyWanted (same.symm.trans rekeySame)
    rw [← equal, bucket] at rekeyBucket
    contradiction
  have notClosed : spec.indigoDeviceId ∉ registry.removals (registry.plan desired) := by
    intro removal
    obtain ⟨live, liveStored, recreated⟩ := removal_live distinct removal
    rw [stored] at liveStored
    obtain rfl := Option.some.inj liveStored
    rw [recreated spec wanted same.symm] at bucket
    contradiction
  rw [liveEq, if_neg notSource, closed.live, if_neg notClosed]

section Devices

variable {spec : EndpointSpec}

/-- A desired device that the plan updates belongs to an updated spec. -/
theorem bucket_of_updated (distinct : Distinct desired) (wanted : spec ∈ desired)
    (device : spec.indigoDeviceId ∈
      (registry.plan desired).update.map EndpointSpec.indigoDeviceId) :
    bucketOf registry.liveComposition spec = .update := by
  obtain ⟨other, member, same⟩ := List.mem_map.mp device
  obtain ⟨otherWanted, bucket⟩ := mem_update_iff.mp member
  obtain rfl := distinct.eq_of_deviceId otherWanted wanted same
  exact bucket

/-- A desired device that the plan creates anew belongs to such a spec. -/
theorem bucket_of_created (distinct : Distinct desired) (wanted : spec ∈ desired)
    (device : spec.indigoDeviceId ∈ ((registry.plan desired).create ++
      (registry.plan desired).recreate).map EndpointSpec.indigoDeviceId) :
    bucketOf registry.liveComposition spec = .create ∨
      bucketOf registry.liveComposition spec = .recreate := by
  obtain ⟨other, member, same⟩ := List.mem_map.mp device
  rcases List.mem_append.mp member with created | recreated
  · obtain ⟨otherWanted, bucket⟩ := mem_create_iff.mp created
    obtain rfl := distinct.eq_of_deviceId otherWanted wanted same
    exact .inl bucket
  · obtain ⟨otherWanted, bucket⟩ := mem_recreate_iff.mp recreated
    obtain rfl := distinct.eq_of_deviceId otherWanted wanted same
    exact .inr bucket

/-- A desired device that a rekey moves to belongs to a rekeyed spec. -/
theorem bucket_of_rekeyed (distinct : Distinct desired) (wanted : spec ∈ desired)
    (device : spec.indigoDeviceId ∈ (registry.heldRekeys (registry.plan desired).rekey).map
      fun held => held.spec.indigoDeviceId) :
    ∃ fromDeviceId, bucketOf registry.liveComposition spec = .rekey fromDeviceId := by
  obtain ⟨held, member, same⟩ := List.mem_map.mp device
  obtain ⟨otherWanted, bucket⟩ := mem_rekey_iff.mp (mem_heldRekeys member).1
  obtain rfl := distinct.eq_of_deviceId otherWanted wanted same
  exact ⟨_, bucket⟩

end Devices

theorem applyPlan_reach (unique : UniqueIdentities registry) (distinct : Distinct desired)
    (works : CallsWork matter registry desired) :
    wp (applyPlan matter (registry.plan desired) (registry.removals (registry.plan desired)))
      (fun _ final => ReachesDesired registry desired final.1)
      (fun error _ => SpecRefused registry desired error) (registry, false) := by
  have noneFails := works.closes distinct
  rw [applyPlan, wp_bind]
  refine wp_mono (removeMany_spec _ false) ?_
    (fun _ _ thrown => by simp [noneFails] at thrown)
  rintro _ ⟨middle, mutated⟩ ⟨-, closed⟩
  have sources : ∀ rekey ∈ (registry.plan desired).rekey,
      middle.live.get? rekey.fromDeviceId = registry.live.get? rekey.fromDeviceId := by
    intro rekey member
    rw [closed.live, if_neg (unique.rekey_source distinct member).1]
  have present : ∀ rekey ∈ (registry.plan desired).rekey, ∃ live,
      middle.live.get? rekey.fromDeviceId = some live := by
    intro rekey member
    obtain ⟨-, live, stored, -⟩ := unique.rekey_source distinct member
    exact ⟨live, (sources rekey member).trans stored⟩
  rw [wp_bind, wp_onFirst]
  refine wp_mono (vacate_spec (unique.rekey_sources_nodup distinct) present) ?_
    (fun _ _ impossible => impossible.elim)
  rintro _ vacated ⟨rfl, -, liveEq, childrenEq⟩
  have inPlace := placed_updates unique closed liveEq
  have within : (registry.plan desired).update ⊆ desired := List.filter_sublist.subset
  rw [heldRekeys_congr sources, wp_bind]
  refine wp_mono (wp_and (rekeys_reach unique distinct works (vacated, mutated) ?_)
    (children_forM (fun held state => (wp_onFirst ..).mpr (rekeyOne_children held state.1)) _ _)) ?_
    (fun _ _ refused => refused.1)
  · intro held member
    obtain ⟨wanted, bucket⟩ := mem_rekey_iff.mp (mem_heldRekeys member).1
    refine InsertionMap.get?_eq_none_iff.mpr (inPlace.free distinct within wanted ?_)
    intro updated
    rw [(mem_update_iff.mp updated).2] at bucket
    contradiction
  rintro _ ⟨rekeyed, marked⟩ ⟨⟨rekeysServed, rekeysFrame⟩, rekeysChildren⟩
  have nodup : desired.Nodup := distinct.identities.of_map _
  have creations : ((registry.plan desired).create ++ (registry.plan desired).recreate) ⊆ desired :=
    List.append_subset.mpr ⟨List.filter_sublist.subset, List.filter_sublist.subset⟩
  have fresh : ∀ spec ∈ (registry.plan desired).create ++ (registry.plan desired).recreate,
      bucketOf registry.liveComposition spec = .create ∨
        bucketOf registry.liveComposition spec = .recreate := fun spec member =>
    bucket_of_created distinct (creations member) (List.mem_map_of_mem member)
  rw [wp_bind]
  refine wp_mono (wp_and (creates_reach distinct works creations ?_ ?_ (rekeyed, marked) ?_)
    (children_forM (fun spec state => by
      rw [wp_bind, wp_onFirst]
      exact create_children spec state.1) _ _)) ?_ (fun _ _ refused => refused.1)
  · intro spec member
    rcases fresh spec member with bucket | bucket <;> simp [keepsEndpoint, bucket]
  · refine List.Nodup.map_on ?_ (creations_nodup distinct)
    intro first firstMem second secondMem same
    exact distinct.eq_of_deviceId (creations firstMem) (creations secondMem) same
  · intro spec member
    have bucket := fresh spec member
    have notRekeyed : spec.indigoDeviceId ∉
        (registry.heldRekeys (registry.plan desired).rekey).map
          fun held => held.spec.indigoDeviceId := by
      intro device
      obtain ⟨fromDeviceId, rekeyBucket⟩ := bucket_of_rekeyed distinct (creations member) device
      simp [rekeyBucket] at bucket
    have notUpdated : spec ∉ (registry.plan desired).update := by
      intro updated
      simp [(mem_update_iff.mp updated).2] at bucket
    rw [rekeysFrame _ notRekeyed]
    exact InsertionMap.get?_eq_none_iff.mpr
      (inPlace.free distinct within (creations member) notUpdated)
  rintro _ ⟨created, nudge⟩ ⟨⟨createsServed, createsFrame⟩, createsChildren⟩
  refine wp_mono (wp_and (updates_reach unique distinct works (created, nudge) ?_)
    (children_forM (fun spec state => (wp_onFirst ..).mpr (update_children spec state.1)) _ _)) ?_
    (fun _ _ refused => refused.1)
  · intro spec member
    obtain ⟨wanted, bucket⟩ := mem_update_iff.mp member
    rw [createsFrame, rekeysFrame]
    · exact untouched_updates unique distinct closed liveEq member
    · intro device
      obtain ⟨fromDeviceId, rekeyBucket⟩ := bucket_of_rekeyed distinct wanted device
      simp [rekeyBucket] at bucket
    · intro device
      have created := bucket_of_created distinct wanted device
      simp [bucket] at created
  rintro _ ⟨final, _⟩ ⟨⟨updatesServed, updatesFrame⟩, updatesChildren⟩
  have serves : ∀ spec ∈ desired, Served registry spec (final.live.get? spec.indigoDeviceId) := by
    intro spec wanted
    have servedCreation (bucket : bucketOf registry.liveComposition spec = .create ∨
        bucketOf registry.liveComposition spec = .recreate) :
        Served registry spec (final.live.get? spec.indigoDeviceId) := by
      have member : spec ∈ (registry.plan desired).create ++ (registry.plan desired).recreate :=
        List.mem_append.mpr (bucket.imp (fun created => mem_create_iff.mpr ⟨wanted, created⟩)
          fun recreated => mem_recreate_iff.mpr ⟨wanted, recreated⟩)
      have frame := updatesFrame spec.indigoDeviceId fun device => by
        simp [bucket_of_updated distinct wanted device] at bucket
      rw [show final.live.get? spec.indigoDeviceId = _ from frame]
      exact createsServed spec member
    cases bucket : bucketOf registry.liveComposition spec with
    | update => exact updatesServed spec (mem_update_iff.mpr ⟨wanted, bucket⟩)
    | create => exact servedCreation (.inl bucket)
    | recreate => exact servedCreation (.inr bucket)
    | rekey fromDeviceId =>
        have planned : (⟨spec, fromDeviceId⟩ : Rekey) ∈ (registry.plan desired).rekey :=
          mem_rekey_iff.mpr ⟨wanted, bucket⟩
        obtain ⟨-, live, stored, -⟩ := unique.rekey_source distinct planned
        have held : (⟨spec, fromDeviceId, live⟩ : HeldRekey) ∈
            registry.heldRekeys (registry.plan desired).rekey :=
          List.mem_filterMap.mpr ⟨_, planned, by rw [stored]; rfl⟩
        have updated := updatesFrame spec.indigoDeviceId fun device => by
          simp [bucket_of_updated distinct wanted device] at bucket
        have created := createsFrame spec.indigoDeviceId fun device => by
          simpa [bucket] using bucket_of_created distinct wanted device
        rw [show final.live.get? spec.indigoDeviceId = _ from updated.trans created]
        exact rekeysServed _ held
  constructor
  case serves => exact serves
  case children =>
    intro endpoint kept
    have present : endpoint ∈ vacated.children.keys := childrenEq ▸ closed.keepsChildren distinct kept
    exact updatesChildren (createsChildren (rekeysChildren present))
  case keys =>
    intro indigoDeviceId
    constructor
    · intro occupied
      by_contra undesired
      have outside : ∀ specs : List EndpointSpec, specs ⊆ desired →
          indigoDeviceId ∉ specs.map EndpointSpec.indigoDeviceId :=
        fun specs subset member => undesired (List.map_subset _ subset member)
      have notTarget : indigoDeviceId ∉ (registry.heldRekeys (registry.plan desired).rekey).map
          fun held => held.spec.indigoDeviceId := by
        intro target
        obtain ⟨held, member, rfl⟩ := List.mem_map.mp target
        exact undesired (List.mem_map_of_mem (mem_rekey_iff.mp (mem_heldRekeys member).1).1)
      have frame : final.live.get? indigoDeviceId = vacated.live.get? indigoDeviceId :=
        (updatesFrame _ (outside _ within)).trans
          ((createsFrame _ (outside _ creations)).trans (rekeysFrame _ notTarget))
      obtain ⟨live, stored⟩ := InsertionMap.mem_keys_iff.mp occupied
      obtain ⟨spec, updated, same, -⟩ := inPlace _ _ (frame.symm.trans stored)
      exact undesired (same ▸ List.mem_map_of_mem (within updated))
    · intro member
      obtain ⟨spec, wanted, rfl⟩ := List.mem_map.mp member
      obtain ⟨live, stored, -⟩ := serves spec wanted
      exact InsertionMap.mem_keys_iff.mpr ⟨live, stored⟩

/-- A reconcile that the guard lets through and in which no matter.js call
throws ends with exactly the desired set live.  It throws in one case only, and
that is a role's refusal of the states of a desired spec: neither the occupied
target of a rekey nor a rekey without a live source is ever reported.  It never
closes or makes an endpoint for an identity that keeps its own, as matter.js may
throw at every such call. -/
theorem reconcile_reaches_desired {endpoints : Option Json} {replaceAll : Bool}
    {plan : ReconcilePlan} (unique : UniqueIdentities registry)
    (accepted : parseEndpointSpecs endpoints = .ok desired)
    (planned : planReconcile registry.liveComposition desired replaceAll = .ok plan)
    (works : CallsWork matter registry desired) :
    wp (reconcileNow matter desired replaceAll)
      (fun _ final => ReachesDesired registry desired final)
      (fun error _ => SpecRefused registry desired error) registry := by
  have distinct := distinct_of_parseEndpointSpecs accepted
  obtain rfl := eq_sortDesired_of_planReconcile planned
  simp only [reconcileNow, wp_bind, wp_get, wp_orRefuse, planned, Except.ok.injEq,
    forall_eq', reduceCtorEq, IsEmpty.forall_iff, implies_true, and_true, wp_withLocal,
    nudgeOnAbort, wp_tryCatch]
  refine wp_mono (applyPlan_reach unique distinct works) ?_ ?_
  · rintro _ ⟨final, mutated⟩ reached
    split
    · exact ⟨reached.keys, reached.serves, reached.children⟩
    · exact reached
  · rintro error ⟨final, mutated⟩ refused
    cases mutated <;> exact refused

/-- matter.js when it neither closes nor makes an endpoint of some ids. -/
def Matter.keeping (ids : List String) : Matter where
  fault
    | .construct id | .add id | .close id => if id ∈ ids then some "refused" else none
    | .watchCommands _ _ | .applyLabel _ | .applyReachable _ | .applyStates _ => none
  number _ := 2

/-- Two lights trade identities in one attach, and neither is closed or made again. -/
theorem swap_reaches_desired :
    wp (reconcileNow (.keeping ["indigo-1", "indigo-2"]) [lightSpec 1 "indigo-2", lightSpec 2 "indigo-1"] false)
      (fun _ final => ReachesDesired (Registry.restored .sound twoLights)
        [lightSpec 1 "indigo-2", lightSpec 2 "indigo-1"] final)
      (fun error _ => SpecRefused (Registry.restored .sound twoLights)
        [lightSpec 1 "indigo-2", lightSpec 2 "indigo-1"] error)
      (Registry.restored .sound twoLights) := by
  have unique : UniqueIdentities (Registry.restored .sound twoLights) := by
    unfold UniqueIdentities
    decide
  have accepted : parseEndpointSpecs
      (some (.array [lightJson 1 "indigo-2", lightJson 2 "indigo-1"])) =
        .ok [lightSpec 1 "indigo-2", lightSpec 2 "indigo-1"] := rfl
  have planned : planReconcile (Registry.restored .sound twoLights).liveComposition
      [lightSpec 1 "indigo-2", lightSpec 2 "indigo-1"] false =
        .ok (Registry.plan (Registry.restored .sound twoLights)
          [lightSpec 1 "indigo-2", lightSpec 2 "indigo-1"]) := rfl
  refine reconcile_reaches_desired unique accepted planned fun request free => ?_
  have second := free (lightSpec 1 "indigo-2") List.mem_cons_self (by decide)
  have first := free (lightSpec 2 "indigo-1") (List.mem_cons_of_mem _ List.mem_cons_self) (by decide)
  cases request with
  | watchCommands | applyLabel | applyReachable | applyStates => rfl
  | construct id | add id | close id =>
      change id ≠ "indigo-2" at second
      change id ≠ "indigo-1" at first
      simp [Matter.keeping, first, second]

/-- A light whose only state is one its role does not speak. -/
def oddLightJson : Json :=
  .object [("indigoDeviceId", .number (.ofInt 1)), ("role", .string "onOffLight"),
    ("label", .string "Lamp"), ("states", .object [("level", .number (.ofInt 55))])]

/-- A state the role refuses is accepted by the parser and the planner, and
stops the reconcile although no matter.js call throws. -/
theorem refused_state_stops_reconcile :
    ¬ ∀ (matter : Matter) (registry : Registry) (endpoints : Option Json)
      (desired : List EndpointSpec) (replaceAll : Bool) (plan : ReconcilePlan),
      UniqueIdentities registry → parseEndpointSpecs endpoints = .ok desired →
        planReconcile registry.liveComposition desired replaceAll = .ok plan →
          matter.NoFault →
            ReachesDesired registry desired
              (finalState (reconcileNow matter desired replaceAll registry)) := by
  intro claimed
  have reached := claimed .sound .fresh (some (.array [oddLightJson])) _ false _ List.nodup_nil
    rfl rfl fun _ => rfl
  exact absurd ((reached.keys 1).mpr (by decide)) (by decide)

end IndigoMatter.Bridge
