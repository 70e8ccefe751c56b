import IndigoMatter.Bridge.RegistryAgreement

/-!
# The device a command is reported for

A command of a controller reaches the plugin through the sink of the endpoint
it was sent to.  The sinks are keyed on published identities and carry a device
id; the live set is keyed on device ids and carries the identities.
`Attributed` says that the two list the same pairs, with the rekeys that are
held back between their phases as a parameter, and that the children are the
endpoints of those identities.

Watching, closing, creating, rekeying and updating keep it.  It is lost in two
ways: a rekey that throws while others are held back leaves their sinks behind,
and a close whose listeners cannot be put back leaves a live identity without
a sink.
-/

namespace IndigoMatter.Bridge

open IndigoMatter.Library

variable {matter : Matter} {registry : Registry}

/-! ## Reporting a command -/

/-- The payload of a `command` event. -/
structure CommandEvent where
  indigoDeviceId : Int
  command : String
  args : Struct

/-- Raise a command for an endpoint.  With no sink it is dropped, or refused
where a controller has to be told. -/
def emitCommand (registry : Registry) (endpointId command : String) (args : Struct)
    (failWithoutSink : Bool) : Except String (Option CommandEvent) :=
  match registry.sinks.get? endpointId with
  | none =>
      if failWithoutSink then
        .error (command ++ " cannot be delivered: the Indigo plugin is not connected to this bridge")
      else .ok none
  | some indigoDeviceId => .ok (some ⟨indigoDeviceId, command, args⟩)

/-- Commands are reported for the device that owns the identity: a live identity
has the sink of its device, an identity with a sink is live under that device,
and a command sent to any child is reported for the device holding it. -/
structure CommandsAttributed (registry : Registry) : Prop where
  sinkOfLive : ∀ indigoDeviceId live, registry.live.get? indigoDeviceId = some live →
    registry.sinks.get? live.publishedAs = some indigoDeviceId
  noSinkUnlessLive : ∀ publishedAs, (∀ indigoDeviceId live,
      registry.live.get? indigoDeviceId = some live → live.publishedAs ≠ publishedAs) →
    registry.sinks.get? publishedAs = none
  reported : ∀ endpoint child, registry.children.get? endpoint = some child →
    ∃ indigoDeviceId live, registry.live.get? indigoDeviceId = some live ∧
      live.endpoint = endpoint ∧
      ∀ command args failWithoutSink,
        emitCommand registry child.id command args failWithoutSink =
          .ok (some ⟨indigoDeviceId, command, args⟩)

/-! ## Drivers -/

/-- An identity and the device driving it. -/
abbrev Driver := String × Int

/-- What an entry of the live set drives. -/
def driverOf (entry : Int × LiveEndpoint) : Driver := (entry.2.publishedAs, entry.1)

/-- The identities of the live set with their devices. -/
def Registry.drivers (registry : Registry) : List Driver := registry.live.entries.map driverOf

/-- The device a held rekey drove before it was held back. -/
def HeldRekey.driver (held : HeldRekey) : Driver := (held.live.publishedAs, held.fromDeviceId)

/-- A child of the aggregator as something to own. -/
def ownerOf (child : Nat × Endpoint) : Owner := (child.1, child.2.id)

/-- The sinks are those of the live entries and of the held rekeys, the children
are their endpoints, and every one of them is watched. -/
structure Attributed (held : List HeldRekey) (registry : Registry) : Prop where
  sinks : registry.sinks.entries.Perm (registry.drivers ++ held.map HeldRekey.driver)
  children : (registry.children.entries.map ownerOf).Perm
    (registry.owners ++ held.map HeldRekey.owner)
  watching : ∀ live ∈ registry.live.values ++ held.map HeldRekey.live, live.watching = true

theorem attributed_fresh : Attributed [] Registry.fresh where
  sinks := .refl _
  children := .refl _
  watching := by simp [Registry.fresh]

section Drivers

variable {held : List HeldRekey}

theorem Attributed.get?_sinks (attributed : Attributed held registry) {driver : Driver}
    (drives : driver ∈ registry.drivers ++ held.map HeldRekey.driver) :
    registry.sinks.get? driver.1 = some driver.2 :=
  InsertionMap.mem_entries_iff.mp (attributed.sinks.mem_iff.mpr drives)

theorem driver_mem_drivers {indigoDeviceId : Int} {live : LiveEndpoint}
    (stored : registry.live.get? indigoDeviceId = some live) :
    (live.publishedAs, indigoDeviceId) ∈ registry.drivers :=
  List.mem_map_of_mem (f := driverOf) (InsertionMap.mem_entries_iff.mpr stored)

theorem Attributed.watching_live (attributed : Attributed held registry) {indigoDeviceId : Int}
    {live : LiveEndpoint} (stored : registry.live.get? indigoDeviceId = some live) :
    live.watching = true :=
  attributed.watching live
    (List.mem_append_left _ (InsertionMap.mem_values_iff.mpr ⟨indigoDeviceId, stored⟩))

/-- What is owned is a child of that identity. -/
theorem Attributed.child (attributed : Attributed held registry) {owner : Owner}
    (owns : owner ∈ registry.owners ++ held.map HeldRekey.owner) :
    ∃ info, registry.children.get? owner.1 = some info ∧ info.id = owner.2 := by
  obtain ⟨⟨endpoint, info⟩, member, rfl⟩ :=
    List.mem_map.mp (attributed.children.mem_iff.mpr owns)
  exact ⟨info, InsertionMap.mem_entries_iff.mp member, rfl⟩

/-- With nothing held back, commands are reported for the owning device. -/
theorem Attributed.commandsAttributed (attributed : Attributed [] registry) :
    CommandsAttributed registry where
  sinkOfLive indigoDeviceId live stored :=
    attributed.get?_sinks (List.mem_append_left _ (driver_mem_drivers stored))
  noSinkUnlessLive publishedAs notLive := by
    cases found : registry.sinks.get? publishedAs with
    | none => rfl
    | some indigoDeviceId =>
        have drives := attributed.sinks.mem_iff.mp (InsertionMap.mem_entries_iff.mpr found)
        rw [List.map_nil, List.append_nil] at drives
        obtain ⟨⟨source, live⟩, member, same⟩ := List.mem_map.mp drives
        have identity : live.publishedAs = publishedAs := congrArg Prod.fst same
        exact absurd identity (notLive source live (InsertionMap.mem_entries_iff.mp member))
  reported endpoint child stored := by
    have owned := attributed.children.mem_iff.mp
      (List.mem_map_of_mem (f := ownerOf) (InsertionMap.mem_entries_iff.mpr stored))
    rw [List.map_nil, List.append_nil] at owned
    obtain ⟨live, member, same⟩ := List.mem_map.mp owned
    obtain ⟨indigoDeviceId, found⟩ := InsertionMap.mem_values_iff.mp member
    refine ⟨indigoDeviceId, live, found, congrArg Prod.fst same, fun command args fails => ?_⟩
    have identity : live.publishedAs = child.id := congrArg Prod.snd same
    have sink := attributed.get?_sinks (List.mem_append_left _ (driver_mem_drivers found))
    rw [emitCommand, ← identity, sink]

theorem drivers_perm_delete {indigoDeviceId : Int} {live : LiveEndpoint}
    (stored : registry.live.get? indigoDeviceId = some live) :
    registry.drivers.Perm ((live.publishedAs, indigoDeviceId) ::
      (registry.live.delete indigoDeviceId).entries.map driverOf) :=
  (InsertionMap.entries_perm_delete stored).map driverOf

/-- Rewriting an entry for the same identity changes no driver. -/
theorem drivers_perm_rewrite {indigoDeviceId : Int} {live live' : LiveEndpoint}
    (stored : registry.live.get? indigoDeviceId = some live)
    (same : live'.publishedAs = live.publishedAs) :
    ((registry.live.set indigoDeviceId live').entries.map driverOf).Perm registry.drivers := by
  refine ((InsertionMap.entries_set_perm _ _ _).map driverOf).trans ?_
  rw [List.map_cons, driverOf, same]
  exact (drivers_perm_delete stored).symm

/-- Storing an entry under a free device adds its driver. -/
theorem drivers_perm_set {indigoDeviceId : Int} (live : LiveEndpoint)
    (free : indigoDeviceId ∉ registry.live.keys) :
    ((registry.live.set indigoDeviceId live).entries.map driverOf).Perm
      ((live.publishedAs, indigoDeviceId) :: registry.drivers) := by
  have perm := (InsertionMap.entries_set_perm registry.live indigoDeviceId live).map driverOf
  rwa [InsertionMap.delete_of_notMem free] at perm

end Drivers

/-! ## Moving drivers -/

section Moves

variable {final : Registry} {held : List HeldRekey} {indigoDeviceId : Int}
  {live live' : LiveEndpoint}

/-- The children keep their ids. -/
abbrev SameIds (before after : Registry) : Prop :=
  (after.children.entries.map ownerOf).Perm (before.children.entries.map ownerOf)

theorem Attributed.rewrite (attributed : Attributed held registry)
    (stored : registry.live.get? indigoDeviceId = some live)
    (liveEq : final.live = registry.live.set indigoDeviceId live')
    (owner : live'.owner = live.owner) (watching : live'.watching = true)
    (sinks : final.sinks.entries.Perm registry.sinks.entries)
    (children : SameIds registry final) : Attributed held final where
  sinks := by
    rw [Registry.drivers, liveEq]
    refine (sinks.trans attributed.sinks).trans ?_
    exact (drivers_perm_rewrite stored (congrArg Prod.snd owner)).symm.append_right _
  children := by
    rw [Registry.owners, liveEq]
    refine (children.trans attributed.children).trans ?_
    exact (owners_perm_rewrite stored owner).symm.append_right _
  watching := by
    intro other member
    rw [liveEq] at member
    rcases List.mem_append.mp member with kept | waiting
    · rcases List.mem_cons.mp ((InsertionMap.values_set_perm _ _ _).mem_iff.mp kept) with
        rfl | elsewhere
      · exact watching
      · apply attributed.watching other (List.mem_append_left _ _)
        exact (InsertionMap.values_perm_delete stored).mem_iff.mpr
          (List.mem_cons_of_mem _ elsewhere)
    · exact attributed.watching other (List.mem_append_right _ waiting)

theorem Attributed.close (attributed : Attributed held registry)
    (stored : registry.live.get? indigoDeviceId = some live)
    (liveEq : final.live = registry.live.delete indigoDeviceId)
    (sinks : final.sinks = registry.sinks.delete live.publishedAs)
    (children : final.children = registry.children.delete live.endpoint) :
    Attributed held final where
  sinks := by
    have sink := attributed.get?_sinks (List.mem_append_left _ (driver_mem_drivers stored))
    have drivers := (drivers_perm_delete stored).append_right (held.map HeldRekey.driver)
    rw [Registry.drivers, liveEq, sinks]
    exact (((InsertionMap.entries_perm_delete sink).symm.trans attributed.sinks).trans
      drivers).cons_inv
  children := by
    obtain ⟨info, child, id⟩ :=
      attributed.child (List.mem_append_left _ (owner_mem_owners stored))
    have owners := (owners_perm_delete stored).append_right (held.map HeldRekey.owner)
    have taken := (InsertionMap.entries_perm_delete child).map ownerOf
    rw [List.map_cons, ownerOf, id] at taken
    rw [Registry.owners, liveEq, children]
    exact ((taken.symm.trans attributed.children).trans owners).cons_inv
  watching := by
    intro other member
    rw [liveEq] at member
    apply attributed.watching other
    rcases List.mem_append.mp member with kept | waiting
    · exact List.mem_append_left _
        ((InsertionMap.values_perm_delete stored).mem_iff.mpr (List.mem_cons_of_mem _ kept))
    · exact List.mem_append_right _ waiting

theorem Attributed.add (attributed : Attributed held registry) {child : Endpoint}
    (free : indigoDeviceId ∉ registry.live.keys)
    (fresh : registry.nextEndpoint ∉ registry.children.keys)
    (unheard : live.publishedAs ∉ registry.sinks.keys)
    (liveEq : final.live = registry.live.set indigoDeviceId live)
    (sinks : final.sinks = registry.sinks.set live.publishedAs indigoDeviceId)
    (children : final.children = registry.children.set registry.nextEndpoint child)
    (owner : live.owner = (registry.nextEndpoint, child.id)) (watching : live.watching = true) :
    Attributed held final where
  sinks := by
    have set := InsertionMap.entries_set_perm registry.sinks live.publishedAs indigoDeviceId
    rw [InsertionMap.delete_of_notMem unheard] at set
    rw [Registry.drivers, liveEq, sinks]
    refine (set.trans (attributed.sinks.cons _)).trans ?_
    exact ((drivers_perm_set live free).append_right _).symm
  children := by
    have set := (InsertionMap.entries_set_perm registry.children registry.nextEndpoint
      child).map ownerOf
    rw [InsertionMap.delete_of_notMem fresh, List.map_cons, ownerOf, ← owner] at set
    rw [Registry.owners, liveEq, children]
    refine (set.trans (attributed.children.cons _)).trans ?_
    exact ((owners_perm_set live free).append_right _).symm
  watching := by
    intro other member
    rw [liveEq] at member
    rcases List.mem_append.mp member with kept | waiting
    · rcases List.mem_cons.mp ((InsertionMap.values_set_perm_of_notMem free live).mem_iff.mp
        kept) with rfl | elsewhere
      · exact watching
      · exact attributed.watching other (List.mem_append_left _ elsewhere)
    · exact attributed.watching other (List.mem_append_right _ waiting)

/-- Phase 1 takes an entry out of the live set and leaves its sink. -/
theorem Attributed.holdBack (attributed : Attributed held registry) {spec : EndpointSpec}
    (stored : registry.live.get? indigoDeviceId = some live) :
    Attributed (⟨spec, indigoDeviceId, live⟩ :: held) (registry.deleteLive indigoDeviceId) where
  sinks := by
    refine attributed.sinks.trans ?_
    exact ((drivers_perm_delete stored).append_right _).trans List.perm_middle.symm
  children := by
    refine attributed.children.trans ?_
    exact ((owners_perm_delete stored).append_right _).trans List.perm_middle.symm
  watching := by
    intro other member
    apply attributed.watching other
    have values := (InsertionMap.values_perm_delete stored).append_right (held.map HeldRekey.live)
    exact (values.trans List.perm_middle.symm).mem_iff.mpr member

/-- Phase 2 puts a held entry back under a free device and retargets its sink. -/
theorem Attributed.putBack {rekey : HeldRekey} (attributed : Attributed (rekey :: held) registry)
    (free : indigoDeviceId ∉ registry.live.keys)
    (liveEq : final.live = registry.live.set indigoDeviceId live)
    (owner : live.owner = rekey.live.owner) (watching : live.watching = true)
    (sinks : final.sinks = (registry.sinks.delete rekey.live.publishedAs).set
      rekey.live.publishedAs indigoDeviceId)
    (children : SameIds registry final) : Attributed held final where
  sinks := by
    have sink : registry.sinks.get? rekey.live.publishedAs = some rekey.fromDeviceId :=
      attributed.get?_sinks (List.mem_append_right _ List.mem_cons_self)
    have others : (registry.sinks.delete rekey.live.publishedAs).entries.Perm
        (registry.drivers ++ held.map HeldRekey.driver) :=
      (((InsertionMap.entries_perm_delete sink).symm.trans attributed.sinks).trans
        List.perm_middle).cons_inv
    have identity : live.publishedAs = rekey.live.publishedAs := congrArg Prod.snd owner
    rw [Registry.drivers, liveEq, sinks]
    refine ((InsertionMap.entries_set_delete_perm _ _ _).trans (others.cons _)).trans ?_
    rw [← identity]
    exact ((drivers_perm_set live free).append_right _).symm
  children := by
    rw [Registry.owners, liveEq]
    refine (children.trans attributed.children).trans ?_
    refine List.perm_middle.trans ?_
    rw [HeldRekey.owner, ← owner]
    exact ((owners_perm_set live free).append_right _).symm
  watching := by
    intro other member
    rw [liveEq] at member
    rcases List.mem_append.mp member with kept | waiting
    · rcases List.mem_cons.mp ((InsertionMap.values_set_perm_of_notMem free live).mem_iff.mp
        kept) with rfl | elsewhere
      · exact watching
      · exact attributed.watching other (List.mem_append_left _ elsewhere)
    · exact attributed.watching other (List.mem_append_right _ (List.mem_cons_of_mem _ waiting))

end Moves

/-! ## Single operations -/

section Leaves

variable {post : PUnit → Registry → Prop} {onThrow : Thrown → Registry → Prop}

/-- Unwatching an endpoint that is watched takes its sink away. -/
theorem wp_unwatch_watching {live : LiveEndpoint} (watching : live.watching = true) :
    wp (unwatch live) post onThrow registry ↔
      post ⟨⟩ { registry with sinks := registry.sinks.delete live.publishedAs } := by
  simp [unwatch, watching]

end Leaves

/-- What an update can do to the sinks and the children: relabel them. -/
structure OnlyRelabelled (before after : Registry) : Prop where
  sinks : after.sinks = before.sinks
  children : SameIds before after

theorem OnlyRelabelled.refl (registry : Registry) : OnlyRelabelled registry registry :=
  ⟨rfl, .refl _⟩

/-- Writing labels keeps the id of the child. -/
theorem sameIds_relabel {endpoint : Nat} {info : Endpoint} {label : String}
    (stored : registry.children.get? endpoint = some info) :
    SameIds registry { registry with
      children := registry.children.set endpoint
        { info with nodeLabel := label, productLabel := label } } := by
  refine ((InsertionMap.entries_set_perm _ _ _).map ownerOf).trans ?_
  exact ((InsertionMap.entries_perm_delete stored).map ownerOf).symm

theorem refreshLabel_relabels {live : LiveEndpoint} {label : String} :
    wp (refreshLabel matter live label) (fun _ final => OnlyRelabelled registry final)
      (fun _ final => OnlyRelabelled registry final) registry := by
  simp only [refreshLabel, wp_bind, wp_get]
  split
  · simp only [applyLabel, wp_bind, wp_call, wp_modify]
    refine ⟨fun _ => ?_, fun _ _ => .refl _⟩
    split
    · exact .refl _
    · rename_i info stored
      exact ⟨rfl, sameIds_relabel stored⟩
  · exact .refl _

theorem update_relabels {spec : EndpointSpec} :
    wp (update matter spec) (fun _ final => OnlyRelabelled registry final)
      (fun _ final => OnlyRelabelled registry final) registry := by
  cases stored : registry.live.get? spec.indigoDeviceId with
  | none => simpa [update, require, stored] using OnlyRelabelled.refl registry
  | some live =>
      rw [update, wp_bind, wp_require stored, wp_bind]
      refine wp_mono refreshLabel_relabels ?_ (fun _ _ relabelled => relabelled)
      rintro _ middle relabelled
      have same : OnlyRelabelled registry
          (middle.setLive spec.indigoDeviceId { live with label := spec.label }) :=
        ⟨relabelled.sinks, relabelled.children⟩
      simp only [wp_bind, wp_modify, wp_call, wp_orRefuse]
      exact ⟨fun _ => ⟨fun _ _ => ⟨fun _ => same, fun _ _ => same⟩, fun _ _ => same⟩,
        fun _ _ => same⟩

theorem update_attributed {spec : EndpointSpec} (attributed : Attributed [] registry) :
    wp (update matter spec) (fun _ final => Attributed [] final)
      (fun _ final => Attributed [] final) registry := by
  cases stored : registry.live.get? spec.indigoDeviceId with
  | none => simpa [update, require, stored] using attributed
  | some live =>
      have watching := attributed.watching_live stored
      refine wp_mono (wp_and (update_spec stored) update_relabels) ?_ ?_
      · rintro _ final ⟨⟨-, liveEq, -⟩, relabelled⟩
        exact attributed.rewrite stored liveEq rfl watching (.of_eq (by rw [relabelled.sinks]))
          relabelled.children
      · rintro _ final ⟨⟨-, ⟨label, liveEq⟩, -⟩, relabelled⟩
        exact attributed.rewrite stored liveEq rfl watching (.of_eq (by rw [relabelled.sinks]))
          relabelled.children

/-! ### Closing -/

/-- A close that works, or whose listeners can be put back. -/
def Recloseable (matter : Matter) (indigoDeviceId : Int) (live : LiveEndpoint) : Prop :=
  matter.fault (.close live.publishedAs) = none ∨
    matter.fault (.watchCommands live.publishedAs indigoDeviceId) = none

theorem closeOne_sinks {indigoDeviceId : Int} {live : LiveEndpoint}
    (watching : live.watching = true) (closable : Recloseable matter indigoDeviceId live) :
    wp (closeOne matter indigoDeviceId live)
      (fun _ final => final.sinks = registry.sinks.delete live.publishedAs)
      (fun _ final =>
        final.sinks = (registry.sinks.delete live.publishedAs).set live.publishedAs
          indigoDeviceId ∧
        final.live = registry.live.set indigoDeviceId { live with watching := true })
      registry := by
  rw [closeOne, wp_bind, wp_unwatch_watching watching]
  simp only [wp_bind, wp_modify, wp_tryCatch, wp_throw, wp_call, wp_watchCommands]
  refine ⟨fun closed => rfl, fun message failed => ⟨fun restored => ?_, fun again failedAgain => ?_⟩⟩
  · simp [Registry.setLive]
  · rcases closable with closed | restored
    · rw [closed] at failed
      contradiction
    · rw [restored] at failedAgain
      contradiction

theorem closeOne_attributed {indigoDeviceId : Int} {live : LiveEndpoint}
    (attributed : Attributed [] registry)
    (stored : registry.live.get? indigoDeviceId = some live)
    (closable : Recloseable matter indigoDeviceId live) :
    wp (closeOne matter indigoDeviceId live)
      (fun _ final => Attributed [] final ∧ final.live = registry.live.delete indigoDeviceId)
      (fun _ final => Attributed [] final) registry := by
  have watching := attributed.watching_live stored
  refine wp_mono (wp_and closeOne_spec (closeOne_sinks watching closable)) ?_ ?_
  · rintro _ final ⟨⟨-, liveEq, children, -⟩, sinks⟩
    exact ⟨attributed.close stored liveEq sinks children, liveEq⟩
  · rintro _ final ⟨⟨-, -, children, -⟩, sinks, liveEq⟩
    have sink := attributed.get?_sinks (List.mem_append_left _ (driver_mem_drivers stored))
    have sameSinks : final.sinks.entries.Perm registry.sinks.entries := by
      rw [sinks]
      exact (InsertionMap.entries_set_delete_perm _ _ _).trans
        (InsertionMap.entries_perm_delete sink).symm
    exact attributed.rewrite stored liveEq rfl rfl sameSinks (.of_eq (by rw [children]))

/-! ### Creating -/

/-- A creation that fails takes back the sink it registered. -/
theorem create_sinks {spec : EndpointSpec} (unheard : spec.publishedAs ∉ registry.sinks.keys) :
    wp (create matter spec)
      (fun _ final => final.sinks = registry.sinks.set spec.publishedAs spec.indigoDeviceId)
      (fun _ final => final.sinks = registry.sinks) registry := by
  simp only [create, createEndpoint, wp_bind, wp_orRefuse, wp_call, wp_pure, wp_get, wp_modify,
    wp_tryCatch, wp_throw, wp_watchCommands]
  refine ⟨fun patch accepted => ⟨fun constructed => ⟨fun added => ⟨fun watched => rfl, ?_⟩, ?_⟩,
    ?_⟩, ?_⟩
  · intro message failed
    exact InsertionMap.delete_of_notMem unheard
  · exact fun _ _ => trivial
  · exact fun _ _ => trivial
  · exact fun _ _ => trivial

theorem create_attributed {spec : EndpointSpec} (owned : Owned [] registry)
    (attributed : Attributed [] registry) (free : spec.indigoDeviceId ∉ registry.live.keys)
    (unpublished : spec.publishedAs ∉ registry.owners.map Prod.snd) :
    wp (create matter spec) (fun _ final => Attributed [] final)
      (fun _ final => Attributed [] final) registry := by
  have unheard : spec.publishedAs ∉ registry.sinks.keys := by
    intro heard
    obtain ⟨indigoDeviceId, sink⟩ := InsertionMap.mem_keys_iff.mp heard
    have drives := attributed.sinks.mem_iff.mp (InsertionMap.mem_entries_iff.mpr sink)
    rw [List.map_nil, List.append_nil] at drives
    obtain ⟨⟨source, live⟩, member, same⟩ := List.mem_map.mp drives
    have owns : live.owner.2 ∈ registry.owners.map Prod.snd :=
      List.mem_map_of_mem (owner_mem_owners (InsertionMap.mem_entries_iff.mp member))
    have identity : live.publishedAs = spec.publishedAs := congrArg Prod.fst same
    rw [show live.owner.2 = spec.publishedAs from identity] at owns
    exact unpublished owns
  refine wp_mono (wp_and create_spec (create_sinks unheard)) ?_ ?_
  · rintro _ final ⟨⟨-, liveEq, children, -⟩, sinks⟩
    exact attributed.add free owned.nextEndpoint_notMem unheard liveEq sinks children rfl rfl
  · rintro _ final ⟨⟨-, liveEq, children, -⟩, sinks⟩
    have sameChildren := children owned.nextEndpoint_notMem
    constructor
    case sinks =>
      rw [Registry.drivers, liveEq, sinks]
      exact attributed.sinks
    case children =>
      rw [Registry.owners, liveEq, sameChildren]
      exact attributed.children
    case watching =>
      rw [liveEq]
      exact attributed.watching

/-- What every operation on one endpoint keeps when no close loses its sink. -/
theorem attributed_upkeep :
    Upkeep matter (Recloseable matter)
      (fun registry => Owned [] registry ∧ Attributed [] registry) where
  unique kept := kept.1.unique
  bump kept := ⟨(@owned_upkeep matter).bump kept.1, kept.2.sinks, kept.2.children, kept.2.watching⟩
  creation kept free unpublished := by
    refine wp_mono (wp_and (create_owned kept.1 free unpublished)
      (create_attributed kept.1 kept.2 free unpublished)) ?_ ?_
    · exact fun _ _ both => ⟨⟨both.1.1, both.2⟩, both.1.2⟩
    · exact fun _ _ both => ⟨⟨both.1.1, both.2⟩, both.1.2⟩
  updating kept := wp_and (update_owned kept.1) (update_attributed kept.2)
  closing kept stored closable := by
    refine wp_mono (wp_and (closeOne_owned kept.1 stored)
      (closeOne_attributed kept.2 stored closable)) ?_ (fun _ _ both => both)
    exact fun _ _ both => ⟨⟨both.1.1, both.2.1⟩, both.1.2⟩

/-! ## The phases of a reconcile -/

/-- Whether the first close of a list that throws, if there is one, gets its
listeners back. -/
def closesRestored (matter : Matter) (registry : Registry) : List Int → Bool
  | [] => true
  | indigoDeviceId :: rest =>
      match registry.live.get? indigoDeviceId with
      | none => closesRestored matter registry rest
      | some live =>
          if (matter.fault (.close live.publishedAs)).isSome then
            (matter.fault (.watchCommands live.publishedAs indigoDeviceId)).isNone
          else closesRestored matter registry rest

/-- A close that worked does not change what is expected of the closes after it. -/
theorem closesRestored_delete {final : Registry} {indigoDeviceId : Int} {live : LiveEndpoint}
    (stored : registry.live.get? indigoDeviceId = some live)
    (works : matter.fault (.close live.publishedAs) = none)
    (liveEq : final.live = registry.live.delete indigoDeviceId) (rest : List Int) :
    closesRestored matter final rest = closesRestored matter registry rest := by
  induction rest with
  | nil => rfl
  | cons other rest ih =>
      by_cases same : other = indigoDeviceId
      · subst other
        simp [closesRestored, liveEq, stored, works, ih]
      · simp [closesRestored, liveEq, same, ih]

theorem removeMany_attributed {removals : List Int} {mutated : Bool}
    (attributed : Attributed [] registry)
    (restored : closesRestored matter registry removals = true) :
    wp (removeMany matter removals) (fun _ final => Attributed [] final.1)
      (fun _ final => Attributed [] final.1) (registry, mutated) := by
  induction removals generalizing registry mutated with
  | nil => exact attributed
  | cons indigoDeviceId rest ih =>
      rw [closesRestored] at restored
      simp only [removeMany, List.forM_cons, wp_bind, wp_get]
      cases stored : registry.live.get? indigoDeviceId with
      | none =>
          rw [stored] at restored
          exact ih attributed restored
      | some live =>
          simp only [stored] at restored
          have closable : Recloseable matter indigoDeviceId live := by
            cases closes : matter.fault (.close live.publishedAs) with
            | none => exact .inl closes
            | some message => exact .inr (by simpa [closes] using restored)
          simp only [wp_bind, wp_onFirst]
          refine wp_mono (wp_and closeOne_spec (closeOne_attributed attributed stored closable)) ?_
            (fun _ _ thrown => thrown.2)
          rintro _ final ⟨⟨works, -⟩, kept, liveEq⟩
          rw [works] at restored
          apply ih kept
          rw [closesRestored_delete stored works liveEq]
          simpa using restored

theorem vacate_attributed {rekeys : List Rekey} {held : List HeldRekey}
    (attributed : Attributed held registry) :
    wp (vacate rekeys) (fun result final => Attributed (result ++ held) final)
      (fun _ _ => True) registry := by
  induction rekeys generalizing registry held with
  | nil => exact attributed
  | cons rekey rest ih =>
      simp only [vacate, wp_bind, wp_get]
      cases stored : registry.live.get? rekey.fromDeviceId with
      | none => trivial
      | some live =>
          simp only [wp_bind, wp_modify]
          have heldBack : Attributed (⟨rekey.spec, rekey.fromDeviceId, live⟩ :: held)
              (registry.deleteLive rekey.fromDeviceId) := attributed.holdBack stored
          refine wp_mono (ih heldBack) ?_ (fun _ _ _ => trivial)
          intro others final kept
          have moved : (others ++ ⟨rekey.spec, rekey.fromDeviceId, live⟩ :: held).Perm
              (⟨rekey.spec, rekey.fromDeviceId, live⟩ :: others ++ held) := List.perm_middle
          constructor
          case sinks => exact kept.sinks.trans ((moved.map _).append_left _)
          case children => exact kept.children.trans ((moved.map _).append_left _)
          case watching =>
            intro other member
            exact kept.watching other (((moved.map _).append_left _).mem_iff.mpr member)

/-- A rekey retargets its sink once re-watching works, and otherwise restores it
when it can. -/
theorem rekeyOne_sinks {held : HeldRekey} (watching : held.live.watching = true)
    (identity : held.live.publishedAs = held.spec.publishedAs)
    (free : held.spec.indigoDeviceId ∉ registry.live.keys) :
    wp (rekeyOne matter held)
      (fun _ final => SameIds registry final ∧
        final.sinks = (registry.sinks.delete held.live.publishedAs).set held.live.publishedAs
          held.spec.indigoDeviceId)
      (fun _ final => SameIds registry final ∧
        (rewatchFails matter held.spec = false →
          final.sinks = (registry.sinks.delete held.live.publishedAs).set held.live.publishedAs
            held.spec.indigoDeviceId) ∧
        (rewatchFails matter held.spec = true →
          restoreFails matter held.live held.fromDeviceId = false →
            final.sinks = (registry.sinks.delete held.live.publishedAs).set
              held.live.publishedAs held.fromDeviceId))
      registry := by
  have vacant : registry.live.has held.spec.indigoDeviceId = false := by
    rw [Bool.eq_false_iff, ne_eq, InsertionMap.has_iff]
    exact free
  have gone : held.live.publishedAs ∉ (registry.sinks.delete held.live.publishedAs).keys :=
    fun member => (InsertionMap.mem_keys_delete.mp member).1 rfl
  simp only [rekeyOne, wp_bind, wp_get, vacant, Bool.false_eq_true, if_false]
  rw [wp_unwatch_watching watching]
  simp only [wp_bind, wp_tryCatch, wp_watchCommands, wp_modify, wp_throw, ← identity]
  refine ⟨fun watched => ?_, fun message failed => ⟨fun restored => ?_, fun _ lost => ?_⟩⟩
  · have rewatched : rewatchFails matter held.spec = false := by
      simp [rewatchFails, ← identity, watched]
    refine wp_mono update_relabels ?_ ?_
    · exact fun _ final relabelled => ⟨relabelled.children, relabelled.sinks⟩
    · intro _ final relabelled
      refine ⟨relabelled.children, fun _ => relabelled.sinks, fun failed => ?_⟩
      rw [rewatched] at failed
      contradiction
  · have fails : rewatchFails matter held.spec = true := by
      simp [rewatchFails, ← identity, failed]
    refine ⟨.refl _, fun works => ?_, fun _ _ => ?_⟩
    · rw [fails] at works
      contradiction
    · simp only [Registry.setLive]
      rw [InsertionMap.delete_of_notMem gone]
  · refine ⟨.refl _, fun works => ?_, fun _ restores => ?_⟩
    · simp [rewatchFails, ← identity, failed] at works
    · simp [restoreFails, lost] at restores

/-- Phase 2 under its safety condition leaves every sink at its device. -/
theorem rekeys_attributed {base : Registry} {desired placed : List EndpointSpec}
    {claimed : List Int} {pending : List HeldRekey} {mutated : Bool}
    (distinct : Distinct desired)
    (before : RekeysPending base desired placed claimed pending registry)
    (attributed : Attributed pending registry)
    (safe : rekeysSafe matter base claimed pending = true) :
    wp (forM pending fun held => onFirst (rekeyOne matter held))
      (fun _ final => Attributed [] final.1) (fun _ final => Attributed [] final.1)
      (registry, mutated) := by
  induction pending generalizing registry placed claimed with
  | nil => exact attributed
  | cons held rest ih =>
      have head : held ∈ held :: rest := List.mem_cons_self
      have identity := before.identity held head
      have free := before.inPlace.free distinct before.within (before.wanted held head)
        (before.notPlaced held head)
      have watching : held.live.watching = true :=
        attributed.watching held.live (List.mem_append_right _ List.mem_cons_self)
      have sameUpdate : updateFails matter registry held.live held.spec =
          updateFails matter base held.live held.spec :=
        updateFails_congr (before.children held head)
      rw [rekeysSafe] at safe
      simp only [List.forM_cons, wp_bind, wp_onFirst]
      refine wp_mono (wp_and (rekeyOne_spec free) (rekeyOne_sinks watching identity free)) ?_ ?_
      · rintro _ final ⟨⟨rewatched, updated, liveEq, children, next, -⟩, sameIds, sinks⟩
        rw [rewatched, ← sameUpdate, updated] at safe
        have after := before.step distinct liveEq rfl children next
        exact ih after (attributed.putBack free liveEq rfl rfl sinks sameIds) (by simpa using safe)
      · rintro _ final ⟨⟨aborted, -⟩, sameIds, retargeted, restoredSink⟩
        rcases aborted with ⟨rewatched, failed, label, liveEq⟩ | ⟨failed, restored, liveEq⟩ |
          ⟨failed, lost, -⟩
        · rw [rewatched, ← sameUpdate, failed] at safe
          obtain rfl : rest = [] := by simpa using safe
          exact attributed.putBack free liveEq rfl rfl (retargeted rewatched) sameIds
        · rw [failed, restored] at safe
          simp only [if_true, Bool.not_false, Bool.and_true, Bool.and_eq_true,
            List.isEmpty_iff, decide_eq_true_eq] at safe
          obtain ⟨rfl, unclaimed⟩ := safe
          have vacated : held.fromDeviceId ∉ registry.live.keys :=
            fun occupied => unclaimed (before.sources held head occupied)
          exact attributed.putBack vacated liveEq rfl rfl (restoredSink failed restored) sameIds
        · rw [failed, lost] at safe
          simp at safe

theorem applyPlan_attributed {desired : List EndpointSpec} (owned : Owned [] registry)
    (attributed : Attributed [] registry) (distinct : Distinct desired)
    (safe : (closesFail matter registry (registry.removals (registry.plan desired)) ||
      rekeysSafe matter registry []
        (registry.heldRekeys (registry.plan desired).rekey)) = true)
    (restored : closesRestored matter registry (registry.removals (registry.plan desired)) =
      true) :
    wp (applyPlan matter (registry.plan desired) (registry.removals (registry.plan desired)))
      (fun _ final => Owned [] final.1 ∧ Attributed [] final.1)
      (fun _ final => Owned [] final.1 ∧ Attributed [] final.1) (registry, false) := by
  rw [applyPlan, wp_bind]
  refine wp_mono (wp_and (removeMany_spec _ false) (removeMany_attributed attributed restored)) ?_
    (fun _ _ thrown => ⟨thrown.1.2 owned, thrown.2⟩)
  rintro _ ⟨middle, mutated⟩ ⟨⟨worked, closed⟩, kept⟩
  rw [worked, Bool.false_or] at safe
  rw [wp_bind, wp_onFirst]
  refine wp_mono (wp_and (vacate_pending owned distinct closed) (vacate_attributed kept)) ?_
    (fun _ _ impossible => impossible.1.elim)
  rintro _ vacated ⟨⟨rfl, pending⟩, heldBack⟩
  rw [List.append_nil] at heldBack
  rw [wp_bind]
  refine wp_mono (wp_and (rekeys_spec distinct pending safe)
    (rekeys_attributed distinct pending heldBack safe)) ?_ (fun _ _ thrown => thrown)
  rintro _ ⟨rekeyed, marked⟩ ⟨⟨rekeyedOwned, inPlace⟩, rekeyedAttributed⟩
  exact attributed_upkeep.finishPlan distinct ⟨rekeyedOwned, rekeyedAttributed⟩ inPlace

/-! ## Runs -/

/-- The devices a command closes, in order, as far as nothing throws. -/
def Command.closes (registry : Registry) : Command → List Int
  | .reconcile endpoints replaceAll =>
      match parseEndpointSpecs endpoints with
      | .error _ => []
      | .ok desired =>
          match planReconcile registry.liveComposition desired replaceAll with
          | .error _ => []
          | .ok plan => registry.removals plan
  | .upsert endpoint =>
      match parseEndpointSpec endpoint with
      | .error _ => []
      | .ok spec => upsertCloses registry spec
  | .remove indigoDeviceId => [indigoDeviceId]

/-- The condition on a command: no rekey of it strands another, and the first
close of it that throws gets its listeners back. -/
def attributionSafe (matter : Matter) (registry : Registry) (command : Command) : Bool :=
  commandSafe matter registry command && closesRestored matter registry (command.closes registry)

/-- A single close under its condition. -/
theorem recloseable_of_closesRestored {indigoDeviceId : Int} {live : LiveEndpoint}
    (restored : closesRestored matter registry [indigoDeviceId] = true)
    (stored : registry.live.get? indigoDeviceId = some live) :
    Recloseable matter indigoDeviceId live := by
  cases closes : matter.fault (.close live.publishedAs) with
  | none => exact .inl closes
  | some message => exact .inr (by simpa [closesRestored, stored, closes] using restored)

theorem recloseable_of_upsertCloses {spec : EndpointSpec}
    (restored : closesRestored matter registry (upsertCloses registry spec) = true) :
    ∀ indigoDeviceId ∈ upsertCloses registry spec, ∀ live,
      registry.live.get? indigoDeviceId = some live → Recloseable matter indigoDeviceId live := by
  intro indigoDeviceId member live stored
  have single : upsertCloses registry spec = [indigoDeviceId] := by
    unfold upsertCloses at member ⊢
    split at member
    · simp at member
    · split at member
      · rename_i gains
        rw [List.mem_singleton.mp member, if_pos gains]
      · simp at member
  rw [single] at restored
  exact recloseable_of_closesRestored restored stored

theorem command_attributed {command : Command}
    (kept : Owned [] registry ∧ Attributed [] registry)
    (safe : attributionSafe matter registry command = true) :
    Owned [] (finalState (command.run matter registry)) ∧
      Attributed [] (finalState (command.run matter registry)) := by
  rw [attributionSafe, Bool.and_eq_true] at safe
  rcases safe with ⟨safe, restored⟩
  apply final_of_wp fun final => Owned [] final ∧ Attributed [] final
  cases command with
  | reconcile endpoints replaceAll =>
      simp only [Command.run, wp_bind, wp_orRefuse]
      refine ⟨?_, fun _ _ => kept⟩
      intro desired accepted
      refine reconcileNow_keeps kept (@attributed_upkeep matter).bump fun planned => ?_
      rw [commandSafe, accepted] at safe
      simp only [reconcileSafe, planned] at safe
      simp only [Command.closes, accepted, planned] at restored
      exact applyPlan_attributed kept.1 kept.2 (distinct_of_parseEndpointSpecs accepted) safe
        restored
  | upsert endpoint =>
      simp only [Command.run, wp_bind, wp_orRefuse]
      refine ⟨fun spec parsed => ?_, fun _ _ => kept⟩
      simp only [Command.closes, parsed] at restored
      exact attributed_upkeep.upsert kept (recloseable_of_upsertCloses restored)
  | remove indigoDeviceId =>
      simp only [Command.run, wp_bind]
      exact attributed_upkeep.remove kept fun live stored =>
        recloseable_of_closesRestored restored stored

/-- In every state reached by commands that all meet the condition, commands are
reported for the device that owns the identity. -/
theorem commandsAttributed_of_safe_run {specs : List EndpointSpec} (distinct : Distinct specs)
    {events : List (Command × Matter)} {final : Registry}
    (run : RunWhere Registry.step
      (fun registry event => attributionSafe event.2 registry event.1 = true)
      (Registry.restored matter specs) events final) :
    CommandsAttributed final := by
  have start : Owned [] (Registry.restored matter specs) ∧
      Attributed [] (Registry.restored matter specs) := by
    apply final_of_wp fun registry => Owned [] registry ∧ Attributed [] registry
    exact wp_mono (attributed_upkeep.restore distinct ⟨owned_fresh, attributed_fresh⟩)
      (fun _ _ kept => kept) (fun _ _ impossible => impossible.elim)
  have kept : Owned [] final ∧ Attributed [] final := by
    apply @RunWhere.invariant _ _ _ _ _
      (fun registry => Owned [] registry ∧ Attributed [] registry) start _ _ _ run
    rintro registry ⟨command, answers⟩ next holds safe taken
    obtain rfl := Option.some.inj taken
    exact command_attributed holds safe
  exact kept.2.commandsAttributed

/-! ## A sink of a device that is no longer live -/

/-- A close that throws and gets its listeners back, and then two rekeys. -/
theorem commandsAttributed_after_failed_close :
    CommandsAttributed (finalState (moveBoth.run .sound (finalState ((Command.remove 1).run
      (.failing (.close "indigo-1")) (Registry.restored .sound twoLights))))) := by
  have closeSafe : attributionSafe (.failing (.close "indigo-1"))
      (Registry.restored .sound twoLights) (.remove 1) = true := by decide
  have moveSafe : attributionSafe .sound (finalState ((Command.remove 1).run
      (.failing (.close "indigo-1")) (Registry.restored .sound twoLights))) moveBoth = true := by
    decide
  exact commandsAttributed_of_safe_run distinct_twoLights
    (.snoc (.snoc .nil closeSafe (step_eq _ _ _)) moveSafe (step_eq _ _ _))

/-- Both identities move to new devices, the first with a state that its role
does not have. -/
def moveBothOneRefused : Command :=
  .reconcile (some (.array
    [.object [("indigoDeviceId", .number (.ofInt 11)),
        ("role", .string "onOffLight"), ("label", .string "Lamp"),
        ("publishedAs", .string "indigo-1"),
        ("states", .object [("brightness", .number (.ofInt 50))])],
      lightJson 12 "indigo-2"])) false

/-- With no matter.js call failing, a refused state leaves the second identity
out of the live set and its sink at the device it had. -/
theorem refused_state_leaves_sink :
    ¬ ∀ (matter : Matter) (specs : List EndpointSpec), Distinct specs →
      ∀ (events : List (Command × Matter)) (final : Registry),
        Run Registry.step (Registry.restored matter specs) events final →
          CommandsAttributed final := by
  intro claimed
  have attributed := claimed .sound twoLights distinct_twoLights _ _
    (.snoc .nil trivial (step_eq _ moveBothOneRefused .sound))
  have notLive : ∀ indigoDeviceId live,
      (finalState (moveBothOneRefused.run .sound (Registry.restored .sound twoLights))).live.get?
        indigoDeviceId = some live → live.publishedAs ≠ "indigo-2" := by
    intro indigoDeviceId live stored same
    have publishes := List.mem_map_of_mem (f := LiveEndpoint.publishedAs)
      (InsertionMap.mem_values_iff.mpr ⟨indigoDeviceId, stored⟩)
    rw [same] at publishes
    exact absurd publishes (by decide)
  exact absurd (attributed.noSinkUnlessLive "indigo-2" notLive) (by decide)

/-- matter.js when neither the close nor the listeners of one endpoint work. -/
def Matter.closeAndWatchFailing (id : String) (indigoDeviceId : Int) : Matter where
  fault request :=
    if request = .close id ∨ request = .watchCommands id indigoDeviceId then some "refused"
    else none
  number _ := 2

/-- A close whose listeners cannot be put back leaves a live identity unheard. -/
example :
    let final := finalState ((Command.remove 1).run (.closeAndWatchFailing "indigo-1" 1)
      (Registry.restored .sound twoLights))
    (final.live.get? 1).map LiveEndpoint.publishedAs = some "indigo-1" ∧
      final.sinks.get? "indigo-1" = none := by
  decide

end IndigoMatter.Bridge
