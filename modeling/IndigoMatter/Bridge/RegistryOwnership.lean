import IndigoMatter.Bridge.RegistrySpec

/-!
# Who owns the children of the aggregator

Every child of the aggregator has to be held by exactly one owner: an entry of
the live set, or, between the two phases of the rekeys, a held rekey.  `Owned`
counts them, with the held ones as a parameter, and every operation moves
owners about without losing or duplicating one.  With nothing held it is the
agreement between the Matter tree and the live set.
-/

namespace IndigoMatter.Bridge

open IndigoMatter.Library

/-- An endpoint and the identity it publishes. -/
abbrev Owner := Nat × String

/-- What a live entry owns. -/
def LiveEndpoint.owner (live : LiveEndpoint) : Owner := (live.endpoint, live.publishedAs)

/-- What the entries of the live set own, in order. -/
def Registry.owners (registry : Registry) : List Owner :=
  registry.live.values.map LiveEndpoint.owner

/-- The children are exactly what the live entries and the held rekeys own, and
no identity is owned twice. -/
structure Owned (held : List Owner) (registry : Registry) : Prop where
  endpoints : ((registry.owners ++ held).map Prod.fst).Perm registry.children.keys
  identities : ((registry.owners ++ held).map Prod.snd).Nodup
  bounded : ∀ endpoint ∈ registry.children.keys, endpoint < registry.nextEndpoint

/-- The children of the aggregator are the endpoints of the live set, each under
one device id. -/
structure Agree (registry : Registry) : Prop where
  sameEndpoints : ∀ endpoint, endpoint ∈ registry.children.keys ↔
    ∃ indigoDeviceId live, registry.live.get? indigoDeviceId = some live ∧
      live.endpoint = endpoint
  oneDevice : ∀ {first second : Int} {firstLive secondLive : LiveEndpoint},
    registry.live.get? first = some firstLive → registry.live.get? second = some secondLive →
      firstLive.endpoint = secondLive.endpoint → first = second

section Owners

variable {registry : Registry} {held : List Owner}

theorem owned_fresh : Owned [] Registry.fresh where
  endpoints := .refl _
  identities := List.nodup_nil
  bounded := by simp [Registry.fresh]

theorem owner_mem_owners {indigoDeviceId : Int} {live : LiveEndpoint}
    (stored : registry.live.get? indigoDeviceId = some live) : live.owner ∈ registry.owners :=
  List.mem_map_of_mem (InsertionMap.mem_values_iff.mpr ⟨indigoDeviceId, stored⟩)

theorem Owned.nextEndpoint_notMem (owned : Owned held registry) :
    registry.nextEndpoint ∉ registry.children.keys :=
  fun member => Nat.lt_irrefl _ (owned.bounded _ member)

theorem Owned.endpoint_mem (owned : Owned held registry) {owner : Owner}
    (member : owner ∈ registry.owners ++ held) : owner.1 ∈ registry.children.keys :=
  owned.endpoints.subset (List.mem_map_of_mem member)

theorem Owned.nodup_endpoints (owned : Owned held registry) :
    ((registry.owners ++ held).map Prod.fst).Nodup :=
  owned.endpoints.nodup_iff.mpr registry.children.keys_nodup

/-- No identity is live under two devices. -/
def UniqueIdentities (registry : Registry) : Prop :=
  (registry.live.values.map LiveEndpoint.publishedAs).Nodup

theorem Owned.unique (owned : Owned held registry) : UniqueIdentities registry := by
  have nodup := owned.identities
  rw [List.map_append] at nodup
  simpa [UniqueIdentities, Registry.owners, LiveEndpoint.owner, Function.comp_def] using
    nodup.of_append_left

theorem UniqueIdentities.eq_device (unique : UniqueIdentities registry) {first second : Int}
    {firstLive secondLive : LiveEndpoint}
    (firstStored : registry.live.get? first = some firstLive)
    (secondStored : registry.live.get? second = some secondLive)
    (same : firstLive.publishedAs = secondLive.publishedAs) : first = second :=
  InsertionMap.eq_key_of_nodup_map unique firstStored secondStored same

/-- Ownership with nothing held back is agreement. -/
theorem Owned.agree (owned : Owned [] registry) : Agree registry where
  sameEndpoints endpoint := by
    rw [← owned.endpoints.mem_iff]
    simp only [Registry.owners, LiveEndpoint.owner, List.append_nil, List.map_map,
      List.mem_map, InsertionMap.mem_values_iff, Function.comp_apply]
    constructor
    · rintro ⟨live, ⟨indigoDeviceId, stored⟩, same⟩
      exact ⟨indigoDeviceId, live, stored, same⟩
    · rintro ⟨indigoDeviceId, live, stored, same⟩
      exact ⟨live, ⟨indigoDeviceId, stored⟩, same⟩
  oneDevice firstStored secondStored same := by
    have distinct : (registry.live.values.map LiveEndpoint.endpoint).Nodup := by
      simpa [Registry.owners, LiveEndpoint.owner, Function.comp_def] using
        owned.nodup_endpoints
    exact InsertionMap.eq_key_of_nodup_map distinct firstStored secondStored same

/-- Rearranging the owners keeps ownership. -/
theorem Owned.rearrange {final : Registry} {held' : List Owner} (owned : Owned held registry)
    (owners : (final.owners ++ held').Perm (registry.owners ++ held))
    (children : final.children.keys = registry.children.keys)
    (next : registry.nextEndpoint ≤ final.nextEndpoint) : Owned held' final where
  endpoints := by
    rw [children]
    exact (owners.map Prod.fst).trans owned.endpoints
  identities := (owners.map Prod.snd).nodup_iff.mpr owned.identities
  bounded := by
    rw [children]
    exact fun endpoint member => Nat.lt_of_lt_of_le (owned.bounded endpoint member) next

/-- One entry of the live set, and the owners of the rest. -/
theorem owners_perm_delete {indigoDeviceId : Int} {live : LiveEndpoint}
    (stored : registry.live.get? indigoDeviceId = some live) :
    registry.owners.Perm
      (live.owner :: (registry.live.delete indigoDeviceId).values.map LiveEndpoint.owner) :=
  (InsertionMap.values_perm_delete stored).map LiveEndpoint.owner

/-- Rewriting an entry for the same owner changes no owner. -/
theorem owners_perm_rewrite {indigoDeviceId : Int} {live live' : LiveEndpoint}
    (stored : registry.live.get? indigoDeviceId = some live) (same : live'.owner = live.owner) :
    ((registry.live.set indigoDeviceId live').values.map LiveEndpoint.owner).Perm
      registry.owners := by
  refine ((InsertionMap.values_set_perm _ _ _).map LiveEndpoint.owner).trans ?_
  rw [List.map_cons, same]
  exact (owners_perm_delete stored).symm

/-- Storing an entry under a free device adds its owner. -/
theorem owners_perm_set {indigoDeviceId : Int} (live : LiveEndpoint)
    (free : indigoDeviceId ∉ registry.live.keys) :
    ((registry.live.set indigoDeviceId live).values.map LiveEndpoint.owner).Perm
      (live.owner :: registry.owners) :=
  (InsertionMap.values_set_perm_of_notMem free live).map LiveEndpoint.owner

end Owners

/-! ## Moving owners -/

section Moves

variable {registry final : Registry} {held : List Owner} {indigoDeviceId : Int}
  {live live' : LiveEndpoint}

theorem Owned.rewrite (owned : Owned held registry)
    (stored : registry.live.get? indigoDeviceId = some live)
    (liveEq : final.live = registry.live.set indigoDeviceId live')
    (same : live'.owner = live.owner)
    (children : final.children.keys = registry.children.keys)
    (next : final.nextEndpoint = registry.nextEndpoint) : Owned held final := by
  refine owned.rearrange ?_ children next.ge
  rw [Registry.owners, liveEq]
  exact (owners_perm_rewrite stored same).append_right held

theorem Owned.holdBack (owned : Owned held registry)
    (stored : registry.live.get? indigoDeviceId = some live)
    (liveEq : final.live = registry.live.delete indigoDeviceId)
    (children : final.children = registry.children)
    (next : final.nextEndpoint = registry.nextEndpoint) :
    Owned (live.owner :: held) final := by
  refine owned.rearrange ?_ (congrArg _ children) next.ge
  rw [Registry.owners, liveEq]
  exact List.perm_middle.trans ((owners_perm_delete stored).symm.append_right held)

theorem Owned.putBack (owned : Owned (live.owner :: held) registry)
    (free : indigoDeviceId ∉ registry.live.keys)
    (liveEq : final.live = registry.live.set indigoDeviceId live')
    (same : live'.owner = live.owner)
    (children : final.children.keys = registry.children.keys)
    (next : final.nextEndpoint = registry.nextEndpoint) : Owned held final := by
  refine owned.rearrange ?_ children next.ge
  rw [Registry.owners, liveEq]
  refine ((owners_perm_set live' free).append_right held).trans ?_
  rw [same]
  exact List.perm_middle.symm

theorem Owned.close (owned : Owned held registry)
    (stored : registry.live.get? indigoDeviceId = some live)
    (liveEq : final.live = registry.live.delete indigoDeviceId)
    (children : final.children = registry.children.delete live.endpoint)
    (next : final.nextEndpoint = registry.nextEndpoint) : Owned held final := by
  have owners : (registry.owners ++ held).Perm (live.owner :: (final.owners ++ held)) := by
    simp only [Registry.owners, liveEq]
    exact (owners_perm_delete stored).append_right held
  have present : live.endpoint ∈ registry.children.keys :=
    owned.endpoint_mem (List.mem_append_left held (owner_mem_owners stored))
  refine ⟨?_, ?_, ?_⟩
  · have perm : (live.endpoint :: (final.owners ++ held).map Prod.fst).Perm
        (live.endpoint :: final.children.keys) := by
      rw [children]
      exact ((owners.map Prod.fst).symm.trans owned.endpoints).trans
        (InsertionMap.keys_perm_delete present)
    exact perm.cons_inv
  · have nodup := (owners.map Prod.snd).nodup_iff.mp owned.identities
    exact (List.nodup_cons.mp nodup).2
  · rw [children, next]
    intro endpoint member
    exact owned.bounded endpoint (InsertionMap.mem_keys_delete.mp member).2

theorem Owned.add (owned : Owned held registry) {spec : EndpointSpec} {child : Endpoint}
    (free : spec.indigoDeviceId ∉ registry.live.keys)
    (unpublished : spec.publishedAs ∉ (registry.owners ++ held).map Prod.snd)
    (liveEq : final.live = registry.live.set spec.indigoDeviceId
      (LiveEndpoint.ofSpec spec registry.nextEndpoint))
    (children : final.children = registry.children.set registry.nextEndpoint child)
    (next : final.nextEndpoint = registry.nextEndpoint + 1) : Owned held final := by
  have owners : (final.owners ++ held).Perm
      ((registry.nextEndpoint, spec.publishedAs) :: (registry.owners ++ held)) := by
    simp only [Registry.owners, liveEq]
    exact (owners_perm_set _ free).append_right held
  refine ⟨?_, ?_, ?_⟩
  · rw [children]
    refine (owners.map Prod.fst).trans ?_
    refine (owned.endpoints.cons _).trans ?_
    exact (InsertionMap.keys_set_perm_of_notMem owned.nextEndpoint_notMem child).symm
  · refine (owners.map Prod.snd).nodup_iff.mpr ?_
    exact List.nodup_cons.mpr ⟨unpublished, owned.identities⟩
  · rw [children, next]
    intro endpoint member
    rcases InsertionMap.mem_keys_set.mp member with rfl | member
    · exact Nat.lt_succ_self _
    · exact Nat.lt_succ_of_lt (owned.bounded endpoint member)

end Moves

end IndigoMatter.Bridge
