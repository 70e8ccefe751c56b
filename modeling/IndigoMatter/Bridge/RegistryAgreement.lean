import IndigoMatter.Bridge.ReconcilePhases
import IndigoMatter.Library.Transition

/-!
# Agreement of the Matter tree and the live set

A failed operation must leave no accessory that the registry cannot address.
Closing, creating, updating and the other entry points always comply.  The
rekeys do not: phase 1 takes all of them out of the live set, and a rekey that
throws in phase 2 leaves the ones behind it out for good.  `rekeysSafe` is the
exact condition on the failures of phase 2, and `CommandSafe` the condition on
a command under which agreement survives.
-/

namespace IndigoMatter.Bridge

open IndigoMatter.Library

variable {matter : Matter} {registry : Registry}

/-! ## Phase 2 of the rekeys -/

/-- Which failures of phase 2 strand nothing.  A rekey may throw only when none
is left behind it, and one that cannot be re-watched has to get its old watcher
back, under a device that no earlier rekey has claimed. -/
def rekeysSafe (matter : Matter) (registry : Registry) : List Int → List HeldRekey → Bool
  | _, [] => true
  | claimed, held :: rest =>
      if rewatchFails matter held.spec then
        rest.isEmpty && !restoreFails matter held.live held.fromDeviceId &&
          held.fromDeviceId ∉ claimed
      else if updateFails matter registry held.live held.spec then rest.isEmpty
      else rekeysSafe matter registry (held.spec.indigoDeviceId :: claimed) rest

/-- The state between two rekeys: `placed` are the specs in place, `claimed` the
devices rekeys have taken, and `pending` the rekeys still held back. -/
structure RekeysPending (base : Registry) (desired placed : List EndpointSpec)
    (claimed : List Int) (pending : List HeldRekey) (registry : Registry) : Prop where
  owned : Owned (pending.map HeldRekey.owner) registry
  inPlace : Placed placed registry
  within : placed ⊆ desired
  wanted : ∀ held ∈ pending, held.spec ∈ desired
  notPlaced : ∀ held ∈ pending, held.spec ∉ placed
  specs : (pending.map HeldRekey.spec).Nodup
  identity : ∀ held ∈ pending, held.live.publishedAs = held.spec.publishedAs
  children : ∀ held ∈ pending,
    registry.children.get? held.live.endpoint = base.children.get? held.live.endpoint
  sources : ∀ held ∈ pending,
    held.fromDeviceId ∈ registry.live.keys → held.fromDeviceId ∈ claimed

theorem updateFails_congr {base : Registry} {live : LiveEndpoint} {spec : EndpointSpec}
    (children : registry.children.get? live.endpoint = base.children.get? live.endpoint) :
    updateFails matter registry live spec = updateFails matter base live spec := by
  simp only [updateFails, labelIsStale, children]

/-- A rekey that lands leaves the rest of them pending. -/
theorem RekeysPending.step {base final : Registry} {desired placed : List EndpointSpec}
    {claimed : List Int} {held : HeldRekey} {rest : List HeldRekey} {live : LiveEndpoint}
    (distinct : Distinct desired)
    (before : RekeysPending base desired placed claimed (held :: rest) registry)
    (liveEq : final.live = registry.live.set held.spec.indigoDeviceId live)
    (owner : live.owner = held.live.owner)
    (children : SameChildrenBut held.live.endpoint registry.children final.children)
    (next : final.nextEndpoint = registry.nextEndpoint) :
    RekeysPending base desired (held.spec :: placed) (held.spec.indigoDeviceId :: claimed)
      rest final := by
  have head : held ∈ held :: rest := List.mem_cons_self
  have tail : ∀ other ∈ rest, other ∈ held :: rest := fun _ => List.mem_cons_of_mem held
  have free := before.inPlace.free distinct before.within (before.wanted held head)
    (before.notPlaced held head)
  have specs := before.specs
  rw [List.map_cons, List.nodup_cons] at specs
  constructor
  case owned => exact before.owned.putBack free liveEq owner children.keys next
  case inPlace =>
    apply before.inPlace.set liveEq
    rw [← before.identity held head]
    exact (congrArg Prod.snd owner).symm
  case within =>
    exact List.cons_subset.mpr ⟨before.wanted held head, before.within⟩
  case wanted => exact fun other member => before.wanted other (tail other member)
  case notPlaced =>
    intro other member placedOther
    rcases List.mem_cons.mp placedOther with same | earlier
    · exact specs.1 (same ▸ List.mem_map_of_mem member)
    · exact before.notPlaced other (tail other member) earlier
  case specs => exact specs.2
  case identity => exact fun other member => before.identity other (tail other member)
  case children =>
    intro other member
    have different : other.live.endpoint ≠ held.live.endpoint := by
      have nodup := before.owned.nodup_endpoints
      rw [List.map_append] at nodup
      have pendingNodup := nodup.of_append_right
      rw [List.map_cons, List.map_cons, List.nodup_cons] at pendingNodup
      intro same
      apply pendingNodup.1
      have image : other.owner.1 ∈ (rest.map HeldRekey.owner).map Prod.fst :=
        List.mem_map_of_mem (List.mem_map_of_mem member)
      rwa [show other.owner.1 = held.owner.1 from same] at image
    rw [children.others _ different]
    exact before.children other (tail other member)
  case sources =>
    intro other member occupied
    rw [liveEq, InsertionMap.mem_keys_set] at occupied
    rcases occupied with same | earlier
    · exact same ▸ List.mem_cons_self
    · exact List.mem_cons_of_mem _ (before.sources other (tail other member) earlier)

/-- Phase 2 under its safety condition: whether it finishes or throws, every
child is owned by the live set, and when it finishes every rekey is in place. -/
theorem rekeys_spec {base : Registry} {desired placed : List EndpointSpec}
    {claimed : List Int} {pending : List HeldRekey} {mutated : Bool}
    (distinct : Distinct desired)
    (before : RekeysPending base desired placed claimed pending registry)
    (safe : rekeysSafe matter base claimed pending = true) :
    wp (forM pending fun held => onFirst (rekeyOne matter held))
      (fun _ final => Owned [] final.1 ∧ Placed (pending.map HeldRekey.spec ++ placed) final.1)
      (fun _ final => Owned [] final.1)
      (registry, mutated) := by
  induction pending generalizing registry placed claimed with
  | nil => exact ⟨before.owned, before.inPlace⟩
  | cons held rest ih =>
      have head : held ∈ held :: rest := List.mem_cons_self
      have free := before.inPlace.free distinct before.within (before.wanted held head)
        (before.notPlaced held head)
      have sameUpdate : updateFails matter registry held.live held.spec =
          updateFails matter base held.live held.spec :=
        updateFails_congr (before.children held head)
      rw [rekeysSafe] at safe
      simp only [List.forM_cons, wp_bind, wp_onFirst]
      refine wp_mono (rekeyOne_spec free) ?_ ?_
      · rintro _ final ⟨rewatched, updated, liveEq, children, next, -⟩
        rw [rewatched, ← sameUpdate, updated] at safe
        have after := before.step distinct liveEq rfl children next
        refine wp_mono (ih after (by simpa using safe)) ?_ (fun _ _ thrown => thrown)
        rintro _ last ⟨owned, inPlace⟩
        refine ⟨owned, inPlace.mono ?_⟩
        exact List.perm_middle.subset
      · rintro _ final ⟨aborted, children, next, -⟩
        rcases aborted with ⟨rewatched, failed, label, liveEq⟩ | ⟨failed, restored, liveEq⟩ |
          ⟨failed, lost, -⟩
        · rw [rewatched, ← sameUpdate, failed] at safe
          obtain rfl : rest = [] := by simpa using safe
          exact before.owned.putBack free liveEq rfl children.keys next
        · rw [failed, restored] at safe
          simp only [if_true, Bool.not_false, Bool.and_true, Bool.and_eq_true,
            List.isEmpty_iff, decide_eq_true_eq] at safe
          obtain ⟨rfl, unclaimed⟩ := safe
          refine before.owned.putBack ?_ liveEq rfl children.keys next
          exact fun occupied => unclaimed (before.sources held head occupied)
        · rw [failed, lost] at safe
          simp at safe

/-! ## The other phases -/

/-- A creation for a free device and an unpublished identity keeps ownership,
whether it works or throws. -/
theorem create_owned {spec : EndpointSpec} (owned : Owned [] registry)
    (free : spec.indigoDeviceId ∉ registry.live.keys)
    (unpublished : spec.publishedAs ∉ registry.owners.map Prod.snd) :
    wp (create matter spec)
      (fun _ final => Owned [] final ∧
        ∃ live, final.live = registry.live.set spec.indigoDeviceId live ∧
          spec.publishedAs = live.publishedAs)
      (fun _ final => Owned [] final ∧ final.live = registry.live) registry := by
  refine wp_mono create_spec ?_ ?_
  · rintro _ final ⟨-, liveEq, children, next, -⟩
    have still : spec.publishedAs ∉ (registry.owners ++ []).map Prod.snd := by
      simpa using unpublished
    exact ⟨owned.add free still liveEq children next, _, liveEq, rfl⟩
  · rintro _ final ⟨-, liveEq, children, next, -, -⟩
    have same : (final.owners ++ []).Perm (registry.owners ++ []) := by
      rw [Registry.owners, liveEq]
      exact .refl _
    exact ⟨owned.rearrange same (congrArg _ (children owned.nextEndpoint_notMem)) next, liveEq⟩

/-- An update keeps ownership, also when its device turns out not to be live. -/
theorem update_owned {spec : EndpointSpec} (owned : Owned [] registry) :
    wp (update matter spec) (fun _ final => Owned [] final) (fun _ final => Owned [] final)
      registry := by
  cases stored : registry.live.get? spec.indigoDeviceId with
  | none => simpa [update, require, stored] using owned
  | some live =>
      refine wp_mono (update_spec stored) ?_ ?_
      · rintro _ final ⟨-, liveEq, children, next, -⟩
        exact owned.rewrite stored liveEq rfl children.keys next
      · rintro _ final ⟨-, ⟨label, liveEq⟩, children, next, -⟩
        exact owned.rewrite stored liveEq rfl children.keys next

theorem closeOne_owned {indigoDeviceId : Int} {live : LiveEndpoint} (owned : Owned [] registry)
    (stored : registry.live.get? indigoDeviceId = some live) :
    wp (closeOne matter indigoDeviceId live)
      (fun _ final => Owned [] final ∧ final.live = registry.live.delete indigoDeviceId)
      (fun _ final => Owned [] final) registry := by
  refine wp_mono closeOne_spec ?_ ?_
  · rintro _ final ⟨-, liveEq, children, next, -⟩
    exact ⟨owned.close stored liveEq children next, liveEq⟩
  · rintro _ final ⟨-, ⟨watching, liveEq⟩, children, next, -⟩
    exact owned.rewrite stored liveEq rfl (congrArg _ children) next

/-- The registry after a bump of `ConfigurationVersion`. -/
abbrev Registry.bumped (registry : Registry) : Registry :=
  { registry with configurationChanges := registry.configurationChanges + 1 }

/-- An invariant that every operation on one endpoint keeps, whether it works or
throws: a creation for a free device and an unpublished identity, an update,
the close of an entry that is `closable`, and the bump. -/
structure Upkeep (matter : Matter) (closable : Int → LiveEndpoint → Prop)
    (invariant : Registry → Prop) : Prop where
  unique : ∀ {registry}, invariant registry → UniqueIdentities registry
  bump : ∀ {registry}, invariant registry → invariant registry.bumped
  creation : ∀ {registry} {spec : EndpointSpec}, invariant registry →
    spec.indigoDeviceId ∉ registry.live.keys →
    spec.publishedAs ∉ registry.owners.map Prod.snd →
      wp (create matter spec)
        (fun _ final => invariant final ∧
          ∃ live, final.live = registry.live.set spec.indigoDeviceId live ∧
            spec.publishedAs = live.publishedAs)
        (fun _ final => invariant final ∧ final.live = registry.live) registry
  updating : ∀ {registry} {spec : EndpointSpec}, invariant registry →
    wp (update matter spec) (fun _ final => invariant final) (fun _ final => invariant final)
      registry
  closing : ∀ {registry} {indigoDeviceId : Int} {live : LiveEndpoint}, invariant registry →
    registry.live.get? indigoDeviceId = some live → closable indigoDeviceId live →
      wp (closeOne matter indigoDeviceId live)
        (fun _ final => invariant final ∧ final.live = registry.live.delete indigoDeviceId)
        (fun _ final => invariant final) registry

/-- Ownership survives every operation on one endpoint. -/
theorem owned_upkeep : Upkeep matter (fun _ _ => True) (Owned []) where
  unique := Owned.unique
  bump owned := ⟨owned.endpoints, owned.identities, owned.bounded⟩
  creation := create_owned
  updating := update_owned
  closing owned stored _ := closeOne_owned owned stored

section Upkeep

variable {closable : Int → LiveEndpoint → Prop} {invariant : Registry → Prop}

/-- Creating the specs that are not in place yet, one after the other. -/
theorem Upkeep.creates (upkeep : Upkeep matter closable invariant)
    {desired placed specs : List EndpointSpec} {mutated : Bool}
    (distinct : Distinct desired) (holds : invariant registry) (inPlace : Placed placed registry)
    (within : placed ⊆ desired) (wanted : specs ⊆ desired) (nodup : specs.Nodup)
    (pending : ∀ spec ∈ specs, spec ∉ placed) :
    wp (forM specs fun spec => do
        let _ ← onFirst (create matter spec)
        markMutated)
      (fun _ final => invariant final.1) (fun _ final => invariant final.1)
      (registry, mutated) := by
  induction specs generalizing registry placed mutated with
  | nil => exact holds
  | cons spec rest ih =>
      have head : spec ∈ spec :: rest := List.mem_cons_self
      rw [List.nodup_cons] at nodup
      have free := inPlace.free distinct within (wanted head) (pending spec head)
      have unpublished := inPlace.unpublished distinct within (wanted head) (pending spec head)
      simp only [List.forM_cons, wp_bind, wp_onFirst]
      refine wp_mono (upkeep.creation holds free unpublished) ?_ (fun _ _ thrown => thrown.1)
      rintro _ final ⟨created, live, liveEq, same⟩
      apply ih created (inPlace.set liveEq same)
      · exact List.cons_subset.mpr ⟨wanted head, within⟩
      · exact fun other member => wanted (List.mem_cons_of_mem _ member)
      · exact nodup.2
      · intro other member placedOther
        rcases List.mem_cons.mp placedOther with rfl | earlier
        · exact nodup.1 member
        · exact pending other (List.mem_cons_of_mem _ member) earlier

theorem Upkeep.updates (upkeep : Upkeep matter closable invariant) {specs : List EndpointSpec}
    {mutated : Bool} (holds : invariant registry) :
    wp (forM specs fun spec => onFirst (update matter spec))
      (fun _ final => invariant final.1) (fun _ final => invariant final.1)
      (registry, mutated) := by
  refine wp_forM (fun _ (final : Registry × Bool) => invariant final.1) _ ?_ specs _ holds
  intro spec rest state kept
  rw [wp_onFirst]
  exact upkeep.updating kept

end Upkeep

/-! ## A whole reconcile -/

/-- The condition on a reconcile: the guard refuses it, or a close throws before
any rekey has started, or the failures of phase 2 strand nothing. -/
def reconcileSafe (matter : Matter) (registry : Registry) (desired : List EndpointSpec)
    (replaceAll : Bool) : Bool :=
  match planReconcile registry.liveComposition desired replaceAll with
  | .error _ => true
  | .ok plan =>
      closesFail matter registry (registry.removals plan) ||
        rekeysSafe matter registry [] (registry.heldRekeys plan.rekey)

/-- The rekeys of a plan, as phase 1 hands them to phase 2. -/
theorem rekeysPending_of_vacated {desired : List EndpointSpec} {middle final : Registry}
    (owned : Owned [] registry) (distinct : Distinct desired)
    (closed : ClosedOf registry (registry.removals (registry.plan desired)) middle)
    (heldBack : Owned
      ((registry.heldRekeys (registry.plan desired).rekey).map HeldRekey.owner) final)
    (vacated : ∀ indigoDeviceId, final.live.get? indigoDeviceId =
      if indigoDeviceId ∈ (registry.plan desired).rekey.map Rekey.fromDeviceId then none
      else middle.live.get? indigoDeviceId)
    (children : final.children = middle.children) :
    RekeysPending registry desired (registry.plan desired).update []
      (registry.heldRekeys (registry.plan desired).rekey) final := by
  constructor
  case owned => exact heldBack
  case inPlace => exact placed_updates owned.unique closed vacated
  case within => exact List.filter_sublist.subset
  case wanted =>
    intro rekey member
    exact (mem_rekey_iff.mp (mem_heldRekeys member).1).1
  case notPlaced =>
    intro rekey member updated
    have bucket := (mem_rekey_iff.mp (mem_heldRekeys member).1).2
    simp only [sortDesired, List.mem_filter, decide_eq_true_eq] at updated
    rw [updated.2] at bucket
    contradiction
  case specs => exact heldRekeys_specs_nodup distinct
  case identity =>
    intro rekey member
    obtain ⟨planned, stored⟩ := mem_heldRekeys member
    obtain ⟨-, live, found, same⟩ := owned.unique.rekey_source distinct planned
    rw [stored] at found
    exact Option.some.inj found ▸ same
  case children =>
    intro rekey member
    obtain ⟨planned, stored⟩ := mem_heldRekeys member
    have survives : middle.live.get? rekey.fromDeviceId = some rekey.live := by
      rw [closed.live, if_neg (owned.unique.rekey_source distinct planned).1, stored]
    rw [children]
    exact closed.children owned _ _ survives
  case sources =>
    intro rekey member occupied
    obtain ⟨live, stored⟩ := InsertionMap.mem_keys_iff.mp occupied
    rw [vacated, if_pos (List.mem_map_of_mem (mem_heldRekeys member).1)] at stored
    contradiction

/-- No spec is created twice in one reconcile. -/
theorem creations_nodup {desired : List EndpointSpec} (distinct : Distinct desired) :
    ((registry.plan desired).create ++ (registry.plan desired).recreate).Nodup := by
  have nodup : desired.Nodup := distinct.identities.of_map _
  refine (nodup.filter _).append (nodup.filter _) ?_
  intro spec created recreated
  have bucket := (mem_create_iff.mp created).2
  rw [(mem_recreate_iff.mp recreated).2] at bucket
  contradiction

/-- Phase 1 hands every rekey of the plan to phase 2. -/
theorem vacate_pending {desired : List EndpointSpec} {middle : Registry}
    (owned : Owned [] registry) (distinct : Distinct desired)
    (closed : ClosedOf registry (registry.removals (registry.plan desired)) middle) :
    wp (vacate (registry.plan desired).rekey)
      (fun result final => result = registry.heldRekeys (registry.plan desired).rekey ∧
        RekeysPending registry desired (registry.plan desired).update [] result final)
      (fun _ _ => False) middle := by
  have sources : ∀ rekey ∈ (registry.plan desired).rekey, ∃ live,
      middle.live.get? rekey.fromDeviceId = some live := by
    intro rekey member
    obtain ⟨notClosed, live, stored, -⟩ := owned.unique.rekey_source distinct member
    exact ⟨live, by rw [closed.live, if_neg notClosed, stored]⟩
  have sameHeld : middle.heldRekeys (registry.plan desired).rekey =
      registry.heldRekeys (registry.plan desired).rekey := by
    apply heldRekeys_congr
    intro rekey member
    rw [closed.live, if_neg (owned.unique.rekey_source distinct member).1]
  refine wp_mono (vacate_spec (owned.unique.rekey_sources_nodup distinct) sources) ?_
    (fun _ _ impossible => impossible)
  rintro _ vacated ⟨rfl, heldBack, liveEq, children⟩
  have stillOwned := heldBack [] (closed.owned owned)
  rw [sameHeld, List.append_nil] at stillOwned
  rw [sameHeld]
  exact ⟨rfl, rekeysPending_of_vacated owned distinct closed stillOwned liveEq children⟩

/-- What a plan does after the rekeys keeps an invariant of the single operations. -/
theorem Upkeep.finishPlan {closable : Int → LiveEndpoint → Prop} {invariant : Registry → Prop}
    (upkeep : Upkeep matter closable invariant) {desired : List EndpointSpec}
    {rekeyed : Registry} {marked : Bool} (distinct : Distinct desired)
    (holds : invariant rekeyed)
    (inPlace : Placed ((registry.heldRekeys (registry.plan desired).rekey).map HeldRekey.spec ++
      (registry.plan desired).update) rekeyed) :
    wp (do
        forM ((registry.plan desired).create ++ (registry.plan desired).recreate) fun spec => do
          let _ ← onFirst (create matter spec)
          markMutated
        forM (registry.plan desired).update fun spec => onFirst (update matter spec))
      (fun _ final => invariant final.1) (fun _ final => invariant final.1)
      (rekeyed, marked) := by
  rw [wp_bind]
  refine wp_mono (upkeep.creates distinct holds inPlace ?_ ?_ ?_ ?_) ?_ (fun _ _ thrown => thrown)
  · apply List.append_subset.mpr
    refine ⟨?_, List.filter_sublist.subset⟩
    rintro spec member
    obtain ⟨rekey, inHeld, rfl⟩ := List.mem_map.mp member
    exact (mem_rekey_iff.mp (mem_heldRekeys inHeld).1).1
  · exact List.append_subset.mpr ⟨List.filter_sublist.subset, List.filter_sublist.subset⟩
  · exact creations_nodup distinct
  · intro spec member placedSpec
    have bucket : bucketOf registry.liveComposition spec = .create ∨
        bucketOf registry.liveComposition spec = .recreate := by
      simp only [sortDesired, List.mem_append, List.mem_filter, decide_eq_true_eq] at member
      exact member.imp And.right And.right
    rcases List.mem_append.mp placedSpec with rekeyedSpec | updated
    · obtain ⟨rekey, inHeld, rfl⟩ := List.mem_map.mp rekeyedSpec
      rw [(mem_rekey_iff.mp (mem_heldRekeys inHeld).1).2] at bucket
      simp at bucket
    · simp only [sortDesired, List.mem_filter, decide_eq_true_eq] at updated
      rw [updated.2] at bucket
      simp at bucket
  · rintro _ ⟨created, marked⟩ kept
    exact upkeep.updates kept

/-- Under its condition a reconcile leaves every child owned by the live set. -/
theorem applyPlan_owned {desired : List EndpointSpec} (owned : Owned [] registry)
    (distinct : Distinct desired)
    (safe : (closesFail matter registry (registry.removals (registry.plan desired)) ||
      rekeysSafe matter registry []
        (registry.heldRekeys (registry.plan desired).rekey)) = true) :
    wp (applyPlan matter (registry.plan desired) (registry.removals (registry.plan desired)))
      (fun _ final => Owned [] final.1) (fun _ final => Owned [] final.1)
      (registry, false) := by
  rw [applyPlan, wp_bind]
  refine wp_mono (removeMany_spec _ false) ?_ (fun _ _ thrown => thrown.2 owned)
  rintro _ ⟨middle, mutated⟩ ⟨worked, closed⟩
  rw [worked, Bool.false_or] at safe
  rw [wp_bind, wp_onFirst]
  refine wp_mono (vacate_pending owned distinct closed) ?_ (fun _ _ impossible => impossible.elim)
  rintro _ vacated ⟨rfl, pending⟩
  rw [wp_bind]
  refine wp_mono (rekeys_spec distinct pending safe) ?_ (fun _ _ thrown => thrown)
  rintro _ ⟨rekeyed, marked⟩ ⟨rekeyedOwned, inPlace⟩
  exact owned_upkeep.finishPlan distinct rekeyedOwned inPlace

/-- A reconcile keeps what its plan keeps, and the bump. -/
theorem reconcileNow_keeps {invariant : Registry → Prop} {desired : List EndpointSpec}
    {replaceAll : Bool} (holds : invariant registry)
    (bump : ∀ {final}, invariant final → invariant final.bumped)
    (applied : planReconcile registry.liveComposition desired replaceAll =
        .ok (registry.plan desired) →
      wp (applyPlan matter (registry.plan desired) (registry.removals (registry.plan desired)))
        (fun _ final => invariant final.1) (fun _ final => invariant final.1)
        (registry, false)) :
    wp (reconcileNow matter desired replaceAll)
      (fun _ final => invariant final) (fun _ final => invariant final) registry := by
  simp only [reconcileNow, wp_bind, wp_get, wp_orRefuse]
  refine ⟨?_, fun _ _ => holds⟩
  intro plan planned
  obtain rfl := eq_sortDesired_of_planReconcile planned
  simp only [wp_withLocal, nudgeOnAbort, wp_tryCatch]
  refine wp_mono (applied planned) ?_ ?_
  · rintro _ ⟨final, mutated⟩ kept
    split
    · exact bump kept
    · exact kept
  · rintro error ⟨final, mutated⟩ kept
    cases mutated with
    | false => exact kept
    | true => exact bump kept

theorem reconcileNow_owned {desired : List EndpointSpec} {replaceAll : Bool}
    (owned : Owned [] registry) (distinct : Distinct desired)
    (safe : reconcileSafe matter registry desired replaceAll = true) :
    wp (reconcileNow matter desired replaceAll)
      (fun _ final => Owned [] final) (fun _ final => Owned [] final) registry := by
  refine reconcileNow_keeps owned (@owned_upkeep matter).bump fun planned => ?_
  rw [reconcileSafe, planned] at safe
  exact applyPlan_owned owned distinct safe

/-! ## The other commands -/

/-- Nothing publishes an identity whose scan finds no device. -/
theorem unpublished_of_deviceIdFor {publishedAs : String}
    (unclaimed : registry.deviceIdFor publishedAs = none) :
    publishedAs ∉ registry.owners.map Prod.snd := by
  intro member
  obtain ⟨owner, owners, same⟩ := List.mem_map.mp member
  obtain ⟨live, values, rfl⟩ := List.mem_map.mp owners
  obtain ⟨indigoDeviceId, stored⟩ := InsertionMap.mem_values_iff.mp values
  exact deviceIdFor_eq_none_iff.mp unclaimed _ _ stored same

/-- The identity of a closed entry is published by nothing that is left. -/
theorem UniqueIdentities.unpublished_delete {indigoDeviceId : Int} {live : LiveEndpoint}
    {final : Registry} (unique : UniqueIdentities registry)
    (stored : registry.live.get? indigoDeviceId = some live)
    (liveEq : final.live = registry.live.delete indigoDeviceId) :
    live.publishedAs ∉ final.owners.map Prod.snd := by
  have perm := (owners_perm_delete stored).map Prod.snd
  have nodup : (registry.owners.map Prod.snd).Nodup := by
    simpa [UniqueIdentities, Registry.owners, LiveEndpoint.owner, Function.comp_def] using unique
  rw [perm.nodup_iff, List.map_cons, List.nodup_cons] at nodup
  rw [Registry.owners, liveEq]
  exact nodup.1

/-- The devices an upsert closes: the one whose endpoint has to gain a battery. -/
def upsertCloses (registry : Registry) (spec : EndpointSpec) : List Int :=
  match registry.live.get? spec.indigoDeviceId with
  | none => []
  | some existing =>
      if existing.publishedAs = spec.publishedAs ∧ existing.role = spec.role ∧
          spec.battery ∧ ¬existing.battery then [spec.indigoDeviceId]
      else []

section Upkeep

variable {closable : Int → LiveEndpoint → Prop} {invariant : Registry → Prop}

theorem Upkeep.remove (upkeep : Upkeep matter closable invariant) {indigoDeviceId : Int}
    (holds : invariant registry)
    (closes : ∀ live, registry.live.get? indigoDeviceId = some live →
      closable indigoDeviceId live) :
    wp (remove matter indigoDeviceId) (fun _ final => invariant final)
      (fun _ final => invariant final) registry := by
  simp only [Bridge.remove, wp_bind, wp_get]
  cases stored : registry.live.get? indigoDeviceId with
  | none => exact holds
  | some live =>
      rw [wp_bind]
      refine wp_mono (upkeep.closing holds stored (closes live stored)) ?_ (fun _ _ thrown => thrown)
      rintro _ final ⟨kept, -⟩
      exact upkeep.bump kept

theorem Upkeep.upsert (upkeep : Upkeep matter closable invariant) {spec : EndpointSpec}
    (holds : invariant registry)
    (closes : ∀ indigoDeviceId ∈ upsertCloses registry spec, ∀ live,
      registry.live.get? indigoDeviceId = some live → closable indigoDeviceId live) :
    wp (upsert matter spec) (fun _ final => invariant final)
      (fun _ final => invariant final) registry := by
  simp only [Bridge.upsert, wp_bind, wp_get]
  cases stored : registry.live.get? spec.indigoDeviceId with
  | none =>
      have free : spec.indigoDeviceId ∉ registry.live.keys :=
        InsertionMap.get?_eq_none_iff.mp stored
      simp only [wp_bind, wp_get]
      cases claimed : registry.deviceIdFor spec.publishedAs with
      | some claimedBy => exact holds
      | none =>
          rw [wp_bind]
          refine wp_mono (upkeep.creation holds free (unpublished_of_deviceIdFor claimed)) ?_
            (fun _ _ thrown => thrown.1)
          rintro number final ⟨kept, -⟩
          exact upkeep.bump kept
  | some existing =>
      by_cases identity : existing.publishedAs = spec.publishedAs
      · by_cases role : existing.role = spec.role
        · by_cases gain : spec.battery = true ∧ ¬existing.battery = true
          · simp only [identity, role, ne_eq, not_true_eq_false, if_false]
            have closesIt : closable spec.indigoDeviceId existing := by
              refine closes spec.indigoDeviceId ?_ existing stored
              simp only [upsertCloses, stored]
              rw [if_pos ⟨identity, role, gain⟩]
              exact List.mem_singleton_self _
            rw [if_pos gain, wp_bind]
            refine wp_mono (upkeep.closing holds stored closesIt) ?_ (fun _ _ thrown => thrown)
            rintro _ closed ⟨kept, liveEq⟩
            have free : spec.indigoDeviceId ∉ closed.live.keys := by
              rw [liveEq]
              simp
            have unpublished := (upkeep.unique holds).unpublished_delete stored liveEq
            rw [identity] at unpublished
            rw [wp_bind, wp_tryCatch]
            refine wp_mono (upkeep.creation kept free unpublished) ?_ ?_
            · rintro number final ⟨finalKept, -⟩
              exact upkeep.bump finalKept
            · rintro error final ⟨finalKept, -⟩
              exact upkeep.bump finalKept
          · simp only [identity, role, gain, ne_eq, not_true_eq_false, if_false, wp_bind]
            refine wp_mono (upkeep.updating holds) ?_ (fun _ _ thrown => thrown)
            intro _ final kept
            rw [wp_bind, wp_get]
            cases final.children.get? existing.endpoint <;> exact kept
        · simpa [identity, role] using holds
      · simpa [identity] using holds

/-- Restoring the persisted map keeps an invariant of the single operations. -/
theorem Upkeep.restore (upkeep : Upkeep matter closable invariant) {specs : List EndpointSpec}
    (distinct : Distinct specs) (fresh : invariant Registry.fresh) :
    wp (restore matter specs) (fun _ final => invariant final) (fun _ _ => False)
      Registry.fresh := by
  -- What has been restored is in place; what is still to come is not.
  refine wp_mono (wp_forM (fun rest (state : Registry) => invariant state ∧
      ∃ placed, placed ++ rest = specs ∧ Placed placed state)
      (fun _ _ => False) ?_ specs Registry.fresh ⟨fresh, [], rfl, ?_⟩)
    (fun _ _ kept => kept.1) (fun _ _ impossible => impossible)
  · rintro spec rest state ⟨holds, placed, whole, inPlace⟩
    have wanted : spec ∈ specs := by simp [← whole]
    have within : placed ⊆ specs := by simp [← whole]
    have pending : spec ∉ placed := by
      have nodup : specs.Nodup := distinct.identities.of_map _
      rw [← whole, List.nodup_append] at nodup
      exact fun member => nodup.2.2 spec member spec List.mem_cons_self rfl
    have free := inPlace.free distinct within wanted pending
    have unpublished := inPlace.unpublished distinct within wanted pending
    have extended : (placed ++ [spec]) ++ rest = specs := by simpa using whole
    rw [wp_tryCatch, wp_bind]
    refine wp_mono (upkeep.creation holds free unpublished) ?_ ?_
    · rintro _ final ⟨kept, live, liveEq, same⟩
      exact ⟨kept, _, extended, (inPlace.set liveEq same).mono (by simp)⟩
    · rintro _ final ⟨kept, liveEq⟩
      have still : Placed placed final := fun indigoDeviceId live stored =>
        inPlace indigoDeviceId live (liveEq ▸ stored)
      exact ⟨kept, _, extended, still.mono (List.subset_append_left _ _)⟩
  · intro indigoDeviceId live stored
    simp [Registry.fresh] at stored

end Upkeep

/-! ## Runs -/

/-- The condition on a command: only a reconcile can break agreement. -/
def commandSafe (matter : Matter) (registry : Registry) : Command → Bool
  | .reconcile endpoints replaceAll =>
      match parseEndpointSpecs endpoints with
      | .error _ => true
      | .ok desired => reconcileSafe matter registry desired replaceAll
  | .upsert _ => true
  | .remove _ => true

theorem command_owned {command : Command} (owned : Owned [] registry)
    (safe : commandSafe matter registry command = true) :
    Owned [] (finalState (command.run matter registry)) := by
  apply final_of_wp (Owned [])
  cases command with
  | reconcile endpoints replaceAll =>
      simp only [Command.run, wp_bind, wp_orRefuse]
      refine ⟨?_, fun _ _ => owned⟩
      intro desired accepted
      rw [commandSafe, accepted] at safe
      exact reconcileNow_owned owned (distinct_of_parseEndpointSpecs accepted) safe
  | upsert endpoint =>
      simp only [Command.run, wp_bind, wp_orRefuse]
      exact ⟨fun spec _ => owned_upkeep.upsert owned fun _ _ _ _ => trivial, fun _ _ => owned⟩
  | remove indigoDeviceId =>
      simp only [Command.run, wp_bind]
      exact owned_upkeep.remove owned fun _ _ => trivial

/-- What a node starts from: the endpoints of the persisted map, restored. -/
def Registry.restored (matter : Matter) (specs : List EndpointSpec) : Registry :=
  finalState (restore matter specs Registry.fresh)

/-- One command, together with how matter.js answers during it. -/
def Registry.step : LabelledStep Registry (Command × Matter) := fun registry event =>
  some (finalState (event.1.run event.2 registry))

theorem step_eq (registry : Registry) (command : Command) (matter : Matter) :
    Registry.step registry (command, matter) = some (finalState (command.run matter registry)) :=
  rfl

theorem restored_owned {specs : List EndpointSpec} (distinct : Distinct specs) :
    Owned [] (Registry.restored matter specs) := by
  apply final_of_wp (Owned [])
  exact wp_mono (owned_upkeep.restore distinct owned_fresh) (fun _ _ owned => owned)
    (fun _ _ impossible => impossible.elim)

/-- Agreement in every state reached by commands that all meet the condition. -/
theorem agree_of_safe_run {specs : List EndpointSpec} (distinct : Distinct specs)
    {events : List (Command × Matter)} {final : Registry}
    (run : RunWhere Registry.step
      (fun registry event => commandSafe event.2 registry event.1 = true)
      (Registry.restored matter specs) events final) :
    Agree final := by
  have owned : Owned [] final := by
    refine run.invariant (restored_owned distinct) ?_
    rintro registry ⟨command, answers⟩ next holds safe taken
    obtain rfl := Option.some.inj taken
    exact command_owned holds safe
  exact owned.agree

/-! ## A rekey that strands the next one -/

/-- A light of a device, as the plugin sends it. -/
def lightJson (indigoDeviceId : Int) (publishedAs : String) : Json :=
  .object [("indigoDeviceId", .number (.ofInt indigoDeviceId)),
    ("role", .string "onOffLight"), ("label", .string "Lamp"),
    ("publishedAs", .string publishedAs)]

/-- The spec such a light is parsed to. -/
def lightSpec (indigoDeviceId : Int) (publishedAs : String) : EndpointSpec :=
  { indigoDeviceId, role := .onOffLight, label := "Lamp", publishedAs, reachable := true,
    states := [], options := [], battery := false }

/-- matter.js when none of its calls throws. -/
def Matter.sound : Matter := ⟨fun _ => none, fun _ => 2⟩

/-- matter.js when one of its calls throws. -/
def Matter.failing (request : MatterCall) : Matter where
  fault other := if other = request then some "refused" else none
  number _ := 2

/-- Two lights, each under the identity of its own device. -/
def twoLights : List EndpointSpec := [lightSpec 1 "indigo-1", lightSpec 2 "indigo-2"]

/-- Both identities move to new devices in one attach. -/
def moveBoth : Command :=
  .reconcile (some (.array [lightJson 11 "indigo-1", lightJson 12 "indigo-2"])) false

theorem distinct_twoLights : Distinct twoLights := ⟨by decide, by decide⟩

/-- When only the last rekey cannot be re-watched, the run is safe. -/
theorem agree_after_last_rekey_throws :
    Agree (finalState (moveBoth.run (.failing (.watchCommands "indigo-2" 12))
      (Registry.restored .sound twoLights))) := by
  have safe : commandSafe (.failing (.watchCommands "indigo-2" 12))
      (Registry.restored .sound twoLights) moveBoth = true := by decide
  exact agree_of_safe_run distinct_twoLights (.snoc .nil safe (step_eq _ _ _))

/-- When the first of two rekeys cannot be re-watched, the second endpoint stays
in the tree and is live under no device. -/
theorem first_rekey_strands_second :
    ¬ ∀ (matter : Matter) (specs : List EndpointSpec), Distinct specs →
      ∀ (events : List (Command × Matter)) (final : Registry),
        Run Registry.step (Registry.restored matter specs) events final → Agree final := by
  intro claimed
  have agree := claimed .sound twoLights distinct_twoLights _ _
    (.snoc .nil trivial
      (step_eq _ moveBoth (.failing (.watchCommands "indigo-1" 11))))
  obtain ⟨indigoDeviceId, live, stored, endpoint⟩ :=
    (agree.sameEndpoints 1).mp (by decide)
  have owned := List.mem_map_of_mem (f := LiveEndpoint.endpoint)
    (InsertionMap.mem_values_iff.mpr ⟨indigoDeviceId, stored⟩)
  rw [endpoint] at owned
  exact absurd owned (by decide)

end IndigoMatter.Bridge
