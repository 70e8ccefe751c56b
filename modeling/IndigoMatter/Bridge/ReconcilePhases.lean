import IndigoMatter.Bridge.RegistryOwnership

/-!
# The first two phases of a reconcile

The plan is made from a snapshot of the live set, keyed on identities; the
phases run on the live set itself, keyed on device ids.  The two agree because
an identity is live under one device.  After the removals and after
phase 1 of the rekeys, what is still live is exactly what the plan updates, at
the devices the desired set gives it.
-/

namespace IndigoMatter.Bridge

open IndigoMatter.Library

variable {matter : Matter} {registry : Registry}

/-! ## The snapshot -/

/-- The snapshot of the planner, looked up by identity. -/
theorem UniqueIdentities.liveComposition_eq_some_iff (unique : UniqueIdentities registry) {publishedAs : String}
    {composition : LiveComposition} :
    registry.liveComposition.get? publishedAs = some composition ↔
      ∃ live, registry.live.get? composition.indigoDeviceId = some live ∧
        live.publishedAs = publishedAs ∧ live.role = composition.role ∧
        live.battery = composition.battery := by
  have distinct : ((registry.live.entries.map fun entry =>
      (entry.2.publishedAs, LiveComposition.mk entry.1 entry.2.role entry.2.battery)).map
        Prod.fst).Nodup := by
    simpa [UniqueIdentities, InsertionMap.values, List.map_map, Function.comp_def] using unique
  rw [← InsertionMap.mem_entries_iff, Registry.liveComposition,
    InsertionMap.entries_ofList distinct, List.mem_map]
  constructor
  · rintro ⟨⟨indigoDeviceId, live⟩, member, same⟩
    obtain ⟨rfl, rfl⟩ := Prod.mk.inj same
    exact ⟨live, InsertionMap.mem_entries_iff.mp member, rfl, rfl, rfl⟩
  · rintro ⟨live, stored, rfl, role, battery⟩
    exact ⟨(composition.indigoDeviceId, live), InsertionMap.mem_entries_iff.mpr stored, by
      simp [role, battery]⟩

theorem UniqueIdentities.liveComposition_of_live (unique : UniqueIdentities registry) {indigoDeviceId : Int}
    {live : LiveEndpoint} (stored : registry.live.get? indigoDeviceId = some live) :
    registry.liveComposition.get? live.publishedAs =
      some ⟨indigoDeviceId, live.role, live.battery⟩ :=
  unique.liveComposition_eq_some_iff.mpr ⟨live, stored, rfl, rfl, rfl⟩

theorem UniqueIdentities.mem_liveComposition_keys_iff (unique : UniqueIdentities registry) {publishedAs : String} :
    publishedAs ∈ registry.liveComposition.keys ↔
      ∃ indigoDeviceId live, registry.live.get? indigoDeviceId = some live ∧
        live.publishedAs = publishedAs := by
  rw [InsertionMap.mem_keys_iff]
  constructor
  · rintro ⟨composition, found⟩
    obtain ⟨live, stored, same, -, -⟩ := unique.liveComposition_eq_some_iff.mp found
    exact ⟨_, live, stored, same⟩
  · rintro ⟨indigoDeviceId, live, stored, rfl⟩
    exact ⟨_, unique.liveComposition_of_live stored⟩

/-- The scan finds a device driving the identity, and none when there is none. -/
theorem deviceIdFor_eq_some {publishedAs : String} {indigoDeviceId : Int}
    (found : registry.deviceIdFor publishedAs = some indigoDeviceId) :
    ∃ live, registry.live.get? indigoDeviceId = some live ∧ live.publishedAs = publishedAs := by
  obtain ⟨entry, search, rfl⟩ := Option.map_eq_some_iff.mp found
  exact ⟨entry.2, InsertionMap.mem_entries_iff.mp (List.mem_of_find?_eq_some search), by
    simpa using List.find?_some search⟩

theorem deviceIdFor_eq_none_iff {publishedAs : String} :
    registry.deviceIdFor publishedAs = none ↔
      ∀ indigoDeviceId live, registry.live.get? indigoDeviceId = some live →
        live.publishedAs ≠ publishedAs := by
  simp [Registry.deviceIdFor, InsertionMap.mem_entries_iff]

theorem UniqueIdentities.deviceIdFor_eq (unique : UniqueIdentities registry) {indigoDeviceId : Int}
    {live : LiveEndpoint} (stored : registry.live.get? indigoDeviceId = some live) :
    registry.deviceIdFor live.publishedAs = some indigoDeviceId := by
  cases found : registry.deviceIdFor live.publishedAs with
  | none => exact absurd rfl (deviceIdFor_eq_none_iff.mp found _ _ stored)
  | some other =>
      obtain ⟨otherLive, otherStored, same⟩ := deviceIdFor_eq_some found
      rw [unique.eq_device otherStored stored same]

/-! ## Buckets of the live set -/

/-- The plan a registry makes for a desired list, before the guard. -/
abbrev Registry.plan (registry : Registry) (desired : List EndpointSpec) : ReconcilePlan :=
  sortDesired registry.liveComposition desired

/-- Where a live entry goes: it is closed, rekeyed to another device, or updated
where it is. -/
theorem UniqueIdentities.fate (unique : UniqueIdentities registry) (desired : List EndpointSpec)
    {indigoDeviceId : Int} {live : LiveEndpoint}
    (stored : registry.live.get? indigoDeviceId = some live) :
    indigoDeviceId ∈ registry.removals (registry.plan desired) ∨
      (∃ rekey ∈ (registry.plan desired).rekey, rekey.fromDeviceId = indigoDeviceId ∧
        rekey.spec.publishedAs = live.publishedAs) ∨
      ∃ spec ∈ (registry.plan desired).update, spec.indigoDeviceId = indigoDeviceId ∧
        spec.publishedAs = live.publishedAs := by
  have composed := unique.liveComposition_of_live stored
  by_cases wanted : live.publishedAs ∈ desired.map EndpointSpec.publishedAs
  · obtain ⟨spec, member, same⟩ := List.mem_map.mp wanted
    cases bucket : bucketOf registry.liveComposition spec with
    | create =>
        rw [bucketOf_eq_create_iff, same, composed] at bucket
        contradiction
    | recreate =>
        left
        refine List.mem_append_right _ (List.mem_filterMap.mpr ⟨spec, ?_, ?_⟩)
        · simpa [sortDesired] using ⟨member, bucket⟩
        · rw [same]
          exact unique.deviceIdFor_eq stored
    | rekey fromDeviceId =>
        right; left
        refine ⟨⟨spec, fromDeviceId⟩, mem_rekey_iff.mpr ⟨member, bucket⟩, ?_, same⟩
        obtain ⟨composition, found, -, -, driver, -⟩ := bucketOf_eq_rekey_iff.mp bucket
        rw [same, composed] at found
        rw [← driver, ← Option.some.inj found]
    | update =>
        right; right
        refine ⟨spec, by simpa [sortDesired] using ⟨member, bucket⟩, ?_, same⟩
        obtain ⟨composition, found, -, -, driver⟩ := bucketOf_eq_update_iff.mp bucket
        rw [same, composed] at found
        rw [← driver, ← Option.some.inj found]
  · left
    refine List.mem_append_left _ (List.mem_filterMap.mpr ⟨live.publishedAs, ?_, ?_⟩)
    · simp only [sortDesired, List.mem_filter, decide_eq_true_eq]
      exact ⟨unique.mem_liveComposition_keys_iff.mpr ⟨_, live, stored, rfl⟩, wanted⟩
    · exact unique.deviceIdFor_eq stored

/-- A closed device is live, and its identity is not one that keeps its
endpoint. -/
theorem removal_live {desired : List EndpointSpec}
    (distinct : Distinct desired) {indigoDeviceId : Int}
    (removal : indigoDeviceId ∈ registry.removals (registry.plan desired)) :
    ∃ live, registry.live.get? indigoDeviceId = some live ∧
      ∀ spec ∈ desired, spec.publishedAs = live.publishedAs →
        bucketOf registry.liveComposition spec = .recreate := by
  rcases List.mem_append.mp removal with removed | recreated
  · obtain ⟨publishedAs, member, found⟩ := List.mem_filterMap.mp removed
    obtain ⟨live, stored, rfl⟩ := deviceIdFor_eq_some found
    refine ⟨live, stored, fun spec wanted same => ?_⟩
    simp only [sortDesired, List.mem_filter, decide_eq_true_eq] at member
    exact absurd (List.mem_map.mpr ⟨spec, wanted, same⟩) member.2
  · obtain ⟨spec, member, found⟩ := List.mem_filterMap.mp recreated
    obtain ⟨live, stored, same⟩ := deviceIdFor_eq_some found
    refine ⟨live, stored, fun other wanted otherSame => ?_⟩
    simp only [sortDesired, List.mem_filter, decide_eq_true_eq] at member
    obtain rfl := distinct.eq_of_publishedAs wanted member.1 (otherSame.trans same)
    exact member.2

/-- The source of a rekey is live, publishes the identity, and is not closed. -/
theorem UniqueIdentities.rekey_source (unique : UniqueIdentities registry) {desired : List EndpointSpec}
    (distinct : Distinct desired) {rekey : Rekey}
    (member : rekey ∈ (registry.plan desired).rekey) :
    rekey.fromDeviceId ∉ registry.removals (registry.plan desired) ∧
      ∃ live, registry.live.get? rekey.fromDeviceId = some live ∧
        live.publishedAs = rekey.spec.publishedAs := by
  obtain ⟨wanted, bucket⟩ := mem_rekey_iff.mp member
  obtain ⟨composition, found, -, -, driver, -⟩ := bucketOf_eq_rekey_iff.mp bucket
  obtain ⟨live, stored, same, -, -⟩ := unique.liveComposition_eq_some_iff.mp found
  rw [driver] at stored
  refine ⟨fun removal => ?_, live, stored, same⟩
  obtain ⟨other, otherStored, recreated⟩ := removal_live distinct removal
  obtain rfl : live = other := Option.some.inj (stored.symm.trans otherStored)
  rw [recreated rekey.spec wanted same.symm] at bucket
  contradiction

/-- A partial image of a list has no duplicates when it is injective there. -/
theorem nodup_filterMap_of_injOn {α β : Type} {f : α → Option β} {elements : List α}
    (nodup : elements.Nodup)
    (injective : ∀ first ∈ elements, ∀ second ∈ elements, ∀ image,
      f first = some image → f second = some image → first = second) :
    (elements.filterMap f).Nodup := by
  induction elements with
  | nil => exact List.nodup_nil
  | cons element rest ih =>
      rw [List.nodup_cons] at nodup
      have tail := ih nodup.2 fun first firstMem second secondMem =>
        injective first (List.mem_cons_of_mem _ firstMem) second
          (List.mem_cons_of_mem _ secondMem)
      cases image : f element with
      | none => rwa [List.filterMap_cons_none image]
      | some value =>
          rw [List.filterMap_cons_some image, List.nodup_cons]
          refine ⟨fun repeated => ?_, tail⟩
          obtain ⟨other, member, same⟩ := List.mem_filterMap.mp repeated
          obtain rfl := injective element List.mem_cons_self other
            (List.mem_cons_of_mem _ member) value image same
          exact nodup.1 member

/-- Two rekeys of one plan leave different devices. -/
theorem UniqueIdentities.rekey_sources_nodup (unique : UniqueIdentities registry) {desired : List EndpointSpec}
    (distinct : Distinct desired) :
    ((registry.plan desired).rekey.map Rekey.fromDeviceId).Nodup := by
  change ((desired.filterMap (rekeyOf registry.liveComposition)).map Rekey.fromDeviceId).Nodup
  rw [List.map_filterMap]
  refine nodup_filterMap_of_injOn (distinct.identities.of_map _) ?_
  intro first firstMem second secondMem fromDeviceId firstFrom secondFrom
  obtain ⟨firstRekey, firstFound, rfl⟩ := Option.map_eq_some_iff.mp firstFrom
  obtain ⟨secondRekey, secondFound, sources⟩ := Option.map_eq_some_iff.mp secondFrom
  have firstIn : firstRekey ∈ (registry.plan desired).rekey :=
    List.mem_filterMap.mpr ⟨first, firstMem, firstFound⟩
  have secondIn : secondRekey ∈ (registry.plan desired).rekey :=
    List.mem_filterMap.mpr ⟨second, secondMem, secondFound⟩
  obtain ⟨-, live, stored, firstSame⟩ := unique.rekey_source distinct firstIn
  obtain ⟨-, other, otherStored, secondSame⟩ := unique.rekey_source distinct secondIn
  rw [sources, stored] at otherStored
  obtain rfl : live = other := Option.some.inj otherStored
  have firstSpec := rekeyOf_spec firstFound
  have secondSpec := rekeyOf_spec secondFound
  refine distinct.eq_of_publishedAs firstMem secondMem ?_
  rw [← firstSpec, ← secondSpec, ← firstSame, ← secondSame]

/-! ## The removals -/

/-- Whether one of the closes of a plan is going to throw. -/
def closesFail (matter : Matter) (registry : Registry) (removals : List Int) : Bool :=
  removals.any fun indigoDeviceId =>
    match registry.live.get? indigoDeviceId with
    | none => false
    | some live => (matter.fault (.close live.publishedAs)).isSome

theorem closesFail_eq_false_iff {removals : List Int} :
    closesFail matter registry removals = false ↔
      ∀ indigoDeviceId ∈ removals, ∀ live, registry.live.get? indigoDeviceId = some live →
        matter.fault (.close live.publishedAs) = none := by
  simp only [closesFail, List.any_eq_false]
  constructor
  · intro noneFail indigoDeviceId member live stored
    simpa [stored] using noneFail indigoDeviceId member
  · intro noneFail indigoDeviceId member
    cases stored : registry.live.get? indigoDeviceId with
    | none => simp
    | some live => simpa using noneFail indigoDeviceId member live stored

/-- The state after some devices of a registry have been closed: the others are
untouched, down to their labels. -/
structure ClosedOf (registry : Registry) (closed : List Int) (final : Registry) : Prop where
  live : ∀ indigoDeviceId, final.live.get? indigoDeviceId =
    if indigoDeviceId ∈ closed then none else registry.live.get? indigoDeviceId
  owned : Owned [] registry → Owned [] final
  children : Owned [] registry → ∀ indigoDeviceId live,
    final.live.get? indigoDeviceId = some live →
      final.children.get? live.endpoint = registry.children.get? live.endpoint
  kept : ∀ endpoint ∈ registry.children.keys,
    (∀ indigoDeviceId ∈ closed, ∀ live, registry.live.get? indigoDeviceId = some live →
      live.endpoint ≠ endpoint) → endpoint ∈ final.children.keys

theorem closedOf_nil (registry : Registry) : ClosedOf registry [] registry :=
  ⟨by simp, fun owned => owned, fun _ _ _ _ => rfl, fun _ present _ => present⟩

/-- A live entry of a partly closed registry is the one it started with. -/
theorem ClosedOf.original {closed : List Int} {middle : Registry}
    (before : ClosedOf registry closed middle) {indigoDeviceId : Int} {live : LiveEndpoint}
    (stored : middle.live.get? indigoDeviceId = some live) :
    indigoDeviceId ∉ closed ∧ registry.live.get? indigoDeviceId = some live := by
  rw [before.live] at stored
  split at stored
  · contradiction
  · rename_i notClosed
    exact ⟨notClosed, stored⟩

/-- One close of the removal loop. -/
theorem ClosedOf.step {closed : List Int} {middle final : Registry}
    (before : ClosedOf registry closed middle) {indigoDeviceId : Int} {live : LiveEndpoint}
    (stored : middle.live.get? indigoDeviceId = some live)
    (liveEq : final.live = middle.live.delete indigoDeviceId)
    (childrenEq : final.children = middle.children.delete live.endpoint)
    (next : final.nextEndpoint = middle.nextEndpoint) :
    ClosedOf registry (closed ++ [indigoDeviceId]) final where
  live other := by
    rw [liveEq, InsertionMap.get?_delete, before.live]
    by_cases same : other = indigoDeviceId <;> simp [same]
  owned start := (before.owned start).close stored liveEq childrenEq next
  children start other otherLive found := by
    rw [liveEq, InsertionMap.get?_delete] at found
    split at found
    · contradiction
    · rename_i different
      rw [childrenEq, InsertionMap.get?_delete, if_neg,
        before.children start other otherLive found]
      exact fun same => different ((before.owned start).agree.oneDevice found stored same)
  kept endpoint present apart := by
    rw [childrenEq, InsertionMap.mem_keys_delete]
    constructor
    · exact (apart indigoDeviceId (by simp) live (before.original stored).2).symm
    · exact before.kept endpoint present fun other member =>
        apart other (List.mem_append_left _ member)

/-- A device that is not live is passed over. -/
theorem ClosedOf.skip {closed : List Int} {middle : Registry}
    (before : ClosedOf registry closed middle) {indigoDeviceId : Int}
    (absent : middle.live.get? indigoDeviceId = none) :
    ClosedOf registry (closed ++ [indigoDeviceId]) middle where
  live other := by
    by_cases same : other = indigoDeviceId
    · simp [same, absent]
    · simp [same, before.live]
  owned := before.owned
  children := before.children
  kept endpoint present apart := before.kept endpoint present fun other member =>
    apart other (List.mem_append_left _ member)

/-- The removal loop closes the devices it is given.  It stops at the first
close that throws, and every child is still owned there. -/
theorem removeMany_spec (removals : List Int) (mutated : Bool) :
    wp (removeMany matter removals)
      (fun _ final => closesFail matter registry removals = false ∧
        ClosedOf registry removals final.1)
      (fun _ final => closesFail matter registry removals = true ∧
        (Owned [] registry → Owned [] final.1))
      (registry, mutated) := by
  -- The invariant splits the list into what is closed and what is still to come.
  refine wp_mono (wp_forM (fun rest (state : Registry × Bool) => ∃ closed,
      closed ++ rest = removals ∧ closesFail matter registry closed = false ∧
        ClosedOf registry closed state.1)
      (fun _ final => closesFail matter registry removals = true ∧
        (Owned [] registry → Owned [] final.1))
      ?_ removals (registry, mutated) ⟨[], rfl, rfl, closedOf_nil registry⟩) ?_
    (fun _ _ thrown => thrown)
  · rintro indigoDeviceId rest ⟨middle, marked⟩ ⟨closed, whole, worked, reached⟩
    have split : (closed ++ [indigoDeviceId]) ++ rest = removals := by simpa using whole
    simp only [wp_bind, wp_get]
    cases stored : middle.live.get? indigoDeviceId with
    | none =>
        refine ⟨_, split, ?_, reached.skip stored⟩
        rw [closesFail_eq_false_iff] at worked ⊢
        intro other member live original
        rcases List.mem_append.mp member with earlier | last
        · exact worked other earlier live original
        · obtain rfl := List.mem_singleton.mp last
          by_cases earlier : other ∈ closed
          · exact worked other earlier live original
          · rw [reached.live, if_neg earlier, original] at stored
            contradiction
    | some live =>
        obtain ⟨-, original⟩ := reached.original stored
        simp only [wp_bind, wp_onFirst]
        refine wp_mono closeOne_spec ?_ ?_
        · rintro _ final ⟨closes, liveEq, childrenEq, next, -⟩
          refine ⟨_, split, ?_, reached.step stored liveEq childrenEq next⟩
          simpa [closesFail, original, closes] using worked
        · rintro _ final ⟨fails, ⟨watching, liveEq⟩, childrenEq, next, -⟩
          refine ⟨?_, fun owned =>
            (reached.owned owned).rewrite stored liveEq rfl (congrArg _ childrenEq) next⟩
          refine List.any_eq_true.mpr ⟨indigoDeviceId, ?_, ?_⟩
          · simp [← whole]
          · simpa [original, Option.isSome_iff_ne_none] using fails
  · rintro _ final ⟨closed, whole, worked, reached⟩
    rw [List.append_nil] at whole
    exact whole ▸ ⟨worked, reached⟩

/-! ## Phase 1 of the rekeys -/

/-- The rekeys of a list with the entries they take out of the live set. -/
def Registry.heldRekeys (registry : Registry) (rekeys : List Rekey) : List HeldRekey :=
  rekeys.filterMap fun rekey =>
    (registry.live.get? rekey.fromDeviceId).map fun live =>
      ⟨rekey.spec, rekey.fromDeviceId, live⟩

/-- What a held rekey owns. -/
def HeldRekey.owner (rekey : HeldRekey) : Owner := rekey.live.owner

theorem heldRekeys_congr {rekeys : List Rekey} {final : Registry}
    (same : ∀ rekey ∈ rekeys,
      final.live.get? rekey.fromDeviceId = registry.live.get? rekey.fromDeviceId) :
    final.heldRekeys rekeys = registry.heldRekeys rekeys :=
  List.filterMap_congr fun rekey member => by rw [same rekey member]

/-- A held rekey is a planned one, with the entry live at its source. -/
theorem mem_heldRekeys {rekeys : List Rekey} {rekey : HeldRekey}
    (member : rekey ∈ registry.heldRekeys rekeys) :
    ⟨rekey.spec, rekey.fromDeviceId⟩ ∈ rekeys ∧
      registry.live.get? rekey.fromDeviceId = some rekey.live := by
  obtain ⟨source, inRekeys, found⟩ := List.mem_filterMap.mp member
  obtain ⟨live, stored, rfl⟩ := Option.map_eq_some_iff.mp found
  exact ⟨inRekeys, stored⟩

/-- Each desired spec is rekeyed at most once. -/
theorem heldRekeys_specs_nodup {desired : List EndpointSpec} (distinct : Distinct desired) :
    ((registry.heldRekeys (registry.plan desired).rekey).map HeldRekey.spec).Nodup := by
  change (((desired.filterMap (rekeyOf registry.liveComposition)).filterMap _).map
    HeldRekey.spec).Nodup
  rw [List.filterMap_filterMap, List.map_filterMap]
  apply nodup_filterMap_of_injOn (distinct.identities.of_map _)
  have itself : ∀ spec image, ((rekeyOf registry.liveComposition spec).bind fun rekey =>
      (registry.live.get? rekey.fromDeviceId).map fun live =>
        (⟨rekey.spec, rekey.fromDeviceId, live⟩ : HeldRekey)).map HeldRekey.spec = some image →
      image = spec := by
    intro spec image found
    obtain ⟨rekey, bound, rfl⟩ := Option.map_eq_some_iff.mp found
    obtain ⟨source, sorted, taken⟩ := Option.bind_eq_some_iff.mp bound
    obtain ⟨live, -, rfl⟩ := Option.map_eq_some_iff.mp taken
    exact rekeyOf_spec sorted
  intro first _ second _ image firstImage secondImage
  rw [← itself first image firstImage, ← itself second image secondImage]

/-- Two held rekeys of one plan have different targets. -/
theorem heldRekeys_targets_nodup {desired : List EndpointSpec} (distinct : Distinct desired) :
    ((registry.heldRekeys (registry.plan desired).rekey).map
      fun held => held.spec.indigoDeviceId).Nodup := by
  have onSpecs : (((registry.heldRekeys (registry.plan desired).rekey).map HeldRekey.spec).map
      EndpointSpec.indigoDeviceId).Nodup := by
    refine (heldRekeys_specs_nodup distinct).map_on ?_
    intro first firstMem second secondMem same
    obtain ⟨firstHeld, firstIn, rfl⟩ := List.mem_map.mp firstMem
    obtain ⟨secondHeld, secondIn, rfl⟩ := List.mem_map.mp secondMem
    exact distinct.eq_of_deviceId (mem_rekey_iff.mp (mem_heldRekeys firstIn).1).1
      (mem_rekey_iff.mp (mem_heldRekeys secondIn).1).1 same
  simpa [List.map_map, Function.comp_def] using onSpecs

/-- Phase 1 frees the sources of all rekeys and never finds one missing. -/
theorem vacate_spec {rekeys : List Rekey}
    (sources : (rekeys.map Rekey.fromDeviceId).Nodup)
    (present : ∀ rekey ∈ rekeys, ∃ live, registry.live.get? rekey.fromDeviceId = some live) :
    wp (vacate rekeys)
      (fun result final => result = registry.heldRekeys rekeys ∧
        (∀ held, Owned held registry → Owned (result.map HeldRekey.owner ++ held) final) ∧
        (∀ indigoDeviceId, final.live.get? indigoDeviceId =
          if indigoDeviceId ∈ rekeys.map Rekey.fromDeviceId then none
          else registry.live.get? indigoDeviceId) ∧
        final.children = registry.children)
      (fun _ _ => False) registry := by
  induction rekeys generalizing registry with
  | nil => exact ⟨rfl, fun _ owned => owned, by simp, rfl⟩
  | cons rekey rest ih =>
      rw [List.map_cons, List.nodup_cons] at sources
      obtain ⟨live, stored⟩ := present rekey List.mem_cons_self
      have elsewhere : ∀ other ∈ rest, other.fromDeviceId ≠ rekey.fromDeviceId :=
        fun other member same => sources.1 (same ▸ List.mem_map_of_mem member)
      have kept : ∀ other ∈ rest,
          (registry.deleteLive rekey.fromDeviceId).live.get? other.fromDeviceId =
            registry.live.get? other.fromDeviceId := fun other member => by
        simp [Registry.deleteLive, elsewhere other member]
      simp only [vacate, wp_bind, wp_get, stored, wp_modify]
      refine wp_mono (ih sources.2 ?_) ?_ (fun _ _ impossible => impossible)
      · intro other member
        rw [kept other member]
        exact present other (List.mem_cons_of_mem _ member)
      · rintro others final ⟨rfl, restOwned, liveEq, children⟩
        have whole : registry.heldRekeys (rekey :: rest) = ⟨rekey.spec, rekey.fromDeviceId, live⟩ ::
            (registry.deleteLive rekey.fromDeviceId).heldRekeys rest := by
          rw [heldRekeys_congr kept]
          simp [Registry.heldRekeys, stored]
        refine ⟨whole.symm, ?_, ?_, children⟩
        · intro held owned
          have heldBack : Owned (live.owner :: held)
              (registry.deleteLive rekey.fromDeviceId) := owned.holdBack stored rfl rfl rfl
          exact (restOwned _ heldBack).rearrange
            (List.perm_middle.symm.append_left final.owners) rfl le_rfl
        · intro other
          rw [liveEq]
          by_cases same : other = rekey.fromDeviceId <;>
            simp [Registry.deleteLive, same]

/-! ## What is live after phase 1 -/

/-- The live entries are at the devices the placed specs give their identities. -/
def Placed (placed : List EndpointSpec) (registry : Registry) : Prop :=
  ∀ indigoDeviceId live, registry.live.get? indigoDeviceId = some live →
    ∃ spec ∈ placed, spec.indigoDeviceId = indigoDeviceId ∧
      spec.publishedAs = live.publishedAs

/-- A desired spec that is not placed yet finds its device free. -/
theorem Placed.free {placed desired : List EndpointSpec} (inPlace : Placed placed registry)
    (distinct : Distinct desired) (within : placed ⊆ desired) {spec : EndpointSpec}
    (wanted : spec ∈ desired) (pending : spec ∉ placed) :
    spec.indigoDeviceId ∉ registry.live.keys := by
  intro member
  obtain ⟨live, stored⟩ := InsertionMap.mem_keys_iff.mp member
  obtain ⟨other, otherPlaced, same, -⟩ := inPlace _ _ stored
  obtain rfl := distinct.eq_of_deviceId (within otherPlaced) wanted same
  exact pending otherPlaced

/-- A desired spec that is not placed yet is published by no live entry. -/
theorem Placed.unpublished {placed desired : List EndpointSpec} (inPlace : Placed placed registry)
    (distinct : Distinct desired) (within : placed ⊆ desired) {spec : EndpointSpec}
    (wanted : spec ∈ desired) (pending : spec ∉ placed) :
    spec.publishedAs ∉ registry.owners.map Prod.snd := by
  intro member
  obtain ⟨owner, owners, same⟩ := List.mem_map.mp member
  obtain ⟨live, values, rfl⟩ := List.mem_map.mp owners
  obtain ⟨indigoDeviceId, stored⟩ := InsertionMap.mem_values_iff.mp values
  obtain ⟨other, otherPlaced, -, otherSame⟩ := inPlace _ _ stored
  obtain rfl := distinct.eq_of_publishedAs (within otherPlaced) wanted (otherSame.trans same)
  exact pending otherPlaced

theorem Placed.mono {placed more : List EndpointSpec} (inPlace : Placed placed registry)
    (subset : placed ⊆ more) : Placed more registry :=
  fun indigoDeviceId live stored =>
    (inPlace indigoDeviceId live stored).imp fun _ found => ⟨subset found.1, found.2⟩

/-- Storing the entry of a spec places it. -/
theorem Placed.set {placed : List EndpointSpec} {final : Registry}
    (inPlace : Placed placed registry) {spec : EndpointSpec} {live : LiveEndpoint}
    (liveEq : final.live = registry.live.set spec.indigoDeviceId live)
    (same : spec.publishedAs = live.publishedAs) : Placed (spec :: placed) final := by
  intro indigoDeviceId other stored
  rw [liveEq, InsertionMap.get?_set] at stored
  split at stored
  · rename_i equal
    exact ⟨spec, List.mem_cons_self, equal.symm, Option.some.inj stored ▸ same⟩
  · obtain ⟨earlier, member, found⟩ := inPlace _ _ stored
    exact ⟨earlier, List.mem_cons_of_mem _ member, found⟩

/-- After the removals and phase 1, what is live is what the plan updates. -/
theorem placed_updates {desired : List EndpointSpec} {middle final : Registry}
    (unique : UniqueIdentities registry)
    (closed : ClosedOf registry (registry.removals (registry.plan desired)) middle)
    (vacated : ∀ indigoDeviceId, final.live.get? indigoDeviceId =
      if indigoDeviceId ∈ (registry.plan desired).rekey.map Rekey.fromDeviceId then none
      else middle.live.get? indigoDeviceId) :
    Placed (registry.plan desired).update final := by
  intro indigoDeviceId live stored
  rw [vacated] at stored
  split at stored
  · contradiction
  · rename_i notSource
    obtain ⟨notClosed, original⟩ := closed.original stored
    rcases unique.fate desired original with removed | ⟨rekey, member, from_, -⟩ | kept
    · exact absurd removed notClosed
    · exact absurd (List.mem_map.mpr ⟨rekey, member, from_⟩) notSource
    · exact kept

end IndigoMatter.Bridge
